import FlatQuery.Proofs.Pattern.WholeWords
import FlatQuery.Proofs.Query.Dialect

namespace FlatQuery

namespace AggregateFunction

variable (f : AggregateFunction)

theorem isLower_name : f.name.all Char.isLower := by
  cases f <;> decide

theorem name_ne_nil : f.name ≠ [] := by
  cases f <;> decide

end AggregateFunction

namespace Dialect

variable {c : Char} {word : Text} {words : List Text}

theorem solid_reservedWords : Solid reservedWords := by
  unfold Solid
  decide

theorem tight_of_all {t : Text} (h : t.all isAsciiWordChar) (hn : t ≠ []) : t.Tight :=
  Text.tight_of_no_blank (fun _ hc => not_isBlank_of_isAsciiWordChar (List.all_eq_true.mp h _ hc)) hn

namespace Spelling

variable (s : Spelling word)

theorem spells : Spells word s.text :=
  spells_of_lowerAscii s.spelled

theorem toLower_mem (hc : c ∈ s.text) : c.toLower ∈ word := by
  rw [← s.spelled]
  exact List.mem_map_of_mem hc

theorem all_isAsciiWordChar (hl : word.all Char.isLower) : s.text.all isAsciiWordChar := by
  rw [List.all_eq_true] at hl ⊢
  exact fun c hc => isAsciiWordChar_of_isAlpha (isAlpha_of_isLower_toLower (hl _ (s.toLower_mem hc)))

theorem freeOf (hl : word.all Char.isLower) (hn : word ∉ words) : FreeOf words s.text :=
  freeOf_of_all (s.all_isAsciiWordChar hl) (by rwa [s.spelled])

theorem ne_nil (hn : word ≠ []) : s.text ≠ [] := by
  intro h
  refine hn ?_
  rw [← s.spelled, h]
  rfl

end Spelling

namespace Word

variable (w : Word)

theorem isAsciiWordChar (hc : c ∈ w.text) : isAsciiWordChar c :=
  List.all_eq_true.mp w.plain c hc

theorem freeOf : FreeOf reservedWords w.text :=
  freeOf_of_all w.plain w.free

theorem tight : w.text.Tight :=
  tight_of_all w.plain w.nonempty

end Word

namespace Entry

variable (e : Entry)

theorem name_not_reserved (f : AggregateFunction) : f.name ∉ reservedWords := by
  cases f <;> decide

theorem mem_text (hc : c ∈ e.text) : isAsciiWordChar c ∨ c = '(' ∨ c = ')' := by
  cases e
  case word w => exact .inl (w.isAsciiWordChar hc)
  case call f name field =>
    simp only [text, List.append_assoc, List.cons_append, List.mem_append, List.mem_cons,
      List.not_mem_nil, or_false] at hc
    obtain hc | rfl | hc | rfl := hc
    case inl => exact .inl (List.all_eq_true.mp (name.all_isAsciiWordChar f.isLower_name) c hc)
    case inr.inl => exact .inr (.inl rfl)
    case inr.inr.inl => exact .inl (field.isAsciiWordChar hc)
    case inr.inr.inr => exact .inr (.inr rfl)

theorem no_blank (hc : c ∈ e.text) : isBlank c = false := by
  obtain h | rfl | rfl := e.mem_text hc
  case inl => exact not_isBlank_of_isAsciiWordChar h
  all_goals decide

theorem ne_nil : e.text ≠ [] := by
  cases e
  case word w => exact w.nonempty
  case call => simp [text]

theorem tight : e.text.Tight :=
  Text.tight_of_no_blank (fun _ => e.no_blank) e.ne_nil

theorem no_comma : ',' ∉ e.text := by
  intro hc
  obtain h | h | h := e.mem_text hc <;> contradiction

theorem opens (hc : ')' ∈ e.text) : '(' ∈ e.text := by
  cases e
  case word w => exact absurd (w.isAsciiWordChar hc) (by decide)
  case call => simp [text]

theorem freeOf : FreeOf reservedWords e.text := by
  have hs := solid_reservedWords
  cases e
  case word w => exact w.freeOf
  case call f name field =>
    rw [text, hs.freeOf_append_cons (c := ')') (by decide),
      hs.freeOf_append_cons (c := '(') (by decide)]
    exact ⟨⟨name.freeOf f.isLower_name (name_not_reserved f), field.freeOf⟩, hs.freeOf_nil⟩

end Entry

section Lists

variable {ts : List Text}

theorem freeOf_commas (h : ∀ t ∈ ts, FreeOf reservedWords t) :
    FreeOf reservedWords (Text.join ", ".toList ts) :=
  solid_reservedWords.freeOf_join (none_of_all (by decide)) (by simp) h

end Lists

namespace Selection

variable (s : Selection) {t : Text}

-- The entries as they are printed.
def columns : Selection → List Text
  | all => [['*']]
  | entries es => es.all.map Entry.text

theorem text_eq : s.text = Text.join ", ".toList s.columns := by
  cases s <;> simp [text, columns]

theorem columns_ne_nil : s.columns ≠ [] := by
  cases s <;> simp [columns, Listing.all]

theorem column_cases (ht : t ∈ s.columns) : t = ['*'] ∨ ∃ e : Entry, t = e.text := by
  cases s
  case all => exact .inl (List.mem_singleton.mp ht)
  case entries es =>
    obtain ⟨e, -, rfl⟩ := List.mem_map.mp ht
    exact .inr ⟨e, rfl⟩

theorem no_blank (ht : t ∈ s.columns) : ∀ c ∈ t, isBlank c = false := by
  obtain rfl | ⟨e, rfl⟩ := s.column_cases ht
  case inl => exact none_of_all (by decide)
  case inr => exact fun _ => e.no_blank

theorem tight_column (ht : t ∈ s.columns) : t.Tight := by
  obtain rfl | ⟨e, rfl⟩ := s.column_cases ht
  case inl => exact ⟨by decide, by decide⟩
  case inr => exact e.tight

theorem no_comma (ht : t ∈ s.columns) : ',' ∉ t := by
  obtain rfl | ⟨e, rfl⟩ := s.column_cases ht
  case inl => decide
  case inr => exact e.no_comma

theorem ofEntries_columns : .ofEntries s.columns = s.projection := by
  cases s
  case all => rfl
  case entries es =>
    have hn : es.all.map Entry.text ≠ [['*']] := by
      intro he
      obtain ⟨e, -, he⟩ := List.mem_map.mp (he ▸ List.mem_singleton_self ['*'])
      obtain h | h | h := e.mem_text (c := '*') (by simp [he]) <;> contradiction
    simp [Projection.ofEntries, columns, projection, hn]

theorem freeOf : FreeOf reservedWords s.text := by
  rw [text_eq]
  refine freeOf_commas fun t ht => ?_
  obtain rfl | ⟨e, rfl⟩ := s.column_cases ht
  case inl => exact solid_reservedWords.freeOf_of_none (none_of_all (by decide))
  case inr => exact e.freeOf

theorem tight : s.text.Tight := by
  rw [text_eq]
  exact Text.tight_join (fun _ => s.tight_column) s.columns_ne_nil

theorem no_dot : '.' ∉ s.text := by
  rw [text_eq]
  intro hc
  obtain hc | ⟨t, ht, hc⟩ := Text.mem_join hc
  case inl => contradiction
  case inr =>
    obtain rfl | ⟨e, rfl⟩ := s.column_cases ht
    case inl => contradiction
    case inr => obtain h | h | h := e.mem_text hc <;> contradiction

end Selection

namespace Source

variable (s : Source)

theorem mem_text (hc : c ∈ s.text) : isAsciiWordChar c ∨ c = '/' ∨ c = '.' := by
  obtain hc | hc := List.mem_append.mp hc
  case inr =>
    have he : ".csv".toList.all fun c => isAsciiWordChar c || c == '.' := by decide
    exact .imp_right .inr (by simpa using List.all_eq_true.mp he c hc)
  case inl =>
    obtain hc | ⟨t, ht, hc⟩ := Text.mem_join hc
    case inl => exact .inr (.inl (List.mem_singleton.mp hc))
    case inr =>
      obtain ⟨w, -, rfl⟩ := List.mem_map.mp ht
      exact .inl (w.isAsciiWordChar hc)

theorem no_blank (hc : c ∈ s.text) : isBlank c = false := by
  obtain h | rfl | rfl := s.mem_text hc
  case inl => exact not_isBlank_of_isAsciiWordChar h
  all_goals decide

theorem no_open : '(' ∉ s.text := by
  intro hc
  obtain h | h | h := s.mem_text hc <;> contradiction

theorem tight : s.text.Tight :=
  Text.tight_of_no_blank (fun _ => s.no_blank) (by simp [text])

theorem freeOf : FreeOf reservedWords s.text := by
  have hs := solid_reservedWords
  have he : FreeOf reservedWords "csv".toList := freeOf_of_all (by decide) (by decide)
  refine (hs.freeOf_append_cons (by decide)).mpr
    ⟨hs.freeOf_join (none_of_all (by decide)) (by simp) fun t ht => ?_, he⟩
  obtain ⟨w, -, rfl⟩ := List.mem_map.mp ht
  exact w.freeOf

theorem stem_ne_nil : Text.join ['/'] (s.path.all.map Word.text) ≠ [] :=
  (Text.tight_join (by simpa using fun w _ => w.tight) (by simp [Listing.all])).ne_nil

-- The name needs room between its keyword and the filter.
theorem length_text : 5 ≤ s.text.length := by
  have := List.length_pos_iff.mpr s.stem_ne_nil
  have he : ".csv".toList.length = 4 := rfl
  rw [text, List.length_append, he]
  omega

end Source

namespace Direction

variable (d : Direction)

theorem all_isAsciiWordChar : d.text.all isAsciiWordChar := by
  cases d
  case ascending s => exact s.all_isAsciiWordChar (by decide)
  case descending s => exact s.all_isAsciiWordChar (by decide)

theorem ne_nil : d.text ≠ [] := by
  cases d
  case ascending s => exact s.ne_nil (by simp)
  case descending s => exact s.ne_nil (by simp)

theorem freeOf : FreeOf reservedWords d.text := by
  cases d
  case ascending s => exact s.freeOf (by decide) (by decide)
  case descending s => exact s.freeOf (by decide) (by decide)

theorem descending?_text : SortKey.descending? d.text = some (d matches .descending _) := by
  cases d
  case ascending s =>
    rw [SortKey.descending?, Text.eqIgnoringCase, text, s.spelled]
    rfl
  case descending s =>
    rw [SortKey.descending?, Text.eqIgnoringCase, Text.eqIgnoringCase, text, s.spelled]
    rfl

end Direction

namespace Ordered

variable (o : Ordered)

theorem words_text :
    Text.words o.text = o.entry.text :: (o.direction.map Direction.text).toList := by
  have he := Text.words_eq_singleton (fun _ => o.entry.no_blank) o.entry.ne_nil
  rw [text]
  split
  case h_1 hd => rw [he, hd]; rfl
  case h_2 d hd =>
    have hb : ∀ c ∈ d.text, isBlank c = false := fun c hc =>
      not_isBlank_of_isAsciiWordChar (List.all_eq_true.mp d.all_isAsciiWordChar c hc)
    rw [Text.words_append_cons isBlank_space, he, Text.words_eq_singleton hb d.ne_nil, hd]
    rfl

-- An entry and at most one direction.
theorem length_words : (some 2).all (o.text.words.length ≤ ·) := by
  cases hd : o.direction <;> simp [o.words_text, hd]

theorem freeOf : FreeOf reservedWords o.text := by
  have hs := solid_reservedWords
  rw [text]
  split
  case h_1 => exact o.entry.freeOf
  case h_2 d _ =>
    rw [hs.freeOf_append_cons not_isWordChar_space]
    exact ⟨o.entry.freeOf, d.freeOf⟩

theorem tight : o.text.Tight := by
  rw [text]
  split
  case h_1 => exact o.entry.tight
  case h_2 d _ =>
    have ht := tight_of_all d.all_isAsciiWordChar d.ne_nil
    simpa using o.entry.tight.append ht [' ']

-- A direction adds no commas and no parentheses.
theorem mem_text (hc : c ∈ o.text) : c ∈ o.entry.text ∨ c = ' ' ∨ isAsciiWordChar c := by
  rw [text] at hc
  split at hc
  case h_1 => exact .inl hc
  case h_2 d _ =>
    obtain hc | hc | hc := by simpa using hc
    case inl => exact .inl hc
    case inr.inl => exact .inr (.inl hc)
    case inr.inr => exact .inr (.inr (List.all_eq_true.mp d.all_isAsciiWordChar c hc))

theorem no_comma : ',' ∉ o.text := by
  intro hc
  obtain h | h | h := o.mem_text hc
  case inl => exact o.entry.no_comma h
  all_goals contradiction

theorem opens (hc : ')' ∈ o.text) : '(' ∈ o.text := by
  obtain h | h | h := o.mem_text hc
  case inl =>
    rw [text]
    split
    case h_1 => exact o.entry.opens h
    case h_2 => simp [o.entry.opens h]
  all_goals contradiction

theorem parse_text : SortKey.parse o.text = .ok o.sortKey := by
  rw [SortKey.parse, o.words_text, sortKey]
  cases o.direction
  case none => rfl
  case some d =>
    simp only [Option.map_some, Option.toList_some, d.descending?_text]
    cases d <;> rfl

end Ordered

end Dialect
end FlatQuery
