import FlatQuery.Proofs.Query.Criterion

namespace FlatQuery

variable {t u v : Text}

namespace Text

theorem firstWord_append (hu : ∃ c ∈ u, isBlank c) : firstWord (u ++ v) = firstWord u := by
  obtain ⟨c, hc, hb⟩ := hu
  obtain ⟨a, b, rfl⟩ := List.append_of_mem hc
  rw [List.append_assoc, List.cons_append, firstWord_append_cons hb, firstWord_append_cons hb]

theorem stripNot_not (ht : t.Tight) : stripNot ("not ".toList ++ t) = (true, t) :=
  Dialect.Spelling.stripNot_append ⟨"not".toList, by decide⟩ ht

end Text

namespace Condition

variable {c : Condition}

-- A field that is cut off at the operator stands at the front.
theorem exists_append_of_ofSplit? (h : ofSplit? t = some c) (ht : ∀ d ∈ t.head?, isBlank d = false) :
    ∃ rest, t = c.field ++ rest := by
  obtain ⟨u, v, hs, hu, -, hf, -⟩ := split_of_ofSplit? h
  obtain ⟨rfl, -⟩ := Pattern.eq_of_split hs
  have hd : u.dropWhile isBlank = u := by
    refine Text.dropWhile_eq_self fun d hd => ht d ?_
    rw [List.append_assoc, List.head?_append, Option.mem_def.mp hd]
    rfl
  obtain ⟨w, hw, -⟩ := Text.exists_dropEndWhile isBlank u
  refine ⟨w ++ c.operator ++ v, ?_⟩
  rw [hf, Text.trim, Text.strip, hd, ← List.append_assoc, ← List.append_assoc, ← hw]

end Condition

namespace Predicate

variable {p : Predicate}

-- The predicate without its negation.
def condition (p : Predicate) : Text :=
  p.field ++ ' ' :: (p.operator.symbol ++ ' ' :: ('\x27' :: p.literal ++ ['\x27']))

theorem text_eq : p.text = (if p.negated then "not ".toList else []) ++ p.condition := by
  simp [text, condition]

theorem tight_condition (h : parse t = .ok p) : p.condition.Tight := by
  have hf := (sound_of_parse h).field
  have hq := Dialect.tight_quoted (c := '\x27') rfl p.literal
  simpa [condition] using hf.append hq (' ' :: p.operator.symbol ++ [' '])

theorem ofText?_condition (h : parse t = .ok p) : Condition.ofText? p.condition =
    some ⟨p.field, p.operator.symbol, '\x27' :: p.literal ++ ['\x27']⟩ := by
  obtain ⟨c, hc, hp⟩ := exists_of_parse h
  have hm : ∀ d ∈ p.field ++ p.literal, d ∈ c.field ++ c.literal := by
    rw [hp]
    intro d hd
    exact List.mem_append.mpr ((List.mem_append.mp hd).imp_right Text.mem_of_mem_strip)
  exact Dialect.ofText?_quoted p.operator (sound_of_parse h).field <|
    (Condition.blankless_or_signless hc).imp (fun hb d hd => hb d (hm d hd))
      fun hs d hd => hs d (hm d hd)

-- A field of several words does not begin with `not`, which would have been taken off.
theorem not_isNot_firstWord (h : parse t = .ok p) (hn : p.negated = false)
    (hb : ∃ d ∈ p.field, isBlank d) : p.field.firstWord.isNot = false := by
  obtain ⟨c, hc, hp⟩ := exists_of_parse h
  rw [hp] at hn hb ⊢
  rw [Text.stripNot_eq] at hc hn
  split at hn
  case isTrue => exact absurd hn Bool.noConfusion
  case isFalse hw =>
    rw [if_neg hw] at hc
    rw [Bool.not_eq_true] at hw
    obtain hc | ⟨-, hc⟩ := Option.or_eq_some_iff.mp hc
    case inl =>
      have hm : c.field ∈ t.trim.trim.words := by simp [(Condition.words_of_ofWords? hc).left]
      obtain ⟨d, hd, hb⟩ := hb
      have hn := Text.not_of_mem_pieces (List.mem_filter.mp hm).left hd
      exact absurd hb (Bool.eq_false_iff.mp hn)
    case inr =>
      obtain ⟨rest, hrest⟩ := Condition.exists_append_of_ofSplit? hc Text.strip_ends.left
      obtain ⟨w, ht, -⟩ := Text.exists_dropEndWhile isBlank t.trimStart
      have ht : t.trimStart = c.field ++ (rest ++ w) := by
        rw [← List.append_assoc, ← hrest, Text.trim_trim]
        exact ht
      rwa [ht, Text.firstWord_append hb] at hw

-- What is shown without a negation opens with a `not` exactly if that is the field.
theorem isNot_firstWord_condition (h : parse t = .ok p) (hn : p.negated = false) :
    p.condition.firstWord.isNot = p.field.isNot := by
  rw [condition, Text.firstWord_append_cons isBlank_space]
  by_cases hb : ∃ d ∈ p.field, isBlank d
  case neg => rw [Text.firstWord_eq_self (by simpa using hb)]
  case pos =>
    obtain ⟨d, hd, hdb⟩ := hb
    rw [not_isNot_firstWord h hn ⟨d, hd, hdb⟩, eq_comm, ← Bool.not_eq_true]
    intro hf
    have ha := Text.isAsciiWordChar_of_isNot hf hd
    exact Bool.eq_false_iff.mp (not_isBlank_of_isAsciiWordChar ha) hdb

theorem stripNot_text (h : parse t = .ok p) (hn : p.negated ∨ p.field.isNot = false) :
    Text.stripNot p.text = (p.negated, p.condition) := by
  have ht := tight_condition h
  rw [text_eq]
  cases hneg : p.negated
  case true => exact Text.stripNot_not ht
  case false =>
    rw [hneg] at hn
    rw [if_neg (by simp), List.nil_append, Text.stripNot_eq, ht.trimStart_eq,
      isNot_firstWord_condition h hneg, hn.resolve_left (by simp), ht.trim_eq]
    rfl

-- A field `not` without a negation is taken for one.
theorem stripNot_text_of_isNot (h : parse t = .ok p) (hn : p.negated = false)
    (hf : p.field.isNot) : (Text.stripNot p.text).1 = true := by
  rw [text_eq, hn, if_neg (by simp), List.nil_append, Text.stripNot_eq,
    (tight_condition h).trimStart_eq, isNot_firstWord_condition h hn, if_pos hf]

theorem parse_text_iff (h : parse t = .ok p) :
    parse p.text = .ok p ↔ p.negated ∨ p.field.isNot = false := by
  constructor
  case mp =>
    intro ht
    by_contra hn
    rw [not_or, Bool.not_eq_true, Bool.not_eq_false] at hn
    obtain ⟨c, -, hp⟩ := exists_of_parse ht
    have hneg : p.negated = (Text.stripNot p.text).1 := congrArg negated hp
    rw [stripNot_text_of_isNot h hn.left hn.right, hn.left] at hneg
    exact Bool.false_ne_true hneg
  case mpr =>
    intro hn
    have hq : Text.stripQuotes ('\x27' :: p.literal ++ ['\x27']) = p.literal :=
      Dialect.stripQuotes_enclosed rfl (sound_of_parse h).first (sound_of_parse h).last
    simp only [parse, stripNot_text h hn, ofText?_condition h, p.operator.parse_symbol, hq]
    rfl

theorem parse_text_iff_fullName :
    parse "full  name>=\x22it\x27s ! so\x22".toList =
      .ok ⟨"full  name".toList, .ge, "it\x27s ! so".toList, false⟩ ∧
    parse (text ⟨"full  name".toList, .ge, "it\x27s ! so".toList, false⟩) =
      .ok ⟨"full  name".toList, .ge, "it\x27s ! so".toList, false⟩ := by
  have h : parse "full  name>=\x22it\x27s ! so\x22".toList =
      .ok ⟨"full  name".toList, .ge, "it\x27s ! so".toList, false⟩ := by decide +kernel
  exact ⟨h, (parse_text_iff h).mpr (.inr (by decide))⟩

end Predicate
end FlatQuery
