import FlatQuery.Proofs.Query.Criterion
import FlatQuery.Proofs.Query.Reading

namespace FlatQuery

namespace Dialect

structure Criteria where
  first : Criterion
  rest  : List (Link × Criterion)

namespace Criteria

variable (f : Criteria)

def text : Text :=
  f.first.text ++ f.rest.flatMap fun (link, c) => ' ' :: link.text ++ ' ' :: c.text

-- The conditions as they are written.
def texts : List Text :=
  f.first.text :: f.rest.map (·.2.text)

-- The connectives as they are written, each `not` before its condition.
def tokens : List Text :=
  (f.first.negation.map Spelling.text).toList ++
    f.rest.flatMap fun (link, c) => link.text :: (c.negation.map Spelling.text).toList

def predicates : List Predicate :=
  f.first.predicate :: f.rest.map (·.2.predicate)

def connectives : List Connective :=
  f.first.connectives ++ f.rest.flatMap fun (link, c) => link.connective :: c.connectives

end Criteria

variable {words : List Text} {u : Text}

namespace Link

variable (k : Link)

theorem spells : ∃ w ∈ [Keyword.and.letters, Keyword.or.letters], Spells w k.text := by
  cases k
  case and s => exact ⟨_, by simp, s.spells⟩
  case or s => exact ⟨_, by simp, s.spells⟩

theorem lowerAscii_text : Text.lowerAscii k.text = k.connective.name.lowerAscii := by
  cases k
  case and s => exact s.spelled
  case or s => exact s.spelled

end Link

namespace Criteria

variable (f : Criteria) {c c' : Criterion} {k : Link} {l : List (Link × Criterion)}

-- Criteria with one more in front.
theorem text_cons : text ⟨c, (k, c') :: l⟩ =
    (c.text ++ [' ']) ++ (k.text ++ ([' '] ++ text ⟨c', l⟩)) := by
  simp [text]

theorem text_one : text ⟨c, []⟩ = c.text := by
  simp [text]

theorem freeOf_padded {t : Text} (hu : u.all isBlank) (hs : Solid words) (ht : FreeOf words t) :
    FreeOf words (u ++ t) ∧ FreeOf words (u ++ (t ++ [' '])) := by
  have hn := none_of_blank hu
  rw [hs.freeOf_append (.inl (endsWord_of_none hn)), hs.freeOf_append (.inl (endsWord_of_none hn)),
    hs.freeOf_append_cons not_isWordChar_space]
  exact ⟨⟨hs.freeOf_of_none hn, ht⟩, hs.freeOf_of_none hn, ht, hs.freeOf_nil⟩

-- What stands in front of a joiner: not blank, and no word runs up to the joiner.
theorem ends_padded {t : Text} (ht : t.Tight) :
    Text.allBlank (u ++ (t ++ [' '])) = false ∧ endsWord (u ++ (t ++ [' '])) = false := by
  rw [← List.append_assoc]
  refine ⟨ht.not_allBlank u [' '], ?_⟩
  rw [endsWord_concat]
  exact not_isWordChar_space

-- The induction is on the criteria after the first. A joiner leaves a space in front of the next
-- one, so white space in front is allowed from the start.
theorem joined (hu : u.all isBlank) : Joined (u ++ f.text) f.texts := by
  have hs := Pattern.solid_joiners
  obtain ⟨c, l⟩ := f
  have hf (c : Criterion) : FreeOf [Keyword.and.letters, Keyword.or.letters] c.text :=
    c.freeOf_text hs (by decide) (by decide)
  induction l generalizing u c
  case nil =>
    have ht := c.tight_text.trim_padded (v := []) hu rfl
    have hb := c.tight_text.not_allBlank u []
    rw [List.append_nil] at ht hb
    have hj := Joined.one (freeOf_padded hu hs (hf c)).left hb
    rw [ht] at hj
    rw [text_one]
    exact hj
  case cons kc l hi =>
    obtain ⟨k, c'⟩ := kc
    obtain ⟨w, hw, hm⟩ := k.spells
    have ht : Text.trim (u ++ (c.text ++ [' '])) = c.text := by
      rw [← List.append_assoc]
      exact c.tight_text.trim_padded hu rfl
    obtain ⟨hb, he⟩ := ends_padded (u := u) c.tight_text
    have hj := Joined.cons hw hm (freeOf_padded hu hs (hf c)).right hb he rfl
      (hi (u := [' ']) rfl c')
    rw [ht] at hj
    rw [text_cons, ← List.append_assoc]
    exact hj

-- A `not` stands in front of all the rest.
theorem connected_of_plain
    (h : ∀ c : Criterion, c.negation = none → ∀ {u : Text}, u.all isBlank →
      Connected (u ++ text ⟨c, l⟩) (tokens ⟨c, l⟩)) (hu : u.all isBlank) :
    Connected (u ++ text ⟨c, l⟩) (tokens ⟨c, l⟩) := by
  cases hc : c.negation
  case none => exact h c hc hu
  case some n =>
    have hn := none_of_blank hu
    have hx : n.text.trim.eqIgnoringCase "not".toList := by
      rw [(n.spells.tight (by decide)).trim_eq, Text.eqIgnoringCase, n.spelled]
      decide
    have hj := Connected.cons (by simp) n.spells
      (Pattern.solid_connectives.freeOf_of_none hn) (fun _ => hx) (endsWord_of_none hn) rfl
      (h { c with negation := none } rfl (u := [' ']) rfl)
    have ht : text ⟨c, l⟩ = n.text ++ ([' '] ++ text ⟨{ c with negation := none }, l⟩) := by
      simp [text, Criterion.text, hc, Criterion.condition, Criterion.quoted]
    have hk : tokens ⟨c, l⟩ = n.text :: tokens ⟨{ c with negation := none }, l⟩ := by
      simp [tokens, hc]
    rw [ht, hk]
    exact hj

-- As above, but the conditions may have a `not` in front.
theorem connected (hu : u.all isBlank) : Connected (u ++ f.text) f.tokens := by
  have hs := Pattern.solid_connectives
  have hf (c : Criterion) (hc : c.negation = none) :
      FreeOf [Keyword.and.letters, Keyword.or.letters, Keyword.not.letters] c.text := by
    rw [Criterion.text, hc]
    exact c.freeOf_condition.subset (by decide)
  obtain ⟨c, l⟩ := f
  induction l generalizing u c
  case nil =>
    refine connected_of_plain (fun c hc u hu => ?_) hu
    have hb := c.tight_text.not_allBlank u []
    rw [List.append_nil] at hb
    have hj := Connected.none (freeOf_padded hu hs (hf c hc)).left hb
    rw [text_one]
    simpa [tokens, hc] using hj
  case cons kc l hi =>
    refine connected_of_plain (fun c hc u hu => ?_) hu
    obtain ⟨k, c'⟩ := kc
    obtain ⟨w, hw, hm⟩ := k.spells
    obtain ⟨hb, he⟩ := ends_padded (u := u) c.tight_text
    have hk : tokens ⟨c, (k, c') :: l⟩ = k.text :: tokens ⟨c', l⟩ := by
      simp [tokens, hc]
    have hj := Connected.cons (List.mem_append_left [_] hw) hm
      (freeOf_padded hu hs (hf c hc)).right (fun h => absurd h (by simp [hb])) he rfl
      (hi (u := [' ']) rfl c')
    rw [text_cons, hk, ← List.append_assoc]
    exact hj

theorem freeOf_text (hs : Solid words) (hr : words ⊆ reservedWords)
    (hn : ∀ w ∈ [Keyword.and.letters, Keyword.or.letters, Keyword.not.letters], w ∉ words) :
    FreeOf words f.text := by
  have ht (c : Criterion) : FreeOf words c.text := c.freeOf_text hs hr (hn _ (by simp))
  have hk (k : Link) : FreeOf words k.text := by
    cases k
    case and s => exact s.freeOf (by decide) (hn _ (by simp))
    case or s => exact s.freeOf (by decide) (hn _ (by simp))
  obtain ⟨c, l⟩ := f
  induction l generalizing c
  case nil => rw [text_one]; exact ht c
  case cons kc l hi =>
    have hc : text ⟨c, kc :: l⟩ = c.text ++ ' ' :: (kc.1.text ++ ' ' :: text ⟨kc.2, l⟩) := by
      simp [text]
    rw [hc, hs.freeOf_append_cons not_isWordChar_space, hs.freeOf_append_cons not_isWordChar_space]
    exact ⟨ht c, hk _, hi kc.2⟩

theorem tight_text : f.text.Tight := by
  obtain ⟨c, l⟩ := f
  induction l generalizing c
  case nil => rw [text_one]; exact c.tight_text
  case cons kc l hi =>
    have ht := c.tight_text.append (hi kc.2) (' ' :: kc.1.text ++ [' '])
    rw [text_cons]
    simpa using ht

theorem parse_texts : f.texts.mapM Predicate.parse = .ok f.predicates := by
  have hm : (f.first :: f.rest.map Prod.snd).map Criterion.text = f.texts := by
    simp [texts]
  have hp : (f.first :: f.rest.map Prod.snd).map Criterion.predicate = f.predicates := by
    simp [predicates]
  rw [← hm, ← hp]
  exact mapM_map_eq_ok fun c _ => c.parse_text

theorem lowerAscii_tokens :
    f.tokens.map Text.lowerAscii = f.connectives.map (·.name.lowerAscii) := by
  have hc (c : Criterion) : (c.negation.map Spelling.text).toList.map Text.lowerAscii =
      c.connectives.map (·.name.lowerAscii) := by
    rw [Criterion.connectives]
    cases c.negation
    case none => rfl
    case some n => exact congrArg (fun t => [t]) n.spelled
  simp [tokens, connectives, List.map_flatMap, hc, Link.lowerAscii_text]

theorem parse_tokens : (f.tokens.map Text.lowerAscii).mapM Connective.parse = .ok f.connectives := by
  rw [f.lowerAscii_tokens]
  have hc : ∀ c ∈ f.connectives, Connective.parse c.name.lowerAscii = .ok (id c) := fun c _ => by
    cases c <;> rfl
  have hm := mapM_map_eq_ok hc
  rwa [List.map_id] at hm

-- Between any two criteria there is one joiner.
theorem balance : Plan.checkBalance f.predicates f.connectives = .ok () := by
  have hc (c : Criterion) : c.connectives.filter (·.isBinary) = [] := by
    rw [Criterion.connectives]
    split <;> rfl
  have hk (k : Link) : k.connective.isBinary := by
    cases k <;> rfl
  have hl : (f.connectives.filter (·.isBinary)).length = f.rest.length := by
    rw [connectives, List.filter_append, hc, List.nil_append]
    induction f.rest
    case nil => rfl
    case cons kc l hi => simp [hc, hk, hi]
  simp [Plan.checkBalance, hl, predicates]

-- Nowhere in criteria stands a parenthesis.
theorem no_parenthesis : '(' ∉ f.text ∧ ')' ∉ f.text := by
  have hc (c : Criterion) : '(' ∉ c.text ∧ ')' ∉ c.text := by
    constructor
    all_goals
      intro h
      obtain h | h | h | h | h := c.mem_text h <;> contradiction
  have hk (k : Link) : '(' ∉ k.text ∧ ')' ∉ k.text := by
    have hs {w : Text} (s : Spelling w) (hw : '(' ∉ w ∧ ')' ∉ w) : '(' ∉ s.text ∧ ')' ∉ s.text :=
      ⟨fun h => hw.left (s.toLower_mem h), fun h => hw.right (s.toLower_mem h)⟩
    cases k
    case and s => exact hs s (by decide)
    case or s => exact hs s (by decide)
  simp [text, hc, hk]

section Length

-- A field, an operator and two quotes are never blank.
theorem countP_text : 4 ≤ f.text.countP (!isBlank ·) := by
  have hc (c : Criterion) : 4 ≤ c.condition.countP (!isBlank ·) := by
    have hf : c.field.text.countP (!isBlank ·) = c.field.text.length :=
      List.countP_eq_length.mpr fun d hd => by
        simp [not_isBlank_of_isAsciiWordChar (c.field.isAsciiWordChar hd)]
    have ho : c.operator.symbol.countP (!isBlank ·) = c.operator.symbol.length :=
      List.countP_eq_length.mpr fun d hd => by simp [c.operator.no_blank_symbol d hd]
    have hq := not_isBlank_of_isQuote c.quotes
    have := List.length_pos_iff.mpr c.field.nonempty
    have := List.length_pos_iff.mpr c.operator.symbol_ne_nil
    simp only [Criterion.condition, Criterion.quoted, List.countP_append, List.countP_cons,
      List.countP_nil, hf, ho, hq, Bool.not_false, if_true]
    omega
  have hn : f.first.condition.countP (!isBlank ·) ≤ f.first.text.countP (!isBlank ·) := by
    rw [Criterion.text]
    split
    case h_1 => exact Nat.le_refl _
    case h_2 =>
      simp only [List.countP_append, List.countP_cons]
      omega
  have := hc f.first
  simp only [text, List.countP_append]
  omega

-- With white space there is one character more.
theorem filterOfText_text : Clause.filterOfText f.text = .present f.text := by
  have hc := f.countP_text
  have hl : ¬f.text.length < (if f.text.any isBlank then 5 else 3) := by
    split
    case isTrue hb =>
      obtain ⟨c, hc, hb⟩ := List.any_eq_true.mp hb
      have hn : f.text.countP (!isBlank ·) ≠ f.text.length := fun h => by
        have := List.countP_eq_length.mp h c hc
        simp [hb] at this
      have := List.countP_le_length (p := (!isBlank ·)) (l := f.text)
      omega
    case isFalse =>
      have := List.countP_le_length (p := (!isBlank ·)) (l := f.text)
      omega
  rw [Clause.filterOfText, if_neg hl]

end Length

section Clauses

variable {query : Text} (h : Clause.filter query = .present f.text)
include h

theorem conditions_eq : Clause.conditions query = .present f.texts := by
  have hj : Pattern.joiners.texts? f.text = some f.texts := (f.joined (u := []) rfl).texts?_eq
  have hc (c : Criterion) : Condition.ofText? c.text.stripNot.2 = some c.parts := by
    rw [c.stripNot_text, c.ofText?_condition]
  simp only [Clause.conditions, h, Clause.bind, hj]
  simp [texts, hc]

theorem connectives_eq : Clause.connectives query =
    if f.tokens = [] then .absent .notInQuery else .present (f.tokens.map Text.lowerAscii) := by
  have hc : Pattern.connectives.delimiters? f.text = some f.tokens :=
    (f.connected (u := []) rfl).delimiters?_eq
  simp only [Clause.connectives, h, Clause.bind, hc]
  cases f.tokens <;> rfl

-- Both cuts of the filter read back as what was written there.
theorem reads_connectives : Clause.connectives query ≠ .malformed ∧
    (Clause.connectives query).texts.mapM Connective.parse = .ok f.connectives := by
  have hp := f.parse_tokens
  rw [f.connectives_eq h]
  split
  case isTrue ht => rw [ht] at hp; exact ⟨by simp, hp⟩
  case isFalse => exact ⟨by simp, hp⟩

end Clauses

end Criteria

end Dialect
end FlatQuery
