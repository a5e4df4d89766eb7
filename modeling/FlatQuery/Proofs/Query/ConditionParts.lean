import FlatQuery.Proofs.Fallible
import FlatQuery.Proofs.Pattern.Cuts
import FlatQuery.Query.Predicate

namespace FlatQuery

variable {t m v : Text}

namespace Comparison

theorem parse_symbol (op : Comparison) : parse op.symbol = .ok op := by
  cases op <;> rfl

theorem symbol_of_ofSymbol? {op : Comparison} (h : ofSymbol? t = some op) : t = op.symbol := by
  rw [ofSymbol?] at h
  have he := List.find?_some h
  exact (eq_of_beq he).symm

-- What is taken for an operator is the symbol of one.
theorem exists_symbol_of_matchLength (h : matchLength (m ++ v) = some m.length) :
    ∃ op : Comparison, m = op.symbol := by
  have hm : (m ++ v).take m.length = m := by simp
  rw [← hm]
  unfold matchLength at h
  split at h
  case h_1 he => exact ⟨ne, by rw [he, ← Option.some.inj h]; rfl⟩
  case h_2 he => exact ⟨le, by rw [he, ← Option.some.inj h]; rfl⟩
  case h_3 he => exact ⟨ge, by rw [he, ← Option.some.inj h]; rfl⟩
  case h_4 he => exact ⟨eq, by rw [he, ← Option.some.inj h]; rfl⟩
  case h_5 _ he => exact ⟨lt, by rw [he, ← Option.some.inj h]; rfl⟩
  case h_6 _ he => exact ⟨gt, by rw [he, ← Option.some.inj h]; rfl⟩
  case h_7 => contradiction

end Comparison

namespace Condition

variable {c : Condition}

-- Three parts that a condition can have.
structure Sound (c : Condition) : Prop where
  field    : c.field.Tight
  operator : ∃ op : Comparison, c.operator = op.symbol
  literal  : c.literal.Tight

-- A condition of three words, the second of which is an operator.
theorem words_of_ofWords? (h : ofWords? t = some c) :
    t.words = [c.field, c.operator, c.literal] ∧ ∃ op : Comparison, c.operator = op.symbol := by
  rw [ofWords?] at h
  split at h
  case h_2 => contradiction
  case h_1 hw =>
    split at h
    case isFalse => contradiction
    case isTrue ho =>
      obtain ⟨op, ho⟩ := Option.isSome_iff_exists.mp ho
      obtain rfl := Option.some.inj h
      exact ⟨hw, op, Comparison.symbol_of_ofSymbol? ho⟩

-- A condition of two operands around an operator.
theorem split_of_ofSplit? (h : ofSplit? t = some c) :
    ∃ u v, Pattern.comparisons.split t = ⟨u, [(c.operator, v)]⟩ ∧
      u.allBlank = false ∧ v.allBlank = false ∧ c.field = u.trim ∧ c.literal = v.trim := by
  rw [ofSplit?] at h
  split at h
  case h_2 => contradiction
  case h_1 u operator v hs =>
    split at h
    case isTrue => contradiction
    case isFalse hn =>
      simp only [Bool.or_eq_true, not_or, Bool.not_eq_true] at hn
      obtain rfl := Option.some.inj h
      exact ⟨u, v, hs, hn.left, hn.right, rfl, rfl⟩

theorem sound_of_ofWords? (h : ofWords? t = some c) : Sound c := by
  obtain ⟨hw, ho⟩ := words_of_ofWords? h
  have tight (w : Text) (hm : w ∈ [c.field, c.operator, c.literal]) : w.Tight :=
    Text.tight_of_mem_words (hw ▸ hm)
  exact { field := tight _ (by simp), operator := ho, literal := tight _ (by simp) }

theorem sound_of_ofSplit? (h : ofSplit? t = some c) : Sound c := by
  obtain ⟨u, v, hs, hu, hv, hf, hl⟩ := split_of_ofSplit? h
  have hm : c.operator ∈ Pattern.comparisons.found t := by
    rw [← Pattern.delimiters_split, hs]
    exact .head _
  obtain ⟨_, _, -, ho⟩ := Pattern.exists_takes_of_mem_found hm
  exact {
    field := hf ▸ Text.tight_trim hu
    operator := Comparison.exists_symbol_of_matchLength ho
    literal := hl ▸ Text.tight_trim hv
  }

-- The field and the literal take no more room than the condition.
theorem length_of_ofWords? (h : ofWords? t = some c) :
    c.field.length + c.literal.length ≤ t.length := by
  have hl := Text.length_flatten_words_le t
  rw [(words_of_ofWords? h).left] at hl
  simp only [List.flatten_cons, List.flatten_nil, List.length_append, List.length_nil] at hl
  omega

theorem length_of_ofSplit? (h : ofSplit? t = some c) :
    c.field.length + c.literal.length ≤ t.length := by
  obtain ⟨u, v, hs, -, -, hf, hl⟩ := split_of_ofSplit? h
  obtain ⟨rfl, -⟩ := Pattern.eq_of_split hs
  have := Text.length_strip_le (p := isBlank) (t := u)
  have := Text.length_strip_le (p := isBlank) (t := v)
  rw [hf, hl, Text.trim, Text.trim]
  simp only [List.length_append]
  omega

theorem length_of_ofText? (h : ofText? t = some c) :
    c.field.length + c.literal.length ≤ t.length := by
  refine Nat.le_trans ?_ (Text.length_strip_le (p := isBlank) (t := t))
  obtain h | ⟨-, h⟩ := Option.or_eq_some_iff.mp h
  case inl => exact length_of_ofWords? h
  case inr => exact length_of_ofSplit? h

theorem sound_of_ofText? (h : ofText? t = some c) : Sound c := by
  obtain h | ⟨-, h⟩ := Option.or_eq_some_iff.mp h
  case inl => exact sound_of_ofWords? h
  case inr => exact sound_of_ofSplit? h

end Condition

theorem Text.length_stripNot_le (t : Text) : t.stripNot.2.length ≤ t.length := by
  have hs : t.trimStart.length ≤ t.length := (List.dropWhile_sublist _).length_le
  rw [stripNot]
  split
  case isTrue =>
    refine Nat.le_trans ?_ hs
    exact length_strip_le.trans (List.dropWhile_sublist _).length_le
  case isFalse => exact length_dropEndWhile_le.trans hs

namespace Predicate

variable {p : Predicate}

-- The field is there, and the literal has lost its quotes.
structure Sound (p : Predicate) : Prop where
  field : p.field.Tight
  first : ∀ c ∈ p.literal.head?, Text.isQuote c = false
  last  : ∀ c ∈ p.literal.getLast?, Text.isQuote c = false

theorem parse_of_ofText? {c : Condition} (h : Condition.ofText? t.stripNot.2 = some c) :
    ∃ op, parse t = .ok ⟨c.field, op, c.literal.stripQuotes, t.stripNot.1⟩ := by
  obtain ⟨op, ho⟩ := (Condition.sound_of_ofText? h).operator
  refine ⟨op, ?_⟩
  simp only [parse, h, ho, op.parse_symbol]
  rfl

theorem exists_parse (h : (Condition.ofText? t.stripNot.2).isSome) : ∃ p, parse t = .ok p := by
  obtain ⟨c, hc⟩ := Option.isSome_iff_exists.mp h
  exact (parse_of_ofText? hc).imp' _ fun _ => id

-- What is read comes from the parts of the condition after the negation.
theorem exists_of_parse (h : parse t = .ok p) : ∃ c, Condition.ofText? t.stripNot.2 = some c ∧
    p = ⟨c.field, p.operator, c.literal.stripQuotes, t.stripNot.1⟩ := by
  cases hc : Condition.ofText? t.stripNot.2
  case none => simp [parse, hc] at h
  case some c =>
    obtain ⟨op, hp⟩ := parse_of_ofText? hc
    obtain rfl := Except.ok.inj (hp.symm.trans h)
    exact ⟨c, rfl, rfl⟩

theorem length_of_parse (h : parse t = .ok p) : p.field.length + p.literal.length ≤ t.length := by
  obtain ⟨c, hc, hp⟩ := exists_of_parse h
  have := Condition.length_of_ofText? hc
  have := t.length_stripNot_le
  have := Text.length_strip_le (p := Text.isQuote) (t := c.literal)
  rw [hp]
  simp only [Text.stripQuotes]
  omega

theorem sound_of_parse (h : parse t = .ok p) : Sound p := by
  obtain ⟨c, hc, hp⟩ := exists_of_parse h
  rw [hp]
  exact {
    field := (Condition.sound_of_ofText? hc).field
    first := Text.strip_ends.left
    last := Text.strip_ends.right
  }

end Predicate
end FlatQuery
