import FlatQuery.Proofs.Query.ConditionParts

namespace FlatQuery

section Comparisons

variable {c d : Char} {a b m t u v : Text}

-- The characters of comparison operators.
def isComparisonChar (c : Char) : Bool :=
  ['!', '=', '<', '>'].contains c

-- The signs that no operator is without.
def isSign (c : Char) : Bool :=
  ['=', '<', '>'].contains c

namespace Comparison

theorem matchLength_of_other (h : isComparisonChar c = false) : matchLength (c :: t) = none := by
  unfold matchLength
  split <;> simp_all [isComparisonChar]

theorem matchLength_cons_ne (h : d ≠ '=') : matchLength (c :: d :: t) = matchLength [c] := by
  unfold matchLength
  split <;> simp_all

theorem matchLength_cons_eq : matchLength (c :: '=' :: t) = matchLength [c, '='] := by
  unfold matchLength
  split
  case h_5 hn he => exact absurd (List.cons.inj he).right.symm (hn t)
  case h_6 hn he => exact absurd (List.cons.inj he).right.symm (hn t)
  all_goals simp_all

-- No operator is longer than two characters.
theorem matchLength_cons_cons : matchLength (c :: d :: t) = matchLength [c, d] := by
  by_cases hd : d = '='
  case pos =>
    subst hd
    exact matchLength_cons_eq
  case neg => exact (matchLength_cons_ne hd).trans (matchLength_cons_ne hd).symm

-- Every sign begins an operator.
theorem exists_matchLength_of_isSign (h : isSign c) : ∃ n, matchLength (c :: t) = some n := by
  simp only [isSign, List.contains_iff_mem, List.mem_cons, List.not_mem_nil, or_false] at h
  unfold matchLength
  obtain rfl | rfl | rfl := h <;> split <;> simp_all

theorem symbol_ne_nil (op : Comparison) : op.symbol ≠ [] := by
  cases op <;> decide

theorem no_blank_symbol (op : Comparison) : ∀ c ∈ op.symbol, isBlank c = false := by
  cases op <;> exact none_of_all (by decide)

end Comparison

theorem not_isComparisonChar_of_forall {p : Char → Bool}
    (hp : ∀ d ∈ ['!', '=', '<', '>'], p d = false) (h : p c) : isComparisonChar c = false := by
  rw [Bool.eq_false_iff]
  intro hc
  rw [hp c (List.contains_iff_mem.mp hc)] at h
  contradiction

theorem not_isComparisonChar_of_isAsciiWordChar (h : isAsciiWordChar c) :
    isComparisonChar c = false :=
  not_isComparisonChar_of_forall (none_of_all (by decide)) h

theorem not_isComparisonChar_of_isBlank (h : isBlank c) : isComparisonChar c = false :=
  not_isComparisonChar_of_forall (none_of_all (by decide)) h

theorem not_isSign_of_not_isComparisonChar (h : isComparisonChar c = false) : isSign c = false := by
  simp_all [isComparisonChar, isSign]

namespace Pattern

-- An operator goes on only with an equality sign.
theorem parted_comparisons (h : b.head? ≠ some '=') : comparisons.Parted a b where
  right := rfl
  left {u v} ha hv := by
    clear ha
    obtain ⟨c, v, rfl⟩ := List.exists_cons_of_ne_nil hv
    simp only [comparisons]
    cases v
    case nil =>
      cases b
      case nil => rfl
      case cons d b =>
        have hd : d ≠ '=' := by simpa using h
        exact Comparison.matchLength_cons_ne hd
    case cons d v =>
      exact Comparison.matchLength_cons_cons.trans Comparison.matchLength_cons_cons.symm

theorem takes_symbol (op : Comparison) : comparisons.Takes [] op.symbol [] := by
  cases op <;> rfl

theorem exists_takes_of_isSign (h : isSign c) : ∃ m w, c :: v = m ++ w ∧ comparisons.Takes u m w := by
  obtain ⟨n, hn⟩ := Comparison.exists_matchLength_of_isSign (t := v) h
  have ht := Takes.of_matchLength (p := comparisons) (u := u) hn
  exact ⟨_, _, (List.take_append_drop n _).symm, ht.left⟩

-- Every operator has a sign of comparison, and every such sign begins one.
theorem not_comparisons_iff : comparisons.occursIn t = false ↔ ∀ c ∈ t, isSign c = false := by
  rw [occursIn_eq_false_iff, spans_eq_nil_iff]
  constructor
  case mp =>
    intro h c hc
    obtain ⟨u, v, rfl⟩ := List.append_of_mem hc
    by_contra hs
    obtain ⟨m, w, hv, ht⟩ := exists_takes_of_isSign (u := u) (v := v) (by simpa using hs)
    exact h u m w (by simp [hv]) ht
  case mpr =>
    rintro h u m v rfl ht
    obtain ⟨op, rfl⟩ := Comparison.exists_symbol_of_matchLength ht
    have hs : op.symbol.any isSign := by cases op <;> decide
    obtain ⟨c, hc, hs⟩ := List.any_eq_true.mp hs
    simp [h c (by simp [hc])] at hs

-- Signs stand in operators only, so that there are none on either side of the only operator.
theorem not_isSign_of_split (h : comparisons.split t = ⟨a, [(m, b)]⟩) :
    (∀ c ∈ a, isSign c = false) ∧ ∀ c ∈ b, isSign c = false := by
  obtain ⟨rfl, hs⟩ := eq_of_split h
  have within {u v : Text} {c : Char} (he : a ++ m ++ b = u ++ c :: v) (hc : isSign c) :
      a.length ≤ u.length ∧ u.length < a.length + m.length := by
    obtain ⟨n, w, hv, ht⟩ := exists_takes_of_isSign (u := u) (v := v) hc
    have hm := exists_mem_spans_of_takes ht
    rw [List.append_assoc, ← hv, ← he, hs] at hm
    simpa using hm
  constructor
  case left =>
    intro c hc
    obtain ⟨u, v, rfl⟩ := List.append_of_mem hc
    by_contra hs
    have := within (u := u) (v := v ++ m ++ b) (c := c) (by simp) (by simpa using hs)
    simp only [List.length_append, List.length_cons] at this
    omega
  case right =>
    intro c hc
    obtain ⟨u, v, rfl⟩ := List.append_of_mem hc
    by_contra hs
    have := within (u := a ++ m ++ u) (v := v) (c := c) (by simp) (by simpa using hs)
    simp only [List.length_append] at this
    omega

-- No operator begins in front of the place, or goes on beyond it.
theorem parted_comparisons_of_last (h : ∀ c ∈ a.getLast?, isComparisonChar c = false) :
    comparisons.Parted a b where
  right := rfl
  left {u v} ha hv := by
    obtain ⟨c, v, rfl⟩ := List.exists_cons_of_ne_nil hv
    cases v
    case nil =>
      have hc : isComparisonChar c = false := h c (by simp [ha])
      exact (Comparison.matchLength_of_other hc).trans (Comparison.matchLength_of_other hc).symm
    case cons d v =>
      exact Comparison.matchLength_cons_cons.trans Comparison.matchLength_cons_cons.symm

section Symbol

variable (op : Comparison) (hu : ∀ c ∈ u.getLast?, isComparisonChar c = false)
  (hv : v.head? ≠ some '=')
include hu hv

theorem found_symbol : comparisons.found (u ++ (op.symbol ++ v)) =
    comparisons.found u ++ op.symbol :: comparisons.found v := by
  rw [(parted_comparisons_of_last hu).found_append, (parted_comparisons hv).found_append,
    found_of_takes (takes_symbol op)]
  rfl

-- A text comes apart at its only operator.
theorem split_symbol (hu' : comparisons.occursIn u = false) (hv' : comparisons.occursIn v = false) :
    comparisons.split (u ++ (op.symbol ++ v)) = ⟨u, [(op.symbol, v)]⟩ := by
  rw [split_append (takes_symbol op) hu' (parted_comparisons_of_last hu) (parted_comparisons hv),
    split_of_free hv']

end Symbol

end Pattern

end Comparisons

namespace Condition

variable {t u v : Text} {c d : Condition}

theorem words_symbol (op : Comparison) (hu : ∀ c ∈ u.getLast?, isBlank c)
    (hv : ∀ c ∈ v.head?, isBlank c) :
    Text.words (u ++ op.symbol ++ v) = Text.words u ++ op.symbol :: Text.words v := by
  have hs : Text.words op.symbol = [op.symbol] := by cases op <;> decide
  rw [Text.words_append (.inr hv), Text.words_append (.inl hu), hs, List.append_assoc]
  rfl

-- A condition of three words comes apart at the same operator as one of two operands.
theorem eq_of_ofWords?_of_ofSplit? (hw : ofWords? t = some c) (hs : ofSplit? t = some d) :
    c = d := by
  obtain ⟨hw, op, ho⟩ := words_of_ofWords? hw
  obtain ⟨x, y, hs, hx, hy, hf, hl⟩ := split_of_ofSplit? hs
  rw [ho] at hw
  obtain ⟨u, v, rfl, hu, hv⟩ := Text.exists_of_mem_words (t := t) (w := op.symbol) (by simp [hw])
  rw [words_symbol op hu hv] at hw
  rw [List.append_assoc] at hs
  have hu' : ∀ c ∈ u.getLast?, isComparisonChar c = false := fun c hc =>
    not_isComparisonChar_of_isBlank (hu c hc)
  have hv' : v.head? ≠ some '=' := fun h => absurd (hv '=' h) (by decide)
  -- No other operator is found on either side.
  have hn : Pattern.comparisons.found u = [] ∧ Pattern.comparisons.found v = [] := by
    have hn := congrArg (·.delimiters.length) hs
    rw [Pattern.delimiters_split, Pattern.found_symbol op hu' hv'] at hn
    simp only [List.length_append, List.length_cons, Split.delimiters, List.map_cons, List.map_nil,
      List.length_nil] at hn
    exact ⟨List.length_eq_zero_iff.mp (by omega), List.length_eq_zero_iff.mp (by omega)⟩
  have free {s : Text} (h : Pattern.comparisons.found s = []) :
      Pattern.comparisons.occursIn s = false :=
    Bool.eq_false_iff.mpr fun ho => Pattern.found_ne_nil ho h
  rw [Pattern.split_symbol op hu' hv' (free hn.left) (free hn.right)] at hs
  obtain ⟨rfl, htail⟩ := Split.mk.inj hs
  obtain ⟨hm, rfl⟩ := Prod.mk.inj (List.cons.inj htail).left
  -- Neither side is blank, so that each of them has one of the words.
  obtain ⟨a, as, hu⟩ := List.exists_cons_of_ne_nil (l := Text.words u) fun h => by
    simp [Text.words_eq_nil_iff.mp h] at hx
  obtain ⟨b, bs, hv⟩ := List.exists_cons_of_ne_nil (l := Text.words v) fun h => by
    simp [Text.words_eq_nil_iff.mp h] at hy
  rw [hu, hv] at hw
  have hlen := congrArg List.length hw
  simp only [List.length_append, List.length_cons, List.length_nil] at hlen
  obtain rfl : as = [] := List.length_eq_zero_iff.mp (by omega)
  obtain rfl : bs = [] := List.length_eq_zero_iff.mp (by omega)
  obtain ⟨rfl, -, rfl⟩ : a = c.field ∧ op.symbol = op.symbol ∧ b = c.literal := by simpa using hw
  rw [Text.trim_of_words_eq_singleton hu] at hf
  rw [Text.trim_of_words_eq_singleton hv] at hl
  cases c
  cases d
  simp_all

-- Operands without signs are told from the operator, with or without white space around it, if no
-- `!` stands in front of the operator.
theorem ofText?_of_signless {field g h literal : Text} (op : Comparison) (hf : field.Tight)
    (hfs : ∀ c ∈ field, isSign c = false)
    (hfl : ∀ c ∈ (field ++ g).getLast?, isComparisonChar c = false) (hg : g.all isBlank)
    (hh : h.all isBlank) (hl : literal.Tight) (hls : ∀ c ∈ literal, isSign c = false) :
    ofText? (field ++ g ++ (op.symbol ++ (h ++ literal))) = some ⟨field, op.symbol, literal⟩ := by
  have blank {u : Text} (hu : u.all isBlank) : ∀ c ∈ u, isSign c = false := fun c hc =>
    not_isSign_of_not_isComparisonChar <|
      not_isComparisonChar_of_isBlank (List.all_eq_true.mp hu c hc)
  have hu : ∀ c ∈ field ++ g, isSign c = false := List.forall_mem_append.mpr ⟨hfs, blank hg⟩
  have hv : ∀ c ∈ h ++ literal, isSign c = false := List.forall_mem_append.mpr ⟨blank hh, hls⟩
  have hs := Pattern.split_symbol op hfl
    (fun hc => absurd (hv '=' (List.mem_of_head? hc)) (by decide))
    (Pattern.not_comparisons_iff.mpr hu) (Pattern.not_comparisons_iff.mpr hv)
  have hft : Text.trim (field ++ g) = field := by simpa using hf.trim_padded (u := []) rfl hg
  have hlt : Text.trim (h ++ literal) = literal := by simpa using hl.trim_padded (v := []) hh rfl
  have hfb : Text.allBlank (field ++ g) = false := hf.not_allBlank [] g
  have hlb : Text.allBlank (h ++ literal) = false := by simpa using hl.not_allBlank h []
  have ho : ofSplit? (field ++ g ++ (op.symbol ++ (h ++ literal))) =
      some ⟨field, op.symbol, literal⟩ := by
    simp only [ofSplit?, hs, hft, hlt, hfb, hlb]
    rfl
  have ht : (field ++ g ++ (op.symbol ++ (h ++ literal))).Tight := by
    simpa using hf.append hl (g ++ op.symbol ++ h)
  rw [ofText?, ht.trim_eq, ho]
  cases hw : ofWords? (field ++ g ++ (op.symbol ++ (h ++ literal)))
  case none => rfl
  case some c => rw [eq_of_ofWords?_of_ofSplit? hw ho, Option.some_or]

-- With single spaces around the operator, operands without white space may have signs.
theorem ofText?_spaced {field literal : Text} (op : Comparison) (hf : field.Tight)
    (hl : literal.Tight) (h : (∀ c ∈ field ++ literal, isBlank c = false) ∨
      ∀ c ∈ field ++ literal, isSign c = false) :
    ofText? (field ++ ' ' :: (op.symbol ++ ' ' :: literal)) = some ⟨field, op.symbol, literal⟩ := by
  obtain h | h := h
  case inl =>
    obtain ⟨hfb, hlb⟩ := List.forall_mem_append.mp h
    have hw : Text.words (field ++ ' ' :: (op.symbol ++ ' ' :: literal)) =
        [field, op.symbol, literal] := by
      rw [Text.words_append_cons isBlank_space, Text.words_append_cons isBlank_space,
        Text.words_eq_singleton hfb hf.ne_nil, Text.words_eq_singleton hlb hl.ne_nil,
        Text.words_eq_singleton op.no_blank_symbol op.symbol_ne_nil]
      rfl
    have ht : (field ++ ' ' :: (op.symbol ++ ' ' :: literal)).Tight := by
      simpa using hf.append hl (' ' :: op.symbol ++ [' '])
    have ho : isOperator op.symbol := by cases op <;> rfl
    rw [ofText?, ht.trim_eq]
    simp only [ofWords?, hw, ho, if_true, Option.some_or]
  case inr =>
    obtain ⟨hfs, hls⟩ := List.forall_mem_append.mp h
    have hs := ofText?_of_signless (g := [' ']) (h := [' ']) op hf hfs (by simp [isComparisonChar])
      rfl rfl hl hls
    simpa using hs

-- Where a condition comes apart, either its operands have no white space, or they have no signs.
theorem blankless_or_signless (h : ofText? t = some c) :
    (∀ d ∈ c.field ++ c.literal, isBlank d = false) ∨
      ∀ d ∈ c.field ++ c.literal, isSign d = false := by
  obtain h | ⟨-, h⟩ := Option.or_eq_some_iff.mp h
  case inl =>
    have hw := (words_of_ofWords? h).left
    have blank {w : Text} (hm : w ∈ [c.field, c.operator, c.literal]) :
        ∀ d ∈ w, isBlank d = false := fun d hd =>
      Text.not_of_mem_pieces (List.mem_filter.mp (hw ▸ hm)).left hd
    exact .inl (List.forall_mem_append.mpr ⟨blank (by simp), blank (by simp)⟩)
  case inr =>
    obtain ⟨u, v, hs, -, -, hf, hl⟩ := split_of_ofSplit? h
    obtain ⟨hu, hv⟩ := Pattern.not_isSign_of_split hs
    rw [hf, hl]
    exact .inr (List.forall_mem_append.mpr
      ⟨fun d hd => hu d (Text.mem_of_mem_strip hd), fun d hd => hv d (Text.mem_of_mem_strip hd)⟩)

theorem ofText?_of_operands {field g h literal : Text} (op : Comparison) (hf : field.Tight)
    (hfs : ∀ c ∈ field, isComparisonChar c = false) (hg : g.all isBlank) (hh : h.all isBlank)
    (hl : literal.Tight) (hls : ∀ c ∈ literal, isSign c = false) :
    ofText? (field ++ g ++ (op.symbol ++ (h ++ literal))) = some ⟨field, op.symbol, literal⟩ := by
  have hu : ∀ c ∈ field ++ g, isComparisonChar c = false := List.forall_mem_append.mpr
    ⟨hfs, fun c hc => not_isComparisonChar_of_isBlank (List.all_eq_true.mp hg c hc)⟩
  exact ofText?_of_signless op hf (fun c hc => not_isSign_of_not_isComparisonChar (hfs c hc))
    (fun c hc => hu c (List.mem_of_getLast? hc)) hg hh hl hls

-- White space around the operands and the operator is lost, and that inside the operands is kept.
theorem ofText?_padded {u field g h literal v : Text} (op : Comparison)
    (hf : field.trim = field) (hfb : field.allBlank = false)
    (hfs : ∀ c ∈ field, isComparisonChar c = false)
    (hl : literal.trim = literal) (hlb : literal.allBlank = false)
    (hls : ∀ c ∈ literal, isSign c = false)
    (hu : u.allBlank) (hg : g.allBlank) (hh : h.allBlank) (hv : v.allBlank) :
    ofText? (u ++ field ++ g ++ op.symbol ++ h ++ literal ++ v) =
      some ⟨field, op.symbol, literal⟩ := by
  have hft : field.Tight := hf ▸ Text.tight_trim hfb
  have hlt : literal.Tight := hl ▸ Text.tight_trim hlb
  have ht := Text.trim_append_blanks (t := field ++ g ++ (op.symbol ++ (h ++ literal))) hu hv
  have he : u ++ field ++ g ++ op.symbol ++ h ++ literal ++ v =
      u ++ (field ++ g ++ (op.symbol ++ (h ++ literal))) ++ v := by simp
  rw [he, ofText?, ht]
  exact ofText?_of_operands op hft hfs hg hh hlt hls

theorem ofText?_padded_homeCity : ofText? "\thome  city!=!New York\u3000".toList =
    some ⟨"home  city".toList, "!=".toList, "!New York".toList⟩ :=
  @ofText?_padded ['\t'] "home  city".toList [] [] "!New York".toList ['\u3000'] .ne
    (by decide) (by decide) (none_of_all (by decide)) (by decide) (by decide)
    (none_of_all (by decide)) rfl rfl rfl rfl

end Condition
end FlatQuery
