import FlatQuery.Proofs.Pattern.Keywords

namespace FlatQuery
namespace Pattern

variable {p : Pattern} {t : Text} {s : Span}

theorem start_le_of_mem_spansFrom (h : s ∈ p.spansFrom prev pos skip t) : pos + skip ≤ s.start := by
  induction t generalizing prev pos skip
  case nil => cases skip <;> contradiction
  case cons c t hi =>
    cases skip
    case succ skip =>
      have := hi h
      omega
    case zero =>
      rw [spansFrom] at h
      split at h
      case h_1 n hn =>
        cases h
        case head => simp
        case tail h =>
          have := hi h
          omega
      case h_2 =>
        have := hi h
        omega

-- What is found later begins where the match ends, or further on.
theorem pairwise_spansFrom :
    (p.spansFrom prev pos skip t).Pairwise fun a b => a.start < a.stop ∧ a.stop ≤ b.start := by
  induction t generalizing prev pos skip
  case nil => cases skip <;> exact .nil
  case cons c t hi =>
    cases skip
    case succ skip => exact hi
    case zero =>
      rw [spansFrom]
      split
      case h_2 => exact hi
      case h_1 n hn =>
        have hp := (p.within hn).left
        refine List.pairwise_cons.mpr ⟨fun s hs => ?_, hi⟩
        have := start_le_of_mem_spansFrom hs
        exact ⟨by simp [hp], by simp; omega⟩

theorem pairwise_spans (p : Pattern) (t : Text) :
    (p.spans t).Pairwise fun a b => a.start < a.stop ∧ a.stop ≤ b.start :=
  pairwise_spansFrom

end Pattern

namespace Keyword

variable {k : Keyword} {t u m v a b c : Text} {s w : Span}

-- No other place of the keyword reaches over the beginning of an occurrence: what is taken from
-- before it would end with the space of the keyword, and the occurrence begins with its first word.
theorem clear_before (hm : Spells k.letters m) (hu : endsWord u = false) :
    Clear k.letters u (m ++ v) := by
  rintro u' m₁ m₂ v' rfl he - - hs
  by_contra! hn
  obtain ⟨h₁, h₂⟩ := hn
  obtain ⟨w₁, w₂, hw, hm₁, hm₂⟩ := hs.append_left
  have hl := k.all_isKeyLetter
  rw [hw, List.all_append, Bool.and_eq_true] at hl
  have hw₁ : endsWord w₁ = false := by
    rwa [← hm₁.endsWord_eq hl.left, ← endsWord_append h₁]
  have hh : w₂.head? = k.letters.head? := by
    obtain ⟨c, m₂, rfl⟩ := List.exists_cons_of_ne_nil h₂
    obtain ⟨d, m, rfl⟩ := List.exists_cons_of_ne_nil (hm.ne_nil k.framed)
    obtain rfl : d = c := (List.cons.inj he).left
    obtain ⟨x, w₂, hx, -, rfl⟩ := List.forall₂_cons_right_iff.mp hm₂
    obtain ⟨y, w, hy, -, hk⟩ := List.forall₂_cons_right_iff.mp hm
    have hly := k.all_isKeyLetter
    rw [hk, List.all_cons, Bool.and_eq_true] at hly
    rw [List.all_cons, Bool.and_eq_true] at hl
    rw [hk, List.head?_cons, List.head?_cons, foldsTo_inj hl.right.left hly.left hx hy]
  -- No keyword begins once more after a place where no word ends.
  have hd : ∀ i ∈ List.range (k.letters.length + 1), endsWord (k.letters.take i) = false →
      (k.letters.drop i).head? = k.letters.head? → i = 0 := by
    cases k <;> decide
  have hn : w₁.length ≤ k.letters.length := by
    rw [hw, List.length_append]
    omega
  have h₀ := hd w₁.length (List.mem_range.mpr (Nat.lt_succ_of_le hn)) (by simpa [hw] using hw₁)
    (by simpa [hw] using hh)
  have := hm₁.length_eq
  exact h₁ (List.length_eq_zero_iff.mp (by omega))

theorem clear_after (hm : Spells k.letters m) (hv : startsWord v = false) : Clear k.letters m v := by
  intro u' m₁ m₂ v' hu' he hu hv' hs
  cases m₂
  case nil => exact .inr rfl
  case cons c m₂ =>
    obtain rfl : v = c :: (m₂ ++ v') := he
    by_cases hc : c = ' '
    case pos =>
      subst hc
      have hb : ' ' :: (m₂ ++ v') = ' ' :: m₂ ++ v' := rfl
      exact clear_of_spells hm hu' hb hu hv' hs
    case neg =>
      -- A keyword has no other character that ends a word.
      obtain ⟨letter, hl, hf⟩ := hs.foldsTo (c := c) (by simp)
      have hk : isKeyLetter letter := List.all_eq_true.mp k.all_isKeyLetter letter hl
      have hw : isWordChar letter = false := by rwa [← isWordChar_eq_of_foldsTo hk hf]
      simp only [isKeyLetter, Bool.or_eq_true, beq_iff_eq] at hk
      obtain hk | rfl := hk
      case inl => simp [isWordChar_of_isLower hk] at hw
      case inr => exact absurd (foldsTo_space hf) hc

-- Every occurrence is found.
theorem mem_spans_iff : s ∈ k.spans t ↔
    ∃ u m v, t = u ++ m ++ v ∧ Spells k.letters m ∧ endsWord u = false ∧ startsWord v = false ∧
      s = ⟨u.length, u.length + m.length⟩ := by
  refine ⟨exists_of_mem_spans, ?_⟩
  rintro ⟨u, m, v, rfl, hm, hu, hv, rfl⟩
  rw [List.append_assoc, spans_append (.inl hu) (clear_before hm hu),
    spans_append (.inr hv) (clear_after hm hv), spans_spelled hm]
  simp [Span.shift]

theorem start_lt_stop (h : s ∈ k.spans t) : s.start < s.stop := by
  obtain ⟨u, m, v, -, hm, -, -, rfl⟩ := mem_spans_iff.mp h
  have := List.length_pos_iff.mpr (hm.ne_nil k.framed)
  simp only
  omega

theorem stop_eq (h : s ∈ k.spans t) : s.stop = s.start + k.letters.length := by
  obtain ⟨u, m, v, -, hm, -, -, rfl⟩ := mem_spans_iff.mp h
  rw [hm.length_eq]

theorem stop_le_length (h : s ∈ k.spans t) : s.stop ≤ t.length :=
  Pattern.stop_le_length h

theorem start_le_length (h : s ∈ k.spans t) : s.start ≤ t.length :=
  Nat.le_trans (Nat.le_of_lt (start_lt_stop h)) (stop_le_length h)

theorem le_length_of_mem_starts (h : i ∈ k.starts t) : i ≤ t.length := by
  obtain ⟨s, hs, rfl⟩ := List.mem_map.mp h
  exact start_le_length hs

theorem mem_of_first? (h : k.first? t = some s) : s ∈ k.spans t :=
  List.mem_of_head? h

theorem mem_of_last? (h : k.last? t = some w) : w ∈ k.spans t :=
  List.mem_of_getLast? h

-- The last place lies behind all others.
theorem eq_or_stop_le_of_last? (h : k.last? t = some w) (hs : s ∈ k.spans t) :
    s = w ∨ s.stop ≤ w.start := by
  obtain ⟨l, hl⟩ := List.getLast?_eq_some_iff.mp h
  have hp : (k.spans t).Pairwise _ := k.pattern.pairwise_spans t
  have hl : k.spans t = l ++ [w] := hl
  rw [hl] at hs hp
  obtain hs | hs := List.mem_append.mp hs
  case inl => exact .inr ((List.pairwise_append.mp hp).right.right s hs w (by simp)).right
  case inr => exact .inl (List.mem_singleton.mp hs)

theorem start_le_of_last? (h : k.last? t = some w) (hi : i ∈ k.starts t) : i ≤ w.start := by
  obtain ⟨s, hs, rfl⟩ := List.mem_map.mp hi
  obtain rfl | hw := eq_or_stop_le_of_last? h hs
  case inl => exact le_rfl
  case inr => exact (start_lt_stop hs).le.trans hw

-- A stretch that cuts through no word has the keyword where the text has it within the stretch.
theorem occursIn_stretch_iff (hl : endsWord a = false ∨ startsWord (b ++ c) = false)
    (hr : endsWord (a ++ b) = false ∨ startsWord c = false) :
    k.occursIn b ↔
      ∃ s ∈ k.spans (a ++ b ++ c), a.length ≤ s.start ∧ s.stop ≤ a.length + b.length := by
  rw [occursIn_iff]
  constructor
  case mp =>
    rintro ⟨u, m, v, rfl, hm, hu, hv⟩
    have hn := hm.ne_nil k.framed
    have hau : endsWord (a ++ u) = false := by
      by_cases h : u = []
      case neg => rwa [endsWord_append h]
      case pos =>
        subst h
        simpa [startsWord_append hn, hm.startsWord k.framed] using hl
    have hvc : startsWord (v ++ c) = false := by
      by_cases h : v = []
      case neg => rwa [startsWord_append h]
      case pos =>
        subst h
        rw [List.append_nil, ← List.append_assoc, endsWord_append hn] at hr
        simpa [hm.endsWord k.framed] using hr
    refine ⟨⟨(a ++ u).length, (a ++ u).length + m.length⟩, ?_, by simp, by simp; omega⟩
    exact mem_spans_iff.mpr ⟨a ++ u, m, v ++ c, by simp, hm, hau, hvc, rfl⟩
  case mpr =>
    rintro ⟨s, hs, h₁, h₂⟩
    obtain ⟨u, m, v, he, hm, hu, hv, rfl⟩ := mem_spans_iff.mp hs
    simp only at h₁ h₂
    -- Both ends of the occurrence lie in the stretch.
    have ha : a <+: u ++ m ++ v := ⟨b ++ c, by simp [← he]⟩
    obtain ⟨u', rfl⟩ := List.prefix_of_prefix_length_le ha ⟨m ++ v, by simp⟩ h₁
    obtain ⟨v', rfl⟩ : c <:+ v := by
      refine List.suffix_of_suffix_length_le ⟨a ++ b, he⟩ ⟨a ++ u' ++ m, rfl⟩ ?_
      have := congrArg List.length he
      simp only [List.length_append] at this h₂
      omega
    have hb : b = u' ++ m ++ v' := by
      have he : a ++ (b ++ c) = a ++ ((u' ++ m ++ v') ++ c) := by simpa using he
      exact List.append_cancel_right (List.append_cancel_left he)
    exact ⟨u', m, v', hb, hm, not_endsWord_of_append hu, not_startsWord_of_append hv⟩

theorem occursIn_slice_iff (hij : i ≤ j) (hj : j ≤ t.length) (hl : startsWord (t.drop i) = false)
    (hr : endsWord (t.take j) = false ∨ startsWord (t.drop j) = false) :
    k.occursIn (t.slice ⟨i, j⟩) ↔ ∃ s ∈ k.spans t, i ≤ s.start ∧ s.stop ≤ j := by
  have hs : (t.take j).drop i = t.slice ⟨i, j⟩ := List.drop_take ..
  have hd := Text.slice_append_drop (t := t) hij
  have ht := Text.take_append_slice (t := t) hij
  have hlen : (t.slice ⟨i, j⟩).length = j - i := by
    rw [← hs, List.length_drop, List.length_take]
    omega
  have hc := occursIn_stretch_iff (k := k) (a := t.take i) (b := t.slice ⟨i, j⟩) (c := t.drop j)
    (.inr (hd ▸ hl)) (ht ▸ hr)
  rw [hc, ht, List.take_append_drop, hlen, List.length_take_of_le (by omega),
    Nat.add_sub_cancel' hij]

end Keyword
end FlatQuery
