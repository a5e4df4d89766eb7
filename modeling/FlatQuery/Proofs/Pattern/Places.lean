import FlatQuery.Pattern.Basic

namespace FlatQuery

-- The same stretch after `n` more characters.
def Span.shift (n : Nat) (s : Span) : Span :=
  ⟨n + s.start, n + s.stop⟩

@[simp]
theorem Span.shift_zero : Span.shift 0 = id := by
  funext s
  simp [Span.shift]

theorem Span.shift_shift : Span.shift m ∘ Span.shift n = Span.shift (m + n) := by
  funext s
  simp [Span.shift, Nat.add_assoc]

namespace Text

variable {t u m v : Text} {s : Span}

theorem length_slice_le : (t.slice s).length ≤ s.stop - s.start :=
  List.length_take_le _ _

@[simp]
theorem slice_append : slice (u ++ m ++ v) ⟨u.length, u.length + m.length⟩ = m := by
  simp [slice]

theorem slice_shift : slice (u ++ t) (s.shift u.length) = slice t s := by
  have h : (u ++ t).drop (u.length + s.start) = t.drop s.start := by simp [← List.drop_drop]
  rw [slice, slice, Span.shift, h, Nat.add_sub_add_left]

theorem slice_append_of_le (h : s.stop ≤ u.length) : slice (u ++ t) s = slice u s := by
  by_cases hs : s.start ≤ u.length
  case pos =>
    rw [slice, slice, List.drop_append_of_le_length hs, List.take_append_of_le_length]
    simp only [List.length_drop]
    omega
  case neg =>
    have h₀ : s.stop - s.start = 0 := by omega
    simp [slice, h₀]

theorem take_append_slice (h : i ≤ j) : t.take i ++ t.slice ⟨i, j⟩ = t.take j := by
  rw [slice, ← List.take_add, Nat.add_sub_cancel' h]

theorem slice_append_drop (h : i ≤ j) : t.slice ⟨i, j⟩ ++ t.drop j = t.drop i := by
  have hd : t.drop j = (t.drop i).drop (j - i) := by rw [List.drop_drop, Nat.add_sub_cancel' h]
  rw [slice, hd, List.take_append_drop]

end Text

namespace Pattern

variable {p : Pattern} {t u m v a b : Text} {s : Span}

-- The pattern takes `m` where it stands between `u` and `v`.
def Takes (p : Pattern) (u m v : Text) : Prop :=
  p.matchLength u.getLast? (m ++ v) = some m.length

theorem Takes.ne_nil (h : p.Takes u m v) : m ≠ [] := by
  have := (p.within h).left
  exact List.length_pos_iff.mp this

theorem Takes.of_matchLength (h : p.matchLength u.getLast? t = some n) :
    p.Takes u (t.take n) (t.drop n) ∧ (t.take n).length = n := by
  have hl : (t.take n).length = n := by simp [(p.within h).right]
  exact ⟨by rw [Takes, List.take_append_drop, h, hl], hl⟩

-- What is found after `u` is a match there.
theorem exists_takes_of_mem_spansFrom (h : s ∈ p.spansFrom u.getLast? u.length skip t) :
    ∃ a m v, t = a ++ m ++ v ∧ p.Takes (u ++ a) m v ∧
      s = ⟨(u ++ a).length, (u ++ a).length + m.length⟩ := by
  induction t generalizing u skip
  case nil => cases skip <;> contradiction
  case cons c t hi =>
    -- The rest of the text is read after `u` and `c`.
    have step (skip) (h : s ∈ p.spansFrom (some c) (u.length + 1) skip t) :
        ∃ a m v, c :: t = a ++ m ++ v ∧ p.Takes (u ++ a) m v ∧
          s = ⟨(u ++ a).length, (u ++ a).length + m.length⟩ := by
      obtain ⟨a, m, v, rfl, ht, rfl⟩ := @hi (u ++ [c]) skip (by simpa using h)
      exact ⟨c :: a, m, v, by simp, by simpa using ht, by simp⟩
    cases skip
    case succ skip => exact step _ h
    case zero =>
      rw [spansFrom] at h
      split at h
      case h_1 n hn =>
        cases h
        case head =>
          have ⟨ht, hl⟩ := Takes.of_matchLength hn
          exact ⟨[], (c :: t).take n, (c :: t).drop n, by simp, by simpa using ht, by rw [hl]; simp⟩
        case tail h => exact step _ h
      case h_2 => exact step _ h

theorem exists_takes_of_mem_spans (h : s ∈ p.spans t) :
    ∃ u m v, t = u ++ m ++ v ∧ p.Takes u m v ∧ s = ⟨u.length, u.length + m.length⟩ :=
  exists_takes_of_mem_spansFrom (u := []) h

-- What the pattern takes at a place that is not skipped begins in a match, be it another one.
theorem exists_mem_spansFrom_of_takes (h : p.Takes (u ++ a) m v) (hs : skip ≤ a.length) :
    ∃ s ∈ p.spansFrom u.getLast? pos skip (a ++ m ++ v),
      s.start ≤ pos + a.length ∧ pos + a.length < s.stop := by
  induction a generalizing u pos skip
  case nil =>
    obtain rfl : skip = 0 := Nat.le_zero.mp hs
    obtain ⟨c, m, rfl⟩ := List.exists_cons_of_ne_nil h.ne_nil
    have hn : p.matchLength u.getLast? (c :: (m ++ v)) = some (m.length + 1) := by
      simpa [Takes] using h
    simp [spansFrom, hn]
  case cons c a hi =>
    have step (skip) (hs : skip ≤ a.length) :
        ∃ s ∈ p.spansFrom (some c) (pos + 1) skip (a ++ m ++ v),
          s.start ≤ pos + (a.length + 1) ∧ pos + (a.length + 1) < s.stop := by
      have := @hi (u ++ [c]) skip (pos + 1) (by simpa using h) hs
      rwa [List.getLast?_concat, Nat.add_assoc, Nat.add_comm 1] at this
    cases skip
    case succ skip => exact step skip (by simpa using hs)
    case zero =>
      simp only [List.cons_append, spansFrom, List.length_cons]
      split
      case h_2 => exact step 0 (Nat.zero_le _)
      case h_1 n _ =>
        -- A match that begins here ends before the place, or else reaches over it.
        by_cases hn : n - 1 ≤ a.length
        case pos =>
          obtain ⟨s, hm, hs⟩ := step (n - 1) hn
          exact ⟨s, .tail _ hm, hs⟩
        case neg => exact ⟨_, .head _, by simp, by simp only; omega⟩

theorem exists_mem_spans_of_takes (h : p.Takes u m v) :
    ∃ s ∈ p.spans (u ++ m ++ v), s.start ≤ u.length ∧ u.length < s.stop := by
  have hs := @exists_mem_spansFrom_of_takes p [] m v u 0 0 h (Nat.zero_le _)
  rwa [Nat.zero_add] at hs

theorem spans_eq_nil_iff : p.spans t = [] ↔ ∀ u m v, t = u ++ m ++ v → ¬p.Takes u m v where
  mp := by
    rintro hs u m v rfl ht
    obtain ⟨s, hm, -⟩ := exists_mem_spans_of_takes ht
    rw [hs] at hm
    contradiction
  mpr h := by
    refine List.eq_nil_iff_forall_not_mem.mpr fun s hs => ?_
    obtain ⟨u, m, v, ht, hm, -⟩ := exists_takes_of_mem_spans hs
    exact h u m v ht hm

theorem occursIn_iff : p.occursIn t ↔ ∃ u m v, t = u ++ m ++ v ∧ p.Takes u m v := by
  have : p.occursIn t = true ↔ ¬p.spans t = [] := by simp [occursIn]
  rw [this, spans_eq_nil_iff]
  simp

theorem occursIn_eq_false_iff : p.occursIn t = false ↔ p.spans t = [] := by
  simp [occursIn]

-- The pattern takes in `a` and in `b`, each on its own, what it takes in `a ++ b`.
structure Parted (p : Pattern) (a b : Text) : Prop where
  left : ∀ {u v}, a = u ++ v → v ≠ [] →
    p.matchLength u.getLast? (v ++ b) = p.matchLength u.getLast? v
  right : p.matchLength a.getLast? b = p.matchLength none b

theorem spansFrom_add :
    p.spansFrom prev (k + pos) skip t = (p.spansFrom prev pos skip t).map (·.shift k) := by
  induction t generalizing prev pos skip
  case nil => cases skip <;> rfl
  case cons c t hi =>
    cases skip <;> simp only [spansFrom]
    case zero => split <;> simp [Nat.add_assoc, Span.shift, hi]
    case succ => rw [Nat.add_assoc, hi]

theorem Parted.spansFrom_right (h : p.Parted a b) :
    p.spansFrom a.getLast? pos 0 b = p.spansFrom none pos 0 b := by
  cases b
  case nil => rfl
  case cons => simp only [spansFrom, h.right]

-- Beyond its beginning, the first part is read on after the characters `u`.
theorem Parted.spansFrom_append (h : p.Parted a b) (ha : a = u ++ v) (hs : skip ≤ v.length) :
    p.spansFrom u.getLast? pos skip (v ++ b) =
      p.spansFrom u.getLast? pos skip v ++ p.spansFrom none (pos + v.length) 0 b := by
  induction v generalizing u pos skip
  case nil =>
    obtain rfl : skip = 0 := by simpa using hs
    obtain rfl : a = u := by simpa using ha
    simp [spansFrom, h.spansFrom_right]
  case cons c v hi =>
    have step (skip) (hs : skip ≤ v.length) :
        p.spansFrom (some c) (pos + 1) skip (v ++ b) =
          p.spansFrom (some c) (pos + 1) skip v ++ p.spansFrom none (pos + (v.length + 1)) 0 b := by
      have := @hi (u ++ [c]) skip (pos + 1) (by simpa using ha) hs
      rw [List.getLast?_concat] at this
      rw [this, Nat.add_assoc, Nat.add_comm 1]
    cases skip
    case succ skip => exact step skip (by simpa using hs)
    case zero =>
      -- What is taken here is the same with and without the second part.
      have hm := h.left ha (by simp)
      rw [List.cons_append] at hm
      simp only [List.cons_append, spansFrom, hm, List.length_cons]
      cases hn : p.matchLength u.getLast? (c :: v)
      case none => exact step 0 (Nat.zero_le _)
      case some n =>
        have := (p.within hn).right
        simp only [List.cons_append]
        rw [step (n - 1) (by simp at this; omega)]

theorem Parted.spans_append (h : p.Parted a b) :
    p.spans (a ++ b) = p.spans a ++ (p.spans b).map (·.shift a.length) := by
  have : p.spansFrom none 0 0 (a ++ b) =
      p.spansFrom none 0 0 a ++ p.spansFrom none (0 + a.length) 0 b :=
    h.spansFrom_append (u := []) rfl (Nat.zero_le _)
  rw [spans, spans, spans, ← spansFrom_add]
  simpa using this

theorem Parted.occursIn_append (h : p.Parted a b) :
    p.occursIn (a ++ b) = (p.occursIn a || p.occursIn b) := by
  rw [Bool.eq_iff_iff]
  simp [occursIn, h.spans_append, Decidable.imp_iff_not_or]

theorem start_le_stop (h : s ∈ p.spans t) : s.start ≤ s.stop := by
  obtain ⟨u, m, v, rfl, -, rfl⟩ := exists_takes_of_mem_spans h
  simp

theorem stop_le_length (h : s ∈ p.spans t) : s.stop ≤ t.length := by
  obtain ⟨u, m, v, rfl, -, rfl⟩ := exists_takes_of_mem_spans h
  simp

-- The texts that the pattern takes.
def found (p : Pattern) (t : Text) : List Text :=
  (p.spans t).map t.slice

theorem exists_takes_of_mem_found (h : m ∈ p.found t) : ∃ u v, t = u ++ m ++ v ∧ p.Takes u m v := by
  obtain ⟨s, hs, rfl⟩ := List.mem_map.mp h
  obtain ⟨u, m, v, rfl, hm, rfl⟩ := exists_takes_of_mem_spans hs
  exact ⟨u, v, by rw [Text.slice_append], by rwa [Text.slice_append]⟩

theorem Parted.found_append (h : p.Parted a b) : p.found (a ++ b) = p.found a ++ p.found b := by
  rw [found, h.spans_append, List.map_append, List.map_map, found, found]
  congr 1
  case e_a => exact List.map_congr_left fun s hs => Text.slice_append_of_le (stop_le_length hs)
  case e_a => exact List.map_congr_left fun s _ => Text.slice_shift

theorem spansFrom_eq_nil (h : t.length ≤ skip) : p.spansFrom prev pos skip t = [] := by
  induction t generalizing prev pos skip
  case nil => cases skip <;> rfl
  case cons c t hi =>
    cases skip
    case zero => simp at h
    case succ => exact hi (by simpa using h)

theorem spans_of_takes (h : p.Takes [] m []) : p.spans m = [⟨0, m.length⟩] := by
  obtain ⟨c, m, rfl⟩ := List.exists_cons_of_ne_nil h.ne_nil
  have hn : p.matchLength none (c :: m) = some (m.length + 1) := by simpa [Takes] using h
  simp [spans, spansFrom, hn, spansFrom_eq_nil]

theorem found_of_takes (h : p.Takes [] m []) : p.found m = [m] := by
  simp [found, spans_of_takes h, Text.slice]

section Split

theorem cutAround_shift (u t : Text) (i : Nat) (l : List Span) :
    cutAround (u ++ t) (u.length + i) (l.map (·.shift u.length)) = cutAround t i l := by
  induction l generalizing i
  case nil => simp [cutAround, ← List.drop_drop]
  case cons s l hi =>
    have hs : Text.slice (u ++ t) ⟨u.length + i, (s.shift u.length).start⟩ =
        Text.slice t ⟨i, s.start⟩ := Text.slice_shift (s := ⟨i, s.start⟩)
    have hl : (s.shift u.length).stop = u.length + s.stop := rfl
    simp only [List.map_cons, cutAround, Text.slice_shift, hs, hl, hi]

theorem split_of_free (h : p.occursIn t = false) : p.split t = ⟨t, []⟩ := by
  rw [occursIn_eq_false_iff] at h
  simp [split, h, cutAround]

-- A text that the pattern cuts in two has one match, which stands between the two.
theorem eq_of_split (h : p.split t = ⟨u, [(m, v)]⟩) :
    t = u ++ m ++ v ∧ p.spans t = [⟨u.length, u.length + m.length⟩] := by
  rw [split] at h
  cases hs : p.spans t
  case nil => simp [hs, cutAround] at h
  case cons s later =>
    obtain ⟨a, b, d, rfl, -, rfl⟩ := exists_takes_of_mem_spans (hs ▸ List.mem_cons_self)
    rw [hs] at h
    obtain ⟨hu, htail⟩ := Split.mk.inj h
    obtain ⟨hmv, hl⟩ := List.cons.inj htail
    obtain ⟨hm, hv⟩ := Prod.mk.inj hmv
    obtain rfl : later = [] := by
      cases later
      case nil => rfl
      case cons => simp [cutAround] at hl
    obtain rfl : a = u := by simpa [Text.slice] using hu
    rw [Text.slice_append] at hm
    obtain rfl := hm
    have hd : (a ++ b ++ d).drop (a.length + b.length) = d := by simp [← List.drop_drop]
    rw [cutAround, hd] at hv
    obtain rfl := hv
    exact ⟨rfl, rfl⟩

theorem pieces_split_of_free (h : p.occursIn t = false) : (p.split t).pieces = [t] := by
  simp [split_of_free h, Split.pieces]

-- The first match cuts off what stands before it.
theorem split_append (hm : p.Takes [] m []) (ha : p.occursIn a = false)
    (hl : p.Parted a (m ++ b)) (hr : p.Parted m b) :
    p.split (a ++ (m ++ b)) = ⟨a, (m, (p.split b).head) :: (p.split b).tail⟩ := by
  have hs : p.spans (a ++ (m ++ b)) =
      ⟨a.length, a.length + m.length⟩ :: (p.spans b).map (·.shift (a ++ m).length) := by
    rw [hl.spans_append, hr.spans_append, occursIn_eq_false_iff.mp ha, spans_of_takes hm]
    simp [Span.shift, Nat.add_assoc]
  have hc := cutAround_shift (a ++ m) b 0 (p.spans b)
  rw [List.append_assoc, Nat.add_zero, List.length_append] at hc
  have hm : Text.slice (a ++ (m ++ b)) ⟨a.length, a.length + m.length⟩ = m := by
    rw [← List.append_assoc, Text.slice_append]
  have ha : Text.slice (a ++ (m ++ b)) ⟨0, a.length⟩ = a := by simp [Text.slice]
  simp only [split, hs, cutAround, List.length_append, hc, hm, ha]

end Split

end Pattern
end FlatQuery
