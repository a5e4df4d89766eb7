import FlatQuery.Proofs.Pattern.Places
import FlatQuery.Text.Utf8

namespace FlatQuery

-- A stretch of a text counted in bytes. It can be cut out only where it lies within the text and
-- splits no character.
structure ByteRange where
  start : Nat
  stop : Nat
  deriving DecidableEq, Repr

def Span.bytes (t : Text) (s : Span) : ByteRange :=
  ⟨t.byteOffset s.start, t.byteOffset s.stop⟩

-- The range lies within the text and both of its ends are between two characters.
structure ByteRange.Fits (r : ByteRange) (t : Text) : Prop where
  ordered : r.start ≤ r.stop
  within  : r.stop ≤ t.byteSize
  start   : ∃ u v, t = u ++ v ∧ u.byteSize = r.start
  stop    : ∃ u v, t = u ++ v ∧ u.byteSize = r.stop

namespace Text

variable {t u m v : Text} {c : Char} {i j n : Nat} {r : ByteRange}

-- The number of characters in the first `n` bytes, if they end with one.
def placeAt? : Text → Nat → Option Nat
  | _, 0 => some 0
  | [], _ + 1 => none
  | c :: t, n + 1 =>
    if c.utf8Size ≤ n + 1 then (placeAt? t (n + 1 - c.utf8Size)).map (· + 1) else none

-- The stretch between two byte offsets. A range that does not fit has none.
def cut? (t : Text) (r : ByteRange) : Option Text :=
  if r.start ≤ r.stop then do
    let i ← t.placeAt? r.start
    let j ← t.placeAt? r.stop
    return t.slice ⟨i, j⟩
  else
    none

section Offsets

@[simp]
theorem byteOffset_zero : byteOffset t 0 = 0 := by
  simp [byteOffset, byteSize]

@[simp]
theorem byteOffset_succ : byteOffset (c :: t) (i + 1) = c.utf8Size + byteOffset t i := by
  simp [byteOffset, byteSize]

@[simp]
theorem byteOffset_length : byteOffset t t.length = t.byteSize := by
  simp [byteOffset]

theorem byteSize_append : byteSize (u ++ v) = byteSize u + byteSize v := by
  induction u
  case nil => simp [byteSize]
  case cons c u hi =>
    simp only [byteSize, List.cons_append, List.foldr_cons] at hi ⊢
    omega

theorem byteOffset_append : byteOffset (u ++ v) u.length = u.byteSize := by
  simp [byteOffset]

theorem byteOffset_lt (h : i < j) (hj : j ≤ t.length) : t.byteOffset i < t.byteOffset j := by
  induction t generalizing i j
  case nil => simp at hj; omega
  case cons c t hi =>
    obtain ⟨j, rfl⟩ := Nat.exists_eq_succ_of_ne_zero (Nat.ne_zero_of_lt h)
    have hc := c.utf8Size_pos
    cases i
    case zero => simp; omega
    case succ i =>
      have := hi (i := i) (j := j) (by omega) (by simpa using hj)
      simpa using this

theorem byteOffset_le (h : i ≤ j) (hj : j ≤ t.length) : t.byteOffset i ≤ t.byteOffset j := by
  obtain h | rfl := Nat.lt_or_eq_of_le h
  case inl => exact Nat.le_of_lt (byteOffset_lt h hj)
  case inr => exact Nat.le_refl _

theorem byteOffset_lt_iff (hi : i ≤ t.length) (hj : j ≤ t.length) :
    t.byteOffset i < t.byteOffset j ↔ i < j := by
  refine ⟨fun h => ?_, fun h => byteOffset_lt h hj⟩
  refine Nat.lt_of_not_le fun hn => ?_
  have := byteOffset_le hn hi
  omega

theorem byteOffset_le_iff (hi : i ≤ t.length) (hj : j ≤ t.length) :
    t.byteOffset i ≤ t.byteOffset j ↔ i ≤ j := by
  have := byteOffset_lt_iff hj hi
  omega

theorem byteOffset_eq_zero_iff (hi : i ≤ t.length) : t.byteOffset i = 0 ↔ i = 0 := by
  have := byteOffset_le_iff hi (Nat.zero_le t.length)
  rw [byteOffset_zero] at this
  omega

end Offsets

section Cut

theorem placeAt?_eq_some_iff : t.placeAt? n = some i ↔ i ≤ t.length ∧ t.byteOffset i = n := by
  induction t generalizing n i
  case nil =>
    have h₀ : byteOffset [] i = 0 := by simp [byteOffset, byteSize]
    cases n <;> simp [placeAt?, h₀, eq_comm]
  case cons c t hi =>
    have hc := c.utf8Size_pos
    cases n
    case zero =>
      cases i <;> simp [placeAt?]
      omega
    case succ n =>
      simp only [placeAt?]
      cases i
      case zero =>
        split <;> simp
      case succ i =>
        split
        case isFalse h => simp; omega
        case isTrue h => simp [hi]; omega

-- Where characters begin and end, the text can be parted.
theorem isSome_placeAt?_iff : (t.placeAt? n).isSome ↔ ∃ u v, t = u ++ v ∧ u.byteSize = n := by
  constructor
  case mp =>
    intro h
    obtain ⟨i, hi⟩ := Option.isSome_iff_exists.mp h
    obtain ⟨-, hn⟩ := placeAt?_eq_some_iff.mp hi
    exact ⟨t.take i, t.drop i, by simp, hn⟩
  case mpr =>
    rintro ⟨u, v, rfl, rfl⟩
    have hu := placeAt?_eq_some_iff.mpr ⟨by simp, byteOffset_append (u := u) (v := v)⟩
    rw [hu]
    rfl

theorem isSome_cut?_iff : (t.cut? r).isSome ↔ r.Fits t := by
  have hs := isSome_placeAt?_iff (t := t) (n := r.start)
  have he := isSome_placeAt?_iff (t := t) (n := r.stop)
  rw [cut?]
  constructor
  case mp =>
    intro h
    split at h
    case isFalse => contradiction
    case isTrue ho =>
      cases hi : t.placeAt? r.start
      case none => simp [hi] at h
      case some i =>
        cases hj : t.placeAt? r.stop
        case none => simp [hj] at h
        case some j =>
          rw [hi] at hs
          rw [hj] at he
          obtain ⟨u, v, ht, hu⟩ := he.mp rfl
          have hw : r.stop ≤ t.byteSize := by rw [ht, byteSize_append]; omega
          exact ⟨ho, hw, hs.mp rfl, ⟨u, v, ht, hu⟩⟩
  case mpr =>
    intro h
    obtain ⟨i, hi⟩ := Option.isSome_iff_exists.mp (hs.mpr h.start)
    obtain ⟨j, hj⟩ := Option.isSome_iff_exists.mp (he.mpr h.stop)
    simp [h.ordered, hi, hj]

example : cut? "\u00e9a".toList ⟨1, 3⟩ = none := by decide

-- Between two places of characters, the range fits.
theorem cut?_bytes (h : i ≤ j) (hj : j ≤ t.length) :
    t.cut? ⟨t.byteOffset i, t.byteOffset j⟩ = some (t.slice ⟨i, j⟩) := by
  have hi := placeAt?_eq_some_iff.mpr ⟨Nat.le_trans h hj, rfl⟩
  have hj' := placeAt?_eq_some_iff.mpr ⟨hj, rfl⟩
  simp [cut?, byteOffset_le h hj, hi, hj']

theorem cut?_take (h : i ≤ t.length) : t.cut? ⟨0, t.byteOffset i⟩ = some (t.take i) := by
  have := cut?_bytes (Nat.zero_le i) h
  simpa [slice] using this

theorem cut?_drop (h : i ≤ t.length) : t.cut? ⟨t.byteOffset i, t.byteSize⟩ = some (t.drop i) := by
  have := cut?_bytes h (Nat.le_refl _)
  rw [byteOffset_length] at this
  rw [this, slice, List.take_of_length_le (by simp)]

-- What is cut out from the end of `u` on is what follows it.
theorem cut?_append : cut? (u ++ m ++ v) ⟨u.byteSize, (u ++ m).byteSize⟩ = some m := by
  have hu : byteOffset (u ++ m ++ v) u.length = u.byteSize := by
    rw [List.append_assoc, byteOffset_append]
  have hm : byteOffset (u ++ m ++ v) (u ++ m).length = (u ++ m).byteSize := byteOffset_append
  have hc := cut?_bytes (t := u ++ m ++ v) (i := u.length) (j := (u ++ m).length) (by simp) (by simp)
  rw [hu, hm, List.length_append, slice_append] at hc
  exact hc

end Cut

section Encoding

theorem length_encodeChar (c : Char) : (Utf8.encodeChar c).length = c.utf8Size := by
  have le {n : UInt32} (h : c.toNat ≤ n.toNat) : c.val ≤ n := UInt32.le_iff_toNat_le.mpr h
  have lt {n : UInt32} (h : ¬c.toNat < n.toNat + 1) : n < c.val :=
    UInt32.lt_iff_toNat_lt.mpr (Nat.le_of_not_lt h)
  rw [Utf8.encodeChar]
  split
  case isTrue h => exact (Char.utf8Size_eq_one_iff.mpr (le (Nat.le_of_lt_succ h))).symm
  case isFalse h₁ =>
    split
    case isTrue h => exact (Char.utf8Size_eq_two_iff.mpr ⟨lt h₁, le (Nat.le_of_lt_succ h)⟩).symm
    case isFalse h₂ =>
      split
      case isTrue h => exact (Char.utf8Size_eq_three_iff.mpr ⟨lt h₂, le (Nat.le_of_lt_succ h)⟩).symm
      case isFalse h₃ => exact (Char.utf8Size_eq_four_iff.mpr (lt h₃)).symm

theorem encode_append : Utf8.encode (u ++ v) = Utf8.encode u ++ Utf8.encode v := by
  simp [Utf8.encode]

theorem length_encode : (Utf8.encode t).length = t.byteSize := by
  induction t
  case nil => rfl
  case cons c t hi =>
    have hc : Utf8.encode (c :: t) = Utf8.encodeChar c ++ Utf8.encode t := rfl
    rw [hc, List.length_append, length_encodeChar, hi]
    rfl

-- What is cut out has just the bytes of the range.
theorem encode_of_cut? (h : t.cut? r = some u) :
    Utf8.encode u = ((Utf8.encode t).drop r.start).take (r.stop - r.start) := by
  rw [cut?] at h
  split at h
  case isFalse => contradiction
  case isTrue ho =>
    obtain ⟨i, hi, h⟩ := Option.bind_eq_some_iff.mp h
    obtain ⟨j, hj, h⟩ := Option.bind_eq_some_iff.mp h
    obtain rfl := Option.some.inj h
    obtain ⟨hi, hi'⟩ := placeAt?_eq_some_iff.mp hi
    obtain ⟨hj, hj'⟩ := placeAt?_eq_some_iff.mp hj
    rw [← hi', ← hj', byteOffset_le_iff hi hj] at ho
    rw [← hi', ← hj']
    -- The text before the range, the range, and the text after it.
    have ht : t = t.take i ++ (t.slice ⟨i, j⟩ ++ t.drop j) := by
      rw [slice_append_drop ho, List.take_append_drop]
    have hl : t.byteOffset j = t.byteOffset i + byteSize (t.slice ⟨i, j⟩) := by
      rw [byteOffset, byteOffset, ← byteSize_append, take_append_slice ho]
    have he : Utf8.encode t =
        Utf8.encode (t.take i) ++ (Utf8.encode (t.slice ⟨i, j⟩) ++ Utf8.encode (t.drop j)) := by
      rw [← encode_append, ← encode_append, ← ht]
    have hs : t.byteOffset j - t.byteOffset i = (Utf8.encode (t.slice ⟨i, j⟩)).length := by
      rw [length_encode]
      omega
    have hb : t.byteOffset i = (Utf8.encode (t.take i)).length := by
      rw [length_encode]
      rfl
    rw [hs, hb, he, List.drop_left, List.take_left]

end Encoding
end Text
end FlatQuery
