import FlatQuery.Number.Decimal
import FlatQuery.Proofs.Text.Letters
import FlatQuery.Proofs.Text.Words
import Mathlib.Algebra.GroupWithZero.Nat

namespace FlatQuery
namespace Decimal

variable {n : Nat} {i : Int} {c : Char}

theorem isDigit_of_mem_ofNat (h : c ∈ ofNat n) : c.isDigit :=
  Nat.isDigit_of_mem_toDigits (by decide) (by decide) h

theorem isDigits_ofNat (n : Nat) : isDigits (ofNat n) := by
  have hn : ofNat n ≠ [] := Nat.toDigits_ne_nil
  simpa [isDigits, hn] using fun c => isDigit_of_mem_ofNat

theorem value_ofNat (n : Nat) : value (ofNat n) = n :=
  Nat.ofDigitChars_toDigits (by decide) (by decide)

theorem takeSign_of_isDigits {t : Text} (h : isDigits t) : takeSign t = (false, t) := by
  unfold takeSign
  split
  case h_1 => simp [isDigits] at h
  case h_2 => simp [isDigits] at h
  case h_3 => rfl

theorem readInt?_ofInt (i : Int) : readInt? (ofInt i) = some i := by
  unfold ofInt
  split
  case isTrue h =>
    simp only [readInt?, takeSign, isDigits_ofNat, value_ofNat, if_true, Option.some.injEq]
    omega
  case isFalse h =>
    simp only [readInt?, takeSign_of_isDigits (isDigits_ofNat _), isDigits_ofNat, value_ofNat,
      if_true, Bool.false_eq_true, if_false, Option.some.injEq]
    omega

theorem readInt64?_ofInt (i : Int) : readInt64? (ofInt i) = (some i).filter fits64 := by
  rw [readInt64?, readInt?_ofInt]

theorem not_isBlank_of_mem_ofInt (h : c ∈ ofInt i) : isBlank c = false := by
  have hd : ∀ c ∈ ofNat i.natAbs, isBlank c = false := fun c hc =>
    not_isBlank_of_isAsciiWordChar (isAsciiWordChar_iff.mpr (.inl (.inr (isDigit_of_mem_ofNat hc))))
  unfold ofInt at h
  split at h
  case isFalse => exact hd c h
  case isTrue =>
    cases h
    case head => decide
    case tail h => exact hd c h

theorem trim_ofInt (i : Int) : (ofInt i).trim = ofInt i := by
  have hn : ofInt i ≠ [] := by
    unfold ofInt
    split
    case isTrue => simp
    case isFalse => exact Nat.toDigits_ne_nil
  exact (Text.tight_of_no_blank (fun _ => not_isBlank_of_mem_ofInt) hn).trim_eq

section Padded

variable {w : Nat}

-- Zeros in front add nothing.
theorem value_zeros_append (k : Nat) (t : Text) : value (List.replicate k '0' ++ t) = value t := by
  induction k
  case zero => rfl
  case succ k hi => exact hi

theorem value_padded (w n : Nat) : value (padded w n) = n :=
  (value_zeros_append _ _).trans (value_ofNat n)

theorem length_padded (hw : 0 < w) (h : n < 10 ^ w) : (padded w n).length = w := by
  have hl : (ofNat n).length ≤ w := (Nat.length_toDigits_le_iff (by decide) hw).mpr h
  rw [padded, List.length_append, List.length_replicate, Nat.sub_add_cancel hl]

theorem isDigit_of_mem_padded (h : c ∈ padded w n) : c.isDigit := by
  obtain h | h := List.mem_append.mp h
  case inl =>
    obtain rfl := List.eq_of_mem_replicate h
    rfl
  case inr => exact isDigit_of_mem_ofNat h

end Padded

end Decimal
end FlatQuery
