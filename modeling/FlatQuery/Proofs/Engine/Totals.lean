import FlatQuery.Proofs.Engine.Accumulators
import FlatQuery.Proofs.Number.Decimals
import Mathlib.Algebra.BigOperators.Group.List.Basic
import Mathlib.Algebra.Ring.Int.Defs

namespace FlatQuery

-- An integer that fits 128 bits.
def Decimal.fits128 (n : Int) : Bool :=
  -(2 ^ 127 : Int) ≤ n && n < 2 ^ 127

theorem Decimal.bounds_of_readInt64? (h : readInt64? t = some n) :
    -(2 ^ 63 : Int) ≤ n ∧ n < 2 ^ 63 := by
  simpa [fits64] using (Option.filter_eq_some_iff.mp h).right

namespace Accumulator

variable {a b : Accumulator} {cells : List Text} {cell : Text}

section Registers

-- What the registers of an accumulator can hold after `n` cells.
structure Bounded (n : Nat) (a : Accumulator) : Prop where
  count   : a.count ≤ n
  numeric : a.numeric ≤ n
  low     : -(2 ^ 63 * n : Int) ≤ a.integerSum
  high    : a.integerSum ≤ 2 ^ 63 * n

-- The counts fit 64 bits, and the sum 128.
structure InRange (a : Accumulator) : Prop where
  count      : a.count < 2 ^ 64
  numeric    : a.numeric < 2 ^ 64
  integerSum : Decimal.fits128 a.integerSum

theorem Bounded.absorbs (ha : Bounded n a) (h : Absorbs a cell b) : Bounded (n + 1) b := by
  have ⟨hc, hn, hl, hh⟩ := ha
  have hs : -(2 ^ 63 * (n + 1 : Nat) : Int) ≤ a.integerSum ∧
      a.integerSum ≤ 2 ^ 63 * (n + 1 : Nat) := by omega
  cases h
  case blank => exact ⟨Nat.le_succ_of_le hc, Nat.le_succ_of_le hn, hs.left, hs.right⟩
  case other | extreme => exact ⟨Nat.succ_le_succ hc, Nat.le_succ_of_le hn, hs.left, hs.right⟩
  case float => exact ⟨Nat.succ_le_succ hc, Nat.succ_le_succ hn, hs.left, hs.right⟩
  case integer m _ hr =>
    have := Decimal.bounds_of_readInt64? hr
    refine ⟨Nat.succ_le_succ hc, Nat.succ_le_succ hn, ?_, ?_⟩
    all_goals
      dsimp only
      omega

theorem bounded_feed (function : AggregateFunction) (type : ColumnType) (cells : List Text) :
    Bounded cells.length ((fresh function type).feed cells) := by
  refine feed_induction ⟨Nat.le_refl _, Nat.le_refl _, Int.le_refl _, Int.le_refl _⟩
    (fun seen cell hi => ?_) cells
  rw [List.length_append]
  exact hi.absorbs (absorbs_update _ cell)

theorem Bounded.inRange (h : Bounded n a) (hn : n < 2 ^ 64) : InRange a where
  count      := h.count.trans_lt hn
  numeric    := h.numeric.trans_lt hn
  integerSum := by
    have ⟨_, _, hl, hh⟩ := h
    simp only [Decimal.fits128, Bool.and_eq_true, decide_eq_true_eq]
    omega

end Registers

section Sums

-- The whole numbers among the cells.
def wholes (cells : List Text) : List Int :=
  cells.filterMap fun cell => Decimal.readInt64? cell.trim

theorem wholes_append (xs ys : List Text) : wholes (xs ++ ys) = wholes xs ++ wholes ys :=
  List.filterMap_append

theorem update_sum (hf : a.function = .sum) (ht : a.type = .integer) (cell : Text) :
    (a.update cell).integerSum = a.integerSum + (wholes [cell]).sum ∧
      (a.update cell).numeric = a.numeric + (wholes [cell]).length := by
  by_cases he : cell.trim = []
  case pos =>
    have hr : Decimal.readInt64? [] = none := rfl
    simp [update, wholes, he, hr]
  case neg => cases hr : Decimal.readInt64? cell.trim <;> simp [update, wholes, addNumber, *]

theorem feed_sum (cells : List Text) (hf : a.function = .sum) (ht : a.type = .integer) :
    (a.feed cells).integerSum = a.integerSum + (wholes cells).sum ∧
      (a.feed cells).numeric = a.numeric + (wholes cells).length := by
  refine feed_induction (by simp [wholes]) (fun seen cell hi => ?_) cells
  have ⟨hf', ht'⟩ := feed_eq a seen
  have ⟨hs, hn⟩ := update_sum (hf'.trans hf) (ht'.trans ht) cell
  rw [hs, hn, hi.left, hi.right, wholes_append, List.sum_append, List.length_append]
  omega

-- The sum of the whole numbers, if there are any.
def wholeSum (cells : List Text) : Option Int :=
  if wholes cells = [] then none else some (wholes cells).sum

-- A sum as a cell, empty without one.
def sumText (n : Option Int) : Text :=
  n.elim [] Decimal.ofInt

theorem finish_sum : ((fresh .sum .integer).feed cells).finish = sumText (wholeSum cells) := by
  have ⟨hf, ht⟩ := feed_eq (fresh .sum .integer) cells
  have ⟨hs, hn⟩ := feed_sum cells (a := fresh .sum .integer) rfl rfl
  have hf : ((fresh .sum .integer).feed cells).function = .sum := hf
  have ht : ((fresh .sum .integer).feed cells).type = .integer := ht
  have hs : ((fresh .sum .integer).feed cells).integerSum = (wholes cells).sum :=
    hs.trans (Int.zero_add _)
  have hn : ((fresh .sum .integer).feed cells).numeric = (wholes cells).length :=
    hn.trans (Nat.zero_add _)
  by_cases hw : wholes cells = []
  case pos => simp [finish, hf, hn, wholeSum, hw, sumText]
  case neg => simp [finish, hf, ht, hs, hn, wholeSum, hw, sumText]

theorem valueOf_sum (cells : List Text) :
    valueOf .sum .integer cells =
      if wholes cells = [] then [] else Decimal.ofInt (wholes cells).sum := by
  rw [valueOf, finish_sum, wholeSum]
  split <;> rfl

theorem valueOf_sum_perm (h : cells'.Perm cells) :
    valueOf .sum .integer cells' = valueOf .sum .integer cells := by
  have hw : (wholes cells').Perm (wholes cells) := h.filterMap _
  have hn : wholes cells' = [] ↔ wholes cells = [] := by
    rw [← List.length_eq_zero_iff, hw.length_eq, List.length_eq_zero_iff]
  simp only [valueOf_sum, hw.sum_eq, hn]

theorem valueOf_sum_append (hx : wholes xs ≠ []) (hy : wholes ys ≠ []) :
    ∃ m n, valueOf .sum .integer xs = Decimal.ofInt m ∧
      valueOf .sum .integer ys = Decimal.ofInt n ∧
      valueOf .sum .integer (xs ++ ys) = Decimal.ofInt (m + n) := by
  refine ⟨(wholes xs).sum, (wholes ys).sum, ?_, ?_, ?_⟩
  · rw [valueOf_sum, if_neg hx]
  · rw [valueOf_sum, if_neg hy]
  · rw [valueOf_sum, wholes_append, if_neg (by simp [hx]), List.sum_append]

end Sums

section Counts

theorem valueOf_count (type : ColumnType) (cells : List Text) :
    valueOf .count type cells = Decimal.ofNat (cells.countP (!·.allBlank)) := by
  have hf : ((fresh .count type).feed cells).function = .count := (feed_eq _ cells).left
  have hc : ((fresh .count type).feed cells).count = cells.countP (!·.allBlank) :=
    (feed_count _ cells).trans (Nat.zero_add _)
  rw [valueOf, finish, hf, hc]

theorem valueOf_count_append (type : ColumnType) (xs ys : List Text) :
    ∃ m n, valueOf .count type xs = Decimal.ofNat m ∧ valueOf .count type ys = Decimal.ofNat n ∧
      valueOf .count type (xs ++ ys) = Decimal.ofNat (m + n) :=
  ⟨_, _, valueOf_count .., valueOf_count .., by rw [valueOf_count, List.countP_append]⟩

end Counts

-- Also where the sum passes through numbers that do not fit 64 bits.
theorem totals_exact (type : ColumnType) (hl : cells.length < 2 ^ 64) :
    (valueOf .count type cells = Decimal.ofNat (cells.countP (!·.allBlank)) ∧
      valueOf .sum .integer cells =
        if wholes cells = [] then [] else Decimal.ofInt (wholes cells).sum) ∧
    (∀ function seen rest, cells = seen ++ rest → InRange ((fresh function type).feed seen)) ∧
    (∀ cells', cells'.Perm cells →
      valueOf .count type cells' = valueOf .count type cells ∧
      valueOf .sum .integer cells' = valueOf .sum .integer cells) ∧
    ∀ xs ys, cells = xs ++ ys →
      (∃ m n, valueOf .count type xs = Decimal.ofNat m ∧
        valueOf .count type ys = Decimal.ofNat n ∧
        valueOf .count type cells = Decimal.ofNat (m + n)) ∧
      (wholes xs ≠ [] → wholes ys ≠ [] →
        ∃ m n, valueOf .sum .integer xs = Decimal.ofInt m ∧
          valueOf .sum .integer ys = Decimal.ofInt n ∧
          valueOf .sum .integer cells = Decimal.ofInt (m + n)) := by
  refine ⟨⟨valueOf_count .., valueOf_sum ..⟩, ?range, ?perm, ?cut⟩
  case range =>
    rintro function seen rest rfl
    rw [List.length_append] at hl
    exact (bounded_feed function type seen).inRange (by omega)
  case perm =>
    intro cells' hp
    rw [valueOf_count, valueOf_count, hp.countP_eq]
    exact ⟨rfl, valueOf_sum_perm hp⟩
  case cut =>
    rintro xs ys rfl
    exact ⟨valueOf_count_append .., valueOf_sum_append⟩

-- The first two numbers add up to more than fits 64 bits, and one cell is no number.
def largeCells : List Text :=
  [Decimal.ofInt (2 ^ 63 - 1), " 99 ".toList, " ".toList, "x".toList, Decimal.ofInt (-(2 ^ 63))]

theorem totals_exact_largeCells :
    largeCells.length < 2 ^ 64 ∧
    valueOf .count .integer largeCells = "4".toList ∧
    valueOf .sum .integer largeCells = "98".toList ∧
    InRange ((fresh .sum .integer).feed (largeCells.take 2)) ∧
    valueOf .sum .integer largeCells.reverse = "98".toList ∧
    ∃ m n, valueOf .sum .integer (largeCells.take 2) = Decimal.ofInt m ∧
      valueOf .sum .integer (largeCells.drop 2) = Decimal.ofInt n ∧
      "98".toList = Decimal.ofInt (m + n) := by
  have hl : largeCells.length < 2 ^ 64 := by decide
  have hw : wholes largeCells = [2 ^ 63 - 1, 99, -(2 ^ 63)] := by decide +kernel
  obtain ⟨⟨hc, hs⟩, hr, hp, hx⟩ := totals_exact .integer hl
  have hs : valueOf .sum .integer largeCells = "98".toList := by rw [hs, hw]; decide +kernel
  have hcut := (hx (largeCells.take 2) (largeCells.drop 2) rfl).right (by decide +kernel)
    (by decide +kernel)
  rw [hs] at hcut
  exact ⟨hl, hc.trans (by decide +kernel), hs, hr .sum _ _ (List.take_append_drop 2 _).symm,
    (hp _ (List.reverse_perm _)).right.trans hs, hcut⟩

end Accumulator
end FlatQuery
