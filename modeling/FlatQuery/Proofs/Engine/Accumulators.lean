import FlatQuery.Engine.Accumulator
import FlatQuery.Proofs.Text.Words
import Mathlib.Data.List.Induction

namespace FlatQuery
namespace Accumulator

variable {a b : Accumulator} {cells : List Text} {cell : Text}

theorem feed_append (a : Accumulator) (xs ys : List Text) :
    a.feed (xs ++ ys) = (a.feed xs).feed ys :=
  List.foldl_append

theorem feed_nil (a : Accumulator) : a.feed [] = a :=
  rfl

theorem feed_cons (a : Accumulator) (x : Text) (xs : List Text) :
    a.feed (x :: xs) = (a.update x).feed xs :=
  rfl

-- What holds of no cells and is kept by one more cell holds of every run.
@[elab_as_elim]
theorem feed_induction {motive : List Text → Accumulator → Prop} (start : motive [] a)
    (step : ∀ seen cell, motive seen (a.feed seen) →
      motive (seen ++ [cell]) ((a.feed seen).update cell)) (cells : List Text) :
    motive cells (a.feed cells) := by
  induction cells using List.reverseRecOn
  case nil => exact start
  case append_singleton seen cell hi =>
    rw [feed_append]
    exact step seen cell hi

-- All that a cell can do: blank cells do nothing, and any other cell is counted.
inductive Absorbs (a : Accumulator) (cell : Text) : Accumulator → Prop
  | blank (h : cell.allBlank) : Absorbs a cell a
  | other (h : cell.allBlank = false) : Absorbs a cell { a with count := a.count + 1 }
  | integer (h : cell.allBlank = false) (hr : Decimal.readInt64? cell.trim = some n) :
      Absorbs a cell { a with
        count := a.count + 1
        numeric := a.numeric + 1
        integerSum := a.integerSum + n
        floatSum := a.floatSum.add (.ofInt n) }
  | float (h : cell.allBlank = false) (hr : Binary64.read? cell.trim = some x) :
      Absorbs a cell { a with
        count := a.count + 1
        numeric := a.numeric + 1
        floatSum := a.floatSum.add x }
  | extreme (h : cell.allBlank = false) (hc : a.type.isComparable cell.trim) :
      Absorbs a cell { a with count := a.count + 1, best := some cell.trim }

theorem absorbs_addNumber (h : cell.allBlank = false) :
    Absorbs a cell (addNumber { a with count := a.count + 1 } cell.trim) := by
  unfold addNumber
  split
  case isTrue =>
    split
    case h_1 n hr => exact .integer h hr
    case h_2 => exact .other h
  case isFalse =>
    split
    case h_1 x hx => exact .float h (Option.filter_eq_some_iff.mp hx).left
    case h_2 => exact .other h

theorem absorbs_keepExtreme (h : cell.allBlank = false) (wanted : Ordering) :
    Absorbs a cell (keepExtreme { a with count := a.count + 1 } wanted cell.trim) := by
  unfold keepExtreme
  split
  case isTrue hc => exact .extreme h (Bool.and_eq_true_iff.mp hc).left
  case isFalse => exact .other h

theorem update_of_blank (h : cell.allBlank) : a.update cell = a := by
  simp [update, Text.trim_eq_nil_iff.mpr h]

theorem absorbs_update (a : Accumulator) (cell : Text) : Absorbs a cell (a.update cell) := by
  cases hb : cell.allBlank
  case true =>
    rw [update_of_blank hb]
    exact .blank hb
  case false =>
    have ht : cell.trim ≠ [] := Text.trim_ne_nil_iff.mpr hb
    simp only [update, List.isEmpty_iff, if_neg ht]
    split
    case h_1 => exact .other hb
    case h_2 | h_3 => exact absorbs_addNumber hb
    case h_4 | h_5 => exact absorbs_keepExtreme hb _

theorem Absorbs.eq (h : Absorbs a cell b) : b.function = a.function ∧ b.type = a.type := by
  cases h <;> exact ⟨rfl, rfl⟩

-- Every function counts, also those that do not show it.
theorem Absorbs.count (h : Absorbs a cell b) :
    b.count = a.count + if cell.allBlank then 0 else 1 := by
  cases h <;> simp [*]

theorem update_eq (a : Accumulator) (cell : Text) :
    (a.update cell).function = a.function ∧ (a.update cell).type = a.type :=
  (absorbs_update a cell).eq

theorem feed_eq (a : Accumulator) (cells : List Text) :
    (a.feed cells).function = a.function ∧ (a.feed cells).type = a.type := by
  refine feed_induction ⟨rfl, rfl⟩ (fun seen cell hi => ?_) cells
  have ⟨hf, ht⟩ := update_eq (a.feed seen) cell
  exact ⟨hf.trans hi.left, ht.trans hi.right⟩

theorem outputType_feed : (a.feed cells).outputType = a.outputType := by
  have ⟨hf, ht⟩ := feed_eq a cells
  simp [outputType, hf, ht]

theorem feed_count (a : Accumulator) (cells : List Text) :
    (a.feed cells).count = a.count + cells.countP (!·.allBlank) := by
  refine feed_induction rfl (fun seen cell hi => ?_) cells
  rw [(absorbs_update _ cell).count, hi, List.countP_append, List.countP_singleton]
  cases cell.allBlank <;> rfl

-- What an aggregate shows for the cells of a column.
def valueOf (function : AggregateFunction) (type : ColumnType) (cells : List Text) : Text :=
  ((fresh function type).feed cells).finish

end Accumulator
end FlatQuery
