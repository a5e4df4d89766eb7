import FlatQuery.Engine.Ordering
import Mathlib.Order.Compare

namespace FlatQuery

section Ranks

theorem compare_natCast (m n : Nat) : compare (m : Int) (n : Int) = compare m n := by
  simp only [compare, compareOfLessAndEq, Int.ofNat_lt, Int.ofNat_inj]

theorem Text.order_eq (a b : Text) :
    a.order b = compare (a.map fun c => (c.toNat : Int)) (b.map fun c => (c.toNat : Int)) := by
  fun_induction Text.order a b
  case case4 hi => simp [List.compare_cons_cons, compare_natCast, hi]
  all_goals rfl

-- The infinities lie beyond all finite numbers; `nan` lies nowhere.
def Binary64.rank : Binary64 → List Int
  | finite negative units => [0, signed negative units]
  | infinite negative => [if negative then -1 else 1]
  | nan => []

theorem Binary64.compare?_eq (hx : x ≠ nan) (hy : y ≠ nan) :
    compare? x y = some (compare x.rank y.rank) := by
  cases x <;> cases y <;> simp [compare?, rank] at hx hy ⊢
  case finite.infinite negative => cases negative <;> rfl
  case infinite.finite negative _ _ => cases negative <;> rfl
  case infinite.infinite negative negative' => cases negative <;> cases negative' <;> rfl

def Stamp.rank (s : Stamp) : List Int :=
  [s.date.year, s.date.month, s.date.day, s.second, s.nano]

theorem Stamp.order_eq (s t : Stamp) : s.order t = compare s.rank t.rank := by
  simp [order, Date.order, rank, List.compare_cons_cons, compare_natCast, Ordering.then_assoc]

-- Away from `nan` the order of cells is that of their ranks, whole numbers that are compared place by
-- place.
def CellValue.rank : CellValue → List Int
  | integer n => [n]
  | float x => x.rank
  | dateTime s => s.rank

end Ranks

namespace ColumnType

variable {type : ColumnType} {a b : Text}

-- Two values of one type compare as their ranks do.
theorem compare?_of_read (hl : type.read? a = some l) (hr : type.read? b = some r)
    (hln : l ≠ .float .nan) (hrn : r ≠ .float .nan) :
    l.compare? r = some (compare l.rank r.rank) := by
  cases type <;> simp only [read?, Option.map_eq_some_iff, reduceCtorEq] at hl hr
  case integer =>
    obtain ⟨m, -, rfl⟩ := hl
    obtain ⟨n, -, rfl⟩ := hr
    simp [CellValue.compare?, CellValue.rank]
  case float =>
    obtain ⟨x, -, rfl⟩ := hl
    obtain ⟨y, -, rfl⟩ := hr
    exact Binary64.compare?_eq (by simpa using hln) (by simpa using hrn)
  case dateTime =>
    obtain ⟨s, -, rfl⟩ := hl
    obtain ⟨t, -, rfl⟩ := hr
    exact congrArg some (Stamp.order_eq s t)

-- Cells that are neither values nor texts are all alike.
def rank (type : ColumnType) (cell : Text) : List Int :=
  match type.read? cell with
  | some v => v.rank
  | none => if type.isTextual then (foldText cell).map fun c => (c.toNat : Int) else []

def isNan (type : ColumnType) (cell : Text) : Bool :=
  type.read? cell == some (.float .nan)

theorem isSome_read_of_isComparable (h : type.isComparable a = type.isComparable b) :
    (type.read? a).isSome = (type.read? b).isSome := by
  cases type
  case string | empty => rfl
  all_goals exact h

theorem sortOrder_eq (ha : type.read? a ≠ some (.float .nan)) (hb : type.read? b ≠ some (.float .nan))
    (h : (type.read? a).isSome = (type.read? b).isSome) :
    type.sortOrder a b = compare (type.rank a) (type.rank b) := by
  cases hl : type.read? a <;> cases hr : type.read? b <;> simp [hl, hr] at ha hb h
  case none.none =>
    simp only [sortOrder, rank, hl, hr]
    split
    case isTrue => exact Text.order_eq ..
    case isFalse => rfl
  case some.some => simp [sortOrder, rank, hl, hr, compare?_of_read hl hr ha hb]

-- What can be read comes before what cannot.
theorem sortOrder_of_unlike (ha : type.isComparable a) (hb : type.isComparable b = false) :
    type.sortOrder a b = .lt ∧ type.sortOrder b a = .gt := by
  cases type
  case string | empty => contradiction
  all_goals
    obtain ⟨l, hl⟩ := Option.isSome_iff_exists.mp ha
    have hr := Option.not_isSome_iff_eq_none.mp (Bool.eq_false_iff.mp hb)
    simp [sortOrder, hl, hr]

-- Only the ranks are turned round in descending order.
def rankOrder (type : ColumnType) (descending : Bool) (a b : Text) : Ordering :=
  (compare (!type.isComparable a) (!type.isComparable b)).then
    (if descending then compare (type.rank b) (type.rank a)
      else compare (type.rank a) (type.rank b))

theorem directedOrder_eq (ha : type.read? a ≠ some (.float .nan))
    (hb : type.read? b ≠ some (.float .nan)) :
    type.directedOrder descending a b = type.rankOrder descending a b := by
  by_cases h : type.isComparable a = type.isComparable b
  case pos =>
    have hs := sortOrder_eq ha hb (isSome_read_of_isComparable h)
    have hw : (compare (type.rank a) (type.rank b)).swap = compare (type.rank b) (type.rank a) :=
      Std.OrientedOrd.eq_swap.symm
    cases descending <;> simp [directedOrder, rankOrder, h, hs, hw]
  case neg =>
    cases hl : type.isComparable a <;> cases hr : type.isComparable b <;> simp [hl, hr] at h
    case false.true =>
      have hc : compare true false = .gt := rfl
      simp [directedOrder, rankOrder, hl, hr, hc, (sortOrder_of_unlike hr hl).right]
    case true.false =>
      have hc : compare false true = .lt := rfl
      simp [directedOrder, rankOrder, hl, hr, hc, (sortOrder_of_unlike hl hr).left]

theorem directedOrder_of_unlike (ha : type.isComparable a) (hb : type.isComparable b = false) :
    type.directedOrder descending a b = .lt ∧ type.directedOrder descending b a = .gt := by
  simp [directedOrder, ha, hb, sortOrder_of_unlike ha hb]

instance : Std.TransCmp (type.rankOrder descending) := by
  cases descending
  case false =>
    exact inferInstanceAs (Std.TransCmp
      (compareLex (compareOn fun cell => !type.isComparable cell) (compareOn type.rank)))
  case true =>
    exact inferInstanceAs (Std.TransCmp
      (compareLex (compareOn fun cell => !type.isComparable cell)
        fun a b => compareOn type.rank b a))

end ColumnType

section FirstDecided

variable {verdicts : List Ordering}

theorem firstDecided_cons : firstDecided (v :: verdicts) = v.then (firstDecided verdicts) :=
  rfl

theorem firstDecided_eq_eq_iff : firstDecided verdicts = .eq ↔ ∀ v ∈ verdicts, v = .eq := by
  induction verdicts
  case nil => simp [firstDecided]
  case cons v verdicts hi => simp [firstDecided_cons, Ordering.then_eq_eq, hi]

theorem firstDecided_append_of_tied (h : ∀ v ∈ verdicts, v = .eq) :
    firstDecided (verdicts ++ verdicts') = firstDecided verdicts' := by
  induction verdicts
  case nil => rfl
  case cons v verdicts hi =>
    have ⟨hv, hvs⟩ := List.forall_mem_cons.mp h
    simp [firstDecided_cons, hv, hi hvs]

theorem transCmp_firstDecided {orders : List (α → α → Ordering)}
    (h : ∀ order ∈ orders, Std.TransCmp order) :
    Std.TransCmp fun a b => firstDecided (orders.map (· a b)) := by
  induction orders
  case nil => exact { eq_swap := rfl, isLE_trans := fun _ _ => rfl }
  case cons order orders hi =>
    have ⟨ho, hos⟩ := List.forall_mem_cons.mp h
    have := hi hos
    exact inferInstanceAs (Std.TransCmp
      (compareLex order fun a b => firstDecided (orders.map (· a b))))

-- Things are in a total preorder by the ranks of the cells that they show.
theorem transCmp_rankedCells (types : κ → ColumnType) (descending : κ → Bool) (cell : κ → α → Text)
    (keys : List κ) :
    Std.TransCmp fun a b =>
      firstDecided (keys.map fun k => (types k).rankOrder (descending k) (cell k a) (cell k b)) := by
  have ht : Std.TransCmp fun a b => firstDecided ((keys.map fun k a b =>
      (types k).rankOrder (descending k) (cell k a) (cell k b)).map (· a b)) := by
    refine transCmp_firstDecided fun order ho => ?_
    obtain ⟨k, -, rfl⟩ := List.mem_map.mp ho
    have hk : Std.TransCmp ((types k).rankOrder (descending k)) := inferInstance
    exact { eq_swap := hk.eq_swap, isLE_trans := hk.isLE_trans }
  simpa only [List.map_map, Function.comp_def] using ht

end FirstDecided

end FlatQuery
