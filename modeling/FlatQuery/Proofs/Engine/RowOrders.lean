import FlatQuery.Engine.Execution
import FlatQuery.Proofs.Table.CellOrder
import Mathlib.Data.List.GetD

namespace FlatQuery

section Preorders

-- What a sort asks of a comparison, on the things that it sorts.
structure IsTotalPreorderOn {α : Type u} (q : α → Prop) (order : α → α → Ordering) : Prop where
  swap     : ∀ a b, q a → q b → order b a = (order a b).swap
  le_trans : ∀ a b c, q a → q b → q c → (order a b).isLE → (order b c).isLE → (order a c).isLE
  eq_trans : ∀ a b c, q a → q b → q c → order a b = .eq → order b c = .eq → order a c = .eq

variable {α : Type u} {β : Type v} {q q' : α → Prop} {order order' : α → α → Ordering}

theorem isTotalPreorderOn_iff :
    IsTotalPreorderOn q order ↔ Std.TransCmp fun a b : {a // q a} => order a b := by
  constructor
  case mp =>
    intro h
    exact {
      eq_swap := fun {a b} => h.swap b a b.property a.property
      isLE_trans := fun {a b c} => h.le_trans a b c a.property b.property c.property }
  case mpr =>
    intro h
    refine { swap := ?swap, le_trans := ?le_trans, eq_trans := ?eq_trans }
    case swap => exact fun a b ha hb => h.eq_swap (a := ⟨b, hb⟩) (b := ⟨a, ha⟩)
    case le_trans =>
      exact fun a b c ha hb hc => h.isLE_trans (a := ⟨a, ha⟩) (b := ⟨b, hb⟩) (c := ⟨c, hc⟩)
    case eq_trans =>
      exact fun a b c ha hb hc => @Std.TransCmp.eq_trans _ _ h ⟨a, ha⟩ ⟨b, hb⟩ ⟨c, hc⟩

theorem IsTotalPreorderOn.comap (h : IsTotalPreorderOn q order) (f : β → α) :
    IsTotalPreorderOn (fun x => q (f x)) fun x y => order (f x) (f y) where
  swap _ _       := h.swap _ _
  le_trans _ _ _ := h.le_trans _ _ _
  eq_trans _ _ _ := h.eq_trans _ _ _

theorem IsTotalPreorderOn.mono (h : IsTotalPreorderOn q order) (hq : ∀ a, q' a → q a) :
    IsTotalPreorderOn q' order where
  swap a b ha hb          := h.swap a b (hq a ha) (hq b hb)
  le_trans a b c ha hb hc := h.le_trans a b c (hq a ha) (hq b hb) (hq c hc)
  eq_trans a b c ha hb hc := h.eq_trans a b c (hq a ha) (hq b hb) (hq c hc)

theorem IsTotalPreorderOn.congr (h : IsTotalPreorderOn q order)
    (ho : ∀ a b, q a → q b → order' a b = order a b) : IsTotalPreorderOn q order' where
  swap a b ha hb          := by rw [ho a b ha hb, ho b a hb ha, h.swap a b ha hb]
  le_trans a b c ha hb hc := by
    rw [ho a b ha hb, ho b c hb hc, ho a c ha hc]
    exact h.le_trans a b c ha hb hc
  eq_trans a b c ha hb hc := by
    rw [ho a b ha hb, ho b c hb hc, ho a c ha hc]
    exact h.eq_trans a b c ha hb hc

-- A later comparison counts only where all in front of it are tied.
theorem isTotalPreorderOn_firstDecided {orders : List (α → α → Ordering)}
    (h : ∀ order ∈ orders, IsTotalPreorderOn q order) :
    IsTotalPreorderOn q fun a b => firstDecided (orders.map (· a b)) := by
  have ht : Std.TransCmp fun a b : {a // q a} => firstDecided
      ((orders.map fun order (a b : {a // q a}) => order a b).map (· a b)) := by
    refine transCmp_firstDecided fun order ho => ?_
    obtain ⟨order', ho', rfl⟩ := List.mem_map.mp ho
    exact isTotalPreorderOn_iff.mp (h order' ho')
  rw [isTotalPreorderOn_iff]
  simpa only [List.map_map, Function.comp_def] using ht

end Preorders

theorem ColumnType.isTotalPreorderOn_directedOrder (type : ColumnType) (descending : Bool) :
    IsTotalPreorderOn (fun cell => ¬type.isNan cell) (type.directedOrder descending) := by
  have hr : IsTotalPreorderOn (fun cell => ¬type.isNan cell) (type.rankOrder descending) := by
    have ht : Std.TransCmp (type.rankOrder descending) := inferInstance
    exact isTotalPreorderOn_iff.mpr { eq_swap := ht.eq_swap, isLE_trans := ht.isLE_trans }
  refine hr.congr fun a b ha hb => directedOrder_eq ?_ ?_
  · simpa [isNan] using ha
  · simpa [isNan] using hb

section Rows

def BoundSortKey.isNan (k : BoundSortKey) (r : Row) : Bool :=
  k.type.isNan (r.cellAt k.position)

theorem BoundSortKey.isTotalPreorderOn_order (k : BoundSortKey) :
    IsTotalPreorderOn (fun r => ¬k.isNan r) k.order :=
  have h := (k.type.isTotalPreorderOn_directedOrder k.descending).comap
    fun r : Row => r.cellAt k.position
  h

theorem isTotalPreorderOn_orderRows (keys : List BoundSortKey) :
    IsTotalPreorderOn (fun r => ∀ k ∈ keys, ¬k.isNan r) (orderRows keys) := by
  have h : IsTotalPreorderOn (fun r : Row => ∀ k ∈ keys, ¬k.isNan r)
      fun a b => firstDecided ((keys.map BoundSortKey.order).map (· a b)) := by
    refine isTotalPreorderOn_firstDecided fun order ho => ?_
    obtain ⟨k, hk, rfl⟩ := List.mem_map.mp ho
    exact k.isTotalPreorderOn_order.mono fun r hr => hr k hk
  simp only [List.map_map, Function.comp_def] at h
  exact h

-- The rows of a grouped query with these types, without `nan` under a key.
structure HasTypes (types : List ColumnType) (keys : List (Nat × Bool))
    (outputs : List (Text × ColumnType)) : Prop where
  typed : outputs.map (·.2) = types
  noNan : ∀ key ∈ keys, ¬(types.getD key.1 .empty).isNan (outputs.getD key.1 ([], .empty)).1

theorem HasTypes.type_eq (h : HasTypes types keys outputs) (i : Nat) :
    (outputs.getD i ([], .empty)).2 = types.getD i .empty := by
  rw [← h.typed]
  exact (List.getD_map outputs ([], .empty) fun x : Text × ColumnType => x.2).symm

-- The types of a row are those of all of them, so it does not matter which row is asked.
theorem isTotalPreorderOn_orderOutputs (types : List ColumnType) (keys : List (Nat × Bool)) :
    IsTotalPreorderOn (HasTypes types keys) (orderOutputs keys) := by
  have h : IsTotalPreorderOn (HasTypes types keys) fun a b => firstDecided ((keys.map fun key =>
      fun a b : List (Text × ColumnType) => (types.getD key.1 .empty).directedOrder key.2
        (a.getD key.1 ([], .empty)).1 (b.getD key.1 ([], .empty)).1).map (· a b)) := by
    refine isTotalPreorderOn_firstDecided fun order ho => ?_
    obtain ⟨key, hk, rfl⟩ := List.mem_map.mp ho
    have hc := (ColumnType.isTotalPreorderOn_directedOrder (types.getD key.1 .empty) key.2).comap
      fun outputs : List (Text × ColumnType) => (outputs.getD key.1 ([], .empty)).1
    exact hc.mono fun outputs ho => ho.noNan key hk
  refine h.congr fun a b ha _ => ?_
  simp only [orderOutputs, List.map_map, Function.comp_def, ha.type_eq]

end Rows

namespace ColumnType

-- A cell that can be read never sorts behind one that cannot, and no chain of comparisons bites its
-- own tail, whatever the keys.
theorem directedOrder_isTotalPreorder (type : ColumnType) (descending : Bool) :
    IsTotalPreorderOn (fun cell => ¬type.isNan cell) (type.directedOrder descending) ∧
    (∀ a b, type.isComparable a → type.isComparable b = false →
      type.directedOrder descending a b = .lt ∧ type.directedOrder descending b a = .gt) ∧
    (∀ keys, IsTotalPreorderOn (fun r => ∀ k ∈ keys, ¬k.isNan r) (orderRows keys)) ∧
    ∀ types keys, IsTotalPreorderOn (HasTypes types keys) (orderOutputs keys) :=
  ⟨type.isTotalPreorderOn_directedOrder descending, fun _ _ => directedOrder_of_unlike,
    isTotalPreorderOn_orderRows, isTotalPreorderOn_orderOutputs⟩

-- The oldest first, and people of one age by name.
def byAgeAndName : List BoundSortKey :=
  [⟨0, .integer, true⟩, ⟨1, .string, false⟩]

def people : List Row :=
  [["41".toList, "eva".toList], ["41".toList, "Ida".toList], ["?".toList, "ada".toList]]

theorem directedOrder_isTotalPreorder_people :
    integer.isComparable "41".toList ∧ integer.isComparable "?".toList = false ∧
    integer.directedOrder true "41".toList "?".toList = .lt ∧
    integer.directedOrder true "?".toList "41".toList = .gt ∧
    (∀ r ∈ people, ∀ k ∈ byAgeAndName, ¬k.isNan r) ∧
    (orderRows byAgeAndName people[0] people[2]).isLE ∧
    HasTypes [.string, .integer] [(1, true)] [("eva".toList, .string), ("3".toList, .integer)] ∧
    orderOutputs [(1, true)] [("Ida".toList, .string), ("7".toList, .integer)]
      [("eva".toList, .string), ("3".toList, .integer)] =
        (orderOutputs [(1, true)] [("eva".toList, .string), ("3".toList, .integer)]
          [("Ida".toList, .string), ("7".toList, .integer)]).swap := by
  have hc : integer.isComparable "41".toList := by decide
  have hu : integer.isComparable "?".toList = false := by decide
  have hn : ∀ r ∈ people, ∀ k ∈ byAgeAndName, ¬k.isNan r := by decide
  have ht : HasTypes [.string, .integer] [(1, true)] [("eva".toList, .string), ("3".toList, .integer)] :=
    ⟨rfl, by decide⟩
  have ht' : HasTypes [.string, .integer] [(1, true)] [("Ida".toList, .string), ("7".toList, .integer)] :=
    ⟨rfl, by decide⟩
  obtain ⟨-, hs, hr, ho⟩ := directedOrder_isTotalPreorder integer true
  have ⟨hl, hg⟩ := hs _ _ hc hu
  have hle := (hr byAgeAndName).le_trans people[0] people[1] people[2] (hn _ (by decide))
    (hn _ (by decide)) (hn _ (by decide)) (by decide) (by decide)
  exact ⟨hc, hu, hl, hg, hn, hle, ht, (ho _ _).swap _ _ ht ht'⟩

-- With `nan` the order has no chains: it is tied with 1 and with 2.
example :
    float.directedOrder false "1".toList "nan".toList = .eq ∧
    float.directedOrder false "nan".toList "2".toList = .eq ∧
    float.directedOrder false "1".toList "2".toList = .lt := by
  decide +kernel

end ColumnType
end FlatQuery
