import FlatQuery.Proofs.Engine.OrderedGroups
import FlatQuery.Proofs.Engine.Totals
import Mathlib.Data.List.Pairwise

namespace FlatQuery

section SumOrder

variable {descending : Bool} {m n : Option Int}

-- Sums in a direction, and what is no sum behind them.
def sumOrder (descending : Bool) : Option Int → Option Int → Ordering
  | some m, some n => if descending then compare n m else compare m n
  | some _, none => .lt
  | none, some _ => .gt
  | none, none => .eq

theorem swap_compare (m n : Int) : (compare m n).swap = compare n m :=
  Std.OrientedOrd.eq_swap.symm

instance : Std.TransCmp (sumOrder descending) where
  eq_swap {a b} := by
    cases a <;> cases b <;> cases descending <;> simp [sumOrder, swap_compare]
  isLE_trans {a b c} h h' := by
    cases a <;> cases b <;> cases c <;> cases descending <;>
      simp [sumOrder, Std.isLE_compare] at h h' ⊢ <;> omega

theorem sumOrder_eq_eq_iff : sumOrder descending m n = .eq ↔ m = n := by
  cases m <;> cases n <;> cases descending <;> simp [sumOrder]
  exact eq_comm

theorem directedOrder_integer (a b : Text) :
    ColumnType.integer.directedOrder descending a b =
      sumOrder descending (Decimal.readInt64? a.trim) (Decimal.readInt64? b.trim) := by
  cases ha : Decimal.readInt64? a.trim <;> cases hb : Decimal.readInt64? b.trim <;>
    cases descending <;>
    simp [ColumnType.directedOrder, ColumnType.sortOrder, ColumnType.isComparable,
      ColumnType.read?, ColumnType.isTextual, CellValue.compare?, sumOrder, swap_compare, ha, hb]

-- What a sort reads back of a sum.
def reread (n : Option Int) : Option Int :=
  n.filter Decimal.fits64

theorem readInt64?_sumText (n : Option Int) :
    Decimal.readInt64? (Accumulator.sumText n).trim = reread n := by
  cases n
  case none => rfl
  case some n =>
    simp [reread, Accumulator.sumText, Decimal.trim_ofInt, Decimal.readInt64?_ofInt]

theorem reread_of_isSome (h : (reread n).isSome) : reread n = n := by
  cases n
  case none => rfl
  case some n => simp [reread, Option.filter] at h ⊢; exact h

theorem reread_of_all (h : n.all Decimal.fits64) : reread n = n := by
  cases n
  case none => rfl
  case some n => simpa [reread, Option.filter] using h

theorem sumOrder_reread_of_unlike (hm : (reread m).isSome) (hn : reread n = none) :
    sumOrder descending (reread n) (reread m) = .gt := by
  obtain ⟨m, hm⟩ := Option.isSome_iff_exists.mp hm
  simp [hm, hn, sumOrder]

section Reread

variable {f : α → Option Int} {xs : List α}

theorem transCmp_sumOrder (descending : Bool) (g : α → Option Int) :
    Std.TransCmp fun a b => sumOrder descending (g a) (g b) :=
  have ht : Std.TransCmp (sumOrder descending) := inferInstance
  { eq_swap := ht.eq_swap, isLE_trans := ht.isLE_trans }

theorem related_of_pairwise {r : α → α → Prop} (h : xs.Pairwise r) (ha : a ∈ xs) (hb : b ∈ xs)
    (hn : a ≠ b) : r a b ∨ r b a := by
  have hs : Std.Symm fun a b => r a b ∨ r b a := ⟨fun _ _ => Or.symm⟩
  exact (h.imp Or.inl : xs.Pairwise fun a b => r a b ∨ r b a).forall ha hb hn

-- Things in the order of the sums that can be read back. Ties of the exact sums are ties of these.
def sortReread (descending : Bool) (f : α → Option Int) (xs : List α) : List α :=
  stableSort (fun a b => sumOrder descending (reread (f a)) (reread (f b))) xs

theorem filter_tied_sortReread (x : α) :
    (sortReread descending f xs).filter (fun a => sumOrder descending (f x) (f a) == .eq) =
      xs.filter (fun a => sumOrder descending (f x) (f a) == .eq) := by
  have := transCmp_sumOrder descending fun a => reread (f a)
  refine filter_stableSort fun a b ha hb => ?_
  rw [beq_iff_eq, sumOrder_eq_eq_iff] at ha hb
  rw [← ha, ← hb]
  exact sumOrder_eq_eq_iff.mpr rfl

theorem filter_unread_sortReread (descending : Bool) :
    (sortReread descending f xs).filter (fun a => (reread (f a)).isNone) =
      xs.filter fun a => (reread (f a)).isNone := by
  have := transCmp_sumOrder descending fun a => reread (f a)
  refine filter_stableSort fun a b ha hb => ?_
  rw [Option.isNone_iff_eq_none.mp ha, Option.isNone_iff_eq_none.mp hb]
  rfl

theorem pairwise_sortReread : (sortReread descending f xs).Pairwise fun a b =>
    sumOrder descending (reread (f a)) (reread (f b)) ≠ .gt := by
  have := transCmp_sumOrder descending fun a => reread (f a)
  exact pairwise_stableSort

theorem mem_sortReread : a ∈ sortReread descending f xs ↔ a ∈ xs :=
  (stableSort_perm ..).mem_iff

-- What is read back is sorted to the front, and so belongs there if all the sums are in order.
theorem ne_gt_of_ordered (ho : (sortReread descending f xs).Pairwise fun a b =>
      sumOrder descending (f a) (f b) ≠ .gt)
    (ha : a ∈ xs) (hb : b ∈ xs) (hs : (reread (f a)).isSome) (hn : (reread (f b)).isNone) :
    sumOrder descending (f a) (f b) ≠ .gt := by
  have hn := Option.isNone_iff_eq_none.mp hn
  have hw : sumOrder descending (reread (f b)) (reread (f a)) = .gt :=
    sumOrder_reread_of_unlike hs hn
  have hne : a ≠ b := by
    rintro rfl
    simp [hn] at hs
  obtain hab | hba := related_of_pairwise (pairwise_sortReread.and ho) (mem_sortReread.mpr ha)
    (mem_sortReread.mpr hb) hne
  case inl => exact hab.right
  case inr => exact absurd hw hba.left

-- The sums are in order if what is read back belongs before what is not, and the latter is in order
-- as it is found.
theorem isStableSort_sortReread_iff :
    IsStableSort (fun a b => sumOrder descending (f a) (f b)) xs (sortReread descending f xs) ↔
      (∀ a ∈ xs, ∀ b ∈ xs, (reread (f a)).isSome → (reread (f b)).isNone →
        sumOrder descending (f a) (f b) ≠ .gt) ∧
      (xs.filter fun a => (reread (f a)).isNone).Pairwise fun a b =>
        sumOrder descending (f a) (f b) ≠ .gt := by
  constructor
  case mp =>
    intro h
    refine ⟨fun a ha b hb => ne_gt_of_ordered h.ordered ha hb, ?unread⟩
    case unread =>
      rw [← filter_unread_sortReread descending]
      exact h.ordered.filter _
  case mpr =>
    rintro ⟨hb, hu⟩
    refine {
      perm := stableSort_perm .., ordered := ?ordered
      stable := fun x _ => filter_tied_sortReread x }
    rw [← filter_unread_sortReread descending, List.pairwise_filter] at hu
    -- Two sums are in order by what is read back, where both are read back; the other cases are those
    -- of the hypotheses.
    refine (pairwise_sortReread.and hu).imp_of_mem fun {a b} ha hbm ⟨hab, hu⟩ => ?_
    cases hra : reread (f a) <;> cases hrb : reread (f b)
    case none.none => exact hu (by simp [hra]) (by simp [hrb])
    case none.some =>
      exact absurd (sumOrder_reread_of_unlike (by simp [hrb]) hra) hab
    case some.none =>
      exact hb a (mem_sortReread.mp ha) b (mem_sortReread.mp hbm) (by simp [hra]) (by simp [hrb])
    case some.some =>
      rwa [reread_of_isSome (by simp [hra]), reread_of_isSome (by simp [hrb])] at hab

end Reread

end SumOrder

namespace Plan

variable {p : Plan} {s : Schema} {rows : List Row} {g c e : Text} {k : SortKey}

-- What the whole numbers of a column add up to in the rows of a key.
def groupSum (p : Plan) (s : Schema) (rows : List Row) (c : Text) (key : List Text) : Option Int :=
  Accumulator.wholeSum ((rows.filter (p.keyOf s · = key)).map (·.cellIn s c))

-- Plans that show a field of the groups and the sum of a column of whole numbers, sorted by the
-- sum.
structure SumsBy (p : Plan) (s : Schema) (g c e : Text) (k : SortKey) : Prop where
  groupBy    : p.groupBy = [g]
  projection : p.projection = .fields [g, e]
  sortKeys   : p.sortKeys = .ok [k]
  group      : g ∈ s.headers
  column     : c ∈ s.headers
  integer    : s.typeOf c = .integer
  entry      : AggregateCall.ofEntry? e = some ⟨.sum, c⟩
  key        : AggregateCall.ofEntry? k.field = some ⟨.sum, c⟩
  -- The header of the group field is not itself written like the sum.
  plain      : AggregateCall.ofEntry? g ≠ some ⟨.sum, c⟩

namespace SumsBy

theorem groupedEntries (h : p.SumsBy s g c e k) : p.groupedEntries = [g, e] := by
  simp [Plan.groupedEntries, h.projection]

theorem not_mem_groupBy (h : p.SumsBy s g c e k) (hf : AggregateCall.ofEntry? f = some ⟨.sum, c⟩) :
    f ∉ p.groupBy := by
  rw [h.groupBy, List.mem_singleton]
  rintro rfl
  exact h.plain hf

theorem sortable (h : p.SumsBy s g c e k) : p.Sortable s [k] where
  groups  := by simp [h.groupBy, h.group]
  entries := by
    intro entry hm
    rw [h.groupedEntries, List.mem_cons, List.mem_singleton] at hm
    obtain rfl | rfl := hm
    case inl => exact .inl (by simp [h.groupBy])
    case inr => exact .inr ⟨_, h.entry, h.column⟩
  reads   := h.sortKeys
  named   := by
    simp only [List.forall_mem_singleton, h.groupedEntries]
    exact .inr ⟨e, by simp, h.not_mem_groupBy h.entry, _, h.entry, h.key⟩

theorem clear (h : p.SumsBy s g c e k) : p.Clear k.field := by
  intro entry hm hn
  rw [h.groupedEntries, List.mem_cons, List.mem_singleton] at hm
  obtain rfl | rfl := hm
  case inr => exact .inr ⟨h.not_mem_groupBy h.entry, h.not_mem_groupBy h.key⟩
  case inl =>
    simp only [GroupColumn.isNamed, Bool.or_eq_true, beq_iff_eq, Bool.and_eq_true, h.key] at hn
    exact .inl (hn.resolve_right fun hc => h.plain hc.right)

theorem groupCell_group (h : p.SumsBy s g c e k) (key : List Text) :
    p.groupCell s rows key g = key.getD 0 [] := by
  simp [groupCell, h.groupBy, List.findIdx?_cons]

theorem groupCell_sum (h : p.SumsBy s g c e k) (hf : AggregateCall.ofEntry? f = some ⟨.sum, c⟩)
    (key : List Text) :
    p.groupCell s rows key f = Accumulator.sumText (p.groupSum s rows c key) := by
  simp [groupCell, groupSum, findIdx?_eq_none_iff.mpr (h.not_mem_groupBy hf), hf, h.integer,
    Accumulator.finish_sum]

theorem groupType_sum (h : p.SumsBy s g c e k) : p.groupType s k.field = .integer := by
  simp [groupType, h.not_mem_groupBy h.key, h.key, h.integer, Accumulator.outputType,
    Accumulator.fresh]

theorem groupOrder_eq (h : p.SumsBy s g c e k) :
    p.groupOrder s rows [k] = fun a b => sumOrder k.descending
      (reread (p.groupSum s rows c a)) (reread (p.groupSum s rows c b)) := by
  funext a b
  simp [groupOrder, firstDecided, h.groupType_sum, h.groupCell_sum h.key, directedOrder_integer,
    readInt64?_sumText]

theorem executeGrouped_eq (h : p.SumsBy s g c e k) :
    executeGrouped p s rows = .ok ⟨[g, e],
      (sortReread k.descending (p.groupSum s rows c) (p.groupKeys s rows)).map fun key =>
        [key.getD 0 [], Accumulator.sumText (p.groupSum s rows c key)]⟩ := by
  obtain ⟨positions, columns, hp, hc⟩ := h.sortable.exists_columns
  have hs : p.shows k.field := h.sortable.shows_of_not_mem (.head _) (h.not_mem_groupBy h.key)
  rw [executeGrouped_of_shown _ hp hc h.sortKeys (by simpa using hs) (by simpa using h.clear),
    h.groupOrder_eq]
  simp [h.groupedEntries, h.groupCell_group, h.groupCell_sum h.entry, sortReread]

end SumsBy

-- A sum that does not fit 64 bits is shown as it is and sorted like one that is missing.
theorem executeGrouped_sums (h : p.SumsBy s g c e k) :
    let sum := p.groupSum s rows c
    let unread := (p.groupKeys s rows).filter fun key => (reread (sum key)).isNone
    ∃ sorted,
      executeGrouped p s rows = .ok ⟨[g, e],
        sorted.map fun key => [key.getD 0 [], Accumulator.sumText (sum key)]⟩ ∧
      IsStableSort (fun a b => sumOrder k.descending (reread (sum a)) (reread (sum b)))
        (p.groupKeys s rows) sorted ∧
      (IsStableSort (fun a b => sumOrder k.descending (sum a) (sum b)) (p.groupKeys s rows) sorted ↔
        (∀ a ∈ p.groupKeys s rows, ∀ b ∈ unread, (reread (sum a)).isSome →
          sumOrder k.descending (sum a) (sum b) ≠ .gt) ∧
        unread.Pairwise fun a b => sumOrder k.descending (sum a) (sum b) ≠ .gt) ∧
      ((∀ key ∈ p.groupKeys s rows, (sum key).all Decimal.fits64) →
        IsStableSort (fun a b => sumOrder k.descending (sum a) (sum b)) (p.groupKeys s rows)
          sorted) := by
  intro sum unread
  have hs : IsStableSort (fun a b => sumOrder k.descending (reread (sum a)) (reread (sum b)))
      (p.groupKeys s rows) (sortReread k.descending sum (p.groupKeys s rows)) := by
    have := transCmp_sumOrder k.descending fun a => reread (sum a)
    exact isStableSort_stableSort
  refine ⟨_, h.executeGrouped_eq, hs, ?exact, fun hf => ?fits⟩
  case exact =>
    rw [isStableSort_sortReread_iff]
    simp only [unread, List.mem_filter, and_imp]
    exact and_congr_left' ⟨fun hb a ha b hbm hn hs => hb a ha b hbm hs hn,
      fun hb a ha b hbm hs hn => hb a ha b hbm hn hs⟩
  case fits =>
    exact hs.congr fun a ha b hb => by rw [reread_of_all (hf a ha), reread_of_all (hf b hb)]

def teamsWithRuns : Plan :=
  { teamsByRuns with projection := .fields [['a'], "sum(b)".toList] }

theorem sumsBy_teamsWithRuns :
    teamsWithRuns.SumsBy teamSchema ['a'] ['b'] "sum(b)".toList runsDescending where
  groupBy    := rfl
  projection := rfl
  sortKeys   := by decide
  group      := by decide
  column     := by decide
  integer    := by decide
  entry      := by decide
  key        := by decide
  plain      := by decide

theorem executeGrouped_sums_teamsWithRuns :
    teamsWithRuns.SumsBy teamSchema ['a'] ['b'] "sum(b)".toList runsDescending ∧
    executeGrouped teamsWithRuns teamSchema threeTeams =
      .ok ⟨[['a'], "sum(b)".toList],
        [[['z'], ['5']], [['x'], ['3']], [['y'], []]]⟩ ∧
    ∃ sorted, sorted.map (fun key => [key.getD 0 [],
        Accumulator.sumText (teamsWithRuns.groupSum teamSchema threeTeams ['b'] key)]) =
        [[['z'], ['5']], [['x'], ['3']], [['y'], []]] ∧
      IsStableSort (fun a b => sumOrder true (teamsWithRuns.groupSum teamSchema threeTeams ['b'] a)
        (teamsWithRuns.groupSum teamSchema threeTeams ['b'] b)) [[['x']], [['y']], [['z']]]
        sorted := by
  have h : executeGrouped teamsWithRuns teamSchema threeTeams =
      .ok ⟨[['a'], "sum(b)".toList],
        [[['z'], ['5']], [['x'], ['3']], [['y'], []]]⟩ := by
    have hg : teamsWithRuns.groupKeys teamSchema threeTeams = [[['x']], [['y']], [['z']]] := by
      decide
    have ho : sortReread runsDescending.descending
        (teamsWithRuns.groupSum teamSchema threeTeams ['b']) [[['x']], [['y']], [['z']]] =
        [[['z']], [['x']], [['y']]] := by
      simp +decide [sortReread, stableSort, List.mergeSort, List.MergeSort.Internal.splitInTwo]
    rw [sumsBy_teamsWithRuns.executeGrouped_eq, hg, ho]
    decide
  obtain ⟨sorted, he, -, -, hs⟩ :=
    @executeGrouped_sums _ _ threeTeams _ _ _ _ sumsBy_teamsWithRuns
  rw [h] at he
  injection he with he
  injection he with _ he
  exact ⟨sumsBy_teamsWithRuns, h, sorted, he.symm, hs (by decide)⟩

-- The first team has more runs than fit 64 bits.
def manyRuns : List Row :=
  [[['x'], Decimal.ofInt (2 ^ 63 - 1)], [['x'], ['1']], [['y'], ['1']]]

theorem executeGrouped_misplaces_manyRuns :
    teamsWithRuns.SumsBy teamSchema ['a'] ['b'] "sum(b)".toList runsDescending ∧
    teamsWithRuns.groupSum teamSchema manyRuns ['b'] [['x']] = some (2 ^ 63) ∧
    teamsWithRuns.groupSum teamSchema manyRuns ['b'] [['y']] = some 1 ∧
    executeGrouped teamsWithRuns teamSchema manyRuns =
      .ok ⟨[['a'], "sum(b)".toList],
        [[['y'], ['1']], [['x'], Decimal.ofInt (2 ^ 63)]]⟩ := by
  have hx : teamsWithRuns.groupSum teamSchema manyRuns ['b'] [['x']] = some (2 ^ 63) := by
    decide +kernel
  have hy : teamsWithRuns.groupSum teamSchema manyRuns ['b'] [['y']] = some 1 := by decide +kernel
  have hg : teamsWithRuns.groupKeys teamSchema manyRuns = [[['x']], [['y']]] := by decide +kernel
  have ho : sortReread runsDescending.descending (teamsWithRuns.groupSum teamSchema manyRuns ['b'])
      [[['x']], [['y']]] = [[['y']], [['x']]] := by
    simp +decide [sortReread, stableSort, List.mergeSort, List.MergeSort.Internal.splitInTwo, hx,
      hy]
  refine ⟨sumsBy_teamsWithRuns, hx, hy, ?_⟩
  rw [sumsBy_teamsWithRuns.executeGrouped_eq, hg, ho]
  simp [hx, hy, Accumulator.sumText]
  decide

end Plan
end FlatQuery
