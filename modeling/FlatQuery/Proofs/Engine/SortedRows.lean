import FlatQuery.Proofs.Engine.PlainRows
import FlatQuery.Proofs.Table.CellOrder

namespace FlatQuery

section StableSort

variable {order order' : α → α → Ordering} {xs : List α}

theorem stableSort_congr (h : ∀ a ∈ xs, ∀ b ∈ xs, order a b = order' a b) :
    stableSort order xs = stableSort order' xs := by
  have hm : (xs.mergeSort fun a b => order a b != .gt).map id =
      (xs.map id).mergeSort fun a b => order' a b != .gt :=
    List.map_mergeSort fun a ha b hb => by simp [h a ha b hb]
  simpa [stableSort] using hm

variable [Std.TransCmp order]

theorem not_gt_trans (a b c : α) (hab : order a b != .gt) (hbc : order b c != .gt) :
    order a c != .gt := by
  simp only [bne_iff_ne, ne_eq, Ordering.ne_gt_iff_isLE] at *
  exact Std.TransCmp.isLE_trans hab hbc

theorem not_gt_total (a b : α) : (order a b != .gt || order b a != .gt) := by
  have hs : order b a = (order a b).swap := Std.OrientedCmp.eq_swap
  rw [hs]
  cases order a b <;> rfl

theorem pairwise_stableSort : (stableSort order xs).Pairwise fun a b => order a b ≠ .gt :=
  (List.pairwise_mergeSort not_gt_trans not_gt_total xs).imp fun h => by simpa using h

-- Elements that are all tied with each other stay as they stand.
theorem filter_stableSort {q : α → Bool} (h : ∀ a b, q a → q b → order a b = .eq) :
    (stableSort order xs).filter q = xs.filter q := by
  have hp : (xs.filter q).Pairwise fun a b => order a b != .gt :=
    List.pairwise_of_forall_mem_list fun a ha b hb => by
      simp [h a b (List.mem_filter.mp ha).right (List.mem_filter.mp hb).right]
  have hs : (xs.filter q).Sublist (stableSort order xs) :=
    List.sublist_mergeSort not_gt_trans not_gt_total hp List.filter_sublist
  have hf : (xs.filter q).Sublist ((stableSort order xs).filter q) := by
    simpa [List.filter_filter] using hs.filter q
  exact (hf.eq_of_length ((stableSort_perm order xs).filter q).length_eq.symm).symm

omit [Std.TransCmp order] in
theorem stableSort_map {f : β → α} {ys : List β} :
    stableSort order (ys.map f) = (stableSort (fun a b => order (f a) (f b)) ys).map f := by
  symm
  exact List.map_mergeSort (f := f) fun _ _ _ _ => rfl

-- A list in the order of a comparison, in which tied elements stand as they stood.
structure IsStableSort (order : α → α → Ordering) (xs sorted : List α) : Prop where
  perm    : sorted.Perm xs
  ordered : sorted.Pairwise fun a b => order a b ≠ .gt
  stable  : ∀ x ∈ xs, sorted.filter (order x · == .eq) = xs.filter (order x · == .eq)

omit [Std.TransCmp order] in
theorem IsStableSort.congr (hs : IsStableSort order xs sorted)
    (h : ∀ a ∈ xs, ∀ b ∈ xs, order' a b = order a b) : IsStableSort order' xs sorted where
  perm    := hs.perm
  ordered := hs.ordered.imp_of_mem fun ha hb hab => by
    rwa [h _ (hs.perm.mem_iff.mp ha) _ (hs.perm.mem_iff.mp hb)]
  stable  := by
    intro x hx
    have ht : ∀ y ∈ xs, (order' x y == .eq) = (order x y == .eq) := fun y hy => by rw [h x hx y hy]
    rw [List.filter_congr ht, List.filter_congr fun y hy => ht y (hs.perm.mem_iff.mp hy)]
    exact hs.stable x hx

theorem isStableSort_stableSort : IsStableSort order xs (stableSort order xs) where
  perm    := stableSort_perm order xs
  ordered := pairwise_stableSort
  stable  := fun x _ => filter_stableSort fun a b ha hb => by
    simp only [beq_iff_eq] at ha hb
    exact Std.TransCmp.eq_trans (Std.OrientedCmp.eq_symm ha) hb

-- An order need not be transitive beyond the elements that are sorted by it.
theorem isStableSort_of_agrees (h : ∀ a ∈ xs, ∀ b ∈ xs, order' a b = order a b) :
    IsStableSort order' xs (stableSort order' xs) := by
  rw [stableSort_congr h]
  exact isStableSort_stableSort.congr h

end StableSort

namespace SortKey

variable {s : Schema} {k : SortKey} {keys : List SortKey} {rows : List Row}

-- The order of two rows by the cells of one column.
def order (s : Schema) (k : SortKey) (a b : Row) : Ordering :=
  (s.typeOf k.field).directedOrder k.descending (a.cellIn s k.field) (b.cellIn s k.field)

def isReadable (s : Schema) (k : SortKey) (r : Row) : Bool :=
  (s.typeOf k.field).isComparable (r.cellIn s k.field)

def isNan (s : Schema) (k : SortKey) (r : Row) : Bool :=
  (s.typeOf k.field).read? (r.cellIn s k.field) == some (.float .nan)

def rankOrder (s : Schema) (k : SortKey) (a b : Row) : Ordering :=
  (s.typeOf k.field).rankOrder k.descending (a.cellIn s k.field) (b.cellIn s k.field)

theorem order_eq_rankOrder (ha : ¬k.isNan s a) (hb : ¬k.isNan s b) :
    k.order s a b = k.rankOrder s a b :=
  ColumnType.directedOrder_eq (by simpa [isNan] using ha) (by simpa [isNan] using hb)

-- A later key counts only where all keys in front of it are tied.
def orderBy (s : Schema) (keys : List SortKey) (a b : Row) : Ordering :=
  firstDecided (keys.map (·.order s a b))

def isTied (s : Schema) (keys : List SortKey) (a b : Row) : Bool :=
  keys.all fun k => k.order s a b == .eq

theorem orderBy_eq_eq_iff : orderBy s keys a b = .eq ↔ isTied s keys a b := by
  simp [orderBy, firstDecided_eq_eq_iff, isTied]

theorem orderBy_append_of_tied {earlier : List SortKey} (h : isTied s earlier a b) :
    orderBy s (earlier ++ keys) a b = orderBy s keys a b := by
  rw [orderBy, List.map_append, firstDecided_append_of_tied, orderBy]
  simpa [isTied] using h

-- What a sort by the keys makes of the rows.
structure IsSort (s : Schema) (keys : List SortKey) (rows sorted : List Row) : Prop where
  perm    : sorted.Perm rows
  ordered : sorted.Pairwise fun a b => orderBy s keys a b ≠ .gt
  stable  : ∀ r ∈ rows, sorted.filter (isTied s keys r) = rows.filter (isTied s keys r)
  -- Whatever the direction of the key.
  unreadableLast : ∀ earlier k later, keys = earlier ++ k :: later →
    sorted.Pairwise fun a b => isTied s earlier a b → k.isReadable s b → k.isReadable s a

-- A key that can read only the second of two cells puts them the other way round.
theorem isReadable_of_orderBy (h : orderBy s (k :: keys) a b ≠ .gt) (hb : k.isReadable s b) :
    k.isReadable s a := by
  by_contra ha
  have ha : k.isReadable s a = false := Bool.eq_false_iff.mpr ha
  have ho : k.order s a b = .gt := (ColumnType.directedOrder_of_unlike hb ha).right
  exact h (by simp [orderBy, firstDecided_cons, ho])

def rankedBy (s : Schema) (keys : List SortKey) (a b : Row) : Ordering :=
  firstDecided (keys.map (·.rankOrder s a b))

instance : Std.TransCmp (rankedBy s keys) := by
  have ht := transCmp_rankedCells (fun k : SortKey => s.typeOf k.field) (·.descending)
    (fun k (r : Row) => r.cellIn s k.field) keys
  exact ht

theorem orderBy_eq_rankedBy (ha : ∀ k ∈ keys, ¬k.isNan s a) (hb : ∀ k ∈ keys, ¬k.isNan s b) :
    orderBy s keys a b = rankedBy s keys a b :=
  congrArg firstDecided (List.map_congr_left fun k hk => order_eq_rankOrder (ha k hk) (hb k hk))

-- Only on rows without `nan` the order is that of the ranks, so every claim is carried over there.
theorem isSort_stableSort (hn : ∀ k ∈ keys, ∀ r ∈ rows, ¬k.isNan s r) :
    IsSort s keys rows (stableSort (orderBy s keys) rows) := by
  have hr : ∀ a ∈ rows, ∀ b ∈ rows, orderBy s keys a b = rankedBy s keys a b := fun a ha b hb =>
    orderBy_eq_rankedBy (fun k hk => hn k hk a ha) fun k hk => hn k hk b hb
  have ⟨hp, ho, hs⟩ := isStableSort_of_agrees hr
  refine { perm := hp, ordered := ho, stable := ?stable, unreadableLast := ?unreadableLast }
  case stable =>
    have ht : isTied s keys = fun a b => orderBy s keys a b == .eq := by
      funext a b
      rw [Bool.eq_iff_iff, ← orderBy_eq_eq_iff, beq_iff_eq]
    exact ht ▸ hs
  case unreadableLast =>
    rintro earlier k later rfl
    refine ho.imp fun h ht hb => ?_
    rw [orderBy_append_of_tied ht] at h
    exact isReadable_of_orderBy h hb

theorem order_of_bind (h : BoundSortKey.bind s k = .ok b) : b.order = k.order s := by
  obtain ⟨position, hp, h⟩ := except_bind_eq_ok.mp h
  have hp := Plan.resolve_eq_ok hp
  injection h with h
  funext l r
  simp [← h, BoundSortKey.order, order, Row.cellIn, Schema.typeOf, hp]

theorem orderRows_of_bind {bs : List BoundSortKey} (h : keys.mapM (BoundSortKey.bind s) = .ok bs) :
    orderRows bs = orderBy s keys := by
  funext l r
  exact congrArg firstDecided (map_eq_of_mapM_eq_ok h fun k _ b hb => by rw [order_of_bind hb])

end SortKey

namespace Plan

variable {p : Plan} {s : Schema} {keys : List SortKey} {rows : List Row} {source : Source}
  {session : Session}

theorem resolvedSortKeys_of_sortKeys (h : p.sortKeys = .ok keys) : p.resolvedSortKeys = .ok keys := by
  simp [resolvedSortKeys, h, Except.mapError]

theorem executeWith_sorted (hg : p.groupBy = []) (ha : p.aggregates = []) (ho : p.orderBy ≠ [])
    (hf : Filter.bind p s = .ok f) : executeWith p s source = executeSorted p s f source := by
  simp [executeWith, hf, hg, ha, ho, bind, Except.bind]

-- Only the selected fields and those of the keys can be wrong.
theorem executeSorted_of_resolved {bs : List BoundSortKey} (hq : p.projected s = .ok q)
    (hk : p.sortKeys = .ok keys) (hb : keys.mapM (BoundSortKey.bind s) = .ok bs)
    (hr : source.rows p.source = .ok (rows.map .ok)) :
    executeSorted p s f source = .ok ⟨p.columns s,
      (stableSort (SortKey.orderBy s keys) (rows.filter f.admits)).map (p.project s)⟩ := by
  obtain ⟨names, positions⟩ := q
  obtain ⟨rfl, hp⟩ := project_of_projected hq
  simp [executeSorted, hq, resolvedSortKeys_of_sortKeys hk, hb, admittedRows_of_rows hr, hp,
    SortKey.orderRows_of_bind hb, bind, Except.bind, pure, Except.pure]

theorem resolved_of_executeSorted (hk : p.sortKeys = .ok keys)
    (h : executeSorted p s f source = .ok result) :
    s.missing? p.selectedFields = none ∧ (∃ q, p.projected s = .ok q) ∧
      ∃ bs, keys.mapM (BoundSortKey.bind s) = .ok bs := by
  simp only [executeSorted, resolvedSortKeys_of_sortKeys hk, except_bind_eq_ok] at h
  obtain ⟨q, hq, _, hk', bs, hb, -⟩ := h
  injection hk' with hk'
  subst hk'
  refine ⟨Option.eq_none_iff_forall_ne_some.mpr fun field hm => ?_, ⟨q, hq⟩, bs, hb⟩
  simp [projected_eq_error hm] at hq

-- A sorted query that runs shows the rows of the plain query in the order of its keys.
theorem executePlan_sorted (hg : p.groupBy = []) (ha : p.aggregates = []) (ho : p.orderBy ≠ [])
    (hs : (session.cache.get p.source source).1 = .ok s) (hk : p.sortKeys = .ok keys)
    (hr : source.rows p.source = .ok (rows.map .ok))
    (hn : ∀ k ∈ keys, ∀ r ∈ rows, ¬k.isNan s r) (h : (session.executePlan p source).1 = .ok result) :
    ∃ sorted, result = ⟨p.columns s, sorted.map (p.project s)⟩ ∧
      SortKey.IsSort s keys (rows.filter (p.admits s)) sorted ∧
      (session.executePlan { p with orderBy := [] } source).1 =
        .ok ⟨result.columns, (rows.filter (p.admits s)).map (p.project s)⟩ := by
  have hm : session.settings.mode.allows p.kind := by
    by_contra hm
    simp [Session.executePlan, hm] at h
  rw [executePlan_eq hm hs] at h
  cases hf : Filter.bind p s
  case error => simp [executeWith_eq_error hf] at h
  case ok f =>
    rw [executeWith_sorted hg ha ho hf] at h
    obtain ⟨hp, ⟨q, hq⟩, bs, hb⟩ := resolved_of_executeSorted hk h
    rw [executeSorted_of_resolved hq hk hb hr] at h
    injection h with h
    subst h
    rw [admits_of_bind hf]
    refine ⟨_, rfl, SortKey.isSort_stableSort fun k hk r hr => ?nan, ?plain⟩
    case nan => exact hn k hk r (List.mem_filter.mp hr).left
    case plain =>
      have he := executePlan_eq (p := { p with orderBy := [] }) hm hs
      exact he.trans (executeWith_of_rows hg ha rfl hf hp hr)

-- Of the rows one is too short for the column `b`, and two are equal under the only key.
def namesByRuns : Plan where
  rawText := []
  source := ['t']
  baseQuery := []
  projection := .fields [['a']]
  predicates := []
  connectives := []
  aggregates := []
  groupBy := []
  orderBy := ["b desc".toList]
  kind := .orderBy

def tiedRows : List Row :=
  [["x".toList, "1".toList], ["y".toList], ["z".toList, "2".toList], ["w".toList, " 1".toList]]

def tied : Source :=
  Tables.source [(['t'], ⟨teamSchema, tiedRows⟩)]

theorem executePlan_sorted_namesByRuns :
    (Session.executePlan {} namesByRuns tied).1 =
      .ok ⟨[['a']], [[['z']], [['x']], [['w']], [['y']]]⟩ ∧
    ∃ sorted, sorted.map (namesByRuns.project teamSchema) = [[['z']], [['x']], [['w']], [['y']]] ∧
      SortKey.IsSort teamSchema [⟨['b'], true⟩] (tiedRows.filter (namesByRuns.admits teamSchema))
        sorted := by
  have hs : (({} : Session).cache.get namesByRuns.source tied).1 = .ok teamSchema := rfl
  have hk : namesByRuns.sortKeys = .ok [⟨['b'], true⟩] := by decide
  have hr : tied.rows namesByRuns.source = .ok (tiedRows.map .ok) := rfl
  have hn : ∀ k ∈ [⟨['b'], true⟩], ∀ r ∈ tiedRows, ¬SortKey.isNan teamSchema k r := by decide
  have h : (Session.executePlan {} namesByRuns tied).1 =
      .ok ⟨[['a']], [[['z']], [['x']], [['w']], [['y']]]⟩ := by
    have hb : [⟨['b'], true⟩].mapM (BoundSortKey.bind teamSchema) = .ok [⟨1, .integer, true⟩] := by
      decide
    have ho : stableSort (SortKey.orderBy teamSchema [⟨['b'], true⟩]) tiedRows =
        [["z".toList, "2".toList], ["x".toList, "1".toList], ["w".toList, " 1".toList],
          ["y".toList]] := by
      simp +decide [stableSort, tiedRows, List.mergeSort, List.MergeSort.Internal.splitInTwo]
    have hf : Filter.bind namesByRuns teamSchema = .ok ⟨[], []⟩ := rfl
    have ha : tiedRows.filter (Filter.admits ⟨[], []⟩) = tiedRows := by decide
    rw [executePlan_eq rfl hs, executeWith_sorted rfl rfl (by decide) hf,
      executeSorted_of_resolved rfl hk hb hr, ha, ho]
    rfl
  obtain ⟨sorted, he, hsort, -⟩ := executePlan_sorted rfl rfl (by decide) hs hk hr hn h
  injection he with _ he
  exact ⟨h, sorted, he.symm, hsort⟩

end Plan
end FlatQuery
