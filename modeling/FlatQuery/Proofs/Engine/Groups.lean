import FlatQuery.Engine.Grouping
import FlatQuery.Proofs.Engine.Accumulators
import FlatQuery.Proofs.Fallible
import Mathlib.Data.List.Induction

namespace FlatQuery

section FirstOccurrences

variable [BEq α] [LawfulBEq α] {xs : List α}

theorem eraseDups_append_singleton :
    (xs ++ [a]).eraseDups = if a ∈ xs then xs.eraseDups else xs.eraseDups ++ [a] := by
  by_cases h : a ∈ xs <;> simp [List.eraseDups_append, List.removeAll, List.eraseDups_cons, h]

theorem nodup_eraseDups : (xs : List α) → xs.eraseDups.Nodup
  | [] => by simp
  | a :: xs => by
    rw [List.eraseDups_cons, List.nodup_cons]
    exact ⟨by simp [List.mem_eraseDups], nodup_eraseDups _⟩
termination_by xs => xs.length
decreasing_by
  have := List.length_filter_le (fun b => !b == a) xs
  simp only [List.length_cons]
  omega

-- The elements stand in the order in which they first occur.
theorem pairwise_eraseDups : xs.eraseDups.Pairwise fun a b => xs.idxOf a < xs.idxOf b := by
  induction xs using List.reverseRecOn
  case nil => simp
  case append_singleton xs x hi =>
    have hp : xs.eraseDups.Pairwise fun a b => (xs ++ [x]).idxOf a < (xs ++ [x]).idxOf b := by
      refine hi.imp_of_mem fun ha hb h => ?_
      rw [List.mem_eraseDups] at ha hb
      rwa [List.idxOf_append, List.idxOf_append, if_pos ha, if_pos hb]
    rw [eraseDups_append_singleton]
    split
    case isTrue => exact hp
    case isFalse hx =>
      refine List.pairwise_append.mpr ⟨hp, List.pairwise_singleton .., fun a ha b hb => ?_⟩
      rw [List.mem_singleton.mp hb, List.idxOf_append, List.idxOf_append, if_neg hx,
        if_pos (List.mem_eraseDups.mp ha)]
      simpa using List.idxOf_lt_length_iff.mpr (List.mem_eraseDups.mp ha)

end FirstOccurrences

namespace Group

variable {columns : List GroupColumn} {positions : List Nat} {rows : List Row} {groups : List Group}
  {key : List Text}

def rowsOf (positions : List Nat) (key : List Text) (rows : List Row) : List Row :=
  rows.filter (keyOf positions · = key)

-- The group of a key after all of the rows, as if it had seen only its own.
def ofKey (columns : List GroupColumn) (positions : List Nat) (rows : List Row) (key : List Text) :
    Group where
  key := key
  accumulators := (aggregates columns).map fun input =>
    input.2.feed ((rowsOf positions key rows).map (·.cellAt input.1))

def ofRows (columns : List GroupColumn) (positions : List Nat) (rows : List Row) : List Group :=
  (rows.map (keyOf positions)).eraseDups.map (ofKey columns positions rows)

@[simp]
theorem ofKey_key : (ofKey columns positions rows key).key = key :=
  rfl

theorem ofKey_append_same :
    ofKey columns positions (rows ++ [r]) (keyOf positions r) =
      (ofKey columns positions rows (keyOf positions r)).feed columns r := by
  simp [ofKey, feed, rowsOf, List.zipWith_map_left, Accumulator.feed_append,
    Accumulator.feed_cons, Accumulator.feed_nil]

theorem ofKey_append_other (h : keyOf positions r ≠ key) :
    ofKey columns positions (rows ++ [r]) key = ofKey columns positions rows key := by
  simp [ofKey, rowsOf, h]

theorem ofKey_absent (h : key ∉ rows.map (keyOf positions)) :
    ofKey columns positions rows key = empty columns key := by
  have : rowsOf positions key rows = [] := by
    simp only [rowsOf, List.filter_eq_nil_iff, decide_eq_true_eq]
    exact fun r hr hk => h (List.mem_map.mpr ⟨r, hr, hk⟩)
  simp [ofKey, this, empty, Accumulator.feed]

theorem insert_new (h : ∀ g ∈ groups, g.key ≠ key) :
    insert columns key r groups = groups ++ [(empty columns key).feed columns r] := by
  induction groups
  case nil => rfl
  case cons g groups hi =>
    have hg := h g (.head _)
    simp [insert, hg, hi fun g hg => h g (.tail _ hg)]

-- The first group of the key is fed; no key occurs twice, so it is the only one.
theorem insert_known (h : key ∈ groups.map (·.key)) (hn : (groups.map (·.key)).Nodup) :
    insert columns key r groups =
      groups.map fun g => if g.key = key then g.feed columns r else g := by
  induction groups
  case nil => contradiction
  case cons g groups hi =>
    simp only [List.map_cons, List.nodup_cons, List.mem_cons] at h hn
    by_cases hg : g.key = key
    case pos =>
      have hr : ∀ g' ∈ groups, g'.key ≠ key := fun g' hg' hk =>
        hn.left (List.mem_map.mpr ⟨g', hg', hk.trans hg.symm⟩)
      have hm : groups.map (fun g => if g.key = key then g.feed columns r else g) = groups.map id :=
        List.map_congr_left fun g' hg' => if_neg (hr g' hg')
      simp [insert, hg, hm]
    case neg =>
      have h := h.resolve_left (Ne.symm hg)
      simp [insert, hg, hi h hn.right]

theorem map_key_ofRows :
    (ofRows columns positions rows).map (·.key) = (rows.map (keyOf positions)).eraseDups := by
  simp [ofRows, Function.comp_def]

-- A row with a new key adds its group at the end.
theorem ofRows_append_new (h : keyOf positions r ∉ rows.map (keyOf positions)) :
    ofRows columns positions (rows ++ [r]) =
      ofRows columns positions rows ++ [(empty columns (keyOf positions r)).feed columns r] := by
  have hm : (rows.map (keyOf positions)).eraseDups.map (ofKey columns positions (rows ++ [r])) =
      ofRows columns positions rows := by
    refine List.map_congr_left fun key hk => ofKey_append_other ?_
    rintro rfl
    exact h (List.mem_eraseDups.mp hk)
  have he : ((rows ++ [r]).map (keyOf positions)).eraseDups =
      (rows.map (keyOf positions)).eraseDups ++ [keyOf positions r] := by
    rw [List.map_append, List.map_singleton, eraseDups_append_singleton, if_neg h]
  rw [ofRows, he, List.map_append, hm, List.map_singleton, ofKey_append_same, ofKey_absent h]

-- A row with a known key feeds the group of this key, and no other.
theorem ofRows_append_known (h : keyOf positions r ∈ rows.map (keyOf positions)) :
    ofRows columns positions (rows ++ [r]) =
      (ofRows columns positions rows).map fun g =>
        if g.key = keyOf positions r then g.feed columns r else g := by
  have he : ((rows ++ [r]).map (keyOf positions)).eraseDups =
      (rows.map (keyOf positions)).eraseDups := by
    rw [List.map_append, List.map_singleton, eraseDups_append_singleton, if_pos h]
  rw [ofRows, he, ofRows, List.map_map]
  refine List.map_congr_left fun key _ => ?_
  by_cases hk : key = keyOf positions r
  case pos => subst hk; simp [ofKey_append_same]
  case neg => simp [ofKey_append_other (Ne.symm hk), hk]

-- A row that is fed to the groups of the rows before it gives the groups with it.
theorem insert_ofRows :
    insert columns (keyOf positions r) r (ofRows columns positions rows) =
      ofRows columns positions (rows ++ [r]) := by
  by_cases h : keyOf positions r ∈ rows.map (keyOf positions)
  case pos =>
    have hk : keyOf positions r ∈ (ofRows columns positions rows).map (·.key) := by
      rw [map_key_ofRows]
      exact List.mem_eraseDups.mpr h
    have hn : ((ofRows columns positions rows).map (·.key)).Nodup := by
      rw [map_key_ofRows]
      exact nodup_eraseDups _
    rw [insert_known hk hn, ofRows_append_known h]
  case neg =>
    have hk : ∀ g ∈ ofRows columns positions rows, g.key ≠ keyOf positions r := by
      rintro g hg hgk
      have := List.mem_map_of_mem (f := (·.key)) hg
      rw [map_key_ofRows, hgk, List.mem_eraseDups] at this
      exact h this
    rw [insert_new hk, ofRows_append_new h]

theorem foldl_insert (columns : List GroupColumn) (positions : List Nat) (rows rows' : List Row) :
    rows'.foldl (fun gs r => insert columns (keyOf positions r) r gs) (ofRows columns positions rows) =
      ofRows columns positions (rows ++ rows') := by
  induction rows' generalizing rows
  case nil => simp
  case cons r rows' hi => simp [insert_ofRows, hi]

-- The keys of a grouped query. Without group fields the empty key is there even of no rows.
def keys (positions : List Nat) (rows : List Row) : List (List Text) :=
  if positions.isEmpty && rows.isEmpty then [[]] else (rows.map (keyOf positions)).eraseDups

theorem collect_eq :
    collect columns positions rows = (keys positions rows).map (ofKey columns positions rows) := by
  have hf := foldl_insert columns positions [] rows
  simp only [ofRows, List.map_nil, List.eraseDups_nil, List.nil_append] at hf
  cases rows
  case nil =>
    cases positions <;> simp [collect, keys, ofKey, empty, rowsOf, Accumulator.feed_nil]
  case cons r rows =>
    simp [collect, hf, keys, List.eraseDups_cons]

-- The cell of a column in the row of a key, with its type.
def outputCell (keyTypes : List ColumnType) (positions : List Nat) (rows : List Row)
    (key : List Text) : GroupColumn → Text × ColumnType
  | .key i => (key.getD i [], keyTypes.getD i .empty)
  | .aggregate function position type =>
    let a := (Accumulator.fresh function type).feed
      ((rowsOf positions key rows).map (·.cellAt position))
    (a.finish, a.outputType)

theorem output_ofKey :
    output keyTypes key columns (ofKey columns positions rows key).accumulators =
      columns.map (outputCell keyTypes positions rows key) := by
  induction columns
  case nil => rfl
  case cons column columns hi =>
    simp only [ofKey] at hi ⊢
    cases column <;> simp [aggregates, output, outputCell] <;> exact hi

end Group

theorem stableSort_perm (order : α → α → Ordering) (xs : List α) : (stableSort order xs).Perm xs :=
  List.mergeSort_perm ..

theorem stableSort_of_tied {order : α → α → Ordering} {xs : List α} (h : ∀ a b, order a b = .eq) :
    stableSort order xs = xs :=
  List.mergeSort_of_pairwise (List.pairwise_of_forall fun a b => by simp [h])

-- The cell of a named column, empty where the row is too short.
def Row.cellIn (s : Schema) (field : Text) (r : Row) : Text :=
  match s.position? field with
  | some position => r.cellAt position
  | none => []

def Schema.typeOf (s : Schema) (field : Text) : ColumnType :=
  match s.position? field with
  | some position => s.typeAt position
  | none => .empty

namespace Plan

variable {p q : Plan} {s : Schema} {rows : List Row} {result : ResultSet}

def keyOf (p : Plan) (s : Schema) (r : Row) : List Text :=
  p.groupBy.map fun field => (r.cellIn s field).trim

def groupKeys (p : Plan) (s : Schema) (rows : List Row) : List (List Text) :=
  if p.groupBy = [] ∧ rows = [] then [[]] else (rows.map (p.keyOf s)).eraseDups

-- What the row of a key shows under an entry: a component of the key, or what the rows of the key
-- add up to.
def groupCell (p : Plan) (s : Schema) (rows : List Row) (key : List Text) (entry : Text) : Text :=
  match p.groupBy.findIdx? (· == entry) with
  | some i => key.getD i []
  | none =>
    match AggregateCall.ofEntry? entry with
    | some call =>
      let cells := (rows.filter (p.keyOf s · = key)).map (·.cellIn s call.field)
      ((Accumulator.fresh call.function (s.typeOf call.field)).feed cells).finish
    | none => []

def groupRows (p : Plan) (s : Schema) (rows : List Row) : List (List Text) :=
  (p.groupKeys s rows).map fun key => p.groupedEntries.map (p.groupCell s rows key)

theorem resolve_eq_ok (h : s.resolve field = .ok position) : s.position? field = some position := by
  simp only [Schema.resolve] at h
  split at h <;> simp_all

-- An entry of a grouped query is a group field or an aggregate call.
theorem ofEntry_eq_ok {groupBy : List Text} (h : GroupColumn.ofEntry groupBy s entry = .ok column) :
    (∃ i, groupBy.findIdx? (· == entry) = some i ∧ column = .key i) ∨
    (∃ call position, groupBy.findIdx? (· == entry) = none ∧
      AggregateCall.ofEntry? entry = some call ∧ s.position? call.field = some position ∧
      column = .aggregate call.function position (s.typeAt position)) := by
  simp only [GroupColumn.ofEntry] at h
  split at h
  case h_1 i hi => exact .inl ⟨i, hi, by injection h with h; exact h.symm⟩
  case h_2 hn =>
    split at h
    case h_1 call hc =>
      obtain ⟨position, hp, h⟩ := except_bind_eq_ok.mp h
      exact .inr ⟨call, position, hn, hc, resolve_eq_ok hp, by injection h with h; exact h.symm⟩
    case h_2 => contradiction

-- Everything that a grouped query needs is found before it looks at its rows.
theorem executeGrouped_eq_ok (h : executeGrouped p s rows = .ok result) :
    ∃ positions columns keys,
      p.groupBy.mapM s.resolve = .ok positions ∧
      p.groupedEntries.mapM (GroupColumn.ofEntry p.groupBy s) = .ok columns ∧
      result = ⟨p.groupedEntries,
        (stableSort (orderOutputs keys) ((Group.collect columns positions rows).map fun g =>
          Group.output (positions.map s.typeAt) g.key columns g.accumulators)).map (·.map (·.1))⟩ := by
  simp only [executeGrouped, except_bind_eq_ok] at h
  obtain ⟨positions, hp, columns, hc, _, -, keys, -, h⟩ := h
  exact ⟨positions, columns, keys, hp, hc, by injection h with h; exact h.symm⟩

theorem keyOf_eq (h : p.groupBy.mapM s.resolve = .ok positions) :
    Group.keyOf positions r = p.keyOf s r := by
  refine map_eq_of_mapM_eq_ok h fun field _ position hf => ?_
  simp [Row.cellIn, resolve_eq_ok hf]

theorem keys_eq (h : p.groupBy.mapM s.resolve = .ok positions) :
    Group.keys positions rows = p.groupKeys s rows := by
  have hl := length_of_mapM_eq_ok h
  have hk : Group.keyOf positions = p.keyOf s := funext fun r => keyOf_eq h
  have he : positions = [] ↔ p.groupBy = [] := by
    rw [← List.length_eq_zero_iff, hl, List.length_eq_zero_iff]
  simp [Group.keys, groupKeys, hk, he]

theorem outputCell_eq (h : p.groupBy.mapM s.resolve = .ok positions)
    (hc : GroupColumn.ofEntry p.groupBy s entry = .ok column) :
    (Group.outputCell types positions rows key column).1 = p.groupCell s rows key entry := by
  have hk : Group.keyOf positions = p.keyOf s := funext fun r => keyOf_eq h
  obtain ⟨i, hi, rfl⟩ | ⟨call, position, hn, he, hp, rfl⟩ := ofEntry_eq_ok hc
  case inl => simp [Group.outputCell, groupCell, hi]
  case inr =>
    have hcell : Row.cellIn s call.field = (·.cellAt position) := by
      funext r
      simp [Row.cellIn, hp]
    simp [Group.outputCell, groupCell, hn, he, hk, Group.rowsOf, Schema.typeOf, hp, hcell]

-- Sorting apart, the outputs of the groups are the rows that the plan asks for.
theorem outputs_eq (hp : p.groupBy.mapM s.resolve = .ok positions)
    (hc : p.groupedEntries.mapM (GroupColumn.ofEntry p.groupBy s) = .ok columns) :
    ((Group.collect columns positions rows).map fun g =>
      Group.output (positions.map s.typeAt) g.key columns g.accumulators).map (·.map (·.1)) =
        p.groupRows s rows := by
  rw [Group.collect_eq, keys_eq hp, groupRows, List.map_map, List.map_map]
  refine List.map_congr_left fun key _ => ?_
  simp only [Function.comp_apply, Group.ofKey_key, Group.output_ofKey, List.map_map]
  exact map_eq_of_mapM_eq_ok hc fun entry _ column he => outputCell_eq hp he

-- Without sort keys nothing else can fail.
theorem executeGrouped_of_resolved (ho : p.orderBy = [])
    (hp : p.groupBy.mapM s.resolve = .ok positions)
    (hc : p.groupedEntries.mapM (GroupColumn.ofEntry p.groupBy s) = .ok columns) :
    executeGrouped p s rows = .ok ⟨p.groupedEntries, p.groupRows s rows⟩ := by
  have hk : p.resolvedSortKeys = .ok [] := by
    simp [resolvedSortKeys, sortKeys, ho, pure, Except.pure, Except.mapError]
  have ht : ∀ a b, orderOutputs [] a b = .eq := fun _ _ => rfl
  simp only [executeGrouped, hp, hc, hk, bind, Except.bind, List.mapM_nil, pure, Except.pure,
    stableSort_of_tied ht, outputs_eq hp hc]

theorem executeGrouped_perm (h : executeGrouped p s rows = .ok result) :
    result.rows.Perm (p.groupRows s rows) := by
  obtain ⟨positions, columns, keys, hp, hc, rfl⟩ := executeGrouped_eq_ok h
  rw [← outputs_eq hp hc]
  exact (stableSort_perm ..).map _

theorem executeGrouped_rows (ho : p.orderBy = []) (h : executeGrouped p s rows = .ok result) :
    result.rows = p.groupRows s rows := by
  obtain ⟨positions, columns, keys, hp, hc, -⟩ := executeGrouped_eq_ok h
  rw [executeGrouped_of_resolved ho hp hc] at h
  injection h with h
  rw [← h]

theorem executeGrouped_columns (h : executeGrouped p s rows = .ok result) :
    result.columns = p.groupedEntries := by
  obtain ⟨positions, columns, keys, -, -, rfl⟩ := executeGrouped_eq_ok h
  rfl

theorem groupBy_resolves (h : executeGrouped p s rows = .ok result) (hf : field ∈ p.groupBy) :
    (s.position? field).isSome := by
  obtain ⟨positions, columns, keys, hp, -⟩ := executeGrouped_eq_ok h
  obtain ⟨position, hr⟩ := ok_of_mapM_eq_ok hp hf
  simp [resolve_eq_ok hr]

theorem entry_resolves (h : executeGrouped p s rows = .ok result) (he : entry ∈ p.groupedEntries) :
    entry ∈ p.groupBy ∨ 
      ∃ call, AggregateCall.ofEntry? entry = some call ∧ (s.position? call.field).isSome := by
  obtain ⟨positions, columns, keys, -, hc, -⟩ := executeGrouped_eq_ok h
  obtain ⟨column, ho⟩ := ok_of_mapM_eq_ok hc he
  obtain ⟨i, hi, -⟩ | ⟨call, position, -, hcall, hp, -⟩ := ofEntry_eq_ok ho
  case inl =>
    obtain ⟨hl, hx, -⟩ := List.findIdx?_eq_some_iff_getElem.mp hi
    exact .inl (beq_iff_eq.mp hx ▸ List.getElem_mem hl)
  case inr => exact .inr ⟨call, hcall, by simp [hp]⟩

-- Sort keys change nothing about the rows but their order.
theorem groupRows_congr (hg : q.groupBy = p.groupBy) (hq : q.projection = p.projection) :
    q.groupRows s rows = p.groupRows s rows := by
  have he : q.groupedEntries = p.groupedEntries := by simp [groupedEntries, hg, hq]
  have hk : q.keyOf s = p.keyOf s := funext fun r => by simp [keyOf, hg]
  have hc : q.groupCell s rows = p.groupCell s rows := by
    funext key entry
    simp [groupCell, hg, hk]
  simp [groupRows, groupKeys, he, hk, hc, hg]

theorem mem_groupKeys : key ∈ p.groupKeys s rows ↔
    (∃ r ∈ rows, p.keyOf s r = key) ∨ (p.groupBy = [] ∧ rows = [] ∧ key = []) := by
  by_cases h : p.groupBy = [] ∧ rows = []
  case pos => simp [groupKeys, h]
  case neg =>
    have : ¬(p.groupBy = [] ∧ rows = [] ∧ key = []) := fun hn => h ⟨hn.left, hn.right.left⟩
    simp [groupKeys, h, this]

theorem pairwise_groupKeys : (p.groupKeys s rows).Pairwise fun a b =>
    (rows.map (p.keyOf s)).idxOf a < (rows.map (p.keyOf s)).idxOf b := by
  unfold groupKeys
  split
  case isTrue => simp
  case isFalse => exact pairwise_eraseDups

-- The rows of a grouped query, one for each key in order of appearance. Sort keys only reorder them.
theorem executeGrouped_meaning (ho : p.orderBy = []) (h : executeGrouped p s rows = .ok result) :
    (result.columns = p.groupedEntries ∧ result.rows = p.groupRows s rows) ∧
    ((p.groupKeys s rows).Nodup ∧
      (p.groupKeys s rows).Pairwise fun a b =>
        (rows.map (p.keyOf s)).idxOf a < (rows.map (p.keyOf s)).idxOf b) ∧
    (∀ key, key ∈ p.groupKeys s rows ↔
      (∃ r ∈ rows, p.keyOf s r = key) ∨ (p.groupBy = [] ∧ rows = [] ∧ key = [])) ∧
    (∀ row ∈ result.rows, row.length = result.columns.length) ∧
    (∀ field ∈ p.groupBy, (s.position? field).isSome) ∧
    (∀ entry ∈ p.groupedEntries, entry ∈ p.groupBy ∨
      ∃ call, AggregateCall.ofEntry? entry = some call ∧ (s.position? call.field).isSome) ∧
    ∀ q sorted, q.groupBy = p.groupBy → q.projection = p.projection →
      executeGrouped q s rows = .ok sorted →
      sorted.columns = result.columns ∧ sorted.rows.Perm result.rows := by
  have hr := executeGrouped_rows ho h
  have hc := executeGrouped_columns h
  refine ⟨⟨hc, hr⟩, ⟨?nodup, pairwise_groupKeys⟩, fun _ => mem_groupKeys, ?width,
    fun _ => groupBy_resolves h, fun _ => entry_resolves h, ?perm⟩
  case nodup => exact pairwise_groupKeys.imp fun hlt he => by simp [he] at hlt
  case width =>
    intro row hm
    rw [hr] at hm
    obtain ⟨key, -, rfl⟩ := List.mem_map.mp hm
    simp [hc]
  case perm =>
    intro q sorted hg hq hs
    have he : q.groupedEntries = p.groupedEntries := by simp [groupedEntries, hg, hq]
    rw [hr, hc, executeGrouped_columns hs, ← groupRows_congr hg hq]
    exact ⟨he, executeGrouped_perm hs⟩

-- Rows of three widths, and a key that comes back with a space in front.
def runsByTeam : Plan where
  rawText := []
  source := ['t']
  baseQuery := []
  projection := .fields ["sum(b)".toList, ['a']]
  predicates := []
  connectives := []
  aggregates := [⟨.sum, ['b']⟩]
  groupBy := [['a']]
  orderBy := []
  kind := .groupBy

def teamSchema : Schema :=
  ⟨[['a'], ['b']], [.string, .integer]⟩

def teamRows : List Row :=
  [["x".toList, "1".toList], ["y".toList], [" x".toList, "2".toList, "z".toList]]

theorem executeGrouped_meaning_teams :
    runsByTeam.orderBy = [] ∧
    executeGrouped runsByTeam teamSchema teamRows =
      .ok ⟨runsByTeam.groupedEntries, [[['3'], ['x']], [[], ['y']]]⟩ ∧
    runsByTeam.groupKeys teamSchema teamRows = [[['x']], [['y']]] ∧
    (runsByTeam.groupKeys teamSchema teamRows).Nodup := by
  have hp : runsByTeam.groupBy.mapM teamSchema.resolve = .ok [0] := by decide
  have hc : runsByTeam.groupedEntries.mapM (GroupColumn.ofEntry runsByTeam.groupBy teamSchema) =
      .ok [.aggregate .sum 1 .integer, .key 0] := by decide
  have h : executeGrouped runsByTeam teamSchema teamRows =
      .ok ⟨runsByTeam.groupedEntries, [[['3'], ['x']], [[], ['y']]]⟩ :=
    executeGrouped_of_resolved rfl hp hc
  have hm := executeGrouped_meaning rfl h
  exact ⟨rfl, h, by decide, hm.right.left.left⟩

end Plan
end FlatQuery
