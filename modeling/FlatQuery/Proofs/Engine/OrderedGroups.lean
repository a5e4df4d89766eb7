import FlatQuery.Proofs.Engine.SortedRows

namespace FlatQuery

namespace Plan

variable {p : Plan} {s : Schema} {rows : List Row} {keys : List SortKey} {result : ResultSet}
  {columns : List GroupColumn} {positions : List Nat}

-- The type of what the row of a key shows under an entry.
def groupType (p : Plan) (s : Schema) (entry : Text) : ColumnType :=
  if p.groupBy.contains entry then
    s.typeOf entry
  else
    match AggregateCall.ofEntry? entry with
    | some call => (Accumulator.fresh call.function (s.typeOf call.field)).outputType
    | none => .empty

-- The order of two keys by what the fields of the sort keys stand for.
def groupOrder (p : Plan) (s : Schema) (rows : List Row) (keys : List SortKey) (a b : List Text) :
    Ordering :=
  firstDecided <| keys.map fun k =>
    (p.groupType s k.field).directedOrder k.descending
      (p.groupCell s rows a k.field) (p.groupCell s rows b k.field)

-- Whether an entry of the query is the very text of the field or the same call.
def shows (p : Plan) (field : Text) : Bool :=
  p.groupedEntries.any (GroupColumn.isNamed field)

-- A header may look like a call. A field is clear if no such header stands between it and the
-- entries that are the same call.
def Clear (p : Plan) (field : Text) : Prop :=
  ∀ entry ∈ p.groupedEntries, GroupColumn.isNamed field entry →
    entry = field ∨ (entry ∉ p.groupBy ∧ field ∉ p.groupBy)

section Entries

variable {groupBy fields : List Text} {entry field : Text}

theorem findIdx?_eq_none_iff : groupBy.findIdx? (· == entry) = none ↔ entry ∉ groupBy := by
  simp only [List.findIdx?_eq_none_iff, beq_eq_false_iff_ne]
  exact ⟨fun h hm => h _ hm rfl, fun h _ hm he => h (he ▸ hm)⟩

theorem getElem_of_findIdx? (h : groupBy.findIdx? (· == entry) = some i) :
    groupBy[i]? = some entry := by
  obtain ⟨hl, hx, -⟩ := List.findIdx?_eq_some_iff_getElem.mp h
  rw [List.getElem?_eq_getElem hl, beq_iff_eq.mp hx]

theorem mem_of_findIdx? (h : groupBy.findIdx? (· == entry) = some i) : entry ∈ groupBy :=
  List.mem_of_getElem? (getElem_of_findIdx? h)

theorem exists_ofEntry (h : entry ∈ groupBy ∨
    ∃ call, AggregateCall.ofEntry? entry = some call ∧ call.field ∈ s.headers) :
    ∃ column, GroupColumn.ofEntry groupBy s entry = .ok column := by
  cases hi : groupBy.findIdx? (· == entry)
  case some i => exact ⟨.key i, by simp [GroupColumn.ofEntry, hi]⟩
  case none =>
    obtain ⟨call, hc, hf⟩ := h.resolve_left (findIdx?_eq_none_iff.mp hi)
    obtain ⟨position, hp⟩ := Schema.exists_resolve hf
    exact ⟨_, by simp only [GroupColumn.ofEntry, hi, hc, hp]; rfl⟩

theorem typesAt_eq (h : fields.mapM s.resolve = .ok positions) :
    positions.map s.typeAt = fields.map s.typeOf :=
  map_eq_of_mapM_eq_ok h fun field _ position hf => by simp [Schema.typeOf, resolve_eq_ok hf]

theorem outputCell_type (h : p.groupBy.mapM s.resolve = .ok positions)
    (hc : GroupColumn.ofEntry p.groupBy s entry = .ok column) :
    (Group.outputCell (positions.map s.typeAt) positions rows key column).2 =
      p.groupType s entry := by
  obtain ⟨i, hi, rfl⟩ | ⟨call, position, hn, he, hp, rfl⟩ := ofEntry_eq_ok hc
  case inl =>
    simp [Group.outputCell, groupType, mem_of_findIdx? hi, typesAt_eq h, getElem_of_findIdx? hi]
  case inr =>
    simp [Group.outputCell, groupType, findIdx?_eq_none_iff.mp hn, he, Schema.typeOf, hp,
      Accumulator.outputType_feed]

-- What the row of a key shows depends on the entries, not on how they were found.
theorem outputs_of_key (hp : p.groupBy.mapM s.resolve = .ok positions)
    (hc : p.groupedEntries.mapM (GroupColumn.ofEntry p.groupBy s) = .ok columns) :
    columns.map (Group.outputCell (positions.map s.typeAt) positions rows key) =
      p.groupedEntries.map fun entry => (p.groupCell s rows key entry, p.groupType s entry) :=
  map_eq_of_mapM_eq_ok hc fun _ _ _ he => Prod.ext (outputCell_eq hp he) (outputCell_type hp he)

theorem of_isNamed (s : Schema) (rows : List Row) (h : GroupColumn.isNamed field entry)
    (hc : entry = field ∨ (entry ∉ p.groupBy ∧ field ∉ p.groupBy)) :
    (∀ key, p.groupCell s rows key entry = p.groupCell s rows key field) ∧
      p.groupType s entry = p.groupType s field := by
  by_cases he : entry = field
  case pos => simp [he]
  case neg =>
    obtain ⟨hn, hf⟩ := hc.resolve_left he
    have hcall : AggregateCall.ofEntry? entry = AggregateCall.ofEntry? field := by
      simp only [GroupColumn.isNamed, Bool.or_eq_true, beq_iff_eq, he, false_or,
        Bool.and_eq_true] at h
      exact h.right
    simp [groupCell, groupType, findIdx?_eq_none_iff.mpr hn, findIdx?_eq_none_iff.mpr hf, hn, hf,
      hcall]

end Entries

section SortKeys

variable {names : List Text} {k : SortKey}

theorem ofSortKey_eq_ok (h : GroupColumn.ofSortKey names k = .ok target) :
    ∃ entry, names[target.1]? = some entry ∧ GroupColumn.isNamed k.field entry ∧
      target.2 = k.descending := by
  unfold GroupColumn.ofSortKey at h
  split at h
  case h_1 i hi =>
    injection h with h
    subst h
    obtain ⟨hl, hx, -⟩ := List.findIdx?_eq_some_iff_getElem.mp hi
    exact ⟨names[i], List.getElem?_eq_getElem hl, hx, rfl⟩
  case h_2 => contradiction

theorem exists_ofSortKey (h : p.shows k.field) :
    ∃ target, GroupColumn.ofSortKey p.groupedEntries k = .ok target := by
  obtain ⟨entry, hm, hn⟩ := List.any_eq_true.mp h
  cases hi : p.groupedEntries.findIdx? (GroupColumn.isNamed k.field)
  case none => simp [List.findIdx?_eq_none_iff.mp hi entry hm] at hn
  case some i => exact ⟨(i, k.descending), by simp [GroupColumn.ofSortKey, hi]⟩

theorem ofSortKey_eq_error (h : p.shows k.field = false) :
    GroupColumn.ofSortKey p.groupedEntries k = .error (.ungroupedField k.field) := by
  have hi : p.groupedEntries.findIdx? (GroupColumn.isNamed k.field) = none :=
    List.findIdx?_eq_none_iff.mpr fun entry hm =>
      Bool.eq_false_iff.mpr fun hn => by simp [shows] at h; simp [h entry hm] at hn
  simp [GroupColumn.ofSortKey, hi]

theorem shows_of_ofSortKey (h : GroupColumn.ofSortKey p.groupedEntries k = .ok target) :
    p.shows k.field := by
  obtain ⟨entry, he, hn, -⟩ := ofSortKey_eq_ok h
  exact List.any_eq_true.mpr ⟨entry, List.mem_of_getElem? he, hn⟩

-- Where the fields are clear, the columns found for the keys show what the fields stand for.
theorem orderOutputs_eq (hc : ∀ k ∈ keys, p.Clear k.field)
    (ht : keys.mapM (GroupColumn.ofSortKey p.groupedEntries) = .ok targets) :
    orderOutputs targets
        (p.groupedEntries.map fun entry => (p.groupCell s rows a entry, p.groupType s entry))
        (p.groupedEntries.map fun entry => (p.groupCell s rows b entry, p.groupType s entry)) =
      p.groupOrder s rows keys a b := by
  refine congrArg firstDecided (map_eq_of_mapM_eq_ok ht fun k hk target h => ?_)
  obtain ⟨entry, he, hn, hd⟩ := ofSortKey_eq_ok h
  have ⟨hcell, htype⟩ := of_isNamed s rows hn (hc k hk entry (List.mem_of_getElem? he) hn)
  simp [he, hd, hcell, htype]

end SortKeys

theorem executeGrouped_of_columns (hp : p.groupBy.mapM s.resolve = .ok positions)
    (hc : p.groupedEntries.mapM (GroupColumn.ofEntry p.groupBy s) = .ok columns)
    (hk : p.sortKeys = .ok keys) :
    executeGrouped p s rows =
      (keys.mapM (GroupColumn.ofSortKey p.groupedEntries)).map fun targets =>
        ⟨p.groupedEntries, (stableSort (orderOutputs targets)
          ((p.groupKeys s rows).map fun key => p.groupedEntries.map fun entry =>
            (p.groupCell s rows key entry, p.groupType s entry))).map (·.map (·.1))⟩ := by
  have ho : ((Group.collect columns positions rows).map fun g =>
      Group.output (positions.map s.typeAt) g.key columns g.accumulators) =
      (p.groupKeys s rows).map fun key => p.groupedEntries.map fun entry =>
        (p.groupCell s rows key entry, p.groupType s entry) := by
    rw [Group.collect_eq, keys_eq hp, List.map_map]
    refine List.map_congr_left fun key _ => ?_
    simp only [Function.comp_apply, Group.ofKey_key, Group.output_ofKey, outputs_of_key hp hc]
  simp only [executeGrouped, hp, hc, resolvedSortKeys_of_sortKeys hk, bind, Except.bind, ho]
  cases keys.mapM (GroupColumn.ofSortKey p.groupedEntries) <;> rfl

-- If no key names what is not shown, the rows are those of the keys of the groups, sorted.
theorem executeGrouped_of_shown (rows : List Row) (hp : p.groupBy.mapM s.resolve = .ok positions)
    (hc : p.groupedEntries.mapM (GroupColumn.ofEntry p.groupBy s) = .ok columns)
    (hk : p.sortKeys = .ok keys) (hs : ∀ k ∈ keys, p.shows k.field)
    (hclear : ∀ k ∈ keys, p.Clear k.field) :
    executeGrouped p s rows = .ok ⟨p.groupedEntries,
      (stableSort (p.groupOrder s rows keys) (p.groupKeys s rows)).map fun key =>
        p.groupedEntries.map (p.groupCell s rows key)⟩ := by
  obtain ⟨targets, ht⟩ := exists_mapM_eq_ok fun k hk => exists_ofSortKey (hs k hk)
  have ho : (fun a b => orderOutputs targets
      (p.groupedEntries.map fun entry => (p.groupCell s rows a entry, p.groupType s entry))
      (p.groupedEntries.map fun entry => (p.groupCell s rows b entry, p.groupType s entry))) =
      p.groupOrder s rows keys :=
    funext fun a => funext fun b => orderOutputs_eq hclear ht
  rw [executeGrouped_of_columns hp hc hk, ht]
  simp only [Except.map, stableSort_map, ho, List.map_map, Function.comp_def]

section NoNan

def isNanOf (p : Plan) (s : Schema) (rows : List Row) (key : List Text) (field : Text) : Bool :=
  (p.groupType s field).read? (p.groupCell s rows key field) == some (.float .nan)

def groupRankOrder (p : Plan) (s : Schema) (rows : List Row) (keys : List SortKey)
    (a b : List Text) : Ordering :=
  firstDecided <| keys.map fun k =>
    (p.groupType s k.field).rankOrder k.descending
      (p.groupCell s rows a k.field) (p.groupCell s rows b k.field)

instance : Std.TransCmp (p.groupRankOrder s rows keys) := by
  have ht := transCmp_rankedCells (fun k : SortKey => p.groupType s k.field) (·.descending)
    (fun k key => p.groupCell s rows key k.field) keys
  exact ht

theorem groupOrder_eq_groupRankOrder (ha : ∀ k ∈ keys, ¬p.isNanOf s rows a k.field)
    (hb : ∀ k ∈ keys, ¬p.isNanOf s rows b k.field) :
    p.groupOrder s rows keys a b = p.groupRankOrder s rows keys a b := by
  refine congrArg firstDecided (List.map_congr_left fun k hk => ?_)
  exact ColumnType.directedOrder_eq (by simpa [isNanOf] using ha k hk)
    (by simpa [isNanOf] using hb k hk)

theorem isStableSort_groups
    (hn : ∀ k ∈ keys, ∀ key ∈ p.groupKeys s rows, ¬p.isNanOf s rows key k.field) :
    IsStableSort (p.groupOrder s rows keys) (p.groupKeys s rows)
      (stableSort (p.groupOrder s rows keys) (p.groupKeys s rows)) :=
  isStableSort_of_agrees fun _ ha _ hb =>
    groupOrder_eq_groupRankOrder (fun k hk => hn k hk _ ha) fun k hk => hn k hk _ hb

end NoNan

-- The order-by entries that grouped queries are said to take: all fields are columns, what is
-- selected is a group field or a call, and a sort key names a group field or a selected call.
structure Sortable (p : Plan) (s : Schema) (keys : List SortKey) : Prop where
  groups  : ∀ field ∈ p.groupBy, field ∈ s.headers
  entries : ∀ entry ∈ p.groupedEntries, entry ∈ p.groupBy ∨
    ∃ call, AggregateCall.ofEntry? entry = some call ∧ call.field ∈ s.headers
  reads   : p.sortKeys = .ok keys
  named   : ∀ k ∈ keys, k.field ∈ p.groupBy ∨
    ∃ entry ∈ p.groupedEntries, entry ∉ p.groupBy ∧
      ∃ call, AggregateCall.ofEntry? entry = some call ∧ AggregateCall.ofEntry? k.field = some call

namespace Sortable

theorem exists_columns (h : p.Sortable s keys) : ∃ positions columns,
    p.groupBy.mapM s.resolve = .ok positions ∧
      p.groupedEntries.mapM (GroupColumn.ofEntry p.groupBy s) = .ok columns := by
  obtain ⟨positions, hp⟩ :=
    exists_mapM_eq_ok fun field hf => Schema.exists_resolve (h.groups field hf)
  obtain ⟨columns, hc⟩ := exists_mapM_eq_ok fun entry he => exists_ofEntry (h.entries entry he)
  exact ⟨positions, columns, hp, hc⟩

theorem shows_of_not_mem (h : p.Sortable s keys) (hk : k ∈ keys) (hn : k.field ∉ p.groupBy) :
    p.shows k.field := by
  obtain ⟨entry, he, -, call, hc, hf⟩ := (h.named k hk).resolve_left hn
  exact List.any_eq_true.mpr ⟨entry, he, by simp [GroupColumn.isNamed, hc, hf]⟩

theorem eq_error (h : p.Sortable s keys) (he : executeGrouped p s rows = .error e) :
    ∃ k ∈ keys, p.shows k.field = false ∧ e = .ungroupedField k.field := by
  obtain ⟨positions, columns, hp, hc⟩ := h.exists_columns
  rw [executeGrouped_of_columns hp hc h.reads] at he
  cases ht : keys.mapM (GroupColumn.ofSortKey p.groupedEntries)
  case ok => simp [ht, Except.map] at he
  case error =>
    rw [ht] at he
    injection he with he
    subst he
    obtain ⟨k, hk, hek⟩ := exists_of_mapM_eq_error ht
    cases hs : p.shows k.field
    case false =>
      rw [ofSortKey_eq_error hs] at hek
      injection hek with hek
      exact ⟨k, hk, hs, hek.symm⟩
    case true =>
      obtain ⟨target, ht⟩ := exists_ofSortKey hs
      rw [ht] at hek
      contradiction

theorem shows_of_eq_ok (h : p.Sortable s keys) (ho : executeGrouped p s rows = .ok result)
    (hk : k ∈ keys) : p.shows k.field := by
  obtain ⟨positions, columns, hp, hc⟩ := h.exists_columns
  rw [executeGrouped_of_columns hp hc h.reads] at ho
  obtain ⟨targets, ht, -⟩ := except_map_eq_ok.mp ho
  obtain ⟨target, ht⟩ := ok_of_mapM_eq_ok ht hk
  exact shows_of_ofSortKey ht

end Sortable

-- A group field that is not selected is refused as a sort key. Every other key sorts the groups.
theorem executeGrouped_sorts_iff (h : p.Sortable s keys) :
    ((∃ result, executeGrouped p s rows = .ok result) ↔
      ∀ k ∈ keys, k.field ∈ p.groupBy → p.shows k.field) ∧
    (∀ e, executeGrouped p s rows = .error e →
      ∃ k ∈ keys, k.field ∈ p.groupBy ∧ k.field ∉ p.groupedEntries ∧
        e = .ungroupedField k.field) ∧
    ∀ result, executeGrouped p s rows = .ok result → (∀ k ∈ keys, p.Clear k.field) →
      (∀ k ∈ keys, ∀ key ∈ p.groupKeys s rows, ¬p.isNanOf s rows key k.field) →
      ∃ sorted, IsStableSort (p.groupOrder s rows keys) (p.groupKeys s rows) sorted ∧
        result = ⟨p.groupedEntries,
          sorted.map fun key => p.groupedEntries.map (p.groupCell s rows key)⟩ := by
  refine ⟨⟨?fails, ?succeeds⟩, ?error, ?sorted⟩
  case fails => exact fun ⟨result, ho⟩ k hk _ => h.shows_of_eq_ok ho hk
  case succeeds =>
    intro hs
    cases he : executeGrouped p s rows
    case ok result => exact ⟨result, rfl⟩
    case error =>
      obtain ⟨k, hk, hn, -⟩ := h.eq_error he
      by_cases hg : k.field ∈ p.groupBy
      case pos => simp [hs k hk hg] at hn
      case neg => simp [h.shows_of_not_mem hk hg] at hn
  case error =>
    intro e he
    obtain ⟨k, hk, hn, rfl⟩ := h.eq_error he
    refine ⟨k, hk, ?_, fun hm => ?_, rfl⟩
    · by_contra hg
      simp [h.shows_of_not_mem hk hg] at hn
    · simp [shows] at hn
      simpa [GroupColumn.isNamed] using hn _ hm
  case sorted =>
    intro result ho hclear hn
    obtain ⟨positions, columns, hp, hc⟩ := h.exists_columns
    have hs := executeGrouped_of_shown rows hp hc h.reads
      (fun k hk => h.shows_of_eq_ok ho hk) hclear
    rw [ho] at hs
    injection hs with hs
    exact ⟨_, isStableSort_groups hn, hs⟩

-- The call of the sort key is written in other letters than the one that is selected.
def teamsByRuns : Plan :=
  { runsByTeam with orderBy := ["SUM(b) desc".toList] }

def runsDescending : SortKey :=
  ⟨"SUM(b)".toList, true⟩

def threeTeams : List Row :=
  [[['x'], ['1']], [['y']], [['z'], ['5']], [['x'], ['2']]]

theorem sortable_of_runsByTeam {p : Plan} (hg : p.groupBy = runsByTeam.groupBy)
    (he : ∀ entry ∈ p.groupedEntries, entry ∈ runsByTeam.groupedEntries)
    (hk : p.sortKeys = .ok keys)
    (hn : ∀ k ∈ keys, k.field ∈ p.groupBy ∨ ∃ entry ∈ p.groupedEntries, entry ∉ p.groupBy ∧
      ∃ call, AggregateCall.ofEntry? entry = some call ∧
        AggregateCall.ofEntry? k.field = some call) :
    p.Sortable teamSchema keys where
  groups  := by rw [hg]; decide
  reads   := hk
  named   := hn
  entries := by
    intro entry hm
    obtain rfl | hm := List.mem_cons.mp (he entry hm)
    case inl => exact .inr ⟨⟨.sum, ['b']⟩, by decide, by decide⟩
    case inr => exact .inl (by rw [hg]; exact hm)

theorem executeGrouped_sorts_teamsByRuns :
    executeGrouped teamsByRuns teamSchema threeTeams =
      .ok ⟨teamsByRuns.groupedEntries, [[['5'], ['z']], [['3'], ['x']], [[], ['y']]]⟩ ∧
    ∃ sorted, sorted.map (fun key => teamsByRuns.groupedEntries.map
        (teamsByRuns.groupCell teamSchema threeTeams key)) =
        [[['5'], ['z']], [['3'], ['x']], [[], ['y']]] ∧
      IsStableSort (teamsByRuns.groupOrder teamSchema threeTeams
        [runsDescending]) [[['x']], [['y']], [['z']]] sorted := by
  have hk : teamsByRuns.sortKeys = .ok [runsDescending] := by decide
  have hs : teamsByRuns.Sortable teamSchema [runsDescending] := by
    refine sortable_of_runsByTeam rfl (by decide) hk fun k hm => .inr ?_
    obtain rfl := List.mem_singleton.mp hm
    exact ⟨"sum(b)".toList, by decide, by decide, ⟨.sum, ['b']⟩, by decide,
      by decide⟩
  have hclear : ∀ k ∈ [runsDescending], teamsByRuns.Clear k.field := by
    unfold Clear
    decide
  have h : executeGrouped teamsByRuns teamSchema threeTeams =
      .ok ⟨teamsByRuns.groupedEntries, [[['5'], ['z']], [['3'], ['x']], [[], ['y']]]⟩ := by
    have ho : stableSort (teamsByRuns.groupOrder teamSchema threeTeams
        [runsDescending]) [[['x']], [['y']], [['z']]] =
        [[['z']], [['x']], [['y']]] := by
      simp +decide [stableSort, List.mergeSort, List.MergeSort.Internal.splitInTwo]
    obtain ⟨positions, columns, hp, hc⟩ := hs.exists_columns
    have hg : teamsByRuns.groupKeys teamSchema threeTeams = [[['x']], [['y']], [['z']]] := by decide
    rw [executeGrouped_of_shown _ hp hc hk (by decide) hclear, hg, ho]
    decide
  obtain ⟨sorted, hsort, he⟩ :=
    (executeGrouped_sorts_iff hs).right.right _ h hclear (by decide)
  injection he with _ he
  exact ⟨h, sorted, he.symm, hsort⟩

-- The groups are not sorted by their teams, because the teams are not shown.
def runsInTeamOrder : Plan :=
  { runsByTeam with projection := .fields ["sum(b)".toList], orderBy := [['a']] }

theorem executeGrouped_refuses_runsInTeamOrder :
    runsInTeamOrder.Sortable teamSchema [⟨['a'], false⟩] ∧
      executeGrouped runsInTeamOrder teamSchema threeTeams = .error (.ungroupedField ['a']) := by
  refine ⟨sortable_of_runsByTeam rfl (by decide) (by decide) ?_, by decide⟩
  exact fun k hm => .inl (by obtain rfl := List.mem_singleton.mp hm; decide)

end Plan
end FlatQuery
