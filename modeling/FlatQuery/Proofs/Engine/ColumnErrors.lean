import FlatQuery.Proofs.Engine.SortedRows

namespace FlatQuery

-- The plan is at fault, by a column that it names.
def QueryError.isColumnError : QueryError → Bool
  | unresolvedField _ => true
  | ungroupedField _ => true
  | _ => false

-- The first row that cannot be read.
def RowStream.fault? : RowStream → Option SourceError
  | [] => none
  | .ok _ :: rows => fault? rows
  | .error e :: _ => some e

theorem RowStream.fault?_eq_none {rows : RowStream} (h : rows.fault? = none) :
    ∃ read : List Row, rows = read.map .ok := by
  induction rows
  case nil => exact ⟨[], rfl⟩
  case cons row rows hi =>
    cases row
    case error => contradiction
    case ok r =>
      obtain ⟨read, rfl⟩ := hi h
      exact ⟨r :: read, rfl⟩

theorem RowStream.fault?_eq_some {rows : RowStream} (h : rows.fault? = some e) :
    ∃ (read : List Row) (rest : RowStream), rows = read.map .ok ++ .error e :: rest := by
  induction rows
  case nil => contradiction
  case cons row rows hi =>
    cases row
    case error =>
      obtain rfl := Option.some.inj h
      exact ⟨[], rows, rfl⟩
    case ok r =>
      obtain ⟨read, rest, rfl⟩ := hi h
      exact ⟨r :: read, rest, rfl⟩

namespace Source

-- The same columns, without a row.
def emptied (source : Source) : Source :=
  { source with rows := fun _ => .ok [] }

-- Why the rows cannot all be read: the source does not open, or one of them fails.
def fault? (source : Source) (name : Text) : Option SourceError :=
  match source.rows name with
  | .error e => some e
  | .ok rows => rows.fault?

end Source

section Executors

variable {p : Plan} {s : Schema} {f : Filter} {source other : Source} {e : QueryError}

theorem admittedRows_eq_error_of_fault? (h : source.fault? p.source = some fault) :
    admittedRows p f source = .error (.source fault) := by
  rw [Source.fault?] at h
  split at h
  case h_1 e hr =>
    obtain rfl := Option.some.inj h
    exact Plan.admittedRows_of_closed hr
  case h_2 rows hr =>
    obtain ⟨read, rest, rfl⟩ := RowStream.fault?_eq_some h
    exact Plan.admittedRows_of_fault hr

theorem exists_admittedRows_of_fault? (h : source.fault? p.source = none) :
    ∃ rows, admittedRows p f source = .ok rows := by
  rw [Source.fault?] at h
  split at h
  case h_1 => contradiction
  case h_2 rows hr =>
    obtain ⟨read, rfl⟩ := RowStream.fault?_eq_none h
    exact ⟨_, Plan.admittedRows_of_rows hr⟩

theorem not_isColumnError_of_admittedRows (h : admittedRows p f source = .error e) :
    ¬e.isColumnError := by
  cases hf : source.fault? p.source
  case none =>
    obtain ⟨rows, hr⟩ := exists_admittedRows_of_fault? (f := f) hf
    rw [hr] at h
    contradiction
  case some fault =>
    rw [admittedRows_eq_error_of_fault? hf] at h
    injection h with h
    simp [← h, QueryError.isColumnError]

-- Whatever goes wrong with a grouped query goes wrong whatever its rows are.
theorem executeGrouped_error_congr (h : executeGrouped p s rows = .error e) (rows' : List Row) :
    executeGrouped p s rows' = .error e := by
  simpa [executeGrouped, except_bind_eq_error, pure, Except.pure] using h

variable (he : e.isColumnError)
include he

-- From the scan on nothing goes wrong with the columns.
theorem scan_ne_columnError {view : List Row → ResultSet} :
    (admittedRows p f source >>= fun rows => .ok (view rows)) ≠ .error e := by
  intro h
  obtain h | ⟨rows, -, h⟩ := except_bind_eq_error.mp h
  case inl => exact not_isColumnError_of_admittedRows h he
  case inr => contradiction

theorem executeSimple_columnError (h : executeSimple p s f source = .error e) :
    executeSimple p s f other = .error e := by
  refine except_bind_error_mono h fun (columns, positions) h => ?_
  exact absurd h (scan_ne_columnError he)

theorem executeSorted_columnError (h : executeSorted p s f source = .error e) :
    executeSorted p s f other = .error e := by
  refine except_bind_error_mono h fun (columns, positions) h => ?_
  refine except_bind_error_mono h fun keys h => ?_
  refine except_bind_error_mono h fun bound h => ?_
  exact absurd h (scan_ne_columnError he)

end Executors

namespace Plan

variable {p : Plan} {s : Schema} {source : Source} {session : Session} {e : QueryError}

-- The plan reads its rows before it looks at the columns that it groups by, shows or sorts by.
def isGrouped (p : Plan) : Bool :=
  !p.groupBy.isEmpty || !p.aggregates.isEmpty

theorem not_isGrouped_iff : ¬p.isGrouped ↔ p.groupBy = [] ∧ p.aggregates = [] := by
  simp [isGrouped]

theorem executeWith_grouped (hg : p.isGrouped) (hf : Filter.bind p s = .ok f) :
    executeWith p s source = (admittedRows p f source >>= executeGrouped p s) := by
  rw [isGrouped] at hg
  simp only [executeWith, hf, hg, if_true]
  rfl

theorem executeWith_ungrouped_columnError (he : e.isColumnError) (hg : ¬p.isGrouped)
    (hf : Filter.bind p s = .ok f) (h : executeWith p s other = .error e) :
    executeWith p s source = .error e := by
  obtain ⟨hk, ha⟩ := not_isGrouped_iff.mp hg
  by_cases ho : p.orderBy = []
  case pos =>
    rw [executeWith_plain hk ha ho hf] at h ⊢
    exact executeSimple_columnError he h
  case neg =>
    rw [executeWith_sorted hk ha ho hf] at h ⊢
    exact executeSorted_columnError he h

theorem executeWith_grouped_columnError (hg : p.isGrouped) (hf : Filter.bind p s = .ok f)
    (h : executeWith p s source.emptied = .error e) :
    executeWith p s source = .error (((source.fault? p.source).map .source).getD e) := by
  have hr : source.emptied.rows p.source = .ok (([] : List Row).map .ok) := rfl
  rw [executeWith_grouped hg hf, admittedRows_of_rows hr] at h
  rw [executeWith_grouped hg hf]
  cases hr : source.fault? p.source
  case none =>
    obtain ⟨rows, hr⟩ := exists_admittedRows_of_fault? (f := f) hr
    rw [hr]
    exact executeGrouped_error_congr h rows
  case some fault =>
    rw [admittedRows_eq_error_of_fault? hr]
    rfl

-- The rows hide a fault of the plan.
def isHidden (p : Plan) (s : Schema) (source : Source) : Prop :=
  p.isGrouped ∧ (∀ field ∈ p.filterFields, field ∈ s.headers) ∧ (source.fault? p.source).isSome

theorem executeWith_of_not_isHidden (he : e.isColumnError) (hn : ¬p.isHidden s source)
    (h : executeWith p s source.emptied = .error e) : executeWith p s source = .error e := by
  cases hm : s.missing? p.filterFields
  case some field =>
    rw [executeWith_eq_error (filter_eq_error hm)] at h ⊢
    exact h
  case none =>
    obtain ⟨f, hf⟩ := exists_filter hm
    by_cases hg : p.isGrouped
    case neg => exact executeWith_ungrouped_columnError he hg hf h
    case pos =>
      have hr : source.fault? p.source = none := by
        have hh := fun hr => hn ⟨hg, fun _ => Schema.mem_headers_of_missing hm, hr⟩
        simpa using hh
      rw [executeWith_grouped_columnError hg hf h, hr]
      rfl

theorem executeWith_of_isHidden (hh : p.isHidden s source)
    (h : executeWith p s source.emptied = .error e) :
    ∃ fault, source.fault? p.source = some fault ∧
      executeWith p s source = .error (.source fault) := by
  obtain ⟨hg, hm, hr⟩ := hh
  obtain ⟨fault, hr⟩ := Option.isSome_iff_exists.mp hr
  have hm : s.missing? p.filterFields = none := by simpa [Schema.missing?] using hm
  obtain ⟨f, hf⟩ := exists_filter hm
  exact ⟨fault, hr, by rw [executeWith_grouped_columnError hg hf h, hr]; rfl⟩

-- What a plan at fault reports is its fault whatever the rows are, unless they hide it.
theorem executePlan_columnError (hs : (session.cache.get p.source source).1 = .ok s)
    (he : e.isColumnError) (h : (session.executePlan p source.emptied).1 = .error e) :
    ((session.executePlan p source).1 = .error e ↔ ¬p.isHidden s source) ∧
    (p.isHidden s source → ∃ fault, source.fault? p.source = some fault ∧
      (session.executePlan p source).1 = .error (.source fault)) := by
  have hm : session.settings.mode.allows p.kind := by
    by_contra hm
    rw [Session.executePlan, if_neg hm] at h
    injection h with h
    simp [← h, QueryError.isColumnError] at he
  have hs' : (session.cache.get p.source source.emptied).1 = .ok s := hs
  rw [executePlan_eq hm hs'] at h
  rw [executePlan_eq hm hs]
  refine ⟨⟨fun hw hh => ?_, fun hn => executeWith_of_not_isHidden he hn h⟩,
    fun hh => executeWith_of_isHidden hh h⟩
  obtain ⟨fault, -, hf⟩ := executeWith_of_isHidden hh h
  rw [hw] at hf
  injection hf with hf
  simp [hf, QueryError.isColumnError] at he

-- The selected column is neither a group field nor inside of an aggregate.
def runsPerTeam : Plan :=
  { runsByTeam with projection := .fields [['b']], aggregates := [] }

theorem executePlan_columnError_teams :
    (Session.executePlan {} runsPerTeam teams.emptied).1 = .error (.ungroupedField ['b']) ∧
    ¬runsPerTeam.isHidden teamSchema teams ∧
    (Session.executePlan {} runsPerTeam teams).1 = .error (.ungroupedField ['b']) := by
  have hs : (({} : Session).cache.get runsPerTeam.source teams).1 = .ok teamSchema := rfl
  have h : (Session.executePlan {} runsPerTeam teams.emptied).1 = .error (.ungroupedField ['b']) := by
    decide
  have hn : ¬runsPerTeam.isHidden teamSchema teams := fun hh => absurd hh.right.right (by decide)
  exact ⟨h, hn, (executePlan_columnError hs rfl h).left.mpr hn⟩

-- The teams after an edit: the second row has lost a cell.
def brokenTeams : Source :=
  { teams with rows := fun _ => .ok [.ok [['x'], ['1']], .error (.rowArity 3 2 1)] }

theorem executePlan_hides_brokenTeams :
    (Session.executePlan {} runsPerTeam brokenTeams.emptied).1 = .error (.ungroupedField ['b']) ∧
    (Session.executePlan {} runsPerTeam brokenTeams).1 = .error (.source (.rowArity 3 2 1)) := by
  decide

end Plan
end FlatQuery
