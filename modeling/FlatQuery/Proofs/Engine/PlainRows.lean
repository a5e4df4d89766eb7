import FlatQuery.Engine.Session
import FlatQuery.Proofs.Engine.Groups
import FlatQuery.Proofs.Engine.Merging

namespace FlatQuery

namespace Schema

variable {s : Schema} {field : Text} {fields : List Text}

-- The first of the fields that is no column.
def missing? (s : Schema) (fields : List Text) : Option Text :=
  fields.find? (· ∉ s.headers)

theorem position?_eq_none_iff : s.position? field = none ↔ field ∉ s.headers := by
  simp only [position?, List.findIdx?_eq_none_iff, beq_eq_false_iff_ne]
  exact ⟨fun h hm => h _ hm rfl, fun h _ hm he => h (he ▸ hm)⟩

theorem resolve_eq_error (h : field ∉ s.headers) :
    s.resolve field = .error (.unresolvedField field) := by
  simp [resolve, position?_eq_none_iff.mpr h]

theorem exists_resolve (h : field ∈ s.headers) : ∃ position, s.resolve field = .ok position := by
  cases hp : s.position? field
  case none => exact absurd h (position?_eq_none_iff.mp hp)
  case some position => exact ⟨position, by simp [resolve, hp]⟩

theorem mem_headers_of_missing (h : s.missing? fields = none) (hf : field ∈ fields) :
    field ∈ s.headers := by
  simpa using List.find?_eq_none.mp h field hf

-- Steps that resolve a field each fail like the first field that is no column.
theorem mapM_eq_error_of_missing {name : α → Text} {f : α → Except QueryError β} {xs : List α}
    (hok : ∀ x, name x ∈ s.headers → ∃ b, f x = .ok b)
    (herr : ∀ x, name x ∉ s.headers → f x = .error (.unresolvedField (name x)))
    (h : s.missing? (xs.map name) = some field) : xs.mapM f = .error (.unresolvedField field) := by
  obtain ⟨hn, as, bs, hxs, has⟩ := List.find?_eq_some_iff_append.mp h
  obtain ⟨as, ys, rfl, rfl, hys⟩ := List.map_eq_append_iff.mp hxs
  obtain ⟨x, ys, rfl, rfl, -⟩ := List.map_eq_cons_iff.mp hys
  refine mapM_eq_error (fun a ha => hok a ?_) (herr x (by simpa using hn))
  simpa using has (name a) (List.mem_map_of_mem ha)

end Schema

-- The condition holds for the cell of its column. A missing cell satisfies no condition.
def Predicate.holds (s : Schema) (q : Predicate) (r : Row) : Bool :=
  (((s.position? q.field).bind (r[·]?)).any fun cell =>
    (s.typeOf q.field).satisfies q.operator cell q.literal) != q.negated

namespace Plan

variable {p : Plan} {s : Schema} {r : Row} {f : Filter}

def filterFields (p : Plan) : List Text :=
  p.predicates.map (·.field)

-- The wildcard names no field.
def selectedFields (p : Plan) : List Text :=
  match p.projection with
  | .all => []
  | .fields names => names

def columns (p : Plan) (s : Schema) : List Text :=
  match p.projection with
  | .all => s.headers
  | .fields names => names

def project (p : Plan) (s : Schema) (r : Row) : List Text :=
  match p.projection with
  | .all => (List.range s.width).map fun i => (r.cellAt i).trim
  | .fields names => names.map fun name => (r.cellIn s name).trim

def admits (p : Plan) (s : Schema) (r : Row) : Bool :=
  combine (p.predicates.map (·.holds s r)) p.joiners

theorem length_project : (p.project s r).length = (p.columns s).length := by
  unfold project columns
  split <;> simp [Schema.width]

section Filter

theorem holds_of_bind (h : BoundPredicate.bind s q = .ok b) : b.holds r = q.holds s r := by
  obtain ⟨position, hp, h⟩ := except_bind_eq_ok.mp h
  have hp := resolve_eq_ok hp
  injection h with h
  simp [← h, BoundPredicate.holds, Predicate.holds, hp, Schema.typeOf]

theorem bind_eq_error (h : q.field ∉ s.headers) :
    BoundPredicate.bind s q = .error (.unresolvedField q.field) := by
  rw [BoundPredicate.bind, Schema.resolve_eq_error h]
  rfl

theorem exists_bind (h : q.field ∈ s.headers) : ∃ b, BoundPredicate.bind s q = .ok b := by
  obtain ⟨position, hp⟩ := Schema.exists_resolve h
  exact ⟨_, by rw [BoundPredicate.bind, hp]; rfl⟩

theorem filter_eq_error (h : s.missing? p.filterFields = some field) :
    Filter.bind p s = .error (.unresolvedField field) := by
  have hm : p.predicates.mapM (BoundPredicate.bind s) = .error (.unresolvedField field) :=
    Schema.mapM_eq_error_of_missing (fun _ => exists_bind) (fun _ => bind_eq_error) h
  rw [Filter.bind, hm]
  rfl

theorem exists_filter (h : s.missing? p.filterFields = none) : ∃ f, Filter.bind p s = .ok f := by
  obtain ⟨bs, hbs⟩ : ∃ bs, p.predicates.mapM (BoundPredicate.bind s) = .ok bs :=
    exists_mapM_eq_ok fun q hq =>
      exists_bind (Schema.mem_headers_of_missing h (List.mem_map_of_mem hq))
  exact ⟨_, by rw [Filter.bind, hbs]; rfl⟩

theorem admits_of_bind (h : Filter.bind p s = .ok f) : f.admits = p.admits s := by
  obtain ⟨bs, hbs, h⟩ := except_bind_eq_ok.mp h
  injection h with h
  funext r
  have hr : bs.map (·.holds r) = p.predicates.map (·.holds s r) :=
    map_eq_of_mapM_eq_ok hbs fun q _ b hb => holds_of_bind hb
  rw [Filter.admits, admits, ← h, hr]

end Filter

section Projection

theorem projected_eq_error (h : s.missing? p.selectedFields = some field) :
    p.projected s = .error (.unresolvedField field) := by
  rw [projected]
  cases hp : p.projection
  case all => simp [selectedFields, hp, Schema.missing?] at h
  case fields names =>
    have hn : s.missing? (names.map id) = some field := by simpa [selectedFields, hp] using h
    have hm : names.mapM s.resolve = .error (.unresolvedField field) :=
      Schema.mapM_eq_error_of_missing (fun _ => Schema.exists_resolve)
        (fun _ => Schema.resolve_eq_error) hn
    simp only [hm]
    rfl

theorem exists_projected (h : s.missing? p.selectedFields = none) : ∃ q, p.projected s = .ok q := by
  rw [projected]
  cases hp : p.projection
  case all => exact ⟨_, rfl⟩
  case fields names =>
    rw [selectedFields, hp] at h
    obtain ⟨positions, hm⟩ : ∃ positions, names.mapM s.resolve = .ok positions :=
      exists_mapM_eq_ok fun field hf =>
        Schema.exists_resolve (Schema.mem_headers_of_missing h hf)
    exact ⟨(names, positions), by simp only [hm]; rfl⟩

theorem project_of_projected (h : p.projected s = .ok (names, positions)) :
    names = p.columns s ∧ Row.project positions = p.project s := by
  rw [projected] at h
  cases hp : p.projection
  case all =>
    simp only [hp, Except.ok.injEq, Prod.mk.injEq] at h
    obtain ⟨rfl, rfl⟩ := h
    exact ⟨by simp [columns, hp], funext fun r => by simp [project, hp, Row.project]⟩
  case fields names' =>
    simp only [hp] at h
    obtain ⟨positions', hm, h⟩ := except_bind_eq_ok.mp h
    simp only [pure, Except.pure, Except.ok.injEq, Prod.mk.injEq] at h
    obtain ⟨rfl, rfl⟩ := h
    refine ⟨by simp [columns, hp], funext fun r => ?_⟩
    simp only [project, hp, Row.project]
    refine map_eq_of_mapM_eq_ok hm fun field _ position hr => ?_
    simp [Row.cellIn, resolve_eq_ok hr]

end Projection

section Rows

variable {source : Source}

theorem admittedRows_of_closed (h : source.rows p.source = .error e) :
    admittedRows p f source = .error (.source e) := by
  simp [admittedRows, h, Except.mapError, bind, Except.bind]

theorem admittedRows_of_fault {read : List Row} {rest : RowStream}
    (h : source.rows p.source = .ok (read.map .ok ++ .error e :: rest)) :
    admittedRows p f source = .error (.source e) := by
  have hm : (read.map Except.ok ++ (Except.error e : Except SourceError Row) :: rest).mapM id =
      (.error e : Except SourceError (List Row)) :=
    mapM_eq_error (by simp) rfl
  simp [admittedRows, h, RowStream.readAll, hm, Except.mapError, bind, Except.bind]

theorem admittedRows_of_rows {rows : List Row} (h : source.rows p.source = .ok (rows.map .ok)) :
    admittedRows p f source = .ok (rows.filter f.admits) := by
  have hm : (rows.map Except.ok).mapM id = (.ok (rows.map id) : Except SourceError (List Row)) :=
    mapM_map_eq_ok fun _ _ => rfl
  rw [List.map_id] at hm
  simp [admittedRows, h, RowStream.readAll, hm, Except.mapError, bind, Except.bind, pure, Except.pure]

end Rows

section Session

variable {session : Session} {source : Source}

-- A session that may run the plan runs it on the columns that it holds or is given.
theorem executePlan_eq (hk : session.settings.mode.allows p.kind)
    (hs : (session.cache.get p.source source).1 = .ok s) :
    (session.executePlan p source).1 = executeWith p s source := by
  rw [Session.executePlan, if_pos hk]
  generalize session.cache.get p.source source = got at hs
  obtain ⟨_, cache⟩ := got
  subst hs
  rfl

end Session

section Plain

variable {source : Source} {rows : List Row}

theorem executeWith_eq_error (h : Filter.bind p s = .error e) :
    executeWith p s source = .error e := by
  simp [executeWith, h, bind, Except.bind]

theorem executeWith_plain (hg : p.groupBy = []) (ha : p.aggregates = []) (ho : p.orderBy = [])
    (hf : Filter.bind p s = .ok f) : executeWith p s source = executeSimple p s f source := by
  simp [executeWith, hf, hg, ha, ho, bind, Except.bind]

theorem executeSimple_eq_error (h : p.projected s = .error e) :
    executeSimple p s f source = .error e := by
  simp [executeSimple, h, bind, Except.bind]

-- With its columns in hand a plain query goes wrong with its rows, or not at all.
theorem executeSimple_of_projected (h : s.missing? p.selectedFields = none) :
    executeSimple p s f source =
      (admittedRows p f source).map fun rows => ⟨p.columns s, rows.map (p.project s)⟩ := by
  obtain ⟨⟨names, positions⟩, hq⟩ := exists_projected h
  obtain ⟨rfl, hp⟩ := project_of_projected hq
  cases hr : admittedRows p f source <;>
    simp [executeSimple, hq, hr, hp, bind, Except.bind, pure, Except.pure, Except.map]

theorem executeWith_of_rows (hg : p.groupBy = []) (ha : p.aggregates = []) (ho : p.orderBy = [])
    (hf : Filter.bind p s = .ok f) (h : s.missing? p.selectedFields = none)
    (hr : source.rows p.source = .ok (rows.map .ok)) :
    executeWith p s source = .ok ⟨p.columns s, (rows.filter (p.admits s)).map (p.project s)⟩ := by
  rw [executeWith_plain hg ha ho hf, executeSimple_of_projected h, admittedRows_of_rows hr,
    admits_of_bind hf]
  rfl

-- The conditions between two `or`s are one run. Joiners are counted without the `not`s.
theorem admits_of_balanced (hp : p.predicates = q :: qs) (hl : p.joiners.length = qs.length) :
    p.admits s r = anyRun (q.holds s r) (p.joiners.zip (qs.map (·.holds s r))) := by
  have hj : p.joiners.filter (·.isBinary) = p.joiners := by simp [joiners]
  have hc : (qs.map (·.holds s r)).length ≤ (p.joiners.filter (·.isBinary)).length := by
    simp [hj, hl]
  rw [admits, hp, List.map_cons, combine_eq_any_run hc, hj]

theorem admits_of_nil (hp : p.predicates = []) : p.admits s r := by
  simp [admits, hp, combine, mergeWith]

end Plain

theorem holds_of_missing_cell {q : Predicate} (hp : s.position? q.field = some i)
    (hl : r.length ≤ i) : q.holds s r = q.negated := by
  simp [Predicate.holds, hp, hl]

theorem cellIn_of_missing_cell (hp : s.position? field = some i) (hl : r.length ≤ i) :
    r.cellIn s field = [] := by
  simp [Row.cellIn, hp, Row.cellAt, hl]

-- What a plain query shows, or why it fails.
theorem executePlan_plain {session : Session} {source : Source}
    (hk : session.settings.mode.allows p.kind)
    (hg : p.groupBy = []) (ha : p.aggregates = []) (ho : p.orderBy = [])
    (hs : (session.cache.get p.source source).1 = .ok s) :
    (∀ field, s.missing? p.filterFields = some field →
      (session.executePlan p source).1 = .error (.unresolvedField field)) ∧
    (∀ field, s.missing? p.filterFields = none → s.missing? p.selectedFields = some field →
      (session.executePlan p source).1 = .error (.unresolvedField field)) ∧
    (s.missing? p.filterFields = none → s.missing? p.selectedFields = none →
      (∀ e, source.rows p.source = .error e →
        (session.executePlan p source).1 = .error (.source e)) ∧
      (∀ (read : List Row) e rest,
        source.rows p.source = .ok (read.map .ok ++ .error e :: rest) →
        (session.executePlan p source).1 = .error (.source e)) ∧
      ∀ rows : List Row, source.rows p.source = .ok (rows.map .ok) →
        (session.executePlan p source).1 =
          .ok ⟨p.columns s, (rows.filter (p.admits s)).map (p.project s)⟩) ∧
    (∀ r, (p.predicates = [] → p.admits s r) ∧
      ∀ q qs, p.predicates = q :: qs → p.joiners.length = qs.length →
        p.admits s r = anyRun (q.holds s r) (p.joiners.zip (qs.map (·.holds s r)))) ∧
    (∀ (q : Predicate) i r, s.position? q.field = some i → r.length ≤ i → q.holds s r = q.negated) ∧
    (∀ field i (r : Row), s.position? field = some i → r.length ≤ i → r.cellIn s field = []) ∧
    ∀ r, (p.project s r).length = (p.columns s).length := by
  rw [executePlan_eq hk hs]
  refine ⟨?filter, ?projection, ?rows, fun r => ⟨admits_of_nil, fun _ _ => admits_of_balanced⟩,
    fun _ _ _ => holds_of_missing_cell, fun _ _ _ => cellIn_of_missing_cell,
    fun _ => length_project⟩
  case filter => exact fun field h => executeWith_eq_error (filter_eq_error h)
  case projection =>
    intro field hn h
    obtain ⟨f, hf⟩ := exists_filter hn
    rw [executeWith_plain hg ha ho hf]
    exact executeSimple_eq_error (projected_eq_error h)
  case rows =>
    intro hn h
    obtain ⟨f, hf⟩ := exists_filter hn
    have he : executeWith p s source = executeSimple p s f source := executeWith_plain hg ha ho hf
    rw [executeSimple_of_projected h] at he
    refine ⟨fun e hr => ?closed, fun read e rest hr => ?fault, fun rows hr => ?rows⟩
    case closed => rw [he, admittedRows_of_closed hr]; rfl
    case fault => rw [he, admittedRows_of_fault hr]; rfl
    case rows => exact executeWith_of_rows hg ha ho hf h hr

-- Of the rows one is too short for the column `b`, and one too long for the table.
def highRuns : Plan where
  rawText := []
  source := ['t']
  baseQuery := []
  projection := .fields [['b'], ['a']]
  predicates := [⟨['b'], .gt, ['1'], false⟩, ⟨['a'], .eq, ['x'], true⟩]
  connectives := [.or, .not]
  aggregates := []
  groupBy := []
  orderBy := []
  kind := .simple

def teams : Source :=
  Tables.source [(['t'], ⟨teamSchema, teamRows⟩)]

theorem executePlan_plain_teams :
    (({} : Session).cache.get highRuns.source teams).1 = .ok teamSchema ∧
    teams.rows highRuns.source = .ok (teamRows.map .ok) ∧
    (Session.executePlan {} highRuns teams).1 =
      .ok ⟨highRuns.columns teamSchema, [[[], ['y']], [['2'], ['x']]]⟩ := by
  have hk : ({} : Session).settings.mode.allows highRuns.kind := rfl
  have hs : (({} : Session).cache.get highRuns.source teams).1 = .ok teamSchema := rfl
  have hm := executePlan_plain hk rfl rfl rfl hs
  have hr := (hm.right.right.left (by decide) (by decide)).right.right teamRows rfl
  have hrows : (teamRows.filter (highRuns.admits teamSchema)).map (highRuns.project teamSchema) =
      [[[], ['y']], [['2'], ['x']]] := by decide
  exact ⟨rfl, rfl, by rw [hr, hrows]⟩

end Plan
end FlatQuery
