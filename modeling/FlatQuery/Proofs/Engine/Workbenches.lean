import FlatQuery.Proofs.Engine.Sessions

namespace FlatQuery

namespace Tables

variable {ts : Tables} {schema : Schema} {rows : List Row} {name other : Text} {table : Table}

theorem arityFault?_eq_none_iff :
    arityFault? schema.width rows = none ↔ ∀ r ∈ rows, r.length = schema.width := by
  simp [arityFault?]

-- Only a table without gaps is put in, in front of the tables of other names.
theorem insert_eq_ok_iff {ts' : Tables} : ts.insert name schema rows = .ok ts' ↔
    (∀ r ∈ rows, r.length = schema.width) ∧
      ts' = (name, ⟨schema, rows⟩) :: ts.filter (·.1 != name) := by
  rw [insert, ← arityFault?_eq_none_iff]
  cases arityFault? schema.width rows
  case none => simp [eq_comm]
  case some => simp

theorem find?_filter (h : other ≠ name) :
    find? (ts.filter (·.1 != name)) other = ts.find? other := by
  induction ts
  case nil => rfl
  case cons entry ts hi =>
    obtain ⟨held, table⟩ := entry
    by_cases hn : held = name
    case pos =>
      subst hn
      rw [List.filter_cons_of_neg (by simp), hi, find?, find?, List.lookup_cons,
        beq_false_of_ne h]
    case neg =>
      rw [find?] at hi
      rw [List.filter_cons_of_pos (by simpa using hn), find?, List.lookup_cons, hi, find?, find?,
        List.lookup_cons]

theorem find?_cons_filter : find? ((name, table) :: ts.filter (·.1 != name)) other =
    if other = name then some table else ts.find? other := by
  by_cases h : other = name
  case pos => simp [find?, h]
  case neg =>
    rw [if_neg h, find?, List.lookup_cons, beq_false_of_ne h]
    exact find?_filter h

theorem schema_source : ts.source.schema name = match ts.find? name with
    | some table => .ok table.schema
    | none => .error (.unknownSource name) := by
  simp only [source, get]
  cases ts.find? name <;> rfl

end Tables

namespace SchemaCache

variable {c : SchemaCache} {ts : Tables}

-- Columns that are held are not asked for, and those of a table that is not there are not got.
theorem get_tables : (c.get name ts.source).2 = if c.sourceName? = some name then c else
    match ts.find? name with
    | some table => ⟨some (name, table.schema), c.loads + 1⟩
    | none => c := by
  have hl : (c.load name ts.source).2 = match ts.find? name with
      | some table => ⟨some (name, table.schema), c.loads + 1⟩
      | none => c := by
    rw [load, Tables.schema_source]
    cases ts.find? name <;> rfl
  rw [get, sourceName?, ← hl]
  cases c.current
  case none => rfl
  case some held => simp only [Option.map_some, Option.some.injEq]; split <;> rfl

end SchemaCache

-- A session and the tables that it works on.
structure Workbench where
  session : Session := {}
  tables : Tables := []
  deriving DecidableEq, Repr

inductive Job
  | step (step : Session.Step)
  | insert (name : Text) (schema : Schema) (rows : List Row)
  deriving DecidableEq, Repr

namespace Session

variable {s : Session} {source : Source}

-- The plan of a step, if there is one and the mode lets it run.
def plan? (s : Session) : Step → Option Plan
  | .execute raw => (s.parse raw).toOption.filter fun p => s.settings.mode.allows p.kind
  | .executePlan p => (some p).filter fun p => s.settings.mode.allows p.kind
  | .parse _ => none

theorem settings_take : (s.take (source, step)).2.settings = s.settings := by
  have hp (p : Plan) : (s.executePlan p source).2.settings = s.settings := by
    rw [executePlan]
    split
    case isFalse => rfl
    case isTrue => split <;> rfl
  cases step
  case parse => rfl
  case executePlan p => exact hp p
  case execute raw =>
    show (s.execute raw source).2.settings = _
    rw [execute]
    cases s.parse raw
    case error => rfl
    case ok p => exact hp p

theorem cache_executePlan {p : Plan} : (s.executePlan p source).2.cache =
    if s.settings.mode.allows p.kind then (s.cache.get p.source source).2 else s.cache := by
  rw [executePlan]
  split
  case isFalse => rfl
  case isTrue => split <;> simp [*]

theorem cache_take : (s.take (source, step)).2.cache = match s.plan? step with
    | some p => (s.cache.get p.source source).2
    | none => s.cache := by
  cases step
  case parse => rfl
  case executePlan p =>
    refine cache_executePlan.trans ?_
    rw [plan?, Option.filter_some]
    split <;> rfl
  case execute raw =>
    show (s.execute raw source).2.cache = _
    rw [execute, plan?]
    cases s.parse raw
    case error => rfl
    case ok p =>
      refine cache_executePlan.trans ?_
      rw [Except.toOption, Option.filter_some]
      split <;> rfl

end Session

namespace Workbench

variable {w : Workbench} {job : Job} {jobs : List Job}

def take (w : Workbench) : Job → Workbench
  | .step step => { w with session := (w.session.take (w.tables.source, step)).2 }
  | .insert name schema rows =>
    { w with tables := (w.tables.insert name schema rows).toOption.getD w.tables }

def run (w : Workbench) (jobs : List Job) : Workbench :=
  jobs.foldl take w

-- The table that a job puts in, if it is not refused.
def put? (w : Workbench) : Job → Option (Text × Table)
  | .step _ => none
  | .insert name schema rows =>
    if (w.tables.insert name schema rows).isOk then some (name, ⟨schema, rows⟩) else none

-- There is a table of this name, or its columns are held.
def Knows (w : Workbench) (name : Text) : Prop :=
  (w.tables.find? name).isSome ∨ w.session.cache.sourceName? = some name

instance (w : Workbench) (name : Text) : Decidable (w.Knows name) :=
  inferInstanceAs (Decidable (_ ∨ _))

-- The source whose columns a job gets, whatever becomes of the job after that.
def use? (w : Workbench) : Job → Option Text
  | .step step => ((w.session.plan? step).map (·.source)).filter fun name => w.Knows name
  | .insert .. => none

-- What the jobs of a run yield, each where its turn comes.
def yields (f : Workbench → Job → Option α) (w : Workbench) : List Job → List α
  | [] => []
  | job :: jobs => (f w job).toList ++ (w.take job).yields f jobs

section Inserts

theorem tables_take : (w.take job).tables = match w.put? job with
    | some (name, table) => (name, table) :: w.tables.filter (·.1 != name)
    | none => w.tables := by
  cases job
  case step => rfl
  case insert name schema rows =>
    rw [take, put?]
    cases h : w.tables.insert name schema rows
    case error => rfl
    case ok ts' => exact (Tables.insert_eq_ok_iff.mp h).right

theorem find?_take : (w.take job).tables.find? name =
    ((w.put? job).toList.lookup name).or (w.tables.find? name) := by
  rw [tables_take]
  cases w.put? job
  case none => rfl
  case some entry =>
    obtain ⟨name', table⟩ := entry
    rw [Tables.find?_cons_filter, Option.toList_some, List.lookup_cons]
    split
    case isTrue h => simp [h]
    case isFalse h => simp [beq_false_of_ne h]

theorem full_put? (h : w.put? job = some (name, table)) :
    ∀ r ∈ table.rows, r.length = table.schema.width := by
  cases job
  case step => contradiction
  case insert =>
    rw [put?] at h
    split at h
    case isFalse => contradiction
    case isTrue hk =>
      obtain ⟨_, hk⟩ := exists_of_isOk hk
      obtain ⟨-, rfl⟩ := Prod.mk.inj (Option.some.inj h)
      exact (Tables.insert_eq_ok_iff.mp hk).left

-- The latest table of a name hides what was there.
theorem find?_run : (w.run jobs).tables.find? name =
    ((w.yields put? jobs).reverse.lookup name).or (w.tables.find? name) := by
  induction jobs generalizing w
  case nil => rfl
  case cons job jobs hi =>
    have hr : ((w.put? job).toList).reverse = (w.put? job).toList := by cases w.put? job <;> rfl
    rw [run, List.foldl_cons, ← run, hi, find?_take, yields, List.reverse_append,
      List.lookup_append, hr, Option.or_assoc]

theorem full_yields (h : (name, table) ∈ w.yields put? jobs) :
    ∀ r ∈ table.rows, r.length = table.schema.width := by
  induction jobs generalizing w
  case nil => contradiction
  case cons job jobs hi =>
    obtain h | h := List.mem_append.mp h
    case inl => exact full_put? (Option.mem_toList.mp h)
    case inr => exact hi h

end Inserts

section Uses

-- How often a name differs from the one before it.
def switches (prev : Option Text) : List Text → Nat
  | [] => 0
  | name :: names => (if prev = some name then 0 else 1) + switches (some name) names

-- All that a job can do to what is held: nothing, unless it uses a source that is not held.
theorem cache_take_cases (w : Workbench) (job : Job) :
    w.use? job = none ∧ (w.take job).session.cache = w.session.cache ∨
    ∃ name, w.use? job = some name ∧
      (w.session.cache.sourceName? = some name ∧ (w.take job).session.cache = w.session.cache ∨
        w.session.cache.sourceName? ≠ some name ∧ ∃ schema,
          (w.take job).session.cache = ⟨some (name, schema), w.session.cache.loads + 1⟩) := by
  cases job
  case insert => exact .inl ⟨rfl, rfl⟩
  case step step =>
    rw [take, use?, Session.cache_take]
    cases w.session.plan? step
    case none => exact .inl ⟨rfl, rfl⟩
    case some p =>
      simp only [Option.map_some, Option.filter_some, SchemaCache.get_tables]
      by_cases hh : w.session.cache.sourceName? = some p.source
      case pos => exact .inr ⟨p.source, by simp [Knows, hh], .inl ⟨hh, if_pos hh⟩⟩
      case neg =>
        rw [if_neg hh]
        cases ht : w.tables.find? p.source
        case none => exact .inl ⟨by simp [Knows, hh, ht], rfl⟩
        case some table => exact .inr ⟨p.source, by simp [Knows, ht], .inr ⟨hh, _, rfl⟩⟩

theorem sourceName?_take : (w.take job).session.cache.sourceName? =
    (w.use? job).or w.session.cache.sourceName? := by
  obtain ⟨hu, hc⟩ | ⟨name, hu, ⟨hh, hc⟩ | ⟨-, schema, hc⟩⟩ := w.cache_take_cases job
  · rw [hu, hc, Option.none_or]
  · rw [hu, hc, hh, Option.some_or]
  · rw [hu, hc, Option.some_or]; rfl

theorem loads_take : (w.take job).session.cache.loads = w.session.cache.loads +
    switches w.session.cache.sourceName? (w.use? job).toList := by
  obtain ⟨hu, hc⟩ | ⟨name, hu, ⟨hh, hc⟩ | ⟨hh, schema, hc⟩⟩ := w.cache_take_cases job
  · rw [hu, hc]; rfl
  · rw [hu, hc, hh]; simp [switches]
  · rw [hu, hc]; simp [switches, hh]

theorem getLast?_toList {o : Option α} : o.toList.getLast? = o := by
  cases o <;> rfl

theorem switches_append : switches prev (names ++ later) =
    switches prev names + switches (names.getLast?.or prev) later := by
  induction names generalizing prev
  case nil => simp [switches]
  case cons name names hi =>
    rw [List.cons_append, switches, hi, switches, List.getLast?_cons, Nat.add_assoc]
    cases names.getLast? <;> rfl

theorem sourceName?_run : (w.run jobs).session.cache.sourceName? =
    (w.yields use? jobs).getLast?.or w.session.cache.sourceName? := by
  induction jobs generalizing w
  case nil => rfl
  case cons job jobs hi =>
    rw [run, List.foldl_cons, ← run, hi, sourceName?_take, yields, List.getLast?_append,
      getLast?_toList, Option.or_assoc]

theorem loads_run : (w.run jobs).session.cache.loads = w.session.cache.loads +
    switches w.session.cache.sourceName? (w.yields use? jobs) := by
  induction jobs generalizing w
  case nil => rfl
  case cons job jobs hi =>
    rw [run, List.foldl_cons, ← run, hi, loads_take, sourceName?_take, yields, switches_append,
      getLast?_toList, Nat.add_assoc]

end Uses

theorem settings_run : (w.run jobs).session.settings = w.session.settings := by
  induction jobs generalizing w
  case nil => rfl
  case cons job jobs hi =>
    rw [run, List.foldl_cons, ← run, hi]
    cases job
    case step => exact Session.settings_take
    case insert => rfl

-- What there is in a workbench after these tables were put in and these sources were used.
structure Accounts (w : Workbench) (puts : List (Text × Table)) (uses : List Text) : Prop where
  full  : ∀ name table, w.tables.find? name = some table →
            ∀ r ∈ table.rows, r.length = table.schema.width
  last  : ∀ name, w.tables.find? name = puts.reverse.lookup name
  held  : w.session.cache.sourceName? = uses.getLast?
  loads : w.session.cache.loads = switches none uses

-- A job that puts nothing in leaves the tables, and one that uses nothing leaves what is held.
structure Idle (w : Workbench) (job : Job) : Prop where
  tables : w.put? job = none → (w.take job).tables = w.tables
  cache  : w.use? job = none → (w.take job).session.cache = w.session.cache

theorem idle : w.Idle job where
  tables h := by rw [tables_take, h]
  cache h := by
    obtain ⟨-, hc⟩ | ⟨name, hu, -⟩ := w.cache_take_cases job
    case inl => exact hc
    case inr => rw [h] at hu; contradiction

-- However the steps end, and whatever is put in between them, the tables are those of the last
-- inserts, and the columns held are those of the last source that was used.
theorem accounts_run (settings : Settings) (jobs : List Job) (job : Job) :
    Accounts (run { session := { settings } } jobs)
      (yields put? { session := { settings } } jobs)
      (yields use? { session := { settings } } jobs) ∧
    (run { session := { settings } } jobs).session.settings = settings ∧
    Idle (run { session := { settings } } jobs) job := by
  have hl (name) : (run { session := { settings } } jobs).tables.find? name =
      (yields put? { session := { settings } } jobs).reverse.lookup name :=
    find?_run.trans (Option.or_none ..)
  refine ⟨{ full := ?full, last := hl, held := ?held, loads := ?loads }, settings_run, idle⟩
  case full =>
    intro name table h
    obtain ⟨before, after, hp, -⟩ := List.lookup_eq_some_iff.mp ((hl name).symm.trans h)
    have hm : (name, table) ∈ (yields put? { session := { settings } } jobs).reverse := by
      simp [hp]
    exact full_yields (List.mem_reverse.mp hm)
  case held => exact sourceName?_run.trans (Option.or_none ..)
  case loads => exact loads_run.trans (Nat.zero_add _)

end Workbench
end FlatQuery
