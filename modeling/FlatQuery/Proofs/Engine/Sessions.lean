import FlatQuery.Engine.Session
import FlatQuery.Proofs.Engine.PlainRows

namespace FlatQuery

-- The answers to inputs one after the other, each given in the state that the one before leaves.
def answers (step : σ → ι → ω × σ) (s : σ) : List ι → List ω
  | [] => []
  | i :: is => (step s i).1 :: answers step (step s i).2 is

-- An invariant that fixes every answer fixes those of a whole run.
theorem answers_eq_map {step : σ → ι → ω × σ} (inv : σ → Prop) {fresh : ι → ω} (hs : inv s)
    (h : ∀ i ∈ is, ∀ s, inv s → (step s i).1 = fresh i ∧ inv (step s i).2) :
    answers step s is = is.map fresh := by
  induction is generalizing s
  case nil => rfl
  case cons i is hi =>
    obtain ⟨hstep, hrest⟩ := List.forall_mem_cons.mp h
    obtain ⟨ha, hs⟩ := hstep s hs
    rw [answers, List.map_cons, ha, hi hs hrest]

namespace SchemaCache

variable {c : SchemaCache} {source : Source} {schemas : Text → Except SourceError Schema}

-- What is held is what the source would answer.
def Truthful (c : SchemaCache) (schemas : Text → Except SourceError Schema) : Prop :=
  ∀ name s, c.current = some (name, s) → schemas name = .ok s

theorem truthful_new (schemas : Text → Except SourceError Schema) : Truthful {} schemas := by
  intro name s h
  contradiction

theorem truthful_invalidate : c.invalidate.Truthful schemas := by
  intro name s h
  contradiction

theorem load_fst : (c.load name source).1 = source.schema name := by
  rw [load]
  split
  case h_1 h => exact h.symm
  case h_2 h => exact h.symm

-- Only columns that the source has given are held, and a refusal changes nothing.
theorem Truthful.load (h : c.Truthful source.schema) :
    (c.load name source).2.Truthful source.schema := by
  rw [SchemaCache.load]
  split
  case h_1 s hs =>
    intro name' s' he
    obtain ⟨rfl, rfl⟩ := Prod.mk.inj (Option.some.inj he)
    exact hs
  case h_2 => exact h

theorem Truthful.get (h : c.Truthful source.schema) (name : Text) :
    (c.get name source).1 = source.schema name ∧
      (c.get name source).2.Truthful source.schema := by
  rw [SchemaCache.get]
  split
  case h_2 => exact ⟨load_fst, h.load⟩
  case h_1 held s hc =>
    split
    case isTrue he => exact ⟨he ▸ (h held s hc).symm, h⟩
    case isFalse => exact ⟨load_fst, h.load⟩

-- The verdict on a row, by the columns that the source gives.
def verdict (source : Source) (p : Plan) (r : Row) : Except QueryError Bool :=
  match source.schema p.source with
  | .error e => .error (.source e)
  | .ok s => (Filter.bind p s).map (·.admits r)

theorem Truthful.evaluate (h : c.Truthful source.schema) (p : Plan) (r : Row) :
    (c.evaluate p r source).1 = verdict source p r ∧
      (c.evaluate p r source).2.Truthful source.schema := by
  obtain ⟨hg, ht⟩ := h.get p.source
  rw [SchemaCache.evaluate, verdict, ← hg]
  split
  case h_1 he => exact ⟨by rw [he], by rwa [he] at ht⟩
  case h_2 he => exact ⟨by rw [he], by rwa [he] at ht⟩

-- What may be asked of a cache that is used without a session.
inductive Request
  | schema (name : Text)
  | evaluate (p : Plan) (r : Row)
  | invalidate
  deriving DecidableEq, Repr

inductive Answer
  | schema (outcome : Except SourceError Schema)
  | verdict (outcome : Except QueryError Bool)
  | invalidated
  deriving DecidableEq

-- Answers a request by the source as it is at that time.
def serve (c : SchemaCache) : Source × Request → Answer × SchemaCache
  | (source, .schema name) => (c.get name source).map .schema id
  | (source, .evaluate p r) => (c.evaluate p r source).map .verdict id
  | (_, .invalidate) => (.invalidated, c.invalidate)

-- The cache is not seen in the answer, and stays true to the source.
theorem Truthful.serve {x : Source × Request} (h : c.Truthful schemas) (hx : x.1.schema = schemas) :
    (c.serve x).1 = (serve {} x).1 ∧ (c.serve x).2.Truthful schemas := by
  obtain ⟨source, request⟩ := x
  subst hx
  have hn := truthful_new source.schema
  cases request
  case schema name =>
    have ⟨ha, ht⟩ := h.get name
    exact ⟨congrArg Answer.schema (ha.trans (hn.get name).left.symm), ht⟩
  case evaluate p r =>
    have ⟨ha, ht⟩ := h.evaluate p r
    exact ⟨congrArg Answer.verdict (ha.trans (hn.evaluate p r).left.symm), ht⟩
  case invalidate => exact ⟨rfl, truthful_invalidate⟩

end SchemaCache

namespace Session

variable {s : Session} {settings : Settings} {source : Source}
  {schemas : Text → Except SourceError Schema}

-- The session has these settings, and holds nothing that the source would not answer.
structure Faithful (s : Session) (settings : Settings)
    (schemas : Text → Except SourceError Schema) : Prop where
  settings : s.settings = settings
  cache    : s.cache.Truthful schemas

theorem faithful_new (settings : Settings) (schemas : Text → Except SourceError Schema) :
    Faithful { settings } settings schemas :=
  ⟨rfl, SchemaCache.truthful_new schemas⟩

-- The result of a plan, by the columns that the source gives.
def outcome (settings : Settings) (source : Source) (p : Plan) : Except QueryError ResultSet :=
  if settings.mode.allows p.kind then
    match source.schema p.source with
    | .error e => .error (.source e)
    | .ok s => executeWith p s source
  else
    .error (.unsupportedKind p.kind)

theorem Faithful.executePlan (h : s.Faithful settings source.schema) (p : Plan) :
    (s.executePlan p source).1 = outcome settings source p ∧
      (s.executePlan p source).2.Faithful settings source.schema := by
  have ⟨hg, ht⟩ := h.cache.get p.source
  rw [Session.executePlan, outcome, ← hg, ← h.settings]
  split
  case isFalse => exact ⟨rfl, rfl, h.cache⟩
  case isTrue =>
    split
    case h_1 he => exact ⟨by rw [he], rfl, by rwa [he] at ht⟩
    case h_2 he => exact ⟨by rw [he], rfl, by rwa [he] at ht⟩

-- A query without a plan leaves the session as it is.
theorem Faithful.execute (h : s.Faithful settings source.schema) (raw : Text) :
    (s.execute raw source).1 = ((Plan.parse settings raw).mapError .parse).bind
        (outcome settings source) ∧
      (s.execute raw source).2.Faithful settings source.schema := by
  rw [Session.execute, parse, h.settings]
  cases Plan.parse settings raw
  case error e => exact ⟨rfl, h⟩
  case ok p => exact h.executePlan p

inductive Step
  | execute (raw : Text)
  | executePlan (p : Plan)
  | parse (raw : Text)
  deriving DecidableEq, Repr

inductive Answer
  | result (outcome : Except QueryError ResultSet)
  | plan (outcome : Except ParseError Plan)
  deriving DecidableEq

-- Takes a step over the source as it is at that time.
def take (s : Session) : Source × Step → Answer × Session
  | (source, .execute raw) => (s.execute raw source).map .result id
  | (source, .executePlan p) => (s.executePlan p source).map .result id
  | (_, .parse raw) => (.plan (s.parse raw), s)

-- What was held is not seen in the answer, and what is held now is true to the source again.
theorem Faithful.take {x : Source × Step} (h : s.Faithful settings schemas)
    (hx : x.1.schema = schemas) :
    (s.take x).1 = (take { settings } x).1 ∧ (s.take x).2.Faithful settings schemas := by
  obtain ⟨source, step⟩ := x
  subst hx
  have hn := faithful_new settings source.schema
  cases step
  case execute raw =>
    have ⟨ha, hf⟩ := h.execute raw
    exact ⟨congrArg Answer.result (ha.trans (hn.execute raw).left.symm), hf⟩
  case executePlan p =>
    have ⟨ha, hf⟩ := h.executePlan p
    exact ⟨congrArg Answer.result (ha.trans (hn.executePlan p).left.symm), hf⟩
  case parse raw => exact ⟨by simp [Session.take, parse, h.settings], h⟩

-- While the columns of the source stay the same, its rows may change and steps may fail: no answer
-- shows what was asked before. The same holds of a cache without a session.
theorem answers_eq_fresh (settings : Settings) (steps : List (Source × Step))
    (requests : List (Source × SchemaCache.Request)) (hs : ∀ x ∈ steps, x.1.schema = schemas)
    (hr : ∀ x ∈ requests, x.1.schema = schemas) :
    answers take { settings } steps = steps.map (fun x => (take { settings } x).1) ∧
    answers SchemaCache.serve {} requests = requests.map fun x => (SchemaCache.serve {} x).1 := by
  constructor
  case left =>
    refine answers_eq_map (Faithful · settings schemas) (faithful_new settings schemas) ?_
    exact fun x hx s h => h.take (hs x hx)
  case right =>
    refine answers_eq_map (SchemaCache.Truthful · schemas) (SchemaCache.truthful_new schemas) ?_
    exact fun x hx c h => h.serve (hr x hx)

-- Two tables with the same headers, but other types.
def leagues : Source :=
  Tables.source [(['t'], ⟨Plan.teamSchema, Plan.teamRows⟩),
    (['u'], ⟨⟨[['a'], ['b']], [.integer, .string]⟩, Plan.teamRows⟩)]

-- The tables again, after their rows have been turned round.
def laterLeagues : Source :=
  { leagues with rows := fun name => (leagues.rows name).map List.reverse }

-- From one table to the other and back, with a table that is not there in between.
def leagueSteps : List (Source × Step) :=
  [(leagues, .executePlan Plan.highRuns),
   (leagues, .executePlan { Plan.highRuns with source := ['u'] }),
   (leagues, .executePlan { Plan.highRuns with source := ['v'] }),
   (laterLeagues, .executePlan Plan.highRuns),
   (laterLeagues, .parse [])]

def leagueRequests : List (Source × SchemaCache.Request) :=
  [(leagues, .evaluate Plan.highRuns [['x'], ['1']]),
   (leagues, .evaluate { Plan.highRuns with source := ['u'] } [['x'], ['1']]),
   (leagues, .schema ['v']),
   (laterLeagues, .invalidate),
   (laterLeagues, .evaluate Plan.highRuns [['x'], ['1']])]

theorem answers_eq_fresh_leagues :
    (∀ x ∈ leagueSteps, x.1.schema = leagues.schema) ∧
    (∀ x ∈ leagueRequests, x.1.schema = leagues.schema) ∧
    answers take {} leagueSteps =
      [.result (.ok ⟨[['b'], ['a']], [[[], ['y']], [['2'], ['x']]]⟩),
       .result (.ok ⟨[['b'], ['a']], [[['1'], ['x']], [[], ['y']], [['2'], ['x']]]⟩),
       .result (.error (.source (.unknownSource ['v']))),
       .result (.ok ⟨[['b'], ['a']], [[['2'], ['x']], [[], ['y']]]⟩),
       .plan (.error (.outline (.tooShort 0 15)))] ∧
    answers SchemaCache.serve {} leagueRequests =
      [.verdict (.ok false), .verdict (.ok true), .schema (.error (.unknownSource ['v'])),
       .invalidated, .verdict (.ok false)] := by
  have hs : ∀ x ∈ leagueSteps, x.1.schema = leagues.schema := by
    simp [leagueSteps, laterLeagues]
  have hr : ∀ x ∈ leagueRequests, x.1.schema = leagues.schema := by
    simp [leagueRequests, laterLeagues]
  obtain ⟨ha, hb⟩ := answers_eq_fresh {} leagueSteps leagueRequests hs hr
  rw [ha, hb]
  exact ⟨hs, hr, by decide +kernel, by decide +kernel⟩

end Session
end FlatQuery
