import FlatQuery.Engine.Execution

namespace FlatQuery

-- The columns of the source used last, and how often columns were asked for. Queries against one
-- source in a row ask for them once.
structure SchemaCache where
  current : Option (Text × Schema) := none
  loads : Nat := 0
  deriving DecidableEq, Repr

namespace SchemaCache

def sourceName? (c : SchemaCache) : Option Text :=
  c.current.map (·.1)

def invalidate (c : SchemaCache) : SchemaCache :=
  { c with current := none }

-- Asks the source and replaces what is held, unless the source refuses.
def load (c : SchemaCache) (name : Text) (source : Source) :
    Except SourceError Schema × SchemaCache :=
  match source.schema name with
  | .ok s => (.ok s, ⟨some (name, s), c.loads + 1⟩)
  | .error e => (.error e, c)

def get (c : SchemaCache) (name : Text) (source : Source) :
    Except SourceError Schema × SchemaCache :=
  match c.current with
  | some (held, s) => if held = name then (.ok s, c) else c.load name source
  | none => c.load name source

def evaluate (c : SchemaCache) (p : Plan) (r : Row) (source : Source) :
    Except QueryError Bool × SchemaCache :=
  match c.get p.source source with
  | (.error e, c) => (.error (.source e), c)
  | (.ok s, c) => ((Filter.bind p s).map (·.admits r), c)

end SchemaCache

structure Session where
  settings : Settings := {}
  cache : SchemaCache := {}
  deriving DecidableEq, Repr

namespace Session

def parse (s : Session) (raw : Text) : Except ParseError Plan :=
  Plan.parse s.settings raw

def executePlan (s : Session) (p : Plan) (source : Source) :
    Except QueryError ResultSet × Session :=
  if s.settings.mode.allows p.kind then
    match s.cache.get p.source source with
    | (.error e, cache) => (.error (.source e), { s with cache })
    | (.ok schema, cache) => (executeWith p schema source, { s with cache })
  else
    (.error (.unsupportedKind p.kind), s)

-- Runs a query. Nothing is asked of the source if the query has no plan.
def execute (s : Session) (raw : Text) (source : Source) :
    Except QueryError ResultSet × Session :=
  match s.parse raw with
  | .error e => (.error (.parse e), s)
  | .ok p => s.executePlan p source

end Session
end FlatQuery
