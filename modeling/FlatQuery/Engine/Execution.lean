import FlatQuery.Engine.Grouping

namespace FlatQuery

-- The rows up to the first that cannot be read, which fails the whole stream.
def RowStream.readAll (rows : RowStream) : Except QueryError (List Row) :=
  (rows.mapM id).mapError .source

def admittedRows (p : Plan) (f : Filter) (source : Source) : Except QueryError (List Row) := do
  let rows ← RowStream.readAll (← (source.rows p.source).mapError .source)
  return rows.filter f.admits

namespace Plan

def projected (p : Plan) (s : Schema) : Except QueryError (List Text × List Nat) :=
  match p.projection with
  | .all => .ok (s.headers, List.range s.width)
  | .fields names => do return (names, ← names.mapM s.resolve)

end Plan

def Row.project (positions : List Nat) (r : Row) : List Text :=
  positions.map fun p => (r.cellAt p).trim

structure BoundSortKey where
  position : Nat
  type : ColumnType
  descending : Bool
  deriving DecidableEq, Repr

namespace BoundSortKey

def bind (s : Schema) (k : SortKey) : Except QueryError BoundSortKey := do
  let position ← s.resolve k.field
  return ⟨position, s.typeAt position, k.descending⟩

def order (k : BoundSortKey) (a b : Row) : Ordering :=
  k.type.directedOrder k.descending (a.cellAt k.position) (b.cellAt k.position)

end BoundSortKey

def orderRows (keys : List BoundSortKey) (a b : Row) : Ordering :=
  firstDecided (keys.map (·.order a b))

def executeSimple (p : Plan) (s : Schema) (f : Filter) (source : Source) :
    Except QueryError ResultSet := do
  let (columns, positions) ← p.projected s
  let rows ← admittedRows p f source
  return ⟨columns, rows.map (Row.project positions)⟩

-- Sorts before it projects, since a key may name a column that is not selected.
def executeSorted (p : Plan) (s : Schema) (f : Filter) (source : Source) :
    Except QueryError ResultSet := do
  let (columns, positions) ← p.projected s
  let keys ← (← p.resolvedSortKeys).mapM (BoundSortKey.bind s)
  let rows ← admittedRows p f source
  return ⟨columns, (stableSort (orderRows keys) rows).map (Row.project positions)⟩

def executeWith (p : Plan) (s : Schema) (source : Source) : Except QueryError ResultSet := do
  let f ← Filter.bind p s
  if !p.groupBy.isEmpty || !p.aggregates.isEmpty then
    let rows ← admittedRows p f source
    executeGrouped p s rows
  else if !p.orderBy.isEmpty then
    executeSorted p s f source
  else
    executeSimple p s f source

end FlatQuery
