import FlatQuery.Engine.Accumulator
import FlatQuery.Engine.Filter
import FlatQuery.Engine.Ordering
import FlatQuery.Table.ResultSet

namespace FlatQuery

inductive GroupColumn
  | key (index : Nat)
  | aggregate (function : AggregateFunction) (position : Nat) (type : ColumnType)
  deriving DecidableEq, Repr

structure Group where
  key : List Text
  accumulators : List Accumulator
  deriving DecidableEq, Repr

namespace Group

-- The aggregates of the columns: where each takes its cells, and its empty accumulator.
def aggregates (columns : List GroupColumn) : List (Nat × Accumulator) :=
  columns.filterMap fun
    | .key _ => none
    | .aggregate function position type => some (position, .fresh function type)

def empty (columns : List GroupColumn) (key : List Text) : Group :=
  ⟨key, (aggregates columns).map (·.2)⟩

def feed (columns : List GroupColumn) (g : Group) (r : Row) : Group :=
  { g with accumulators :=
      g.accumulators.zipWith (fun a input => a.update (r.cellAt input.1)) (aggregates columns) }

def keyOf (positions : List Nat) (r : Row) : List Text :=
  positions.map fun p => (r.cellAt p).trim

-- Feeds a row to the group of its key, which is put last if it is new.
def insert (columns : List GroupColumn) (key : List Text) (r : Row) : List Group → List Group
  | [] => [(empty columns key).feed columns r]
  | g :: groups =>
    if g.key = key then g.feed columns r :: groups else g :: insert columns key r groups

-- The groups of the rows. Without group fields there is one group, even of no rows.
def collect (columns : List GroupColumn) (positions : List Nat) (rows : List Row) : List Group :=
  let groups := rows.foldl (fun gs r => insert columns (keyOf positions r) r gs) []
  if groups.isEmpty && positions.isEmpty then [empty columns []] else groups

def output (keyTypes : List ColumnType) (key : List Text) :
    List GroupColumn → List Accumulator → List (Text × ColumnType)
  | [], _ => []
  | .key i :: columns, accumulators =>
    (key.getD i [], keyTypes.getD i .empty) :: output keyTypes key columns accumulators
  | .aggregate .. :: columns, a :: accumulators =>
    (a.finish, a.outputType) :: output keyTypes key columns accumulators
  | .aggregate .. :: columns, [] => ([], .empty) :: output keyTypes key columns []

end Group

namespace GroupColumn

def ofEntry (groupBy : List Text) (s : Schema) (entry : Text) : Except QueryError GroupColumn :=
  match groupBy.findIdx? (· == entry) with
  | some i => .ok (key i)
  | none =>
    match AggregateCall.ofEntry? entry with
    | some call => do
      let position ← s.resolve call.field
      return aggregate call.function position (s.typeAt position)
    | none => .error (.ungroupedField entry)

-- Whether a result column of this name is the one that a sort key names: the same text, or the same
-- call.
def isNamed (field name : Text) : Bool :=
  name == field ||
    (AggregateCall.ofEntry? field).isSome
      && AggregateCall.ofEntry? name == AggregateCall.ofEntry? field

def ofSortKey (names : List Text) (k : SortKey) : Except QueryError (Nat × Bool) :=
  match names.findIdx? (isNamed k.field) with
  | some i => .ok (i, k.descending)
  | none => .error (.ungroupedField k.field)

end GroupColumn

-- Order of two result rows by columns and directions; the types are those of the first row.
def orderOutputs (keys : List (Nat × Bool)) (a b : List (Text × ColumnType)) : Ordering :=
  firstDecided <| keys.map fun (i, descending) =>
    let left := a.getD i ([], .empty)
    let right := b.getD i ([], .empty)
    left.2.directedOrder descending left.1 right.1

-- The entries that a grouped query shows; the wildcard shows the group fields.
def Plan.groupedEntries (p : Plan) : List Text :=
  match p.projection with
  | .all => p.groupBy
  | .fields names => names

def Plan.resolvedSortKeys (p : Plan) : Except QueryError (List SortKey) :=
  p.sortKeys.mapError .parse

def executeGrouped (p : Plan) (s : Schema) (rows : List Row) : Except QueryError ResultSet := do
  let positions ← p.groupBy.mapM s.resolve
  let names := p.groupedEntries
  let columns ← names.mapM (GroupColumn.ofEntry p.groupBy s)
  let outputs := (Group.collect columns positions rows).map fun g =>
    Group.output (positions.map s.typeAt) g.key columns g.accumulators
  let keys ← (← p.resolvedSortKeys).mapM (GroupColumn.ofSortKey names)
  return ⟨names, (stableSort (orderOutputs keys) outputs).map (·.map (·.1))⟩

end FlatQuery
