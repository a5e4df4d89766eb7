import FlatQuery.Table.Schema

namespace FlatQuery

abbrev Row := List Text

-- The rows of a source in order. A row that cannot be read stands as its error, and the rows after
-- it are still there.
abbrev RowStream := List (Except SourceError Row)

structure Source where
  header : Text → Except SourceError (List Text)
  types : Text → Except SourceError (List ColumnType)
  schema : Text → Except SourceError Schema
  rows : Text → Except SourceError RowStream

-- The same source with its schema put together from header and types.
def Source.plain (s : Source) : Source :=
  { s with schema := fun name => do Schema.pair (← s.header name) (← s.types name) }

structure Table where
  schema : Schema
  rows : List Row
  deriving DecidableEq, Repr

-- Tables by name, the name of the latest first.
abbrev Tables := List (Text × Table)

namespace Tables

def find? (ts : Tables) (name : Text) : Option Table :=
  ts.lookup name

-- The first row of another width than the table, and its line if the header is line 1.
def arityFault? (width : Nat) (rows : List Row) : Option SourceError :=
  (rows.findIdx? fun r => r.length != width).map fun i =>
    .rowArity (i + 2) width (rows.getD i []).length

-- Puts a table in the place of any table of its name, if every row has a cell per column.
def insert (ts : Tables) (name : Text) (schema : Schema) (rows : List Row) :
    Except SourceError Tables :=
  match arityFault? schema.width rows with
  | some fault => .error fault
  | none => .ok ((name, ⟨schema, rows⟩) :: ts.filter (·.1 != name))

def get (ts : Tables) (name : Text) : Except SourceError Table :=
  match ts.find? name with
  | some table => .ok table
  | none => .error (.unknownSource name)

def source (ts : Tables) : Source where
  header name := (ts.get name).map (·.schema.headers)
  types name := (ts.get name).map (·.schema.types)
  schema name := (ts.get name).map (·.schema)
  rows name := (ts.get name).map (·.rows.map .ok)

end Tables
end FlatQuery
