import FlatQuery.Text.Basic
import FlatQuery.Table.SourceError

namespace FlatQuery

inductive ColumnType
  | integer
  | float
  | dateTime
  | string
  -- The sample of the column was empty; nothing compares with its cells.
  | empty
  deriving DecidableEq, Repr

def ColumnType.name : ColumnType → String
  | integer => "integer"
  | float => "float"
  | dateTime => "datetime"
  | string => "string"
  | empty => "empty"

structure Schema where
  headers : List Text
  types : List ColumnType
  deriving DecidableEq, Repr

namespace Schema

def pair (headers : List Text) (types : List ColumnType) : Except SourceError Schema :=
  if headers.length = types.length then .ok ⟨headers, types⟩
  else .error (.schemaMismatch headers.length types.length)

def width (s : Schema) : Nat :=
  s.headers.length

-- The place of the first column of this very name.
def position? (s : Schema) (field : Text) : Option Nat :=
  s.headers.findIdx? (· == field)

def type? (s : Schema) (position : Nat) : Option ColumnType :=
  s.types[position]?

-- A column without a type counts as empty.
def typeAt (s : Schema) (position : Nat) : ColumnType :=
  (s.type? position).getD .empty

end Schema
end FlatQuery
