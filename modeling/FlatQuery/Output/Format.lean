import FlatQuery.Csv.Writer
import FlatQuery.Output.Grid
import FlatQuery.Output.Json
import FlatQuery.Text.LetterCase

namespace FlatQuery

inductive OutputFormat
  | table
  | json
  | csv
  deriving DecidableEq, Repr

namespace OutputFormat

def all : List OutputFormat :=
  [table, json, csv]

def name : OutputFormat → Text
  | table => "table".toList
  | json => "json".toList
  | csv => "csv".toList

-- No format has this name, which is in lower case.
structure Unknown where
  name : Text
  deriving DecidableEq, Repr

def Unknown.message (u : Unknown) : String :=
  s!"Unknown format '{u.name.toString}'. Valid formats: table, json, csv"

def parse (t : Text) : Except Unknown OutputFormat :=
  match all.find? (·.name == t.lower) with
  | some f => .ok f
  | none => .error ⟨t.lower⟩

def renderCsv (r : ResultSet) : Text :=
  match Csv.write r with
  | .ok t => t
  | .error ragged => ("error: " ++ ragged.message).toList

def render (f : OutputFormat) (r : ResultSet) : Text :=
  match f with
  | table => Grid.render r
  | json => (Json.ofResult r).pretty 0
  | csv => renderCsv r

end OutputFormat
end FlatQuery
