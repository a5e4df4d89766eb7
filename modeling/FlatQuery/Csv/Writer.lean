import FlatQuery.Table.ResultSet

namespace FlatQuery
namespace Csv

-- A field is quoted only if it would not read back as it is.
def needsQuotes (field : Text) : Bool :=
  field.any [',', '"', '\r', '\n'].contains

def doubleQuotes (field : Text) : Text :=
  field.flatMap fun c => if c = '"' then ['"', '"'] else [c]

def fieldText (field : Text) : Text :=
  if needsQuotes field then '"' :: doubleQuotes field ++ ['"'] else field

-- A line that would be empty is a pair of quotes.
def lineText (fields : List Text) : Text :=
  if fields = [] ∨ fields = [[]] then ['"', '"', '\n']
  else Text.join [','] (fields.map fieldText) ++ ['\n']

structure RaggedRow where
  found : Nat
  expected : Nat
  deriving DecidableEq, Repr

def RaggedRow.message (r : RaggedRow) : String :=
  s!"CSV error: found record with {r.found} fields, but the previous record has {r.expected} fields"

def write (r : ResultSet) : Except RaggedRow Text :=
  match r.rows.find? fun row => row.length != r.columns.length with
  | some row => .error ⟨row.length, r.columns.length⟩
  | none => .ok ((r.columns :: r.rows).flatMap lineText)

end Csv
end FlatQuery
