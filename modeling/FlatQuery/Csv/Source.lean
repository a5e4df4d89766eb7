import FlatQuery.Csv.Inference
import FlatQuery.Csv.Record
import FlatQuery.Files.Path
import FlatQuery.Table.Source

namespace FlatQuery

structure CsvSetup where
  root : Option Text := none
  delimiter : UInt8 := 0x2C
  deriving DecidableEq, Repr

abbrev Opener := Text → Except FileError Bytes

namespace CsvSetup

-- The path of a source: names without a directory lie in the root.
def resolve (c : CsvSetup) (name : Text) : Text :=
  match c.root with
  | some root => if Path.isBare name then Path.join root name else name
  | none => name

def records (c : CsvSetup) (opener : Opener) (name : Text) :
    Except SourceError (List (Except EncodingFault Csv.Record)) :=
  match opener (c.resolve name) with
  | .ok bytes => .ok (Csv.records c.delimiter bytes)
  | .error .notFound => .error (.notFound (c.resolve name))
  | .error e => .error (.io e)

-- The first record is the header, and the second gives each column its type. Files are opened anew
-- for every question.
def open? (c : CsvSetup) (opener : Opener) (name : Text) :
    Except SourceError (List Text × List (Except EncodingFault Csv.Record)) := do
  match ← c.records opener name with
  | [] => throw (.emptySource name)
  | .error fault :: _ => throw (.malformed fault)
  | .ok header :: rest => return (header.fields, rest)

-- Types by the sample; without a sample or past its end a column is empty.
def sampleTypes (width : Nat) (sample : List Text) : List ColumnType :=
  (List.range width).map fun i => .infer (sample.getD i [])

def head (c : CsvSetup) (opener : Opener) (name : Text) :
    Except SourceError (List Text × List ColumnType) := do
  match ← c.open? opener name with
  | (_, .error fault :: _) => throw (.malformed fault)
  | (header, .ok sample :: _) => return (header, sampleTypes header.length sample.fields)
  | (header, []) => return (header, sampleTypes header.length [])

def toRow (width : Nat) : Except EncodingFault Csv.Record → Except SourceError Row
  | .error fault => .error (.malformed fault)
  | .ok record =>
    if record.fields.length = width then .ok record.fields
    else .error (.rowArity record.start.line width record.fields.length)

def source (c : CsvSetup) (opener : Opener) : Source where
  header name := (c.head opener name).map (·.1)
  types name := (c.head opener name).map (·.2)
  schema name := do
    let (header, types) ← c.head opener name
    Schema.pair header types
  rows name := do
    let (header, records) ← c.open? opener name
    return records.map (toRow header.length)

end CsvSetup
end FlatQuery
