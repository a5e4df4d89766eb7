import FlatQuery.Text.Basic

namespace FlatQuery

inductive FileError
  | notFound
  | notADirectory
  | isADirectory
  | nameTooLong
  -- The path holds a NUL, which no name may.
  | nulInPath
  | other (words : String)
  deriving DecidableEq, Repr

def FileError.message : FileError → String
  | notFound => "No such file or directory (os error 2)"
  | notADirectory => "Not a directory (os error 20)"
  | isADirectory => "Is a directory (os error 21)"
  | nameTooLong => "File name too long (os error 36)"
  | nulInPath => "file name contained an unexpected NUL byte"
  | other words => words

-- Where in a file of records bytes are no text: the number of the record, its first line and byte,
-- the number of the field, and the good bytes of that field before the fault.
structure EncodingFault where
  record : Nat
  line : Nat
  byte : Nat
  field : Nat
  validBytes : Nat
  deriving DecidableEq, Repr

def EncodingFault.message (f : EncodingFault) : String :=
  s!"CSV parse error: record {f.record} (line {f.line}, field: {f.field}, byte: {f.byte}): "
    ++ s!"invalid utf-8: invalid UTF-8 in field {f.field} near byte index {f.validBytes}"

inductive SourceError
  | notFound (path : Text)
  | io (why : FileError)
  | malformed (fault : EncodingFault)
  | emptySource (name : Text)
  | rowArity (line expected found : Nat)
  | unknownSource (name : Text)
  | schemaMismatch (headers types : Nat)
  deriving DecidableEq, Repr

def SourceError.message : SourceError → String
  | notFound path => s!"source not found: {path.toString}"
  | io why => s!"I/O error: {why.message}"
  | malformed fault => s!"malformed source data: {fault.message}"
  | emptySource name => s!"source '{name.toString}' has no header row"
  | rowArity line expected found =>
    s!"row at line {line} has {found} values, header has {expected}"
  | unknownSource name => s!"unknown source: {name.toString}"
  | schemaMismatch headers types => s!"schema has {headers} headers but {types} type tags"

end FlatQuery
