import FlatQuery.Files.Path
import FlatQuery.Output.Json
import FlatQuery.Table.SourceError

namespace FlatQuery

structure Artifact where
  path : Text
  text : Text
  deriving DecidableEq, Repr

namespace Artifact

-- The file of a source in a directory. A source without a file name is left as it is.
def pathOf (source dir : Text) : Text :=
  Path.join dir <|
    match Path.fileName? source with
    | some name => Path.withExtension name "json".toList
    | none => source

-- A result without rows is written as `null`.
def textOf (r : ResultSet) : Text :=
  if r.isEmpty then "null".toList else (Json.ofResult r).pretty 0

def make (r : ResultSet) (source dir : Text) : Artifact :=
  ⟨pathOf source dir, textOf r⟩

def failureMessage (a : Artifact) (why : FileError) : String :=
  s!"failed to write {a.path.toString}: {why.message}"

end Artifact
end FlatQuery
