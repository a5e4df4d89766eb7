import FlatQuery.Text.Basic

namespace FlatQuery
namespace Path

def isAbsolute (path : Text) : Bool :=
  path.head? == some '/'

-- The parts of a path. Repeated slashes are one, and a `.` counts only at the front.
def parts (path : Text) : List Text :=
  match path.pieces (· == '/') with
  | [] => []
  | first :: rest => (if first.isEmpty then [] else [first]) ++ rest.filter fun p => p != [] && p != ['.']

-- A path after another one. An absolute path stands alone.
def join (dir path : Text) : Text :=
  if isAbsolute path || dir.isEmpty then path
  else if dir.getLast? = some '/' then dir ++ path
  else dir ++ '/' :: path

def isBare (path : Text) : Bool :=
  !isAbsolute path && (parts path).length ≤ 1

def fileName? (path : Text) : Option Text :=
  (parts path).getLast?.filter fun p => p != ['.'] && p != ['.', '.']

-- A file name up to its extension. A dot at the front begins no extension.
def stem (name : Text) : Text :=
  match name.cutAtLast '.' with
  | some (front, _) => if front.isEmpty then name else front
  | none => name

-- A file name with its extension replaced. Where that would leave the name of the directory above,
-- it is this name.
def withExtension (name extension : Text) : Text :=
  if stem name = ['.'] then ['.', '.'] else stem name ++ '.' :: extension

end Path
end FlatQuery
