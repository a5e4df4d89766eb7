import FlatQuery.Files.Path
import FlatQuery.Table.SourceError
import FlatQuery.Text.Utf8

namespace FlatQuery

-- A directory by the parts of its path from the working directory, or one outside. Outside there
-- are directories only, without files.
inductive Directory
  | inside (parts : List Text)
  | outside
  deriving DecidableEq, Repr

inductive FileNode
  | file (bytes : Bytes)
  | directory
  deriving DecidableEq, Repr

abbrev FileTree := List (List Text × FileNode)

inductive Target
  | directory (dir : Directory)
  | file (parts : List Text) (bytes : Bytes)
  deriving DecidableEq, Repr

namespace FileTree

def put (tree : FileTree) (parts : List Text) (node : FileNode) : FileTree :=
  (parts, node) :: tree.filter (·.1 != parts)

def place (tree : FileTree) (parts : List Text) (node : FileNode) : FileTree :=
  ((List.range parts.length).filter (· != 0)).foldl
    (fun tree n => if (tree.lookup (parts.take n)).isSome then tree
      else put tree (parts.take n) .directory)
    (put tree parts node)

def remove (tree : FileTree) (parts : List Text) : FileTree :=
  tree.filter fun (p, _) => !parts.isPrefixOf p

def maxPartBytes : Nat := 255

def maxPathBytes : Nat := 4095

def enter (tree : FileTree) (dir : Directory) (part : Text) : Except FileError Target :=
  if part = [] ∨ part = ['.'] then
    .ok (.directory dir)
  else if part = ['.', '.'] then
    match dir with
    | .inside (p :: ps) => .ok (.directory (.inside (p :: ps).dropLast))
    | _ => .ok (.directory .outside)
  else if maxPartBytes < Text.byteSize part then
    .error .nameTooLong
  else
    match dir with
    | .outside => .error .notFound
    | .inside parts =>
      match tree.lookup (parts ++ [part]) with
      | some (.file bytes) => .ok (.file (parts ++ [part]) bytes)
      | some .directory => .ok (.directory (.inside (parts ++ [part])))
      | none => .error .notFound

-- Follows the parts of a path one by one. Nothing lies below a file.
def walk (tree : FileTree) (target : Target) : List Text → Except FileError Target
  | [] => .ok target
  | part :: rest =>
    match target with
    | .file _ _ => .error .notADirectory
    | .directory dir => do walk tree (← tree.enter dir part) rest

def start (path : Text) : Target :=
  .directory (if Path.isAbsolute path then .outside else .inside [])

def checkPath (path : Text) : Except FileError Unit :=
  if path.contains '\x00' then .error .nulInPath
  else if maxPathBytes < Text.byteSize path then .error .nameTooLong
  else if path.isEmpty then .error .notFound
  else .ok ()

def find (tree : FileTree) (path : Text) : Except FileError Target := do
  checkPath path
  tree.walk (start path) (path.pieces (· == '/'))

def read (tree : FileTree) (path : Text) : Except FileError Bytes := do
  match ← tree.find path with
  | .file _ bytes => return bytes
  | .directory _ => throw .isADirectory

def writeIn (tree : FileTree) (dir : Directory) (name : Text) (bytes : Bytes) :
    Except FileError FileTree :=
  match tree.enter dir name with
  | .ok (.directory _) => .error .isADirectory
  | .ok (.file parts _) => .ok (tree.put parts (.file bytes))
  | .error .nameTooLong => .error .nameTooLong
  | .error _ =>
    match dir with
    | .inside parts => .ok (tree.put (parts ++ [name]) (.file bytes))
    | .outside => .ok tree

-- Writes a file. Its directory must be there; an end in a slash asks for a directory.
def write (tree : FileTree) (path : Text) (bytes : Bytes) : Except FileError FileTree := do
  checkPath path
  let named := Text.dropEndWhile (· == '/') path
  let pieces := named.pieces (· == '/')
  match ← tree.walk (start path) pieces.dropLast with
  | .file _ _ => throw .notADirectory
  | .directory dir =>
    if named ≠ path then
      throw .isADirectory
    else
      tree.writeIn dir (pieces.getLast?.getD []) bytes

end FileTree
end FlatQuery
