import FlatQuery.Text.Cluster

namespace FlatQuery

structure InputLine where
  text : Text
  ending : Text
  deriving DecidableEq, Repr

namespace InputLine

-- A line that ended in a line feed; a carriage return before it belongs to the end.
def ofLine (t : Text) : InputLine :=
  if t.getLast? = some '\r' then ⟨t.dropLast, ['\r', '\n']⟩ else ⟨t, ['\n']⟩

-- The lines of an input. Nothing after the last line feed is no line.
def all (input : Text) : List InputLine :=
  let pieces := input.pieces (· == '\n')
  let last := pieces.getLast?.getD []
  pieces.dropLast.map ofLine ++ if last.isEmpty then [] else [⟨last, []⟩]

end InputLine

structure Typed where
  -- Last character first.
  text : Text := []
  -- How much each cluster that can be taken back takes with it, last one first.
  sizes : List Nat := []
  deriving DecidableEq, Repr

namespace Typed

-- The size of a cluster is kept in one byte.
def maxSize : Nat := 256

def dropBytes : Nat → List Char → List Char
  | _, [] => []
  | n, c :: t => if c.utf8Size ≤ n then dropBytes (n - c.utf8Size) t else c :: t

-- A cluster is added, but a backspace takes back the one before it.
def press (t : Typed) (cluster : Text) : Typed :=
  if cluster = ['\x08'] then
    match t.sizes with
    | [] => t
    | n :: sizes => ⟨dropBytes n t.text, sizes⟩
  else
    ⟨cluster.reverse ++ t.text, Text.byteSize cluster % maxSize :: t.sizes⟩

end Typed

def applyBackspaces (t : Text) : Text :=
  (t.clusters.foldl Typed.press {}).text.reverse

end FlatQuery
