import FlatQuery.Text.WhiteSpace

namespace FlatQuery

abbrev Text := List Char

-- The stretch of a text from `start` up to, but not including, `stop`.
structure Span where
  start : Nat
  stop : Nat
  deriving DecidableEq, Repr

namespace Text

def toString (t : Text) : String :=
  String.ofList t

def byteSize (t : Text) : Nat :=
  t.foldr (fun c size => c.utf8Size + size) 0

def byteOffset (t : Text) (i : Nat) : Nat :=
  byteSize (t.take i)

def slice (t : Text) (s : Span) : Text :=
  (t.drop s.start).take (s.stop - s.start)

def dropEndWhile (p : Char → Bool) (t : Text) : Text :=
  (t.reverse.dropWhile p).reverse

def strip (p : Char → Bool) (t : Text) : Text :=
  dropEndWhile p (t.dropWhile p)

def trimStart (t : Text) : Text :=
  t.dropWhile isBlank

def trimEnd (t : Text) : Text :=
  t.dropEndWhile isBlank

def trim (t : Text) : Text :=
  t.strip isBlank

def allBlank (t : Text) : Bool :=
  t.all isBlank

-- The stretches between the separators `p`, empty ones included: one more than there are
-- separators.
def pieces (p : Char → Bool) : Text → List Text
  | [] => [[]]
  | c :: t =>
    if p c then
      [] :: pieces p t
    else match pieces p t with
      | [] => [[c]]
      | w :: ws => (c :: w) :: ws

def words (t : Text) : List Text :=
  (t.pieces isBlank).filter (!·.isEmpty)

def lowerAscii (t : Text) : Text :=
  t.map Char.toLower

def upperAscii (t : Text) : Text :=
  t.map Char.toUpper

def eqIgnoringCase (a b : Text) : Bool :=
  a.lowerAscii == b.lowerAscii

def cutAtFirst (c : Char) : Text → Option (Text × Text)
  | [] => none
  | d :: t => if d = c then some ([], t) else (cutAtFirst c t).map fun (a, b) => (d :: a, b)

def cutAtLast (c : Char) (t : Text) : Option (Text × Text) :=
  (cutAtFirst c t.reverse).map fun (a, b) => (b.reverse, a.reverse)

def join (sep : Text) (ts : List Text) : Text :=
  (ts.intersperse sep).flatten

def order : Text → Text → Ordering
  | [], [] => .eq
  | [], _ :: _ => .lt
  | _ :: _, [] => .gt
  | a :: s, b :: t => (compare a.toNat b.toNat).then (order s t)

end Text
end FlatQuery
