import FlatQuery.Text.Basic

namespace FlatQuery

-- How many characters are taken at the front of a text, given the character before it.
structure Pattern where
  matchLength : Option Char → Text → Option Nat
  within : ∀ {prev t n}, matchLength prev t = some n → 0 < n ∧ n ≤ t.length

structure Split where
  head : Text
  -- Each match with the stretch that follows it.
  tail : List (Text × Text)
  deriving DecidableEq, Repr

namespace Split

def delimiters (s : Split) : List Text :=
  s.tail.map (·.1)

def texts (s : Split) : List Text :=
  s.head :: s.tail.map (·.2)

def pieces (s : Split) : List Text :=
  s.head :: s.tail.flatMap fun (delimiter, text) => [delimiter, text]

end Split

namespace Pattern

-- The matches in the rest of a text that begins at place `pos` after the character `prev`; the
-- first `skip` characters belong to a match already found.
def spansFrom (p : Pattern) (prev : Option Char) (pos skip : Nat) : Text → List Span
  | [] => []
  | c :: rest =>
    match skip with
    | n + 1 => p.spansFrom (some c) (pos + 1) n rest
    | 0 =>
      match p.matchLength prev (c :: rest) with
      | some n => ⟨pos, pos + n⟩ :: p.spansFrom (some c) (pos + 1) (n - 1) rest
      | none => p.spansFrom (some c) (pos + 1) 0 rest

def spans (p : Pattern) (t : Text) : List Span :=
  p.spansFrom none 0 0 t

def first? (p : Pattern) (t : Text) : Option Span :=
  (p.spans t).head?

def last? (p : Pattern) (t : Text) : Option Span :=
  (p.spans t).getLast?

def count (p : Pattern) (t : Text) : Nat :=
  (p.spans t).length

def occursIn (p : Pattern) (t : Text) : Bool :=
  !(p.spans t).isEmpty

def cutAround (t : Text) (start : Nat) : List Span → Split
  | [] => ⟨t.drop start, []⟩
  | s :: later =>
    let rest := cutAround t s.stop later
    ⟨t.slice ⟨start, s.start⟩, (t.slice s, rest.head) :: rest.tail⟩

def split (p : Pattern) (t : Text) : Split :=
  cutAround t 0 (p.spans t)

-- The pieces of a split that may be used. A blank piece shows a delimiter without a neighbour,
-- which is a fault unless a bare `not` explains it: then the blank pieces are left out.
def usable? (p : Pattern) (t : Text) : Option (List Text) :=
  let pieces := (p.split t).pieces
  if pieces.any Text.allBlank then
    if pieces.any fun piece => piece.trim.eqIgnoringCase "not".toList then
      some (pieces.filter fun piece => !piece.allBlank)
    else
      none
  else
    some pieces

def texts? (p : Pattern) (t : Text) : Option (List Text) :=
  (p.usable? t).map fun pieces => (pieces.filter fun piece => !p.occursIn piece).map Text.trim

def delimiters? (p : Pattern) (t : Text) : Option (List Text) :=
  (p.usable? t).map fun pieces => (pieces.filter p.occursIn).map Text.trim

end Pattern
end FlatQuery
