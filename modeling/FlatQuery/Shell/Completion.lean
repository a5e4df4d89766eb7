import FlatQuery.Text.Basic

namespace FlatQuery

structure Candidate where
  display : Text
  replacement : Text
  deriving DecidableEq, Repr

structure Completion where
  start : Nat
  candidates : List Candidate
  deriving DecidableEq, Repr

namespace Completion

def words : List Text :=
  ["select", "from", "where", "group by", "order by", "having", "and", "or", "not", "asc", "desc",
    "avg(", "count(", "max(", "min(", "sum("].map String.toList

def commands : List Text :=
  ["\\format", "\\help", "\\plan", "\\quit", "\\q", "\\timing"].map String.toList

-- A word typed without lower-case letters is completed in capitals.
def isCapitals (typed : Text) : Bool :=
  typed.all fun c => !c.isLower

def candidatesFor (typed : Text) : List Candidate :=
  if typed.isEmpty then
    []
  else if typed.head? = some '\\' then
    (commands.filter typed.isPrefixOf).map fun w => ⟨w, w⟩
  else
    (words.filter typed.lowerAscii.isPrefixOf).map fun w =>
      ⟨w, if isCapitals typed then w.upperAscii else w⟩

def isBoundary (c : Char) : Bool :=
  isBlank c || c == '(' || c == ')' || c == ','

-- The characters that make up the first `n` bytes, if that is a whole number of characters.
def takeBytes? : Nat → Text → Option Text
  | 0, _ => some []
  | _ + 1, [] => none
  | n + 1, c :: t =>
    if c.utf8Size ≤ n + 1 then (takeBytes? (n + 1 - c.utf8Size) t).map (c :: ·) else none

-- The word that ends the text, and its byte offset. The character before the word must be of one
-- byte.
def wordAtEnd? (t : Text) : Option (Nat × Text) :=
  let word := (t.reverse.takeWhile (!isBoundary ·)).reverse
  let before := t.take (t.length - word.length)
  if before.getLast?.all (·.utf8Size == 1) then some (Text.byteSize before, word) else none

-- The completion at a cursor. There is none if the cursor is inside a character, or a boundary of
-- several bytes stands before the word.
def at? (line : Text) (cursor : Nat) : Option Completion := do
  let (start, word) ← wordAtEnd? (← takeBytes? cursor line)
  return ⟨start, candidatesFor word⟩

end Completion
end FlatQuery
