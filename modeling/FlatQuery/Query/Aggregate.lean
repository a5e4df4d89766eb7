import FlatQuery.Pattern.WholeWord
import FlatQuery.Query.ParseError

namespace FlatQuery

inductive AggregateFunction
  | avg
  | min
  | max
  | count
  | sum
  deriving DecidableEq, Repr

namespace AggregateFunction

def all : List AggregateFunction :=
  [avg, min, max, count, sum]

def name : AggregateFunction → Text
  | avg => "avg".toList
  | min => "min".toList
  | max => "max".toList
  | count => "count".toList
  | sum => "sum".toList

def parse (t : Text) : Except ParseError AggregateFunction :=
  match all.find? (·.name.eqIgnoringCase t.trim) with
  | some f => .ok f
  | none => .error (.malformed .aggregate)

end AggregateFunction

structure AggregateCall where
  function : AggregateFunction
  field : Text
  deriving DecidableEq, Repr

-- The letters, digits and underscores of a field inside a call, with the two characters that fold
-- to one of these letters.
def isCallFieldChar (c : Char) : Bool :=
  isAsciiWordChar c || c == '\u017f' || c == '\u212a'

def callLength (t : Text) : Option Nat :=
  AggregateFunction.all.findSome? fun f =>
    match afterFolded f.name t with
    | some ('(' :: rest) =>
      let field := rest.takeWhile isCallFieldChar
      match rest.dropWhile isCallFieldChar with
      | ')' :: _ => if field.isEmpty then none else some (f.name.length + field.length + 2)
      | _ => none
    | _ => none

theorem callLength_within {t : Text} {n : Nat} (h : callLength t = some n) :
    0 < n ∧ n ≤ t.length := by
  obtain ⟨f, -, eq⟩ := List.exists_of_findSome?_eq_some h
  dsimp only at eq
  split at eq
  · rename_i rest hrest
    split at eq
    · rename_i tail htail
      split at eq
      · simp at eq
      · have split := congrArg List.length (List.takeWhile_append_dropWhile (p := isCallFieldChar) (l := rest))
        have whole := afterFolded_length hrest
        simp only [htail, List.length_append, List.length_cons, Option.some.injEq] at split whole eq
        omega
    · simp at eq
  · simp at eq

def Pattern.aggregateCalls : Pattern where
  matchLength _ := callLength
  within := callLength_within

namespace AggregateCall

-- The name and the field of `name(field)`, closing parentheses trimmed from the field.
def split? (call : Text) : Option (Text × Text) :=
  match call.trim.cutAtFirst '(' with
  | none => none
  | some (function, rest) =>
    let field := Text.strip (· == ')') rest
    if rest.contains '(' || function.isEmpty || field.isEmpty then none
    else some (function, field)

def parse (call : Text) : Except ParseError AggregateCall :=
  match split? call with
  | none => .error (.malformed .aggregate)
  | some (name, field) => do
    let function ← AggregateFunction.parse name
    return ⟨function, field.trim⟩

def ofEntry? (entry : Text) : Option AggregateCall :=
  if Pattern.aggregateCalls.first? entry.trim = some ⟨0, entry.trim.length⟩ then
    (parse entry.trim).toOption
  else
    none

def text (c : AggregateCall) : Text :=
  c.function.name ++ '(' :: c.field ++ [')']

end AggregateCall
end FlatQuery
