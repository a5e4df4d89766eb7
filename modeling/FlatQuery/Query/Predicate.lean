import FlatQuery.Query.Comparison
import FlatQuery.Query.ParseError

namespace FlatQuery

def Comparison.parse (t : Text) : Except ParseError Comparison :=
  match ofSymbol? t.trim with
  | some op => .ok op
  | none => .error (.unknownComparison t.trim)

structure Condition where
  field : Text
  operator : Text
  literal : Text
  deriving DecidableEq, Repr

namespace Condition

def isOperator (word : Text) : Bool :=
  (Comparison.ofSymbol? word).isSome

-- Three words with an operator in the middle.
def ofWords? (t : Text) : Option Condition :=
  match t.words with
  | [field, operator, literal] => if isOperator operator then some ⟨field, operator, literal⟩ else none
  | _ => none

-- Two operands, neither blank, around the only operator.
def ofSplit? (t : Text) : Option Condition :=
  match Pattern.comparisons.split t with
  | ⟨field, [(operator, literal)]⟩ =>
    if field.allBlank || literal.allBlank then none
    else some ⟨field.trim, operator, literal.trim⟩
  | _ => none

def ofText? (t : Text) : Option Condition :=
  (ofWords? t.trim).or (ofSplit? t.trim)

end Condition

namespace Text

def stripNot (t : Text) : Bool × Text :=
  let t := t.trimStart
  if eqIgnoringCase (t.takeWhile (!isBlank ·)) "not".toList then
    (true, trim (t.dropWhile (!isBlank ·)))
  else
    (false, t.trimEnd)

def isQuote (c : Char) : Bool :=
  c == '\x27' || c == '"'

-- Takes all quotes off both ends.
def stripQuotes (t : Text) : Text :=
  t.strip isQuote

end Text

structure Predicate where
  field : Text
  operator : Comparison
  literal : Text
  negated : Bool
  deriving DecidableEq, Repr

namespace Predicate

def parse (t : Text) : Except ParseError Predicate :=
  let (negated, condition) := t.stripNot
  match Condition.ofText? condition with
  | none => .error (.malformed .condition)
  | some c => do
    let operator ← Comparison.parse c.operator
    return ⟨c.field, operator, c.literal.stripQuotes, negated⟩

def text (p : Predicate) : Text :=
  (if p.negated then "not ".toList else []) ++ p.field ++ ' ' :: p.operator.symbol
    ++ " \x27".toList ++ p.literal ++ ['\x27']

end Predicate
end FlatQuery
