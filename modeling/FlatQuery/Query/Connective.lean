import FlatQuery.Pattern.Keyword
import FlatQuery.Query.ParseError

namespace FlatQuery

inductive Connective
  | and
  | or
  | not
  deriving DecidableEq, Repr

namespace Connective

def name : Connective → Text
  | and => "AND".toList
  | or => "OR".toList
  | not => "NOT".toList

def isBinary : Connective → Bool
  | not => false
  | _ => true

def all : List Connective :=
  [and, or, not]

def parse (t : Text) : Except ParseError Connective :=
  match all.find? (·.name.eqIgnoringCase t.trim) with
  | some c => .ok c
  | none => .error (.malformed .connective)

end Connective
end FlatQuery
