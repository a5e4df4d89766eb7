import FlatQuery.Query.ParseError

namespace FlatQuery

structure SortKey where
  field : Text
  descending : Bool
  deriving DecidableEq, Repr

namespace SortKey

def descending? (word : Text) : Option Bool :=
  if word.eqIgnoringCase "asc".toList then some false
  else if word.eqIgnoringCase "desc".toList then some true
  else none

def parse (entry : Text) : Except ParseError SortKey :=
  match entry.words with
  | [field] => .ok ⟨field, false⟩
  | [field, word] =>
    match descending? word with
    | some descending => .ok ⟨field, descending⟩
    | none => .error (.malformed .orderBy)
  | _ => .error (.malformed .orderBy)

end SortKey
end FlatQuery
