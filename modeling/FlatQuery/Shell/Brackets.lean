import FlatQuery.Text.Basic

namespace FlatQuery
namespace Brackets

def closing? : Char → Option Char
  | '(' => some ')'
  | '[' => some ']'
  | '\x7b' => some '\x7d'
  | _ => none

def isClosing (c : Char) : Bool :=
  c == ')' || c == ']' || c == '\x7d'

inductive Mismatch
  -- Another bracket was closed than this one, which was opened last.
  | notClosed (opened : Char)
  | unpaired (closing : Char)
  deriving DecidableEq, Repr

def Mismatch.message : Mismatch → String
  | notClosed opened => s!"Mismatched brackets: '{opened}' is not properly closed"
  | unpaired closing => s!"Mismatched brackets: '{closing}' is unpaired"

inductive Verdict
  | complete
  | incomplete
  | mismatched (why : Mismatch)
  deriving DecidableEq, Repr

-- Checks a text after brackets were opened, the latest first.
def checkFrom (opened : List Char) : Text → Verdict
  | [] => if opened.isEmpty then .complete else .incomplete
  | c :: t =>
    if (closing? c).isSome then
      checkFrom (c :: opened) t
    else if isClosing c then
      match opened with
      | [] => .mismatched (.unpaired c)
      | o :: opened => if closing? o = some c then checkFrom opened t else .mismatched (.notClosed o)
    else
      checkFrom opened t

def check (t : Text) : Verdict :=
  checkFrom [] t

end Brackets
end FlatQuery
