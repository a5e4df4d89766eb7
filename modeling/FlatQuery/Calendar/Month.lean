import FlatQuery.Text.Basic

namespace FlatQuery
namespace Month

def names : List Text :=
  ["january".toList,
    "february".toList,
    "march".toList,
    "april".toList,
    "may".toList,
    "june".toList,
    "july".toList,
    "august".toList,
    "september".toList,
    "october".toList,
    "november".toList,
    "december".toList]

def shortNames : List Text :=
  names.map (·.take 3)

def afterWord (word t : Text) : Option Text :=
  if Text.eqIgnoringCase (t.take word.length) word then some (t.drop word.length) else none

def readShort? (t : Text) : Option (Nat × Text) :=
  match shortNames.findIdx? fun name => (afterWord name t).isSome with
  | some i => some (i + 1, t.drop 3)
  | none => none

-- As `readShort?`, but the rest of the long name is taken too if it is there.
def readLong? (t : Text) : Option (Nat × Text) :=
  (readShort? t).map fun (month, rest) =>
    (month, (afterWord ((names.getD (month - 1) []).drop 3) rest).getD rest)

end Month
end FlatQuery
