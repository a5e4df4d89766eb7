import FlatQuery.Text.Basic

namespace FlatQuery
namespace Decimal

def digitValue (c : Char) : Nat :=
  c.toNat - '0'.toNat

def value (digits : Text) : Nat :=
  digits.foldl (fun n c => 10 * n + digitValue c) 0

def isDigits (t : Text) : Bool :=
  !t.isEmpty && t.all Char.isDigit

def ofNat (n : Nat) : Text :=
  Nat.toDigits 10 n

def ofInt (n : Int) : Text :=
  if n < 0 then '-' :: ofNat n.natAbs else ofNat n.natAbs

def padded (width n : Nat) : Text :=
  let digits := ofNat n
  List.replicate (width - digits.length) '0' ++ digits

-- Takes a sign off the front; `true` stands for a minus.
def takeSign : Text → Bool × Text
  | '-' :: t => (true, t)
  | '+' :: t => (false, t)
  | t => (false, t)

def readInt? (t : Text) : Option Int :=
  let (negative, digits) := takeSign t
  if isDigits digits then
    some (if negative then -(value digits : Int) else value digits)
  else
    none

def fits64 (n : Int) : Bool :=
  -(Nat.pow 2 63 : Int) ≤ n && n < Nat.pow 2 63

def readInt64? (t : Text) : Option Int :=
  (readInt? t).filter fits64

end Decimal
end FlatQuery
