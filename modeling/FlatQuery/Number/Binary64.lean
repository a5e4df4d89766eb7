import FlatQuery.Number.Decimal

namespace FlatQuery

inductive Binary64
  -- The number with this sign that is `units` times `2 ^ -1074`, the smallest positive one. Sums
  -- and comparisons are exact on units, and only `round` loses anything.
  | finite (negative : Bool) (units : Nat)
  | infinite (negative : Bool)
  | nan
  deriving DecidableEq, Repr

namespace Binary64

def one : Nat := Nat.pow 2 1074

def maxUnits : Nat := (Nat.pow 2 53 - 1) * Nat.pow 2 2045

-- The whole number nearest to `num / den`, or the even one of two.
def nearestEven (num den : Nat) : Nat :=
  let q := num / den
  match compare (2 * (num % den)) den with
  | .lt => q
  | .eq => q + q % 2
  | .gt => q + 1

-- Bits to be given up so that a number with integer part `n` keeps 53 of them.
def excessBits (n : Nat) : Nat :=
  n.log2 + 1 - 53

def round (negative : Bool) (num den : Nat) : Binary64 :=
  let step := Nat.pow 2 (excessBits (num / den))
  let units := nearestEven num (den * step) * step
  if units ≤ maxUnits then finite negative units else infinite negative

def zero : Binary64 :=
  finite false 0

def ofInt (n : Int) : Binary64 :=
  round (n < 0) (n.natAbs * one) 1

def isFinite : Binary64 → Bool
  | finite _ _ => true
  | _ => false

def signed (negative : Bool) (units : Nat) : Int :=
  if negative then -(units : Int) else units

-- The sum of opposite numbers is positive zero.
def add : Binary64 → Binary64 → Binary64
  | finite s m, finite t n =>
    let sum := signed s m + signed t n
    if sum = 0 then finite (s && t) 0 else round (sum < 0) sum.natAbs 1
  | infinite s, infinite t => if s = t then infinite s else nan
  | infinite s, finite _ _ => infinite s
  | finite _ _, infinite t => infinite t
  | _, _ => nan

def div : Binary64 → Binary64 → Binary64
  | finite s m, finite t n =>
    if n = 0 then (if m = 0 then nan else infinite (s != t))
    else round (s != t) (m * one) n
  | finite s _, infinite t => finite (s != t) 0
  | infinite s, finite t _ => infinite (s != t)
  | _, _ => nan

-- Order by value; the two zeros are equal, and nothing compares with `nan`.
def compare? : Binary64 → Binary64 → Option Ordering
  | finite s m, finite t n => some (compare (signed s m) (signed t n))
  | infinite s, infinite t => some (if s = t then .eq else if s then .lt else .gt)
  | infinite s, finite _ _ => some (if s then .lt else .gt)
  | finite _ _, infinite t => some (if t then .gt else .lt)
  | _, _ => none

-- Powers of ten past which every number is zero or infinite.
def decimalReach : Int := 400

def ofScaled (negative : Bool) (digits : Text) (exponent : Int) : Binary64 :=
  let digits := digits.dropWhile (· == '0')
  let reach := digits.length + exponent
  if digits.isEmpty || reach < -decimalReach then finite negative 0
  else if reach > decimalReach then infinite negative
  else round negative (Decimal.value digits * Nat.pow 10 exponent.toNat * one) (Nat.pow 10 (-exponent).toNat)

def readExponent? : Text → Option Int
  | [] => some 0
  | c :: t => if c.toLower = 'e' then Decimal.readInt? t else none

def readDecimal? (negative : Bool) (t : Text) : Option Binary64 :=
  let whole := t.takeWhile Char.isDigit
  let (fraction, rest) := match t.dropWhile Char.isDigit with
    | '.' :: t => (t.takeWhile Char.isDigit, t.dropWhile Char.isDigit)
    | t => ([], t)
  let digits := whole ++ fraction
  if digits.isEmpty then none
  else (readExponent? rest).map fun exponent =>
    ofScaled negative digits (exponent - fraction.length)

def read? (t : Text) : Option Binary64 :=
  let (negative, t) := Decimal.takeSign t
  if t.eqIgnoringCase "nan".toList then some nan
  else if t.eqIgnoringCase "inf".toList || t.eqIgnoringCase "infinity".toList
  then some (infinite negative)
  else readDecimal? negative t

end Binary64
end FlatQuery
