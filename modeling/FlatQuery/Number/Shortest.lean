import FlatQuery.Number.Binary64

namespace FlatQuery
namespace Binary64

-- The numbers that read back as the one of `units` lie between these, counted in quarters of a
-- unit. Below a power of two the neighbour is twice as near.
structure Basin where
  low : Nat
  high : Nat
  closed : Bool

def gap (units : Nat) : Nat :=
  Nat.pow 2 (excessBits units)

def basin (units : Nat) : Basin :=
  let step := gap units
  let below := if units = Nat.pow 2 52 * step && step > 1 then step else 2 * step
  ⟨4 * units - below, 4 * units + 2 * step, units / step % 2 == 0⟩

def Basin.contains (b : Basin) (num den : Nat) : Bool :=
  if b.closed then b.low * den ≤ num && num ≤ b.high * den
  else b.low * den < num && num < b.high * den

structure Decimal10 where
  digits : Nat
  exponent : Int
  deriving DecidableEq, Repr

-- The neighbour of `units` on the grid of `10 ^ exponent` that reads back; of two the nearer, and
-- the larger if both are equally near.
def onGrid? (units : Nat) (exponent : Int) : Option Decimal10 :=
  -- one step of the grid is `num / den` units
  let num := Nat.pow 10 exponent.toNat * one
  let den := Nat.pow 10 (-exponent).toNat
  let lower := units * den / num
  let rest := units * den % num
  let reads n := (basin units).contains (4 * n * num) den
  if reads lower && (!reads (lower + 1) || 2 * rest < num) then some ⟨lower, exponent⟩
  else if reads (lower + 1) then some ⟨lower + 1, exponent⟩
  else none

def leadingPower (units : Nat) : Int :=
  let whole := units / one
  if whole > 0 then (Nat.toDigits 10 whole).length - 1
  else (Nat.toDigits 10 (units * Nat.pow 10 324 / one)).length - 325

-- The fewest digits that read back as the same number. Grids are searched down from the leading
-- digit, with one digit more each; seventeen are enough.
def shortestFrom (units : Nat) (exponent : Int) : Nat → Decimal10
  | 0 => ⟨units / one, 0⟩
  | fuel + 1 => (onGrid? units exponent).getD (shortestFrom units (exponent - 1) fuel)

def shortest (units : Nat) : Decimal10 :=
  shortestFrom units (leadingPower units) 17

def Decimal10.text (d : Decimal10) : Text :=
  if 0 ≤ d.exponent then
    Decimal.ofNat (d.digits * Nat.pow 10 d.exponent.toNat)
  else
    let places := d.exponent.natAbs
    let digits := Decimal.padded (places + 1) d.digits
    let fraction := Text.dropEndWhile (· == '0') (digits.drop (digits.length - places))
    digits.take (digits.length - places) ++ if fraction.isEmpty then [] else '.' :: fraction

def text : Binary64 → Text
  | finite negative units =>
    (if negative then ['-'] else []) ++ if units = 0 then ['0'] else (shortest units).text
  | infinite negative => (if negative then ['-'] else []) ++ "inf".toList
  | nan => "NaN".toList

end Binary64
end FlatQuery
