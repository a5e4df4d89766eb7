import FlatQuery.Calendar.Format

namespace FlatQuery
namespace Instant

def readDigits? (n : Nat) (t : Text) : Option (Nat × Text) :=
  let digits := t.take n
  if digits.length = n ∧ digits.all Char.isDigit then some (Decimal.value digits, t.drop n)
  else none

def readWithin? (n low high : Nat) (t : Text) : Option (Nat × Text) :=
  (readDigits? n t).filter fun (v, _) => low ≤ v && v ≤ high

def readChar? (chars : List Char) : Text → Option Text
  | c :: t => if chars.contains c then some t else none
  | [] => none

-- Nanoseconds after a point; digits past the ninth are ignored.
def readFraction? (t : Text) : Option (Nat × Text) :=
  match t with
  | '.' :: t =>
    let digits := t.takeWhile Char.isDigit
    let kept := digits.take 9
    if digits.isEmpty then none
    else some (Decimal.value kept * Nat.pow 10 (9 - kept.length), t.drop digits.length)
  | t => some (0, t)

-- Seconds east of universal time; the minus may be a hyphen or a minus sign.
def readOffset? : Text → Option (Int × Text)
  | [] => none
  | c :: t =>
    if c = 'Z' ∨ c = 'z' then
      some (0, t)
    else if c = '+' ∨ c = '-' ∨ c = '\u2212' then do
      let (hour, t) ← readWithin? 2 0 23 t
      let t ← readChar? [':'] t
      let (minute, t) ← readWithin? 2 0 59 t
      let seconds : Int := 3600 * hour + 60 * minute
      return (if c = '+' then seconds else -seconds, t)
    else
      none

def read? (t : Text) : Option Stamp := do
  let (year, t) ← readDigits? 4 t
  let t ← readChar? ['-'] t
  let (month, t) ← readDigits? 2 t
  let t ← readChar? ['-'] t
  let (day, t) ← readDigits? 2 t
  let t ← readChar? ['T', 't', ' '] t
  let (hour, t) ← readWithin? 2 0 23 t
  let t ← readChar? [':'] t
  let (minute, t) ← readWithin? 2 0 59 t
  let t ← readChar? [':'] t
  let (second, t) ← readWithin? 2 0 60 t
  let (nano, t) ← readFraction? t
  let (offset, t) ← readOffset? t
  let date : Date := ⟨year, month, day⟩
  if t.isEmpty ∧ date.exists? then
    some ((Stamp.ofTime date hour minute second nano).earlier offset)
  else
    none

end Instant

-- The moment that a text names, at midnight if it names only a day.
def Stamp.read? (t : Text) : Option Stamp :=
  let t := t.trim
  (Instant.read? t).or
    ((Format.timestamps.findSome? (·.read? t)).or (Format.dates.findSome? (·.read? t)))

end FlatQuery
