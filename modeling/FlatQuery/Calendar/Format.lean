import FlatQuery.Calendar.Date
import FlatQuery.Calendar.Month

namespace FlatQuery

structure DateParts where
  year : Int := 0
  month : Nat := 1
  day : Nat := 1
  hour : Nat := 0
  minute : Nat := 0
  second : Nat := 0
  deriving DecidableEq, Repr

inductive FormatItem
  -- Up to four digits, or a sign and any number of digits.
  | year
  -- Two digits of a year from 1970 to 2069.
  | shortYear
  | month
  | shortMonthName
  | longMonthName
  | day
  | hour
  | minute
  | second
  -- White space of any length, none included.
  | space
  | literal (c : Char)
  deriving DecidableEq, Repr

abbrev Format := List FormatItem

namespace Format

-- Up to `width` digits, at least one, after optional white space.
def readNumber? (width : Nat) (t : Text) : Option (Nat × Text) :=
  let t := t.trimStart
  let digits := (t.take width).takeWhile Char.isDigit
  if digits.isEmpty then none else some (Decimal.value digits, t.drop digits.length)

def readBetween? (low high : Nat) (t : Text) : Option (Nat × Text) :=
  (readNumber? 2 t).filter fun (n, _) => low ≤ n && n ≤ high

def readRun? (t : Text) : Option (Int × Text) :=
  let digits := t.takeWhile Char.isDigit
  if digits.isEmpty then none else some (Decimal.value digits, t.drop digits.length)

def readYear? (t : Text) : Option (Int × Text) :=
  match t.trimStart with
  | '-' :: t => (readRun? t).map fun (n, rest) => (-n, rest)
  | '+' :: t => readRun? t
  | t => (readNumber? 4 t).map fun (n, rest) => ((n : Int), rest)

def centuryOf (n : Nat) : Int :=
  if n < 70 then 2000 + n else 1900 + n

def readItem? (parts : DateParts) (t : Text) : FormatItem → Option (DateParts × Text)
  | .year => (readYear? t).map fun (n, rest) => ({ parts with year := n }, rest)
  | .shortYear => (readNumber? 2 t).map fun (n, rest) => ({ parts with year := centuryOf n }, rest)
  | .month => (readBetween? 1 12 t).map fun (n, rest) => ({ parts with month := n }, rest)
  | .shortMonthName => (Month.readShort? t).map fun (n, rest) => ({ parts with month := n }, rest)
  | .longMonthName => (Month.readLong? t).map fun (n, rest) => ({ parts with month := n }, rest)
  | .day => (readBetween? 1 31 t).map fun (n, rest) => ({ parts with day := n }, rest)
  | .hour => (readBetween? 0 23 t).map fun (n, rest) => ({ parts with hour := n }, rest)
  | .minute => (readBetween? 0 59 t).map fun (n, rest) => ({ parts with minute := n }, rest)
  | .second => (readBetween? 0 60 t).map fun (n, rest) => ({ parts with second := n }, rest)
  | .space => some (parts, t.trimStart)
  | .literal c => if t.head? = some c then some (parts, t.tail) else none

def readFrom? (parts : DateParts) (t : Text) : Format → Option DateParts
  | [] => if t.isEmpty then some parts else none
  | item :: items => do
    let (parts, rest) ← readItem? parts t item
    readFrom? parts rest items

def read? (f : Format) (t : Text) : Option Stamp := do
  let parts ← readFrom? {} t f
  let date : Date := ⟨parts.year, parts.month, parts.day⟩
  if date.exists? then some (.ofTime date parts.hour parts.minute parts.second 0) else none

def yearMonthDay : Format :=
  [.year, .literal '-', .month, .literal '-', .day]

def timeOfDay : Format :=
  [.hour, .literal ':', .minute, .literal ':', .second]

def timestamps : List Format :=
  [yearMonthDay ++ .space :: timeOfDay, yearMonthDay ++ .literal 'T' :: timeOfDay]

-- Days without a time. Where day and month are both numbers the day comes first, unless only the
-- other order gives a date.
def dates : List Format :=
  [yearMonthDay,
    [.day, .literal '/', .month, .literal '/', .year],
    [.month, .literal '/', .day, .literal '/', .year],
    [.day, .literal '-', .shortMonthName, .literal '-', .shortYear],
    [.day, .literal '-', .shortMonthName, .literal '-', .year],
    [.day, .literal '-', .longMonthName, .literal '-', .shortYear],
    [.day, .literal '-', .longMonthName, .literal '-', .year]]

end Format
end FlatQuery
