import FlatQuery.Number.Decimal

namespace FlatQuery

structure Date where
  year : Int
  month : Nat
  day : Nat
  deriving DecidableEq, Repr

namespace Date

def isLeap (year : Int) : Bool :=
  year % 4 == 0 && (year % 100 != 0 || year % 400 == 0)

def daysIn (year : Int) (month : Nat) : Nat :=
  if month = 2 then (if isLeap year then 29 else 28)
  else if [4, 6, 9, 11].contains month then 30
  else 31

def minYear : Int := -262143

def maxYear : Int := 262142

def exists? (d : Date) : Bool :=
  minYear ≤ d.year && d.year ≤ maxYear && 1 ≤ d.month && d.month ≤ 12 && 1 ≤ d.day
    && d.day ≤ daysIn d.year d.month

def next (d : Date) : Date :=
  if d.day < daysIn d.year d.month then { d with day := d.day + 1 }
  else if d.month < 12 then ⟨d.year, d.month + 1, 1⟩
  else ⟨d.year + 1, 1, 1⟩

def previous (d : Date) : Date :=
  if 1 < d.day then { d with day := d.day - 1 }
  else if 1 < d.month then ⟨d.year, d.month - 1, daysIn d.year (d.month - 1)⟩
  else ⟨d.year - 1, 12, 31⟩

def order (a b : Date) : Ordering :=
  (compare a.year b.year).then ((compare a.month b.month).then (compare a.day b.day))

-- Four digits for the years 0 to 9999; a sign in front of four digits or more for others.
def yearText (year : Int) : Text :=
  if 0 ≤ year ∧ year ≤ 9999 then Decimal.padded 4 year.natAbs
  else (if year < 0 then '-' else '+') :: Decimal.padded 4 year.natAbs

def text (d : Date) : Text :=
  yearText d.year ++ '-' :: Decimal.padded 2 d.month ++ '-' :: Decimal.padded 2 d.day

end Date

-- A moment: a day and the time since it began. A leap second is a second 59 of a minute with more
-- than `10 ^ 9` nanoseconds.
structure Stamp where
  date : Date
  second : Nat
  nano : Nat
  deriving DecidableEq, Repr

namespace Stamp

def secondsPerDay : Nat := 86400

def giga : Nat := Nat.pow 10 9

def midnight (d : Date) : Stamp :=
  ⟨d, 0, 0⟩

def ofTime (d : Date) (hour minute second nano : Nat) : Stamp :=
  if second = 60 then ⟨d, 3600 * hour + 60 * minute + 59, nano + giga⟩
  else ⟨d, 3600 * hour + 60 * minute + second, nano⟩

-- The moment `seconds` earlier, for less than a day in either direction.
def earlier (s : Stamp) (seconds : Int) : Stamp :=
  let second : Int := s.second - seconds
  if second < 0 then { s with date := s.date.previous, second := (second + secondsPerDay).toNat }
  else if second ≥ secondsPerDay then
    { s with date := s.date.next, second := (second - secondsPerDay).toNat }
  else
    { s with second := second.toNat }

def order (a b : Stamp) : Ordering :=
  (a.date.order b.date).then ((compare a.second b.second).then (compare a.nano b.nano))

-- The fraction of a second in three, six or nine digits, whichever suffices.
def fractionText (nano : Nat) : Text :=
  if nano = 0 then []
  else if nano % Nat.pow 10 6 = 0 then '.' :: Decimal.padded 3 (nano / Nat.pow 10 6)
  else if nano % Nat.pow 10 3 = 0 then '.' :: Decimal.padded 6 (nano / Nat.pow 10 3)
  else '.' :: Decimal.padded 9 nano

def text (s : Stamp) : Text :=
  let leap := s.nano / giga
  s.date.text ++ 'T' :: Decimal.padded 2 (s.second / 3600)
    ++ ':' :: Decimal.padded 2 (s.second / 60 % 60)
    ++ ':' :: Decimal.padded 2 (s.second % 60 + leap) ++ fractionText (s.nano % giga)

end Stamp
end FlatQuery
