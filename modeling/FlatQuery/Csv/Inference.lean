import FlatQuery.Calendar.Month
import FlatQuery.Number.Decimal
import FlatQuery.Pattern.WholeWord
import FlatQuery.Table.Schema
import FlatQuery.Text.DecimalDigit

namespace FlatQuery

inductive DateShapeItem
  | day
  | month
  -- A number of decimal digits of any script.
  | digits (n : Nat)
  | shortMonthName
  | longMonthName
  | oneOf (chars : List Char)
  deriving DecidableEq, Repr

abbrev DateShape := List DateShapeItem

namespace DateShape

def isDay (tens units : Char) : Bool :=
  match tens with
  | '0' => '1' ≤ units && units ≤ '9'
  | '1' => isDecimalDigit units
  | '2' => isDecimalDigit units
  | '3' => units == '0' || units == '1'
  | _ => false

def isMonth (tens units : Char) : Bool :=
  match tens with
  | '0' => '1' ≤ units && units ≤ '9'
  | '1' => '0' ≤ units && units ≤ '2'
  | _ => false

def afterPair (fits : Char → Char → Bool) : Text → Option Text
  | a :: b :: t => if fits a b then some t else none
  | _ => none

def afterItem (t : Text) : DateShapeItem → Option Text
  | .day => afterPair isDay t
  | .month => afterPair isMonth t
  | .digits n =>
    if (t.take n).length = n ∧ (t.take n).all isDecimalDigit then some (t.drop n) else none
  | .shortMonthName => Month.shortNames.findSome? (afterFolded · t)
  | .longMonthName => Month.names.findSome? (afterFolded · t)
  | .oneOf chars =>
    match t with
    | c :: t => if chars.contains c then some t else none
    | [] => none

def fits (t : Text) : DateShape → Bool
  | [] => t.isEmpty
  | item :: items =>
    match afterItem t item with
    | some rest => fits rest items
    | none => false

def yearMonthDay : DateShape :=
  [.digits 4, .oneOf ['-'], .month, .oneOf ['-'], .day]

def all : List DateShape :=
  [[.day, .oneOf ['/'], .month, .oneOf ['/'], .digits 4],
    [.month, .oneOf ['/'], .day, .oneOf ['/'], .digits 4],
    [.day, .oneOf ['-'], .shortMonthName, .oneOf ['-'], .digits 2],
    [.day, .oneOf ['-'], .shortMonthName, .oneOf ['-'], .digits 4],
    [.day, .oneOf ['-'], .longMonthName, .oneOf ['-'], .digits 2],
    [.day, .oneOf ['-'], .longMonthName, .oneOf ['-'], .digits 4],
    yearMonthDay,
    yearMonthDay ++ [.oneOf [' ', 'T'], .digits 2, .oneOf [':'], .digits 2, .oneOf [':'], .digits 2]]

end DateShape

namespace ColumnType

def dropMinus : Text → Text
  | '-' :: t => t
  | t => t

def isWholeNumber (t : Text) : Bool :=
  Decimal.isDigits (dropMinus t)

def isFraction (t : Text) : Bool :=
  match (dropMinus t).cutAtFirst '.' with
  | some (whole, fraction) => Decimal.isDigits whole && Decimal.isDigits fraction
  | none => false

-- Whole numbers of more than 64 bits are compared as floating-point numbers.
def infer (sample : Text) : ColumnType :=
  let t := sample.trim
  if isWholeNumber t then (if (Decimal.readInt64? t).isSome then integer else float)
  else if isFraction t then float
  else if DateShape.all.any (DateShape.fits t) then dateTime
  else if t.isEmpty then empty
  else string

end ColumnType
end FlatQuery
