import FlatQuery.Calendar.Instant
import FlatQuery.Number.Binary64
import FlatQuery.Query.Comparison
import FlatQuery.Table.Schema
import FlatQuery.Text.LetterCase

namespace FlatQuery

inductive CellValue
  | integer (n : Int)
  | float (x : Binary64)
  | dateTime (s : Stamp)
  deriving DecidableEq, Repr

-- Order within a type; values of two types do not compare.
def CellValue.compare? : CellValue → CellValue → Option Ordering
  | integer m, integer n => some (compare m n)
  | float x, float y => x.compare? y
  | dateTime s, dateTime t => some (s.order t)
  | _, _ => none

namespace ColumnType

def isTextual : ColumnType → Bool
  | string => true
  | empty => true
  | _ => false

def read? (type : ColumnType) (cell : Text) : Option CellValue :=
  match type with
  | integer => (Decimal.readInt64? cell.trim).map .integer
  | float => (Binary64.read? cell.trim).map .float
  | dateTime => (Stamp.read? cell.trim).map .dateTime
  | string => none
  | empty => none

-- Whether a cell can be read under the type. A text always can.
def isComparable (type : ColumnType) (cell : Text) : Bool :=
  match type with
  | string => true
  | empty => false
  | _ => (type.read? cell).isSome

def order? (type : ColumnType) (left right : Text) : Option Ordering := do
  let l ← type.read? left
  let r ← type.read? right
  l.compare? r

def foldText (cell : Text) : Text :=
  cell.trim.lower

-- Whether a cell and a literal satisfy the operator. Texts know only equality.
def satisfies (type : ColumnType) (op : Comparison) (cell literal : Text) : Bool :=
  match type with
  | string => op.isEquality && (op == .eq) == (foldText cell == foldText literal)
  | empty => false
  | _ => (type.order? cell literal).any op.accepts

-- The order of two cells in a sort: values before what cannot be read.
def sortOrder (type : ColumnType) (left right : Text) : Ordering :=
  match type.read? left, type.read? right with
  | some l, some r => (l.compare? r).getD .eq
  | some _, none => .lt
  | none, some _ => .gt
  | none, none =>
    if type.isTextual then (foldText left).order (foldText right) else .eq

-- The order in a direction. Cells that cannot be read stay last.
def directedOrder (type : ColumnType) (descending : Bool) (left right : Text) : Ordering :=
  if descending && type.isComparable left == type.isComparable right then
    (type.sortOrder left right).swap
  else
    type.sortOrder left right

end ColumnType
end FlatQuery
