import FlatQuery.Number.Shortest
import FlatQuery.Query.Aggregate
import FlatQuery.Table.Cell

namespace FlatQuery

structure Accumulator where
  function : AggregateFunction
  type : ColumnType
  -- Cells that are not blank.
  count : Nat := 0
  -- Cells read as numbers.
  numeric : Nat := 0
  integerSum : Int := 0
  floatSum : Binary64 := .zero
  best : Option Text := none
  deriving DecidableEq, Repr

namespace Accumulator

def fresh (function : AggregateFunction) (type : ColumnType) : Accumulator :=
  { function, type }

-- Adds a cell to the sums. An integer column adds integers only, any other column every finite
-- number.
def addNumber (a : Accumulator) (cell : Text) : Accumulator :=
  if a.type = .integer then
    match Decimal.readInt64? cell with
    | some n => { a with
        integerSum := a.integerSum + n
        floatSum := a.floatSum.add (.ofInt n)
        numeric := a.numeric + 1 }
    | none => a
  else
    match (Binary64.read? cell).filter (·.isFinite) with
    | some x => { a with floatSum := a.floatSum.add x, numeric := a.numeric + 1 }
    | none => a

-- Keeps a comparable cell that sorts strictly to the wanted side of the best one so far.
def keepExtreme (a : Accumulator) (wanted : Ordering) (cell : Text) : Accumulator :=
  if a.type.isComparable cell && a.best.all fun best => a.type.sortOrder cell best == wanted then
    { a with best := some cell }
  else
    a

def update (a : Accumulator) (cell : Text) : Accumulator :=
  let cell := cell.trim
  if cell.isEmpty then
    a
  else
    let a := { a with count := a.count + 1 }
    match a.function with
    | .count => a
    | .sum => a.addNumber cell
    | .avg => a.addNumber cell
    | .min => a.keepExtreme .lt cell
    | .max => a.keepExtreme .gt cell

def feed (a : Accumulator) (cells : List Text) : Accumulator :=
  cells.foldl update a

-- The value so far. Sums and averages of no numbers and extremes of no cells are empty.
def finish (a : Accumulator) : Text :=
  match a.function with
  | .count => Decimal.ofNat a.count
  | .sum =>
    if a.numeric = 0 then []
    else if a.type = .integer then Decimal.ofInt a.integerSum
    else a.floatSum.text
  | .avg =>
    if a.numeric = 0 then [] else (a.floatSum.div (.ofInt a.numeric)).text
  | .min => a.best.getD []
  | .max => a.best.getD []

def outputType (a : Accumulator) : ColumnType :=
  match a.function with
  | .count => .integer
  | .sum => if a.type = .integer then .integer else .float
  | .avg => .float
  | .min => a.type
  | .max => a.type

end Accumulator
end FlatQuery
