import FlatQuery.Table.ResultSet
import FlatQuery.Text.DisplayWidth

namespace FlatQuery
namespace Grid

def cellLines (cell : Text) : List Text :=
  cell.pieces (· == '\n')

def cellWidth (cell : Text) : Nat :=
  ((cellLines cell).map Text.columns).foldl max 0

def columnWidth (rows : List (List Text)) (i : Nat) : Nat :=
  (rows.map fun r => cellWidth (r.getD i [])).foldl max 1

def columnWidths (rows : List (List Text)) : List Nat :=
  (List.range ((rows.map List.length).foldl max 0)).map (columnWidth rows)

def padLine (width : Nat) (line : Text) : Text :=
  ' ' :: line ++ List.replicate (width - line.columns + 1) ' '

-- The lines of a row: as many as its highest cell has, where shorter cells are filled up.
def rowLines (widths : List Nat) (row : List Text) : List Text :=
  let cells := widths.mapIdx fun i width => (width, cellLines (row.getD i []))
  let height := (cells.map (·.2.length)).foldl max 0
  (List.range height).map fun n =>
    '|' :: cells.flatMap fun (width, lines) => padLine width (lines.getD n []) ++ ['|']

def ruleLine (edge crossing fill : Char) (widths : List Nat) : Text :=
  edge :: Text.join [crossing] (widths.map fun w => List.replicate (w + 2) fill) ++ [edge]

def border : List Nat → Text :=
  ruleLine '+' '+' '-'

def headerRule : List Nat → Text :=
  ruleLine '+' '=' '='

def rowRule : List Nat → Text :=
  ruleLine '|' '+' '-'

def lines (r : ResultSet) : List Text :=
  let widths := columnWidths (r.columns :: r.rows)
  let body := (r.rows.map (rowLines widths)).intersperse [rowRule widths]
  border widths :: rowLines widths r.columns ++ headerRule widths :: body.flatten ++ [border widths]

def countText (n : Nat) : Text :=
  let noun := if n = 1 then "row" else "rows"
  s!"({n} {noun})".toList

def render (r : ResultSet) : Text :=
  Text.join ['\n'] (lines r ++ [countText r.length])

end Grid
end FlatQuery
