import FlatQuery.Table.Cell

namespace FlatQuery

def firstDecided (verdicts : List Ordering) : Ordering :=
  verdicts.foldr Ordering.then .eq

-- Equal elements keep their order.
def stableSort (order : α → α → Ordering) (xs : List α) : List α :=
  xs.mergeSort fun a b => order a b != .gt

end FlatQuery
