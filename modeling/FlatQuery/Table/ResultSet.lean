import FlatQuery.Text.Basic

namespace FlatQuery

structure ResultSet where
  columns : List Text
  rows : List (List Text)
  deriving DecidableEq, Repr

namespace ResultSet

def length (r : ResultSet) : Nat :=
  r.rows.length

def isEmpty (r : ResultSet) : Bool :=
  r.rows.isEmpty

end ResultSet
end FlatQuery
