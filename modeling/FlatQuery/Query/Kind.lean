import FlatQuery.Text.Basic

namespace FlatQuery

inductive Kind
  | simple
  | groupBy
  | orderBy
  | aggregate
  deriving DecidableEq, Repr

namespace Kind

def classify (groups orders aggregates : Bool) : Kind :=
  if groups then groupBy
  else if orders then orderBy
  else if aggregates then aggregate
  else simple

def name : Kind → String
  | simple => "simple"
  | groupBy => "group by"
  | orderBy => "order by"
  | aggregate => "aggregate"

end Kind
end FlatQuery
