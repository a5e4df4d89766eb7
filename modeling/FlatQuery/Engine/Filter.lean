import FlatQuery.Query.Plan
import FlatQuery.Query.QueryError
import FlatQuery.Table.Cell
import FlatQuery.Table.Source

namespace FlatQuery

def Schema.resolve (s : Schema) (field : Text) : Except QueryError Nat :=
  match s.position? field with
  | some position => .ok position
  | none => .error (.unresolvedField field)

-- The cell at a place of a row, empty where the row is too short.
def Row.cellAt (r : Row) (position : Nat) : Text :=
  r.getD position []

def Connective.apply : Connective → Bool → Bool → Bool
  | .and => (· && ·)
  | _ => (· || ·)

-- Joins neighbours around each joiner equal to `op`, from left to right; the other joiners and
-- their operands stay.
def mergeWith (op : Connective) : List Bool → List Connective → List Bool × List Connective
  | a :: b :: values, joiner :: joiners =>
    if joiner = op then
      mergeWith op (op.apply a b :: values) joiners
    else
      let (values, rest) := mergeWith op (b :: values) joiners
      (a :: values, joiner :: rest)
  | values, joiners => (values, joiners)

-- Every `and` is resolved before any `or`. Without conditions the filter holds.
def combine (results : List Bool) (connectives : List Connective) : Bool :=
  let (values, joiners) := mergeWith .and results (connectives.filter (·.isBinary))
  (mergeWith .or values joiners).1.getLast?.getD true

structure BoundPredicate where
  position : Nat
  type : ColumnType
  operator : Comparison
  literal : Text
  negated : Bool
  deriving DecidableEq, Repr

namespace BoundPredicate

def bind (s : Schema) (p : Predicate) : Except QueryError BoundPredicate := do
  let position ← s.resolve p.field
  return ⟨position, s.typeAt position, p.operator, p.literal, p.negated⟩

-- A missing cell satisfies no condition, and so every negated one.
def holds (p : BoundPredicate) (r : Row) : Bool :=
  (r[p.position]?.any fun cell => p.type.satisfies p.operator cell p.literal) != p.negated

end BoundPredicate

structure Filter where
  predicates : List BoundPredicate
  joiners : List Connective
  deriving DecidableEq, Repr

namespace Filter

def bind (p : Plan) (s : Schema) : Except QueryError Filter := do
  let predicates ← p.predicates.mapM (BoundPredicate.bind s)
  return ⟨predicates, p.joiners⟩

def admits (f : Filter) (r : Row) : Bool :=
  combine (f.predicates.map (·.holds r)) f.joiners

end Filter
end FlatQuery
