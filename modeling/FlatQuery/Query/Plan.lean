import FlatQuery.Query.Clause
import FlatQuery.Query.Connective
import FlatQuery.Query.SortKey

namespace FlatQuery

inductive Projection
  | all
  | fields (names : List Text)
  deriving DecidableEq, Repr

def Projection.ofEntries (entries : List Text) : Projection :=
  if entries = [['*']] then all else fields entries

structure Plan where
  rawText : Text
  source : Text
  baseQuery : Text
  projection : Projection
  predicates : List Predicate
  -- Each `not` stands among the joiners where it stands in the text.
  connectives : List Connective
  aggregates : List AggregateCall
  groupBy : List Text
  orderBy : List Text
  kind : Kind
  deriving DecidableEq, Repr

namespace Plan

def joiners (p : Plan) : List Connective :=
  p.connectives.filter (·.isBinary)

def hasFilter (p : Plan) : Bool :=
  !p.predicates.isEmpty

def sortKeys (p : Plan) : Except ParseError (List SortKey) :=
  p.orderBy.mapM SortKey.parse

-- Predicates and joiners fit if there is one joiner between any two neighbours.
def checkBalance (predicates : List Predicate) (connectives : List Connective) :
    Except ParseError Unit :=
  let joiners := (connectives.filter (·.isBinary)).length
  if predicates ≠ [] ∧ predicates.length ≠ joiners + 1 then
    .error (.unbalanced predicates.length joiners)
  else
    .ok ()

def ofClauses (settings : Settings) (raw query : Text) : Except ParseError Plan := do
  let some source ← (Clause.source settings query).require .source | throw .missingSource
  let base ← (Clause.base query).require .base
  let some entries ← (Clause.selectList query).require .selectList
    | throw (.malformed .selectList)
  let _ ← (Clause.filter query).require .filter
  let predicates ← (← (Clause.conditions query).requireList .condition).mapM Predicate.parse
  let connectives ← (← (Clause.connectives query).requireList .connective).mapM Connective.parse
  checkBalance predicates connectives
  let groupBy ← (Clause.groupBy query).requireList .groupBy
  let orderBy ← (Clause.orderBy query).requireList .orderBy
  let aggregates ← (← (Clause.aggregates query).requireList .aggregate).mapM AggregateCall.parse
  let plan : Plan := {
    rawText := raw
    source := source
    baseQuery := base.getD []
    projection := .ofEntries entries
    predicates := predicates
    connectives := connectives
    aggregates := aggregates
    groupBy := groupBy
    orderBy := orderBy
    kind := .classify (!groupBy.isEmpty) (!orderBy.isEmpty) (!aggregates.isEmpty) }
  let _ ← plan.sortKeys
  return plan

def parse (settings : Settings) (raw : Text) : Except ParseError Plan :=
  match Outline.check raw with
  | .error fault => .error (.outline fault)
  | .ok () => ofClauses settings raw raw.trim

end Plan
end FlatQuery
