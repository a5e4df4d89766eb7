import FlatQuery.Text.Basic

namespace FlatQuery

-- Keyword counts or positions that no query can have. Places are byte offsets into the trimmed
-- query.
inductive OutlineFault
  | tooShort (length minimum : Nat)
  | missingSelectOrFrom
  | fromBeforeSelect
  | emptySelectList
  | selectFromMismatch (selects froms : Nat)
  | tooManyClauses (clause : Text) (count selects : Nat)
  | whereFromMismatch (wheres froms : Nat)
  | whereBeforeFrom (offset : Nat)
  | whereAbutsFrom (offset : Nat)
  | orderByBeforeGroupBy (offset : Nat)
  | andOutsideHaving
  deriving DecidableEq, Repr

def OutlineFault.message : OutlineFault → String
  | tooShort length minimum =>
    s!"query is too short ({length} characters, minimum {minimum})"
  | missingSelectOrFrom => "query must contain both 'select' and 'from'"
  | fromBeforeSelect => "'from' appears before the first 'select'"
  | emptySelectList => "nothing is selected between 'select' and 'from'"
  | selectFromMismatch selects froms =>
    s!"'select' occurs {selects} times but 'from' occurs {froms} times"
  | tooManyClauses clause count selects =>
    s!"'{clause.toString}' occurs {count} times but 'select' only {selects} times"
  | whereFromMismatch wheres froms =>
    s!"'where' occurs {wheres} times but 'from' occurs {froms} times"
  | whereBeforeFrom offset => s!"'where' at offset {offset} precedes its 'from'"
  | whereAbutsFrom offset =>
    s!"'where' at offset {offset} leaves no source between it and 'from'"
  | orderByBeforeGroupBy offset =>
    s!"'order by' at offset {offset} precedes 'group by' outside a sub-query"
  | andOutsideHaving =>
    "'and' between 'group by' and 'order by' is not part of a 'having' clause"

inductive Part
  | source
  | base
  | selectList
  | filter
  | condition
  | connective
  | groupBy
  | orderBy
  | aggregate
  deriving DecidableEq, Repr

def Part.name : Part → String
  | source => "source"
  | base => "base query"
  | selectList => "select list"
  | filter => "filter"
  | condition => "condition"
  | connective => "logical operator"
  | groupBy => "group by"
  | orderBy => "order by"
  | aggregate => "aggregate"

inductive ParseError
  | outline (fault : OutlineFault)
  | missingSource
  | malformed (part : Part)
  | unknownComparison (symbol : Text)
  | unbalanced (predicates operators : Nat)
  deriving DecidableEq, Repr

def ParseError.message : ParseError → String
  | outline fault => s!"cannot parse query: {fault.message}"
  | missingSource => "query does not name a tabular source"
  | malformed part => s!"malformed {part.name} clause"
  | unknownComparison symbol => s!"unknown comparison operator: {symbol.toString}"
  | unbalanced predicates operators =>
    s!"{predicates} conditions cannot be joined by {operators} logical operators"

end FlatQuery
