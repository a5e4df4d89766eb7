import FlatQuery.Pattern.Keyword
import FlatQuery.Query.ParseError

namespace FlatQuery

namespace Text

-- Sub-queries are known only by their own keywords and by a closing parenthesis.
def closesSubquery (t : Text) : Bool :=
  t.contains ')'

end Text

namespace Outline

-- Characters of the shortest query, `select * from t`.
def minLength : Nat := 15

-- Characters from a `from` to its `where` at least, as in `from t where`.
def minWhereGap : Nat := 7

def checkSelectList (query : Text) : Except OutlineFault Unit :=
  match Keyword.select.first? query, Keyword.source.first? query with
  | some select, some source =>
    if source.start < select.stop then .error .fromBeforeSelect
    else if (query.slice ⟨select.stop, source.start⟩).allBlank then .error .emptySelectList
    else .ok ()
  | _, _ => .error .missingSelectOrFrom

def checkCounts (query : Text) : Except OutlineFault Unit :=
  let selects := Keyword.select.count query
  let froms := Keyword.source.count query
  if selects ≠ froms then
    .error (.selectFromMismatch selects froms)
  else
    [Keyword.filter, .orderBy, .groupBy].forM fun k =>
      if k.count query > selects then .error (.tooManyClauses k.letters (k.count query) selects)
      else .ok ()

-- Each `where` follows the `from` of the same rank, with room for a source between them.
def checkWheres (query : Text) : Except OutlineFault Unit :=
  let wheres := Keyword.filter.starts query
  let froms := Keyword.source.starts query
  if wheres = [] then
    .ok ()
  else if wheres.length ≠ froms.length then
    .error (.whereFromMismatch wheres.length froms.length)
  else
    (wheres.zip froms).forM fun (place, source) =>
      if place < source then .error (.whereBeforeFrom (query.byteOffset place))
      else if place - source < minWhereGap then .error (.whereAbutsFrom (query.byteOffset place))
      else .ok ()

-- An `and` between a `group by` and its `order by` must belong to a `having`: either the `having`
-- comes first, or a sub-query ends between the two.
def andIsExplained (between : Text) : Bool :=
  match Keyword.and.first? between with
  | none => true
  | some and =>
    match Keyword.having.first? between with
    | none => false
    | some having =>
      having.start ≤ and.start || (between.slice ⟨and.start, having.start⟩).closesSubquery

-- Each `order by` is compared with the `group by` of the same rank, as far as both go.
def checkOrders (query : Text) : Except OutlineFault Unit :=
  ((Keyword.orderBy.starts query).zip (Keyword.groupBy.starts query)).forM fun (order, group) =>
    if order < group then
      if (query.slice ⟨order, group⟩).closesSubquery then .ok ()
      else .error (.orderByBeforeGroupBy (query.byteOffset order))
    else if andIsExplained (query.slice ⟨group, order⟩) then
      .ok ()
    else
      .error .andOutsideHaving

def check (raw : Text) : Except OutlineFault Unit := do
  let query := raw.trim
  if query.length < minLength then
    throw (.tooShort query.length minLength)
  checkSelectList query
  checkCounts query
  checkWheres query
  checkOrders query

def isSound (raw : Text) : Bool :=
  (check raw).isOk

end Outline
end FlatQuery
