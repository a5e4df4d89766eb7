import FlatQuery.Query.Aggregate
import FlatQuery.Query.Outline
import FlatQuery.Query.Predicate
import FlatQuery.Query.Settings

namespace FlatQuery

inductive Absence
  -- The query never mentions the clause.
  | notInQuery
  -- Only a sub-query has it.
  | onlyInSubquery
  deriving DecidableEq, Repr

inductive Clause (α : Type)
  | absent (why : Absence)
  | malformed
  | present (value : α)
  deriving DecidableEq, Repr

namespace Clause

def bind : Clause α → (α → Clause β) → Clause β
  | absent why, _ => absent why
  | malformed, _ => malformed
  | present value, f => f value

-- An absent clause has no value; a malformed one is an error.
def require (part : Part) : Clause α → Except ParseError (Option α)
  | absent _ => .ok none
  | malformed => .error (.malformed part)
  | present value => .ok (some value)

def requireList (part : Part) (c : Clause (List α)) : Except ParseError (List α) :=
  (c.require part).map (·.getD [])

-- A clause is read from the trimmed text on its own. Every clause of a query with a faulty outline
-- is malformed.
def ofSound (f : Text → Clause α) (raw : Text) : Clause α :=
  if Outline.isSound raw then f raw.trim else malformed

-- The first word that names a source.
def source (settings : Settings) (query : Text) : Clause Text :=
  match query.words.find? settings.isSourceName with
  | some word => present word
  | none => absent .notInQuery

-- Where the base query ends: at the last `where`, else the last `group by`, else the last `order
-- by`.
def baseEnd? (query : Text) : Option Nat :=
  ((Keyword.filter.last? query).or ((Keyword.groupBy.last? query).or
    (Keyword.orderBy.last? query))).map (·.start)

-- What stands before the clauses. Another clause keyword in it is a fault, unless parentheses show
-- a sub-query.
def base (query : Text) : Clause Text :=
  match baseEnd? query with
  | none => present query
  | some stop =>
    let text := Text.trim (query.take stop)
    if [Keyword.filter, .orderBy, .groupBy].any (·.occursIn text) && !text.contains '('
        && !text.contains ')' then
      malformed
    else
      present text

def isBalanced (between : Text) : Bool :=
  Keyword.select.count between == Keyword.source.count between

-- From the leading `select` to its own `from`, past the sub-queries of the list.
def selectSpan? (query : Text) : Option Span :=
  match Keyword.select.first? query with
  | none => none
  | some select =>
    if select.start = 0 then
      ((Keyword.source.starts query).find? fun stop =>
        select.stop ≤ stop && isBalanced (query.slice ⟨select.stop, stop⟩)).map (⟨select.stop, ·⟩)
    else
      none

-- An entry is one word, or an assignment.
def isSelectEntry (entry : Text) : Bool :=
  !entry.isEmpty && (!entry.any isBlank || entry.contains '=')

def selectList (query : Text) : Clause (List Text) :=
  match selectSpan? query with
  | none => malformed
  | some span =>
    let entries := ((query.slice span).pieces (· == ',')).map Text.trim
    if entries.all isSelectEntry then present entries else malformed

-- A filter is at least as long as `1=3`, or `1 = 3` with spaces.
def filterOfText (text : Text) : Clause Text :=
  if text.length < (if text.any isBlank then 5 else 3) then malformed else present text

-- An `order by` that stands before the `group by` must belong to a sub-query.
def ordersBeforeGroups (query : Text) : Option Nat → Option Nat → Bool
  | some order, some group => order < group && !(query.slice ⟨order, group⟩).closesSubquery
  | _, _ => false

-- The filter that begins at `start`, when no clause follows it. A clause that stands ahead of it
-- must belong to a sub-query.
def lastFilter (query : Text) (start : Nat) (clause : Option Nat) : Clause Text :=
  let scope := match clause with
    | some stop => query.take stop
    | none => query
  let nested := Keyword.select.count scope > 1
  let text := Text.trim (query.drop start)
  if (clause.isSome && !nested) || text.isEmpty then malformed
  else if nested && text.closesSubquery then absent .onlyInSubquery
  else filterOfText text

def filter (query : Text) : Clause Text :=
  match Keyword.filter.last? query with
  | none => absent .notInQuery
  | some keyword =>
    let start := keyword.stop
    let order := (Keyword.orderBy.last? query).map (·.start)
    let group := (Keyword.groupBy.last? query).map (·.start)
    if start ≤ Outline.minLength || ordersBeforeGroups query order group then
      malformed
    else
      match group.or order with
      | some stop =>
        if start < stop then
          let text := Text.trim (query.slice ⟨start, stop⟩)
          if text.isEmpty then malformed
          else if text.closesSubquery then absent .onlyInSubquery
          else filterOfText text
        else
          lastFilter query start (some stop)
      | none => lastFilter query start none

-- The filter cut at its joiners; every piece must be a condition, with or without `not`.
def conditions (query : Text) : Clause (List Text) :=
  (filter query).bind fun text =>
    match Pattern.joiners.texts? text with
    | none => malformed
    | some pieces =>
      if pieces.all fun piece => (Condition.ofText? piece.stripNot.2).isSome then present pieces
      else malformed

def connectives (query : Text) : Clause (List Text) :=
  (filter query).bind fun text =>
    match Pattern.connectives.delimiters? text with
    | none => malformed
    | some [] => absent .notInQuery
    | some tokens => present (tokens.map Text.lowerAscii)

def tail (k : Keyword) (query : Text) : Clause Text :=
  match k.last? query with
  | none => absent .notInQuery
  | some span =>
    let text := Text.trim (query.drop span.stop)
    if text.isEmpty then malformed else present text

-- Comma-separated entries of at least one word, and at most `limit` words if there is a limit.
def fieldList (limit : Option Nat) (text : Text) : Clause (List Text) :=
  let fields := (text.pieces (· == ',')).map Text.trim
  if fields.all fun f => !f.words.isEmpty && limit.all (f.words.length ≤ ·) then present fields
  else malformed

-- Reads the fields of a tail that no keyword of `others` may follow outside a sub-query.
def fieldsOfTail (others : List Keyword) (read : Text → Clause (List Text)) (text : Text) :
    Clause (List Text) :=
  if others.any (·.occursIn text) then
    if text.closesSubquery then absent .onlyInSubquery else malformed
  else if text.closesSubquery && !text.contains '(' then
    absent .onlyInSubquery
  else
    read text

def orderBy (query : Text) : Clause (List Text) :=
  (tail .orderBy query).bind (fieldsOfTail [.filter, .groupBy] (fieldList (some 2)))

-- The fields of a `group by` end at a `having` or an `order by`.
def groupFields (text : Text) : Text :=
  let stops := [Keyword.having, .orderBy].filterMap fun k => (k.first? text).map (·.start)
  let fields := Text.trim (text.take (stops.foldl min text.length))
  if fields.getLast? = some ')' then Text.strip (· == ')') fields else fields

def groupBy (query : Text) : Clause (List Text) :=
  (tail .groupBy query).bind (fieldsOfTail [.filter] fun text => fieldList none (groupFields text))

def aggregates (query : Text) : Clause (List Text) :=
  (base query).bind fun text =>
    match (Pattern.aggregateCalls.spans text).map text.slice with
    | [] => absent .notInQuery
    | calls => present calls

end Clause
end FlatQuery
