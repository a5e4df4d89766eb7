import FlatQuery.Query.Plan

namespace FlatQuery
namespace Dialect

def reservedWords : List Text :=
  [Keyword.select.letters, Keyword.source.letters, Keyword.filter.letters,
    "group".toList, "order".toList, "by".toList, Keyword.having.letters,
    Keyword.and.letters, Keyword.or.letters, Keyword.not.letters]

def reserved : Pattern :=
  .wholeWord reservedWords (by decide)

-- A name of ASCII letters, digits and underscores.
structure Word where
  text     : Text
  nonempty : text ≠ []
  plain    : text.all isAsciiWordChar
  free     : text.lowerAscii ∉ reservedWords

-- A fixed word in some letter case.
structure Spelling (word : Text) where
  text    : Text
  spelled : text.lowerAscii = word

-- At least one value.
structure Listing (α : Type) where
  first : α
  rest  : List α

def Listing.all (l : Listing α) : List α :=
  l.first :: l.rest

inductive Entry
  | word (w : Word)
  | call (function : AggregateFunction) (name : Spelling function.name) (field : Word)

namespace Entry

def text : Entry → Text
  | word w => w.text
  | call _ name field => name.text ++ '(' :: field.text ++ [')']

def call? : Entry → Option AggregateCall
  | word _ => none
  | call function _ field => some ⟨function, field.text⟩

end Entry

inductive Selection
  | all
  | entries (es : Listing Entry)

namespace Selection

def listed : Selection → List Entry
  | all => []
  | entries es => es.all

def text : Selection → Text
  | all => ['*']
  | entries es => Text.join ", ".toList (es.all.map Entry.text)

def projection : Selection → Projection
  | all => .all
  | entries es => .fields (es.all.map Entry.text)

end Selection

structure Source where
  path : Listing Word

def Source.text (s : Source) : Text :=
  Text.join ['/'] (s.path.all.map Word.text) ++ ".csv".toList

def isLiteralChar (c : Char) : Bool :=
  isAsciiWordChar c || [' ', '-', '.', ':', '/'].contains c

-- What stands between quotes.
structure Literal where
  text  : Text
  plain : text.all isLiteralChar
  free  : reserved.occursIn text = false

structure Restriction where
  negation : Option (Spelling Keyword.not.letters)
  field    : Word
  operator : Comparison
  literal  : Literal

namespace Restriction

def condition (r : Restriction) : Text :=
  r.field.text ++ ' ' :: r.operator.symbol ++ " \x27".toList ++ r.literal.text ++ ['\x27']

def text (r : Restriction) : Text :=
  match r.negation with
  | none => r.condition
  | some n => n.text ++ ' ' :: r.condition

def predicate (r : Restriction) : Predicate :=
  ⟨r.field.text, r.operator, r.literal.text, r.negation.isSome⟩

def connectives (r : Restriction) : List Connective :=
  match r.negation with
  | none => []
  | some _ => [.not]

end Restriction

inductive Link
  | and (s : Spelling Keyword.and.letters)
  | or (s : Spelling Keyword.or.letters)

namespace Link

def text : Link → Text
  | and s => s.text
  | or s => s.text

def connective : Link → Connective
  | and _ => .and
  | or _ => .or

end Link

structure Filter where
  first : Restriction
  rest  : List (Link × Restriction)

namespace Filter

def text (f : Filter) : Text :=
  f.first.text ++ f.rest.flatMap fun (link, r) => ' ' :: link.text ++ ' ' :: r.text

def predicates (f : Filter) : List Predicate :=
  f.first.predicate :: f.rest.map (·.2.predicate)

-- In the order of the text, each `not` before its condition.
def connectives (f : Filter) : List Connective :=
  f.first.connectives ++ f.rest.flatMap fun (link, r) => link.connective :: r.connectives

end Filter

inductive Direction
  | ascending (s : Spelling "asc".toList)
  | descending (s : Spelling "desc".toList)

def Direction.text : Direction → Text
  | ascending s => s.text
  | descending s => s.text

structure Ordered where
  entry     : Entry
  direction : Option Direction

namespace Ordered

def text (o : Ordered) : Text :=
  match o.direction with
  | none => o.entry.text
  | some d => o.entry.text ++ ' ' :: d.text

def sortKey (o : Ordered) : SortKey :=
  ⟨o.entry.text, o.direction matches some (.descending _)⟩

end Ordered

-- A query without sub-queries. It prints to a text with single spaces between its tokens, and has a
-- plan of its own that does not depend on that text.
structure Query where
  select    : Spelling Keyword.select.letters
  selection : Selection
  origin    : Spelling Keyword.source.letters
  source    : Source
  filter    : Option (Spelling Keyword.filter.letters × Filter)
  groups    : Option (Spelling Keyword.groupBy.letters × Listing Word)
  orders    : Option (Spelling Keyword.orderBy.letters × Listing Ordered)

namespace Query

variable (q : Query)

-- A keyword with what belongs to it.
def clause (k body : Text) : Text :=
  k ++ ' ' :: body

def groupFields : List Text :=
  match q.groups with
  | none => []
  | some (_, g) => g.all.map Word.text

def ordered : List Ordered :=
  match q.orders with
  | none => []
  | some (_, o) => o.all

def base : Text :=
  Text.join [' '] [clause q.select.text q.selection.text, clause q.origin.text q.source.text]

def print : Text :=
  Text.join [' '] <|
    [clause q.select.text q.selection.text, clause q.origin.text q.source.text] ++
    (q.filter.toList.map fun (k, f) => clause k.text f.text) ++
    (q.groups.toList.map fun (k, g) => clause k.text (Text.join ", ".toList (g.all.map Word.text))) ++
    (q.orders.toList.map fun (k, o) => clause k.text (Text.join ", ".toList (o.all.map Ordered.text)))

def plan : Plan where
  rawText     := q.print
  source      := q.source.text
  baseQuery   := q.base
  projection  := q.selection.projection
  predicates  := q.filter.elim [] (·.2.predicates)
  connectives := q.filter.elim [] (·.2.connectives)
  aggregates  := q.selection.listed.filterMap Entry.call?
  groupBy     := q.groupFields
  orderBy     := q.ordered.map Ordered.text
  kind        := .classify q.groups.isSome q.orders.isSome (q.selection.listed.any (·.call?.isSome))

end Query
end Dialect
end FlatQuery
