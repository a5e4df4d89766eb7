import FlatQuery.Pattern.WholeWord

namespace FlatQuery

inductive Keyword
  | select
  | source
  | filter
  | groupBy
  | orderBy
  | having
  | and
  | or
  | not
  deriving DecidableEq, Repr

namespace Keyword

-- Two words are separated by exactly one space.
def letters : Keyword → Text
  | select => "select".toList
  | source => "from".toList
  | filter => "where".toList
  | groupBy => "group by".toList
  | orderBy => "order by".toList
  | having => "having".toList
  | and => "and".toList
  | or => "or".toList
  | not => "not".toList

theorem letters_ne_nil (k : Keyword) : k.letters ≠ [] := by
  cases k <;> exact List.cons_ne_nil _ _

def pattern (k : Keyword) : Pattern :=
  .wholeWord [k.letters] (by simp [letters_ne_nil])

def spans (k : Keyword) (t : Text) : List Span :=
  k.pattern.spans t

def starts (k : Keyword) (t : Text) : List Nat :=
  (k.spans t).map (·.start)

def first? (k : Keyword) (t : Text) : Option Span :=
  k.pattern.first? t

def last? (k : Keyword) (t : Text) : Option Span :=
  k.pattern.last? t

def count (k : Keyword) (t : Text) : Nat :=
  k.pattern.count t

def occursIn (k : Keyword) (t : Text) : Bool :=
  k.pattern.occursIn t

end Keyword

namespace Pattern

def joiners : Pattern :=
  .wholeWord [Keyword.and.letters, Keyword.or.letters] (by simp [Keyword.letters_ne_nil])

def connectives : Pattern :=
  .wholeWord [Keyword.and.letters, Keyword.or.letters, Keyword.not.letters]
    (by simp [Keyword.letters_ne_nil])

end Pattern
end FlatQuery
