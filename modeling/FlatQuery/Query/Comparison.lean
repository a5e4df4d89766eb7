import FlatQuery.Pattern.Basic

namespace FlatQuery

inductive Comparison
  | eq
  | ne
  | lt
  | le
  | gt
  | ge
  deriving DecidableEq, Repr

namespace Comparison

def all : List Comparison :=
  [eq, ne, lt, le, gt, ge]

def symbol : Comparison → Text
  | eq => ['=']
  | ne => ['!', '=']
  | lt => ['<']
  | le => ['<', '=']
  | gt => ['>']
  | ge => ['>', '=']

def ofSymbol? (t : Text) : Option Comparison :=
  all.find? (·.symbol == t)

def accepts : Comparison → Ordering → Bool
  | eq, o => o == .eq
  | ne, o => o != .eq
  | lt, o => o == .lt
  | le, o => o != .gt
  | gt, o => o == .gt
  | ge, o => o != .lt

def isEquality : Comparison → Bool
  | eq => true
  | ne => true
  | _ => false

def matchLength : Text → Option Nat
  | '!' :: '=' :: _ => some 2
  | '<' :: '=' :: _ => some 2
  | '>' :: '=' :: _ => some 2
  | '=' :: _ => some 1
  | '<' :: _ => some 1
  | '>' :: _ => some 1
  | _ => none

theorem matchLength_within {t : Text} {n : Nat} (h : matchLength t = some n) :
    0 < n ∧ n ≤ t.length := by
  unfold matchLength at h
  split at h <;> simp_all <;> omega

end Comparison

def Pattern.comparisons : Pattern where
  matchLength _ := Comparison.matchLength
  within := Comparison.matchLength_within

end FlatQuery
