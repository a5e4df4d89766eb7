import FlatQuery.Number.Binary64

namespace FlatQuery
namespace Similarity

-- Two characters match only within this distance.
def searchRange (a b : Text) : Nat :=
  max a.length b.length / 2 - 1

def matchFor? (range i : Nat) (c : Char) (b : Text) (taken : List Nat) : Option Nat :=
  (List.range b.length).find? fun j =>
    i ≤ j + range && j ≤ i + range && b[j]? == some c && !taken.contains j

-- The matching places of both words, each in the order of the first.
def matchesFrom (range i : Nat) (b : Text) (taken : List Nat) : Text → List (Nat × Nat)
  | [] => []
  | c :: a =>
    match matchFor? range i c b taken with
    | some j => (i, j) :: matchesFrom range (i + 1) b (j :: taken) a
    | none => matchesFrom range (i + 1) b taken a

abbrev Score := Binary64

def Score.ofRatio (num den : Nat) : Score :=
  Binary64.div (.ofInt num) (.ofInt den)

def Score.exceeds (s t : Score) : Bool :=
  s.compare? t = some .gt

-- The Jaro similarity: the mean of the shares of matching characters in both words and of those in
-- order.
def score (a b : Text) : Score :=
  let found := matchesFrom (searchRange a b) 0 b [] a
  let first := found.filterMap fun (i, _) => a[i]?
  let second := ((List.range b.length).filter fun j => found.any (·.2 == j)).filterMap (b[·]?)
  let m := found.length
  let swaps := ((first.zip second).filter fun (c, d) => c != d).length / 2
  if a.isEmpty && b.isEmpty then Score.ofRatio 1 1
  else if m = 0 then Score.ofRatio 0 1
  else
    let shares := Binary64.add (Score.ofRatio m a.length) (Score.ofRatio m b.length)
    Binary64.div (shares.add (Score.ofRatio (m - swaps) m)) (.ofInt 3)

def threshold : Score :=
  Score.ofRatio 7 10

def closest? (a : Text) (words : List Text) : Option Text :=
  (words.filter fun w => (score a w).exceeds threshold).foldl (fun best w =>
    match best with
    | some b => if (score a b).exceeds (score a w) then some b else some w
    | none => some w) none

end Similarity
end FlatQuery
