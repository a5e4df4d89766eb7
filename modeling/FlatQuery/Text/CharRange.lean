namespace FlatQuery

-- First and last code point of a run of characters.
abbrev CharRange := Nat × Nat

end FlatQuery

def Char.inRanges (c : Char) (ranges : List FlatQuery.CharRange) : Bool :=
  ranges.any fun r => r.1 ≤ c.toNat && c.toNat ≤ r.2
