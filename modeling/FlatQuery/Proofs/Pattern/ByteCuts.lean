import FlatQuery.Proofs.Pattern.Occurrences
import FlatQuery.Proofs.Text.ByteRanges

namespace FlatQuery

variable {t : Text} {s : Span}

namespace Pattern

variable {p : Pattern}

-- The matches from left to right.
def ranges (p : Pattern) (t : Text) : List ByteRange :=
  (p.spans t).map (·.bytes t)

-- Cuts the text from `start` on around the given ranges.
def cutBytes? (t : Text) (start : Nat) : List ByteRange → Option Split
  | [] => do
    let rest ← t.cut? ⟨start, t.byteSize⟩
    return ⟨rest, []⟩
  | r :: later => do
    let front ← t.cut? ⟨start, r.start⟩
    let delimiter ← t.cut? r
    let rest ← cutBytes? t r.stop later
    return ⟨front, (delimiter, rest.head) :: rest.tail⟩

def splitBytes? (p : Pattern) (t : Text) : Option Split :=
  cutBytes? t 0 (p.ranges t)

theorem cut?_of_mem_spans (h : s ∈ p.spans t) : t.cut? (s.bytes t) = some (t.slice s) :=
  Text.cut?_bytes (start_le_stop h) (stop_le_length h)

-- Each range begins where the one before it has ended, or later.
theorem cutBytes?_eq {l : List Span} (hl : ∀ s ∈ l, s ∈ p.spans t)
    (hp : l.Pairwise fun a b => a.start < a.stop ∧ a.stop ≤ b.start)
    (hi : ∀ s ∈ l, i ≤ s.start) (ht : i ≤ t.length) :
    cutBytes? t (t.byteOffset i) (l.map (·.bytes t)) = some (cutAround t i l) := by
  induction l generalizing i
  case nil => simp [cutBytes?, cutAround, Text.cut?_drop ht]
  case cons s l hi' =>
    obtain ⟨hs, hl⟩ := List.forall_mem_cons.mp hl
    obtain ⟨hi, -⟩ := List.forall_mem_cons.mp hi
    obtain ⟨hp, hp'⟩ := List.pairwise_cons.mp hp
    have hsl := Nat.le_trans (start_le_stop hs) (stop_le_length hs)
    have hf : t.cut? ⟨t.byteOffset i, (s.bytes t).start⟩ = some (t.slice ⟨i, s.start⟩) :=
      Text.cut?_bytes hi hsl
    have hr : cutBytes? t (s.bytes t).stop (l.map (·.bytes t)) = some (cutAround t s.stop l) :=
      hi' hl hp' (fun s hs => (hp s hs).right) (stop_le_length hs)
    simp only [List.map_cons, cutBytes?, hf, cut?_of_mem_spans hs, hr]
    rfl

theorem splitBytes?_eq (p : Pattern) (t : Text) : p.splitBytes? t = some (p.split t) := by
  have h := cutBytes?_eq (p := p) (i := 0) (fun _ => id) (pairwise_spans p t)
    (fun _ _ => Nat.zero_le _) (Nat.zero_le t.length)
  rwa [Text.byteOffset_zero] at h

end Pattern

namespace Keyword

variable {k : Keyword}

def ranges (k : Keyword) (t : Text) : List ByteRange :=
  k.pattern.ranges t

theorem head?_ranges : (k.ranges t).head? = (k.first? t).map (·.bytes t) :=
  List.head?_map ..

theorem getLast?_ranges : (k.ranges t).getLast? = (k.last? t).map (·.bytes t) :=
  List.getLast?_map ..

-- What is cut out at a range is the keyword, letter by letter.
theorem exists_cut?_of_mem_ranges (h : r ∈ k.ranges t) :
    ∃ m, t.cut? r = some m ∧ Spells k.letters m := by
  obtain ⟨s, hs, rfl⟩ := List.mem_map.mp h
  refine ⟨t.slice s, Pattern.cut?_of_mem_spans hs, ?_⟩
  obtain ⟨u, m, v, rfl, hm, -, -, rfl⟩ := exists_of_mem_spans hs
  rwa [Text.slice_append]

-- A long s takes two bytes.
theorem exists_longer_range : ∃ (k : Keyword) (t : Text), ∃ r ∈ k.ranges t,
    k.letters.byteSize < r.stop - r.start :=
  ⟨.select, "\u017felect".toList, ⟨0, 7⟩, by decide, by decide⟩

end Keyword
end FlatQuery
