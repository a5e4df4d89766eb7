import FlatQuery.Proofs.Pattern.ByteCuts
import Mathlib.Data.List.Pairwise

namespace FlatQuery
namespace Keyword

variable {k : Keyword} {t : Text} {s : Span} {r : ByteRange}

def offsets (k : Keyword) (t : Text) : List Nat :=
  (k.starts t).map t.byteOffset

theorem offsets_eq : k.offsets t = (k.ranges t).map (·.start) := by
  rw [offsets, starts, ranges, Pattern.ranges, List.map_map, List.map_map]
  rfl

-- The bytes of the range spell the keyword, and no word character touches them.
def StandsAt (k : Keyword) (t : Text) (r : ByteRange) : Prop :=
  ∃ u m v, t = u ++ m ++ v ∧ Spells k.letters m ∧ endsWord u = false ∧ startsWord v = false ∧
    r = ⟨u.byteSize, (u ++ m).byteSize⟩

theorem mem_ranges_iff : r ∈ k.ranges t ↔ k.StandsAt t r := by
  have hb {u m v : Text} : Span.bytes (u ++ m ++ v) ⟨u.length, u.length + m.length⟩ =
      ⟨u.byteSize, (u ++ m).byteSize⟩ := by
    rw [Span.bytes, ← List.length_append, Text.byteOffset_append, List.append_assoc,
      Text.byteOffset_append]
  constructor
  case mp =>
    intro h
    obtain ⟨s, hs, rfl⟩ := List.mem_map.mp h
    obtain ⟨u, m, v, rfl, hm, hu, hv, rfl⟩ := mem_spans_iff.mp hs
    exact ⟨u, m, v, rfl, hm, hu, hv, hb⟩
  case mpr =>
    rintro ⟨u, m, v, rfl, hm, hu, hv, rfl⟩
    exact List.mem_map.mpr ⟨_, mem_spans_iff.mpr ⟨u, m, v, rfl, hm, hu, hv, rfl⟩, hb⟩

theorem mem_offsets_iff : n ∈ k.offsets t ↔ ∃ r, k.StandsAt t r ∧ r.start = n := by
  simp only [offsets_eq, List.mem_map, mem_ranges_iff]

-- Where a character begins later, so do its bytes.
theorem pairwise_ranges : (k.ranges t).Pairwise fun a b => a.start < a.stop ∧ a.stop ≤ b.start := by
  refine List.pairwise_map.mpr ?_
  refine (Pattern.pairwise_spans k.pattern t).imp_of_mem fun {a b} ha hb h => ⟨?_, ?_⟩
  · exact Text.byteOffset_lt h.left (stop_le_length ha)
  · exact Text.byteOffset_le h.right (start_le_length hb)

theorem pairwise_offsets : (k.offsets t).Pairwise (· < ·) := by
  rw [offsets_eq]
  exact List.pairwise_map.mpr (pairwise_ranges.imp fun h => Nat.lt_of_lt_of_le h.left h.right)

-- Two occurrences share no byte.
theorem StandsAt.eq_or_apart (h : k.StandsAt t r) (h' : k.StandsAt t r') :
    r = r' ∨ r.stop ≤ r'.start ∨ r'.stop ≤ r.start := by
  have hp : (k.ranges t).Pairwise fun a b => a.stop ≤ b.start ∨ b.stop ≤ a.start :=
    pairwise_ranges.imp fun h => .inl h.right
  have : Std.Symm fun a b : ByteRange => a.stop ≤ b.start ∨ b.stop ≤ a.start := ⟨fun _ _ => .symm⟩
  by_cases he : r = r'
  case pos => exact .inl he
  case neg => exact .inr (hp.forall (mem_ranges_iff.mpr h) (mem_ranges_iff.mpr h') he)

-- The offsets are those of the occurrences, one by one, and answer all questions about them.
structure FindsAll (k : Keyword) (t : Text) : Prop where
  increasing : (k.offsets t).Pairwise (· < ·)
  complete   : ∀ n, n ∈ k.offsets t ↔ ∃ r, k.StandsAt t r ∧ r.start = n
  apart      : ∀ r r', k.StandsAt t r → k.StandsAt t r' →
    r = r' ∨ r.stop ≤ r'.start ∨ r'.stop ≤ r.start
  first      : (k.first? t).map (fun s => t.byteOffset s.start) = (k.offsets t).head?
  last       : (k.last? t).map (fun s => t.byteOffset s.start) = (k.offsets t).getLast?
  firstRange : ∀ s, k.first? t = some s → k.StandsAt t (s.bytes t)
  lastRange  : ∀ s, k.last? t = some s → k.StandsAt t (s.bytes t)
  count      : k.count t = (k.offsets t).length
  occurs     : k.occursIn t ↔ k.offsets t ≠ []

theorem findsAll (k : Keyword) (t : Text) : k.FindsAll t := by
  have hl : (k.offsets t).length = (k.spans t).length := by
    rw [offsets, starts, List.length_map, List.length_map]
  have hr (s) (hs : s ∈ k.spans t) : k.StandsAt t (s.bytes t) :=
    mem_ranges_iff.mp (List.mem_map_of_mem hs)
  constructor
  case increasing => exact pairwise_offsets
  case complete => exact fun n => mem_offsets_iff
  case apart => exact fun r r' => StandsAt.eq_or_apart
  case first => rw [offsets_eq, List.head?_map, head?_ranges, Option.map_map]; rfl
  case last => rw [offsets_eq, List.getLast?_map, getLast?_ranges, Option.map_map]; rfl
  case firstRange => exact fun s hs => hr s (mem_of_first? hs)
  case lastRange => exact fun s hs => hr s (mem_of_last? hs)
  case count => rw [hl, count_eq]
  case occurs =>
    rw [occursIn_eq, ne_eq, ← List.length_eq_zero_iff, hl, List.length_eq_zero_iff]
    simp

end Keyword
end FlatQuery
