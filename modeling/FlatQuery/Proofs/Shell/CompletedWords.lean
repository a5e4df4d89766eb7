import FlatQuery.Proofs.Text.ByteRanges
import FlatQuery.Proofs.Text.LetterCase
import FlatQuery.Shell.Completion
import Mathlib.Data.List.Basic

namespace FlatQuery
namespace Completion

variable {t u v before word rest : Text} {k : Candidate}

section Candidates

theorem lowerAscii_word : ∀ w ∈ words, w.lowerAscii = w ∧ w.upperAscii.lowerAscii = w := by
  decide

-- A word may be offered in capitals, and a command is offered as it is.
theorem isPrefix_of_mem_candidatesFor (h : k ∈ candidatesFor t) :
    t.lowerAscii <+: k.replacement.lowerAscii := by
  rw [candidatesFor] at h
  split at h
  case isTrue => contradiction
  case isFalse =>
    split at h
    case isTrue =>
      obtain ⟨w, hw, rfl⟩ := List.mem_map.mp h
      exact (List.isPrefixOf_iff_prefix.mp (List.mem_filter.mp hw).right).map Char.toLower
    case isFalse =>
      obtain ⟨w, hw, rfl⟩ := List.mem_map.mp h
      obtain ⟨hw, hp⟩ := List.mem_filter.mp hw
      obtain ⟨hl, hu⟩ := lowerAscii_word w hw
      have hr : Text.lowerAscii (if isCapitals t then w.upperAscii else w) = w := by
        split <;> assumption
      rw [hr]
      exact List.isPrefixOf_iff_prefix.mp hp

end Candidates

section Words

theorem takeBytes?_append : takeBytes? u.byteSize (u ++ v) = some u := by
  induction u
  case nil => exact takeBytes?.eq_1 v
  case cons c u hi =>
    have hc := c.utf8Size_pos
    have hs : Text.byteSize (c :: u) = c.utf8Size + Text.byteSize u - 1 + 1 := by
      have : Text.byteSize (c :: u) = c.utf8Size + Text.byteSize u := rfl
      omega
    have hd : c.utf8Size + Text.byteSize u - 1 + 1 - c.utf8Size = Text.byteSize u := by omega
    rw [hs, List.cons_append, takeBytes?, hd, hi, if_pos (by omega)]
    rfl

-- The last character that ends a word.
def lastBoundary? (t : Text) : Option Char :=
  (t.filter isBoundary).getLast?

-- A word without boundaries goes back to a boundary, or to the beginning.
structure EndsIn (t before word : Text) : Prop where
  text   : t = before ++ word
  whole  : word.all (!isBoundary ·)
  begins : before.getLast?.all isBoundary

theorem exists_endsIn (t : Text) : ∃ before word, EndsIn t before word := by
  obtain ⟨word, ht, hw⟩ := Text.exists_dropEndWhile (!isBoundary ·) t
  refine ⟨_, word, ht, hw, ?_⟩
  have hd := List.head?_dropWhile_not (!isBoundary ·) t.reverse
  rw [Text.dropEndWhile, List.getLast?_reverse]
  revert hd
  cases (t.reverse.dropWhile (!isBoundary ·)).head? <;> simp

namespace EndsIn

variable (h : EndsIn t before word)
include h

theorem lastBoundary?_eq : lastBoundary? t = before.getLast? := by
  have hw : word.filter isBoundary = [] := by simpa using h.whole
  rw [lastBoundary?, h.text, List.filter_append, hw, List.append_nil]
  obtain rfl | ⟨u, c, rfl⟩ := List.eq_nil_or_concat' before
  case inl => rfl
  case inr =>
    have hc : isBoundary c := by simpa using h.begins
    simp [hc]

theorem wordAtEnd?_eq : wordAtEnd? t =
    if (lastBoundary? t).all (·.utf8Size == 1) then some (before.byteSize, word) else none := by
  have hw : (t.reverse.takeWhile (!isBoundary ·)).reverse = word := by
    have hp : ∀ c ∈ word.reverse, (!isBoundary c) = true := by simpa using h.whole
    have hb : before.reverse.takeWhile (!isBoundary ·) = [] := by
      obtain rfl | ⟨u, c, rfl⟩ := List.eq_nil_or_concat' before
      case inl => rfl
      case inr =>
        have hc : isBoundary c := by simpa using h.begins
        simp [hc]
    rw [h.text, List.reverse_append, List.takeWhile_append_of_pos hp, hb, List.append_nil,
      List.reverse_reverse]
  have hb : t.take (t.length - word.length) = before := by simp [h.text]
  rw [wordAtEnd?, h.lastBoundary?_eq]
  simp only [hw, hb]

end EndsIn

end Words

-- The completion is for the word that ends at the cursor. Both offsets are those of characters, or
-- nothing could be cut out between them.
structure WellPlaced (line : Text) (cursor : Nat) (c : Completion) (word : Text) : Prop where
  cut        : line.cut? ⟨c.start, cursor⟩ = some word
  whole      : word.all (!isBoundary ·)
  begins     : c.start = 0 ∨ ∃ u b, line.cut? ⟨0, c.start⟩ = some (u ++ [b]) ∧ isBoundary b
  candidates : ∀ k ∈ c.candidates, word.lowerAscii <+: k.replacement.lowerAscii

theorem EndsIn.wellPlaced (h : EndsIn t before word) :
    WellPlaced (t ++ rest) t.byteSize ⟨before.byteSize, candidatesFor word⟩ word := by
  obtain rfl := h.text
  constructor
  case cut => exact Text.cut?_append
  case whole => exact h.whole
  case begins =>
    obtain rfl | ⟨u, b, rfl⟩ := List.eq_nil_or_concat' before
    case inl => exact .inl rfl
    case inr =>
      have hc : Text.cut? ([] ++ (u ++ [b]) ++ (word ++ rest)) ⟨0, (Text.byteSize (u ++ [b]))⟩ =
          some (u ++ [b]) := Text.cut?_append
      exact .inr ⟨u, b, by simpa using hc, by simpa using h.begins⟩
  case candidates => exact fun k hk => isPrefix_of_mem_candidatesFor hk

theorem at?_wellPlaced (typed rest : Text) :
    ∃ c word, WellPlaced (typed ++ rest) (Text.byteSize typed) c word ∧
      at? (typed ++ rest) (Text.byteSize typed) =
        if (lastBoundary? typed).all (·.utf8Size == 1) then some c else none := by
  obtain ⟨before, word, h⟩ := exists_endsIn typed
  refine ⟨_, word, h.wellPlaced, ?_⟩
  rw [at?, takeBytes?_append]
  simp only [Option.bind_eq_bind, Option.bind_some, h.wordAtEnd?_eq]
  split <;> rfl

-- A space that does not break takes two bytes.
theorem at?_eq_none_wideSpace :
    (∃ typed rest, "a\u00a0se".toList = typed ++ rest ∧ Text.byteSize typed = 5) ∧
      at? "a\u00a0se".toList 5 = none :=
  ⟨⟨"a\u00a0se".toList, [], by decide, by decide⟩, by decide⟩

end Completion
end FlatQuery
