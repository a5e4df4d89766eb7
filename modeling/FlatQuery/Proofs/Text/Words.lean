import FlatQuery.Proofs.Text.Letters
import Mathlib.Data.List.TakeWhile

namespace FlatQuery
namespace Text

variable {p : Char → Bool} {t u v w : Text} {c : Char}

section Strip

theorem dropWhile_eq_self (h : ∀ c ∈ t.head?, p c = false) : t.dropWhile p = t := by
  cases t
  case nil => rfl
  case cons c t => simp [h c rfl]

theorem dropWhile_append_all (h : u.all p) : (u ++ t).dropWhile p = t.dropWhile p :=
  List.dropWhile_append_of_pos (List.all_eq_true.mp h)

-- A text is left as it is if no character of `p` stands at an end of it.
theorem strip_eq_self (hh : ∀ c ∈ t.head?, p c = false) (hl : ∀ c ∈ t.getLast?, p c = false) :
    strip p t = t := by
  have hr : ∀ c ∈ t.reverse.head?, p c = false := by simpa using hl
  simp [strip, dropEndWhile, dropWhile_eq_self hh, dropWhile_eq_self hr]

theorem strip_all_append (h : u.all p) : strip p (u ++ t) = strip p t := by
  simp [strip, dropWhile_append_all h]

theorem dropEndWhile_append_all (h : v.all p) : dropEndWhile p (t ++ v) = dropEndWhile p t := by
  have hr : v.reverse.all p := by simpa using h
  rw [dropEndWhile, List.reverse_append, dropWhile_append_all hr, dropEndWhile]

theorem strip_append_all (h : v.all p) : strip p (t ++ v) = strip p t := by
  rw [strip, strip, List.dropWhile_append]
  split
  case isTrue ht =>
    rw [List.dropWhile_eq_nil_iff.mpr (List.all_eq_true.mp h), List.isEmpty_iff.mp ht]
  case isFalse => exact dropEndWhile_append_all h

theorem exists_dropEndWhile (p : Char → Bool) (t : Text) :
    ∃ v, t = dropEndWhile p t ++ v ∧ v.all p := by
  have h := congrArg List.reverse (List.takeWhile_append_dropWhile (p := p) (l := t.reverse))
  rw [List.reverse_append, List.reverse_reverse] at h
  exact ⟨(t.reverse.takeWhile p).reverse, h.symm, by simp⟩

theorem dropEndWhile_eq_self (h : ∀ c ∈ t.getLast?, p c = false) : dropEndWhile p t = t := by
  have hr : ∀ c ∈ t.reverse.head?, p c = false := by simpa using h
  rw [dropEndWhile, dropWhile_eq_self hr, List.reverse_reverse]

theorem length_dropEndWhile_le : (dropEndWhile p t).length ≤ t.length := by
  obtain ⟨v, ht, -⟩ := exists_dropEndWhile p t
  have := congrArg List.length ht
  simp only [List.length_append] at this
  omega

theorem mem_dropEndWhile (hc : c ∈ t) (hp : p c = false) : c ∈ dropEndWhile p t := by
  obtain ⟨v, ht, hv⟩ := exists_dropEndWhile p t
  rw [ht] at hc
  refine (List.mem_append.mp hc).resolve_right fun hm => ?_
  simp [List.all_eq_true.mp hv c hm] at hp

theorem strip_dropEndWhile : strip p (dropEndWhile p t) = strip p t := by
  obtain ⟨v, ht, hv⟩ := exists_dropEndWhile p t
  exact (strip_append_all hv).symm.trans (congrArg (strip p) ht.symm)

theorem exists_strip (p : Char → Bool) (t : Text) :
    ∃ u v, t = u ++ strip p t ++ v ∧ u.all p ∧ v.all p := by
  have h := List.takeWhile_append_dropWhile (p := p) (l := t)
  obtain ⟨v, hd, hv⟩ := exists_dropEndWhile p (t.dropWhile p)
  refine ⟨t.takeWhile p, v, ?_, by simp, hv⟩
  rw [strip, List.append_assoc, ← hd, h]

theorem length_strip_le : (strip p t).length ≤ t.length := by
  obtain ⟨u, v, ht, -⟩ := exists_strip p t
  have := congrArg List.length ht
  simp only [List.length_append] at this
  omega

theorem mem_of_mem_strip (h : c ∈ strip p t) : c ∈ t := by
  obtain ⟨u, v, ht, -⟩ := exists_strip p t
  rw [ht]
  simp [h]

-- What is left has no character of `p` at its ends.
theorem strip_ends : (∀ c ∈ (strip p t).head?, p c = false) ∧
    ∀ c ∈ (strip p t).getLast?, p c = false := by
  have hd (u : Text) : ∀ c ∈ (u.dropWhile p).head?, p c = false := fun c hc => by
    have := List.head?_dropWhile_not p u
    rwa [Option.mem_def.mp hc] at this
  have hp : strip p t <+: t.dropWhile p := by
    rw [strip, dropEndWhile, ← List.reverse_suffix, List.reverse_reverse]
    exact List.dropWhile_suffix p
  refine ⟨fun c hc => hd t c ?_, fun c hc => hd (t.dropWhile p).reverse c ?_⟩
  case refine_1 =>
    obtain ⟨v, hv⟩ := hp
    rw [← hv, List.head?_append, Option.mem_def.mp hc]
    rfl
  case refine_2 => simpa [strip, dropEndWhile] using hc

theorem strip_strip : strip p (strip p t) = strip p t :=
  strip_eq_self strip_ends.left strip_ends.right

theorem strip_eq_nil_iff : strip p t = [] ↔ t.all p := by
  constructor
  case mp =>
    intro h
    obtain ⟨u, v, ht, hu, hv⟩ := exists_strip p t
    rw [ht, h, List.append_nil, List.all_append, hu, hv]
    rfl
  case mpr => exact fun h => strip_append_all (t := []) h

theorem contains_strip (h : p c = false) : (strip p t).contains c = t.contains c := by
  obtain ⟨u, v, ht, hu, hv⟩ := exists_strip p t
  have hn {s : Text} (hs : s.all p) : c ∉ s := fun hm => by
    simp [List.all_eq_true.mp hs c hm] at h
  rw [Bool.eq_iff_iff, List.contains_iff_mem, List.contains_iff_mem]
  constructor
  case mp  => intro hm; rw [ht]; simp [hm]
  case mpr =>
    intro hm
    rw [ht] at hm
    simpa [hn hu, hn hv] using hm

end Strip

section Pieces

theorem pieces_ne_nil (t : Text) : t.pieces p ≠ [] := by
  cases t <;> simp only [pieces]
  case nil => simp
  case cons =>
    split
    case isTrue => simp
    case isFalse => split <;> simp

theorem pieces_cons_of_pos (h : p c) : pieces p (c :: t) = [] :: pieces p t :=
  if_pos h

theorem pieces_cons_of_neg (h : p c = false) (ht : pieces p t = w :: ws) :
    pieces p (c :: t) = (c :: w) :: ws :=
  (if_neg (Bool.eq_false_iff.mp h)).trans (by rw [ht])

theorem pieces_append_cons (h : p c) : (u ++ c :: v).pieces p = u.pieces p ++ v.pieces p := by
  induction u
  case nil => exact pieces_cons_of_pos h
  case cons d u hi =>
    cases hd : p d
    case true =>
      rw [List.cons_append, pieces_cons_of_pos hd, pieces_cons_of_pos hd, hi, List.cons_append]
    case false =>
      obtain ⟨w, ws, hu⟩ := List.exists_cons_of_ne_nil (pieces_ne_nil (p := p) u)
      rw [hu, List.cons_append] at hi
      rw [List.cons_append, pieces_cons_of_neg hd hi, pieces_cons_of_neg hd hu, List.cons_append]

theorem pieces_eq_singleton (h : ∀ c ∈ t, p c = false) : t.pieces p = [t] := by
  induction t
  case nil => rfl
  case cons c t hi =>
    have ⟨hc, ht⟩ := List.forall_mem_cons.mp h
    exact pieces_cons_of_neg hc (hi ht)

-- Pieces have all characters of the text but those between them.
theorem flatten_pieces (t : Text) : (pieces p t).flatten = t.filter (!p ·) := by
  induction t
  case nil => rfl
  case cons c t hi =>
    cases hc : p c
    case true => simp [pieces_cons_of_pos hc, hc, hi]
    case false =>
      obtain ⟨w, ws, ht⟩ := List.exists_cons_of_ne_nil (pieces_ne_nil (p := p) t)
      rw [List.filter_cons_of_pos (by simp [hc]), ← hi, pieces_cons_of_neg hc ht, ht]
      rfl

theorem mem_of_mem_pieces (hw : w ∈ pieces p t) (hc : c ∈ w) : c ∈ t := by
  have hm := List.mem_flatten_of_mem hw hc
  rw [flatten_pieces] at hm
  exact (List.mem_filter.mp hm).left

theorem not_of_mem_pieces (hw : w ∈ pieces p t) (hc : c ∈ w) : p c = false := by
  have hm := List.mem_flatten_of_mem hw hc
  rw [flatten_pieces] at hm
  simpa using (List.mem_filter.mp hm).right

theorem words_append_cons (h : isBlank c) : (u ++ c :: v).words = u.words ++ v.words := by
  simp [words, pieces_append_cons h]

theorem mem_of_mem_words (hw : w ∈ words t) (hc : c ∈ w) : c ∈ t :=
  mem_of_mem_pieces ((List.mem_filter.mp hw).left) hc

theorem length_flatten_words_le (t : Text) : (words t).flatten.length ≤ t.length := by
  rw [words, List.flatten_filter_not_isEmpty, flatten_pieces]
  exact List.length_filter_le _ _

theorem words_cons (h : isBlank c) : words (c :: t) = words t := by
  rw [words, pieces_cons_of_pos h]
  rfl

theorem words_blank_append (h : u.all isBlank) : words (u ++ t) = words t := by
  induction u
  case nil => rfl
  case cons c u hi =>
    rw [List.all_cons, Bool.and_eq_true] at h
    rw [List.cons_append, words_cons h.left, hi h.right]

theorem words_append_blank (h : v.all isBlank) : words (t ++ v) = words t := by
  cases v
  case nil => rw [List.append_nil]
  case cons c v =>
    rw [List.all_cons, Bool.and_eq_true] at h
    have hv := words_blank_append (t := []) h.right
    rw [List.append_nil] at hv
    rw [words_append_cons h.left, hv]
    exact List.append_nil _

-- White space at the ends of a text makes no words.
theorem words_trim : words (trim t) = words t := by
  obtain ⟨u, v, ht, hu, hv⟩ := exists_strip isBlank t
  have hw : words (u ++ trim t ++ v) = words (trim t) := by
    rw [words_append_blank hv, words_blank_append hu]
  rw [← hw, trim, ← ht]

theorem words_eq_singleton (h : ∀ c ∈ t, isBlank c = false) (hn : t ≠ []) : t.words = [t] := by
  simp [words, pieces_eq_singleton h, hn]

-- A character that is not blank belongs to a word.
theorem words_ne_nil (hc : c ∈ t) (hb : isBlank c = false) : words t ≠ [] := by
  induction t
  case nil => contradiction
  case cons d t hi =>
    cases hd : isBlank d
    case true =>
      rw [words_cons hd]
      cases hc
      case head => rw [hd] at hb; contradiction
      case tail hc => exact hi hc
    case false =>
      cases hp : pieces isBlank t
      case nil => exact absurd hp (pieces_ne_nil t)
      case cons => simp [words, pieces_cons_of_neg hd hp]

theorem words_eq_nil_iff : words t = [] ↔ t.allBlank := by
  constructor
  case mp =>
    intro h
    refine List.all_eq_true.mpr fun c hc => ?_
    by_contra hb
    exact words_ne_nil hc (Bool.eq_false_iff.mpr hb) h
  case mpr =>
    intro h
    have hw := words_append_blank (t := []) h
    rwa [List.nil_append] at hw

-- No word reaches over a place with white space on one side.
theorem words_append (h : (∀ c ∈ u.getLast?, isBlank c) ∨ ∀ c ∈ v.head?, isBlank c) :
    words (u ++ v) = words u ++ words v := by
  obtain h | h := h
  case inl =>
    obtain rfl | ⟨u, c, rfl⟩ := List.eq_nil_or_concat u
    case inl => rfl
    case inr =>
      rw [List.concat_eq_append] at h ⊢
      have hc : isBlank c := h c (by simp)
      have hu : words (u ++ [c]) = words u := words_append_blank (by simpa using hc)
      rw [hu, List.append_assoc, List.singleton_append, words_append_cons hc]
  case inr =>
    cases v
    case nil =>
      rw [List.append_nil]
      exact (List.append_nil _).symm
    case cons c v =>
      have hc : isBlank c := h c (by simp)
      rw [words_append_cons hc, words_cons hc]

-- A word stands between white space and the ends of the text.
theorem exists_of_mem_words {t w : Text} (h : w ∈ words t) :
    ∃ u v, t = u ++ w ++ v ∧ (∀ c ∈ u.getLast?, isBlank c) ∧ ∀ c ∈ v.head?, isBlank c := by
  by_cases hb : ∃ c ∈ t, isBlank c
  case neg =>
    have hn : ∀ c ∈ t, isBlank c = false := by simpa using hb
    have ht : t ≠ [] := by
      rintro rfl
      contradiction
    rw [words_eq_singleton hn ht, List.mem_singleton] at h
    exact ⟨[], [], by simp [h], by simp, by simp⟩
  case pos =>
    -- Cut at some white space, the text has the word in one of its parts, which are shorter.
    obtain ⟨c, hc, hb⟩ := hb
    obtain ⟨a, b, rfl⟩ := List.append_of_mem hc
    rw [words_append_cons hb, List.mem_append] at h
    have ha : a.length < (a ++ c :: b).length := by simp
    have hl : b.length < (a ++ c :: b).length := by
      simp only [List.length_append, List.length_cons]
      omega
    obtain h | h := h
    case inl =>
      obtain ⟨u, v, rfl, hu, hv⟩ := exists_of_mem_words h
      refine ⟨u, v ++ c :: b, by simp, hu, ?_⟩
      cases v
      case nil => simpa using hb
      case cons => exact hv
    case inr =>
      obtain ⟨u, v, rfl, hu, hv⟩ := exists_of_mem_words h
      refine ⟨a ++ c :: u, v, by simp, ?_, hv⟩
      rw [List.getLast?_append, List.getLast?_cons]
      cases hl : u.getLast?
      case none => simpa [hl] using hb
      case some d => simpa [hl] using hu d hl
termination_by t.length

end Pieces

section Tight

-- There is something in the text, and no white space at its ends.
structure Tight (t : Text) : Prop where
  head : t.head?.any (!isBlank ·)
  last : t.getLast?.any (!isBlank ·)

theorem tight_of_no_blank (h : ∀ c ∈ t, isBlank c = false) (hn : t ≠ []) : Tight t := by
  constructor
  case head => rw [List.head?_eq_some_head hn]; simp [h _ (List.head_mem hn)]
  case last => rw [List.getLast?_eq_some_getLast hn]; simp [h _ (List.getLast_mem hn)]

theorem tight_of_mem_words (h : w ∈ words t) : Tight w := by
  obtain ⟨hm, hn⟩ := List.mem_filter.mp h
  exact tight_of_no_blank (fun c hc => not_of_mem_pieces hm hc) (by simpa using hn)

theorem trim_eq_nil_iff : trim t = [] ↔ t.allBlank :=
  strip_eq_nil_iff

theorem tight_trim (h : t.allBlank = false) : Tight (trim t) := by
  have hn : trim t ≠ [] := fun hn => Bool.eq_false_iff.mp h (trim_eq_nil_iff.mp hn)
  have hs := strip_ends (p := isBlank) (t := t)
  constructor
  case head =>
    rw [List.head?_eq_some_head hn, Option.any_some, hs.left _ (List.head_mem_head? hn)]
    rfl
  case last =>
    rw [List.getLast?_eq_some_getLast hn, Option.any_some, hs.right _ (List.getLast_mem_getLast? hn)]
    rfl

theorem trim_ne_nil_iff : trim t ≠ [] ↔ t.allBlank = false := by
  rw [ne_eq, trim_eq_nil_iff, Bool.not_eq_true]

theorem tight_of_trim_ne_nil (h : trim t ≠ []) : Tight (trim t) :=
  tight_trim (trim_ne_nil_iff.mp h)

theorem trim_trim : trim (trim t) = trim t :=
  strip_strip

-- Unlike `Tight.trim_padded` this also holds of texts with white space at their ends.
theorem trim_append_blanks (hu : u.allBlank) (hv : v.allBlank) : trim (u ++ t ++ v) = trim t := by
  rw [trim, strip_append_all hv, strip_all_append hu, trim]

namespace Tight

theorem ne_nil (h : Tight t) : t ≠ [] := by
  rintro rfl
  cases h.head

theorem append (hu : Tight u) (hv : Tight v) (t : Text) : Tight (u ++ t ++ v) where
  head := by
    obtain ⟨c, u, rfl⟩ := List.exists_cons_of_ne_nil hu.ne_nil
    exact hu.head
  last := by
    rw [List.getLast?_append, List.getLast?_eq_some_getLast hv.ne_nil, Option.some_or,
      ← List.getLast?_eq_some_getLast hv.ne_nil]
    exact hv.last

-- White space around the text is all that trimming takes away.
theorem trim_padded (h : Tight t) (hu : u.all isBlank) (hv : v.all isBlank) :
    trim (u ++ t ++ v) = t := by
  have hh : ∀ c ∈ t.head?, isBlank c = false := fun c hc => by
    have := h.head
    rw [Option.mem_def.mp hc] at this
    simpa using this
  have hl : ∀ c ∈ t.getLast?, isBlank c = false := fun c hc => by
    have := h.last
    rw [Option.mem_def.mp hc] at this
    simpa using this
  rw [trim, List.append_assoc, strip_all_append hu, strip_append_all hv, strip_eq_self hh hl]

theorem trim_eq (h : Tight t) : trim t = t := by
  simpa using h.trim_padded (u := []) (v := []) rfl rfl

theorem trimStart_eq (h : Tight t) : trimStart t = t := by
  obtain ⟨c, t, rfl⟩ := List.exists_cons_of_ne_nil h.ne_nil
  have hc : isBlank c = false := by simpa using h.head
  simp [trimStart, hc]

theorem words_ne_nil (h : Tight t) : t.words ≠ [] := by
  obtain ⟨c, t, rfl⟩ := List.exists_cons_of_ne_nil h.ne_nil
  have hc : isBlank c = false := by simpa using h.head
  exact Text.words_ne_nil (.head _) hc

theorem not_allBlank (h : Tight t) (u v : Text) : Text.allBlank (u ++ t ++ v) = false := by
  obtain ⟨c, t, rfl⟩ := List.exists_cons_of_ne_nil h.ne_nil
  have hc : isBlank c = false := by simpa using h.head
  simp [Text.allBlank, hc]

end Tight

theorem trim_of_words_eq_singleton (h : words t = [w]) : t.trim = w := by
  have hw : w ∈ words t := by simp [h]
  obtain ⟨u, v, rfl, hu, hv⟩ := exists_of_mem_words hw
  have ht := tight_of_mem_words hw
  have hs : words w = [w] := by
    have hm := (List.mem_filter.mp hw).left
    exact words_eq_singleton (fun c hc => not_of_mem_pieces hm hc) ht.ne_nil
  rw [words_append (.inr hv), words_append (.inl hu), hs] at h
  have hl := congrArg List.length h
  simp only [List.length_append, List.length_cons, List.length_nil] at hl
  have hu : words u = [] := List.length_eq_zero_iff.mp (by omega)
  have hv : words v = [] := List.length_eq_zero_iff.mp (by omega)
  exact ht.trim_padded (words_eq_nil_iff.mp hu) (words_eq_nil_iff.mp hv)
end Tight

section Join

variable {sep : Text} {ts : List Text}

@[simp]
theorem join_singleton : join sep [t] = t := by
  simp [join]

theorem join_cons_cons : join sep (t :: u :: ts) = t ++ sep ++ join sep (u :: ts) := by
  simp [join]

theorem join_cons : join sep (t :: ts) = t ++ ts.flatMap (sep ++ ·) := by
  induction ts generalizing t
  case nil => simp
  case cons u ts hi => simp [join_cons_cons, hi]

-- The pieces of a text make it up again.
theorem join_pieces (d : Char) (t : Text) : join [d] (t.pieces (· == d)) = t := by
  induction t
  case nil => rfl
  case cons c t hi =>
    obtain ⟨w, ws, hp⟩ := List.exists_cons_of_ne_nil (pieces_ne_nil (p := (· == d)) t)
    cases hc : c == d
    case true =>
      obtain rfl := eq_of_beq hc
      rw [hp] at hi
      rw [pieces_cons_of_pos (p := (· == c)) hc, hp, join_cons_cons, hi]
      rfl
    case false =>
      rw [hp] at hi
      rw [pieces_cons_of_neg (p := (· == d)) hc hp, join_cons, List.cons_append, ← join_cons, hi]

theorem tight_join (h : ∀ t ∈ ts, Tight t) (hn : ts ≠ []) : Tight (join sep ts) := by
  induction ts
  case nil => contradiction
  case cons t ts hi =>
    have ⟨ht, hts⟩ := List.forall_mem_cons.mp h
    cases ts
    case nil => rwa [join_singleton]
    case cons u ts =>
      rw [join_cons_cons]
      exact ht.append (hi hts (by simp)) sep

theorem mem_join_of_mem (ht : t ∈ ts) (hc : c ∈ t) : c ∈ join sep ts := by
  induction ts
  case nil => contradiction
  case cons u ts hi =>
    cases ts
    case nil =>
      obtain rfl := List.mem_singleton.mp ht
      rwa [join_singleton]
    case cons =>
      rw [join_cons_cons, List.mem_append]
      cases ht
      case head => exact .inl (List.mem_append_left _ hc)
      case tail ht => exact .inr (hi ht)

theorem mem_join (h : c ∈ join sep ts) : c ∈ sep ∨ ∃ t ∈ ts, c ∈ t := by
  induction ts
  case nil => contradiction
  case cons t ts hi =>
    cases ts
    case nil => exact .inr ⟨t, .head _, by simpa using h⟩
    case cons u ts =>
      rw [join_cons_cons, List.append_assoc, List.mem_append, List.mem_append] at h
      obtain h | h | h := h
      case inl => exact .inr ⟨t, .head _, h⟩
      case inr.inl => exact .inl h
      case inr.inr =>
        obtain h | ⟨t', ht, hc⟩ := hi h
        case inl => exact .inl h
        case inr => exact .inr ⟨t', .tail _ ht, hc⟩

section Commas

-- One text with white space around it is one piece.
theorem pieces_padded (ht : Tight t) (hc : ',' ∉ t) (hu : u.all isBlank) (hv : v.all isBlank) :
    (pieces (· == ',') (u ++ t ++ v)).map trim = [t] := by
  have hb {w : Text} (hw : w.all isBlank) : ',' ∉ w := fun hm => by
    have := List.all_eq_true.mp hw _ hm
    contradiction
  rw [pieces_eq_singleton, List.map_singleton, ht.trim_padded hu hv]
  intro c hm
  rw [beq_eq_false_iff_ne]
  rintro rfl
  obtain (hm | hm) | hm := by simpa only [List.mem_append] using hm
  case inl.inl => exact hb hu hm
  case inl.inr => exact hc hm
  case inr => exact hb hv hm

-- A text comes apart at its commas, and the white space before and after each of them is lost.
theorem pieces_commas {l : List (Text × Text × Text)} (ht : Tight t ∧ ',' ∉ t)
    (hx : ∀ x ∈ l, x.1.all isBlank ∧ x.2.1.all isBlank ∧ Tight x.2.2 ∧ ',' ∉ x.2.2)
    (hu : u.all isBlank) (hv : v.all isBlank) :
    (pieces (· == ',') (u ++ (t ++ l.flatMap fun x => x.1 ++ ',' :: (x.2.1 ++ x.2.2)) ++ v)).map
      trim = t :: l.map (·.2.2) := by
  induction l generalizing u t
  case nil => simpa using pieces_padded ht.left ht.right hu hv
  case cons x l hi =>
    obtain ⟨⟨hg, hh, hx⟩, hl⟩ := List.forall_mem_cons.mp hx
    have ha : u ++ (t ++ (x :: l).flatMap fun x => x.1 ++ ',' :: (x.2.1 ++ x.2.2)) ++ v =
        (u ++ t ++ x.1) ++ ',' ::
          (x.2.1 ++ (x.2.2 ++ l.flatMap fun x => x.1 ++ ',' :: (x.2.1 ++ x.2.2)) ++ v) := by
      simp
    rw [ha, pieces_append_cons (by simp), List.map_append, hi hx hl hh,
      pieces_padded ht.left ht.right hu hg]
    rfl

theorem pieces_join (h : ∀ t ∈ ts, Tight t ∧ ',' ∉ t) (hn : ts ≠ []) (hu : u.all isBlank)
    (hv : v.all isBlank) :
    (pieces (· == ',') (u ++ join ", ".toList ts ++ v)).map trim = ts := by
  obtain ⟨t, ts, rfl⟩ := List.exists_cons_of_ne_nil hn
  obtain ⟨ht, hts⟩ := List.forall_mem_cons.mp h
  have hp := pieces_commas (l := ts.map fun t => ([], [' '], t)) ht (by simpa using hts) hu hv
  simpa [join_cons, List.flatMap_map, Function.comp_def] using hp

end Commas

end Join

section Cut

theorem cutAtFirst_append (h : c ∉ u) : cutAtFirst c (u ++ c :: v) = some (u, v) := by
  induction u
  case nil => simp [cutAtFirst]
  case cons d u hi =>
    have hd : d ≠ c := fun he => h (by simp [he])
    simp [cutAtFirst, hd, hi fun hc => h (.tail _ hc)]

theorem eq_append_of_cutAtFirst (h : cutAtFirst c t = some (u, v)) : t = u ++ c :: v := by
  induction t generalizing u
  case nil => contradiction
  case cons d t hi =>
    simp only [cutAtFirst] at h
    split at h
    case isTrue hd =>
      obtain ⟨rfl, rfl⟩ := Prod.mk.inj (Option.some.inj h)
      rw [hd, List.nil_append]
    case isFalse =>
      obtain ⟨⟨u, v⟩, hc, h⟩ := Option.map_eq_some_iff.mp h
      obtain ⟨rfl, rfl⟩ := Prod.mk.inj h
      rw [hi hc, List.cons_append]

theorem cutAtFirst_eq_some_iff : cutAtFirst c t = some (u, v) ↔ t = u ++ c :: v ∧ c ∉ u := by
  constructor
  case mpr =>
    rintro ⟨rfl, hu⟩
    exact cutAtFirst_append hu
  case mp =>
    intro h
    have ht := eq_append_of_cutAtFirst h
    refine ⟨ht, fun hu => ?_⟩
    obtain ⟨a, b, rfl, ha⟩ := List.eq_append_cons_of_mem hu
    rw [ht, List.append_assoc, List.cons_append, cutAtFirst_append ha] at h
    have hl := congrArg List.length (Prod.mk.inj (Option.some.inj h)).left
    simp at hl

theorem cutAtFirst_eq_none (h : c ∉ t) : cutAtFirst c t = none := by
  induction t
  case nil => rfl
  case cons d t hi =>
    have hd : d ≠ c := fun he => h (by simp [he])
    simp [cutAtFirst, hd, hi fun hc => h (.tail _ hc)]

theorem cutAtLast_append (h : c ∉ v) : cutAtLast c (u ++ c :: v) = some (u, v) := by
  have hr : (u ++ c :: v).reverse = v.reverse ++ c :: u.reverse := by simp
  have hc : c ∉ v.reverse := by simpa using h
  simp [cutAtLast, hr, cutAtFirst_append hc]

theorem cutAtLast_eq_none (h : c ∉ t) : cutAtLast c t = none := by
  have hc : c ∉ t.reverse := by simpa using h
  rw [cutAtLast, cutAtFirst_eq_none hc]
  rfl

end Cut

end Text
end FlatQuery
