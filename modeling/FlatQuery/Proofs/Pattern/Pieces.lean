import FlatQuery.Proofs.Pattern.Cuts
import FlatQuery.Proofs.Pattern.Occurrences

namespace FlatQuery

variable {p : Pattern} {t : Text}

namespace Split

variable {s : Split}

theorem length_pieces : s.pieces.length = 2 * s.delimiters.length + 1 := by
  have hp (l : List (Text × Text)) : (l.flatMap fun x => [x.1, x.2]).length = 2 * l.length := by
    induction l
    case nil => rfl
    case cons x l hi =>
      simp only [List.flatMap_cons, List.length_append, List.length_cons, List.length_nil, hi]
      omega
  rw [pieces_eq, List.length_cons, hp, delimiters, List.length_map]

-- Behind the first piece, a delimiter and a text take turns.
theorem getElem?_pieces (i : Nat) :
    s.pieces[2 * i]? = s.texts[i]? ∧ s.pieces[2 * i + 1]? = s.delimiters[i]? := by
  obtain ⟨head, tail⟩ := s
  rw [pieces_eq, texts, delimiters]
  induction tail generalizing head i
  case nil => cases i <;> exact ⟨rfl, rfl⟩
  case cons x tail hi =>
    cases i
    case zero => exact ⟨rfl, rfl⟩
    case succ i => exact hi i x.2

end Split

namespace Pattern

-- Each match begins where the one before it has ended, or later, so that nothing is left out.
theorem flatten_pieces_cutAround {l : List Span} (hi : ∀ s ∈ l, i ≤ s.start)
    (hp : l.Pairwise fun a b => a.start < a.stop ∧ a.stop ≤ b.start)
    (hl : ∀ s ∈ l, s.start ≤ s.stop) : (cutAround t i l).pieces.flatten = t.drop i := by
  induction l generalizing i
  case nil => simp [cutAround, Split.pieces]
  case cons s l ih =>
    obtain ⟨hi, -⟩ := List.forall_mem_cons.mp hi
    obtain ⟨hs, hl⟩ := List.forall_mem_cons.mp hl
    obtain ⟨hs', hp⟩ := List.pairwise_cons.mp hp
    have ih := ih (fun s h => (hs' s h).right) hp hl
    rw [← Text.slice_append_drop hi, ← Text.slice_append_drop hs, ← ih]
    rfl

theorem flatten_pieces_split (p : Pattern) (t : Text) : (p.split t).pieces.flatten = t :=
  flatten_pieces_cutAround (fun _ _ => Nat.zero_le _) (pairwise_spans p t) fun _ => start_le_stop

theorem length_found : (p.found t).length = p.count t :=
  List.length_map ..

-- Cutting the text loses nothing and finds every match.
structure Lossless (p : Pattern) (t : Text) : Prop where
  odd     : (p.split t).pieces.length = 2 * p.count t + 1
  whole   : (p.split t).pieces.flatten = t
  placed  : ∀ i, (p.split t).pieces[2 * i + 1]? = (p.found t)[i]?

theorem lossless (p : Pattern) (t : Text) : p.Lossless t where
  odd := by rw [Split.length_pieces, delimiters_split, length_found]
  whole := flatten_pieces_split p t
  placed i := by rw [(Split.getElem?_pieces i).right, delimiters_split]

-- The texts and the delimiters can be told apart, piece by piece, and had without one another.
structure Complementary (p : Pattern) (t : Text) : Prop where
  free  : ∀ i x, (p.split t).pieces[2 * i]? = some x → p.occursIn x = false
  texts : (p.split t).pieces.any Text.allBlank = false → ∃ l, p.texts? t = some l ∧
    l.length = p.count t + 1 ∧ ∀ i, l[i]? = (p.split t).pieces[2 * i]?.map Text.trim
  delimiters : (p.split t).pieces.any Text.allBlank = false → ∃ l, p.delimiters? t = some l ∧
    l.length = p.count t ∧ ∀ i, l[i]? = (p.split t).pieces[2 * i + 1]?

end Pattern

section Words

variable {words : List Text} {nonempty : ∀ w ∈ words, w ≠ []}

-- What is found is a word in some letter case, with nothing to trim.
theorem Solid.trim_found (hs : Solid words) :
    ((Pattern.wholeWord words nonempty).found t).map Text.trim =
      (Pattern.wholeWord words nonempty).found t := by
  have ht : ∀ m ∈ (Pattern.wholeWord words nonempty).found t, m.trim = id m := fun m hm => by
    obtain ⟨w, hw, hm⟩ := Pattern.spells_of_mem_found hm
    exact (hm.tight (hs w hw).right).trim_eq
  rw [List.map_congr_left ht, List.map_id]

theorem Solid.complementary (hs : Solid words) (t : Text) :
    (Pattern.wholeWord words nonempty).Complementary t := by
  obtain ⟨hd, ht⟩ := @Solid.filter_pieces t words nonempty hs
  constructor
  case free =>
    intro i x hx
    rw [(Split.getElem?_pieces i).left] at hx
    exact Pattern.occursIn_eq_false_iff_freeOf.mpr (hs.freeOf_texts t x (List.mem_of_getElem? hx))
  case texts =>
    intro hb
    refine ⟨_, Pattern.texts?_eq hb, ?_, fun i => ?_⟩
    case refine_1 =>
      rw [ht, List.length_map, Split.length_texts, Pattern.delimiters_split, Pattern.length_found]
    case refine_2 => rw [ht, List.getElem?_map, (Split.getElem?_pieces i).left]
  case delimiters =>
    intro hb
    have hn (x) (hx : x ∈ ((Pattern.wholeWord words nonempty).split t).pieces) : x.allBlank = false :=
      Bool.eq_false_iff.mpr (List.any_eq_false.mp hb x hx)
    refine ⟨_, Pattern.delimiters?_eq (by simp [hb]) fun x hx h => by simp [hn x hx] at h, ?_, ?_⟩
    case refine_1 => rw [hd, List.length_map, Pattern.length_found]
    case refine_2 =>
      intro i
      rw [hd, hs.trim_found, (Split.getElem?_pieces i).right, Pattern.delimiters_split]

end Words

-- Whether a cut may be used does not depend on which of the pieces are kept.
theorem Pattern.texts?_eq_none_iff : p.texts? t = none ↔ p.delimiters? t = none := by
  simp [texts?, delimiters?]

theorem Pattern.pieces_complementary (t : Text) :
    (∀ p : Pattern, p.Lossless t ∧ (p.texts? t = none ↔ p.delimiters? t = none)) ∧
      joiners.Complementary t ∧ connectives.Complementary t :=
  ⟨fun p => ⟨p.lossless t, texts?_eq_none_iff⟩, solid_joiners.complementary t,
    solid_connectives.complementary t⟩

end FlatQuery
