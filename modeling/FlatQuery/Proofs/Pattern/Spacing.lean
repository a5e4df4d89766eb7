import FlatQuery.Proofs.Pattern.Cuts
import FlatQuery.Proofs.Pattern.Keywords
import FlatQuery.Proofs.Text.Spacing

namespace FlatQuery

open Spaced

variable {s s' : Side} {q a b : Spaced} {c : Char} {x : Span}

namespace Spaced

theorem endsWord_on (s s' : Side) (q : Spaced) : endsWord (on s q) = endsWord (on s' q) := by
  obtain rfl | ⟨q, m, rfl⟩ := List.eq_nil_or_concat' q
  case inl => rfl
  case inr =>
    simp only [on_append, on_cons, on_nil, List.append_nil]
    rw [endsWord_append m.on_ne_nil, endsWord_append m.on_ne_nil]
    cases m
    case ink => rfl
    case gap run hn hb =>
      have hb (s : Side) : endsWord (run s) = false := endsWord_of_none (none_of_blank (hb s))
      rw [Mark.on, Mark.on, hb, hb]

theorem startsWord_on (s s' : Side) (q : Spaced) : startsWord (on s q) = startsWord (on s' q) := by
  cases q
  case nil => rfl
  case cons m q =>
    rw [on_cons, on_cons, startsWord_append m.on_ne_nil, startsWord_append m.on_ne_nil]
    cases m
    case ink => rfl
    case gap run hn hb =>
      have hb (s : Side) : startsWord (run s) = false := startsWord_of_none (none_of_blank (hb s))
      rw [Mark.on, Mark.on, hb, hb]

theorem eqIgnoringCase_on {word : Text} (hw : word.lowerAscii.all Char.isLower) (s s' : Side)
    (q : Spaced) : (on s q).eqIgnoringCase word = (on s' q).eqIgnoringCase word := by
  have hn (s : Side) (h : (on s q).eqIgnoringCase word) : (on s q).any isBlank = false := by
    have hm := spells_of_lowerAscii (beq_iff_eq.mp h)
    refine List.any_eq_false.mpr fun c hc => ?_
    simp [not_isBlank_of_isWordChar (List.all_eq_true.mp (hm.all_isWordChar hw) c hc)]
  rw [Bool.eq_iff_iff]
  constructor
  case mp  => exact fun h => on_eq_of_no_blank (hn s h) s' ▸ h
  case mpr => exact fun h => on_eq_of_no_blank (hn s' h) s ▸ h

-- A stretch without white space is made of the same marks on both sides.
theorem exists_append_of_solid {m v : Text} (h : on s q = m ++ v)
    (hm : ∀ c ∈ m, isBlank c = false) :
    ∃ a b, q = a ++ b ∧ on s b = v ∧ ∀ s', on s' a = m := by
  induction m generalizing q
  case nil => exact ⟨[], q, rfl, h, fun _ => rfl⟩
  case cons c m hi =>
    obtain ⟨hc, hms⟩ := List.forall_mem_cons.mp hm
    cases q
    case nil => simp at h
    case cons k q =>
      cases k
      case ink d hd =>
        obtain ⟨rfl, ht⟩ := List.cons.inj h
        obtain ⟨a, b, rfl, hb, ha⟩ := hi ht hms
        exact ⟨.ink d hd :: a, b, rfl, hb, fun s' => by simp [Mark.on, ha s']⟩
      case gap run hn hb =>
        obtain ⟨d, t, ht⟩ := List.exists_cons_of_ne_nil (hn s)
        have hb := hb s
        rw [on_cons, Mark.on, ht] at h
        rw [ht, List.all_cons, Bool.and_eq_true, (List.cons.inj h).left, hc] at hb
        exact absurd hb.left (by simp)

-- A space before anything else is a gap of its own.
theorem exists_gap_of_space {v : Text} (h : on s q = ' ' :: c :: v) (hc : isBlank c = false) :
    ∃ run hn hb r, q = .gap run hn hb :: r ∧ run s = [' '] ∧ on s r = c :: v := by
  cases q
  case nil => simp at h
  case cons k r =>
    cases k
    case ink d hd =>
      rw [(List.cons.inj h).left] at hd
      simp at hd
    case gap run hn hb =>
      obtain ⟨d, t, hrun⟩ := List.exists_cons_of_ne_nil (hn s)
      rw [on_cons, Mark.on, hrun] at h
      obtain ⟨rfl, ht⟩ := List.cons.inj h
      cases t
      case nil => exact ⟨run, hn, hb, r, rfl, hrun, ht⟩
      case cons d t =>
        have hd := hb s
        rw [hrun, List.all_cons, List.all_cons, Bool.and_eq_true, Bool.and_eq_true,
          (List.cons.inj ht).left, hc] at hd
        exact absurd hd.right.left (by simp)

end Spaced

namespace Pattern

variable {p : Pattern}

-- What the pattern takes on one side it takes on the other, and it takes nothing at white space.
structure Blind (p : Pattern) (q : Spaced) : Prop where
  solid : ∀ u c m v, p.Takes u (c :: m) v → isBlank c = false
  agree : ∀ a b s m v, q = a ++ b → on s b = m ++ v → p.Takes (on s a) m v →
    ∃ b₁ b₂, b = b₁ ++ b₂ ∧ ∀ s', p.Takes (on s' a) (on s' b₁) (on s' b₂)

-- A match without white space is taken whatever white space is around it.
theorem Blind.of_solid (hs : ∀ u m v, p.Takes u m v → ∀ c ∈ m, isBlank c = false)
    (h : ∀ a b m s s', p.Takes (on s a) m (on s b) → p.Takes (on s' a) m (on s' b))
    (q : Spaced) : p.Blind q where
  solid u c m v ht := hs u (c :: m) v ht c (.head _)
  agree a b s m v _ hb ht := by
    obtain ⟨b₁, b₂, rfl, rfl, hm⟩ := exists_append_of_solid hb (hs _ _ _ ht)
    refine ⟨b₁, b₂, rfl, fun s' => ?_⟩
    rw [hm s']
    exact h a b₂ m s s' ht

theorem Blind.matchLength_eq (h : p.Blind q) (hq : q = a ++ b) :
    (∀ s, p.matchLength (on s a).getLast? (on s b) = none) ∨
      ∃ k, k + 1 ≤ b.length ∧
        ∀ s, p.matchLength (on s a).getLast? (on s b) = some (place s b (k + 1)) := by
  by_cases hm : ∃ s n, p.matchLength (on s a).getLast? (on s b) = some n
  case neg =>
    refine .inl fun s => Option.eq_none_iff_forall_ne_some.mpr fun n hn => hm ⟨s, n, hn⟩
  case pos =>
    obtain ⟨s, n, hn⟩ := hm
    obtain ⟨b₁, b₂, rfl, ht⟩ := h.agree a b s _ _ hq (List.take_append_drop n _).symm
      (Takes.of_matchLength hn).left
    have hne : b₁ ≠ [] := by
      rintro rfl
      exact (ht s).ne_nil rfl
    obtain ⟨k, hk⟩ := Nat.exists_eq_add_one.mpr (List.length_pos_iff.mpr hne)
    refine .inr ⟨k, by simp [← hk], fun s' => ?_⟩
    rw [on_append, ht s', place, ← hk, List.take_left]

section Spans

variable {u t : Text}

theorem spansFrom_skip : p.spansFrom u.getLast? pos (t.length + n) (t ++ v) =
    p.spansFrom (u ++ t).getLast? (pos + t.length) n v := by
  induction t generalizing u pos
  case nil => simp
  case cons c t hi =>
    have hi := @hi (u ++ [c]) (pos + 1)
    rw [List.getLast?_concat, List.append_assoc, List.singleton_append] at hi
    rw [List.length_cons, Nat.succ_add, List.cons_append, spansFrom, hi, Nat.add_assoc,
      Nat.add_comm 1]

theorem spansFrom_blank (hs : ∀ u c m v, p.Takes u (c :: m) v → isBlank c = false)
    (ht : t.all isBlank) : p.spansFrom u.getLast? pos 0 (t ++ v) =
      p.spansFrom (u ++ t).getLast? (pos + t.length) 0 v := by
  induction t generalizing u pos
  case nil => simp
  case cons c t hi =>
    rw [List.all_cons, Bool.and_eq_true] at ht
    have hm : p.matchLength u.getLast? (c :: (t ++ v)) = none := by
      cases hn : p.matchLength u.getLast? (c :: (t ++ v))
      case none => rfl
      case some n =>
        obtain ⟨n, rfl⟩ := Nat.exists_eq_add_one.mpr (p.within hn).left
        have hc := hs u c _ _ (Takes.of_matchLength hn).left
        rw [ht.left] at hc
        contradiction
    have hi := @hi (u ++ [c]) (pos + 1) ht.right
    rw [List.getLast?_concat, List.append_assoc, List.singleton_append] at hi
    simp only [List.cons_append, spansFrom, hm, hi, List.length_cons, Nat.add_assoc,
      Nat.add_comm 1]

-- From the rest `b`, read after `a`, the same marks are found on both sides, when the first `j` marks
-- of the rest belong to a match already found.
def SameSpans (p : Pattern) (a b : Spaced) (j : Nat) : Prop :=
  ∃ xs : List Span, (∀ x ∈ xs, x.stop ≤ (a ++ b).length) ∧
    ∀ s, p.spansFrom (on s a).getLast? (on s a).length (place s b j) (on s b) =
      xs.map (spanOn s (a ++ b))

namespace SameSpans

variable {m : Mark} {j : Nat} {hc : isBlank c = false}

theorem of_cons (h : p.SameSpans (a ++ [m]) b j)
    (hm : ∀ s, p.spansFrom (on s a).getLast? (on s a).length (place s (m :: b) i)
      (on s (m :: b)) =
        p.spansFrom (on s (a ++ [m])).getLast? (on s (a ++ [m])).length (place s b j) (on s b)) :
    p.SameSpans a (m :: b) i := by
  obtain ⟨xs, hx, hs⟩ := h
  rw [List.append_assoc, List.singleton_append] at hx hs
  exact ⟨xs, hx, fun s => (hm s).trans (hs s)⟩

-- A mark of the match already found is passed over.
theorem skip (h : p.SameSpans (a ++ [m]) b j) : p.SameSpans a (m :: b) (j + 1) :=
  h.of_cons fun s => by
    rw [place_cons_succ, on_cons, spansFrom_skip, on_append, on_cons, on_nil, List.append_nil,
      List.length_append]

-- Nothing begins in a gap.
theorem gap (hs : ∀ u c m v, p.Takes u (c :: m) v → isBlank c = false)
    (h : p.SameSpans (a ++ [.gap run hn hb]) b 0) : p.SameSpans a (.gap run hn hb :: b) 0 :=
  h.of_cons fun s => by
    simpa [place, Mark.on] using spansFrom_blank hs (hb s)

theorem ink_none (hm : ∀ s, p.matchLength (on s a).getLast? (on s (.ink c hc :: b)) = none)
    (h : p.SameSpans (a ++ [.ink c hc]) b 0) : p.SameSpans a (.ink c hc :: b) 0 :=
  h.of_cons fun s => by
    have hm : p.matchLength (on s a).getLast? (c :: on s b) = none := hm s
    simp [place, Mark.on, spansFrom, hm]

-- A match begins that ends with the first `k` marks of the rest.
theorem ink_some (hk : k ≤ b.length) (hm : ∀ s, p.matchLength (on s a).getLast?
      (on s (.ink c hc :: b)) = some (place s (.ink c hc :: b) (k + 1)))
    (h : p.SameSpans (a ++ [.ink c hc]) b k) : p.SameSpans a (.ink c hc :: b) 0 := by
  obtain ⟨xs, hx, hs⟩ := h
  rw [List.append_assoc, List.singleton_append] at hx hs
  refine ⟨⟨a.length, a.length + (k + 1)⟩ :: xs, ?inside, fun s => ?found⟩
  case inside => simpa [hk] using hx
  case found =>
    have hl : place s (.ink c hc :: b) (k + 1) = place s b k + 1 := by
      simp [place, Mark.on]
    have hm : p.matchLength (on s a).getLast? (c :: on s b) = some (place s b k + 1) := hl ▸ hm s
    have hx : spanOn s (a ++ .ink c hc :: b) ⟨a.length, a.length + (k + 1)⟩ =
        ⟨(on s a).length, (on s a).length + (place s b k + 1)⟩ := by
      have ha : a.take (a.length + (k + 1)) = a := List.take_of_length_le (by omega)
      simp [spanOn, place, List.take_append, Mark.on, ha]
    rw [List.map_cons, ← hs s, hx]
    simp [place, Mark.on, spansFrom, hm]

end SameSpans

theorem Blind.sameSpans (h : p.Blind q) (hq : q = a ++ b) (hj : j ≤ b.length) :
    p.SameSpans a b j := by
  induction b generalizing a j
  case nil => exact ⟨[], by simp, fun s => by cases place s [] j <;> rfl⟩
  case cons m b hi =>
    have hi {j} (hj : j ≤ b.length) : p.SameSpans (a ++ [m]) b j := hi (by simp [hq]) hj
    cases j
    case succ j => exact (hi (by simpa using hj)).skip
    case zero =>
      cases m
      case gap => exact (hi (Nat.zero_le _)).gap h.solid
      case ink =>
        obtain hm | ⟨k, hk, hm⟩ := h.matchLength_eq hq
        case inl => exact (hi (Nat.zero_le _)).ink_none hm
        case inr =>
          have hk := Nat.le_of_succ_le_succ hk
          exact (hi hk).ink_some hk hm

-- The places of the pattern are the same marks on both sides.
theorem Blind.exists_spans (h : p.Blind q) : ∃ xs : List Span,
    (∀ x ∈ xs, x.start < x.stop ∧ x.stop ≤ q.length) ∧
      ∀ s, p.spans (on s q) = xs.map (spanOn s q) := by
  obtain ⟨xs, hx, hs⟩ : p.SameSpans [] q 0 := h.sameSpans rfl (Nat.zero_le _)
  have hx : ∀ x ∈ xs, x.stop ≤ q.length := hx
  have hs : ∀ s, p.spans (on s q) = xs.map (spanOn s q) := hs
  refine ⟨xs, fun x hm => ⟨?_, hx x hm⟩, hs⟩
  have hm : spanOn .before q x ∈ p.spans (on .before q) := by
    rw [hs]
    exact List.mem_map_of_mem hm
  obtain ⟨u, m, v, -, ht, he⟩ := exists_takes_of_mem_spans hm
  rw [← place_lt_iff (s := .before) (hx x (by assumption))]
  have h₁ := congrArg Span.start he
  have h₂ := congrArg Span.stop he
  have := List.length_pos_iff.mpr ht.ne_nil
  simp only [spanOn] at h₁ h₂
  omega

end Spans

section Split

-- What is found has no white space in it.
theorem Blind.found_on (h : p.Blind q) (hs : ∀ u m v, p.Takes u m v → ∀ c ∈ m, isBlank c = false)
    (s s' : Side) : p.found (on s q) = p.found (on s' q) := by
  obtain ⟨xs, -, hx⟩ := h.exists_spans
  rw [found, found, hx, hx, List.map_map, List.map_map]
  refine List.map_congr_left fun x hm => ?_
  have hf : on s (stretch q x) ∈ p.found (on s q) := by
    rw [← slice_spanOn]
    refine List.mem_map_of_mem ?_
    rw [hx]
    exact List.mem_map_of_mem hm
  obtain ⟨u, v, -, ht⟩ := exists_takes_of_mem_found hf
  rw [Function.comp, Function.comp, slice_spanOn, slice_spanOn]
  exact (on_eq_of_no_blank (List.any_eq_false.mpr (by simpa using hs _ _ _ ht)) s').symm

theorem Blind.count_on (h : p.Blind q) (s s' : Side) : p.count (on s q) = p.count (on s' q) := by
  obtain ⟨xs, -, hx⟩ := h.exists_spans
  rw [count, count, hx, hx, List.length_map, List.length_map]

theorem Blind.occursIn_on (h : p.Blind q) (s s' : Side) :
    p.occursIn (on s q) = p.occursIn (on s' q) := by
  obtain ⟨xs, -, hx⟩ := h.exists_spans
  rw [occursIn, occursIn, hx, hx, List.isEmpty_map, List.isEmpty_map]

theorem exists_cutAround (q : Spaced) (i : Nat) (xs : List Span) :
    ∃ (head : Spaced) (tail : List (Spaced × Spaced)), ∀ s,
    cutAround (on s q) (place s q i) (xs.map (spanOn s q)) =
      ⟨on s head, tail.map (Prod.map (on s) (on s))⟩ := by
  induction xs generalizing i
  case nil => exact ⟨q.drop i, [], fun s => by simp [cutAround, drop_place]⟩
  case cons x xs hi =>
    obtain ⟨head, tail, hi⟩ := hi x.stop
    refine ⟨stretch q ⟨i, x.start⟩, (stretch q x, head) :: tail, fun s => ?_⟩
    have hx : (spanOn s q x).stop = place s q x.stop := rfl
    have hs : Text.slice (on s q) ⟨place s q i, (spanOn s q x).start⟩ =
        on s (stretch q ⟨i, x.start⟩) := slice_spanOn (x := ⟨i, x.start⟩)
    simp only [List.map_cons, cutAround, hx, hi, hs, slice_spanOn, Prod.map_apply]

-- The text is cut at the same marks on both sides.
theorem Blind.exists_split (h : p.Blind q) :
    ∃ (head : Spaced) (tail : List (Spaced × Spaced)), ∀ s,
    p.split (on s q) = ⟨on s head, tail.map (Prod.map (on s) (on s))⟩ := by
  obtain ⟨xs, -, hx⟩ := h.exists_spans
  obtain ⟨head, tail, hc⟩ := exists_cutAround q 0 xs
  exact ⟨head, tail, fun s => by rw [split, hx, ← hc]; rfl⟩

theorem Blind.exists_pieces (h : p.Blind q) : ∃ ps : List Spaced, ∀ s,
    (p.split (on s q)).pieces = ps.map (on s) := by
  obtain ⟨head, tail, hs⟩ := h.exists_split
  refine ⟨head :: tail.flatMap fun x => [x.1, x.2], fun s => ?_⟩
  rw [hs, Split.pieces_eq, List.map_cons, List.map_flatMap, List.flatMap_map]
  rfl

theorem exists_texts (hp : ∀ q, p.Blind q) (q : Spaced) : ∃ ts : Option (List Spaced), ∀ s,
    p.texts? (on s q) = ts.map (·.map (on s)) := by
  obtain ⟨ps, hps⟩ := (hp q).exists_pieces
  have hb (s : Side) (r : Spaced) : (on s r).allBlank = r.all (·.isGap) := allBlank_on s r
  have hn (s : Side) (r : Spaced) : (on s r).trim.eqIgnoringCase "not".toList =
      (on .before r.trim).eqIgnoringCase "not".toList := by
    rw [trim_on]
    exact eqIgnoringCase_on (by decide) s .before r.trim
  have ho (s : Side) (r : Spaced) : (!p.occursIn (on s r)) = !p.occursIn (on .before r) := by
    rw [(hp r).occursIn_on s .before]
  have hf (s : Side) (ps : List Spaced) :
      (((ps.map (on s)).filter fun piece => !p.occursIn piece).map Text.trim) =
        ((ps.filter fun r => !p.occursIn (on .before r)).map trim).map (on s) := by
    rw [filter_map_on (f := fun t => !p.occursIn t) (ho s), map_trim_on]
  refine ⟨(if ps.any fun r => r.all (·.isGap) then
      if ps.any fun r => (on .before r.trim).eqIgnoringCase "not".toList then
        some (ps.filter fun r => !r.all (·.isGap))
      else none
    else some ps).map fun ps => (ps.filter fun r => !p.occursIn (on .before r)).map trim,
    fun s => ?_⟩
  have hb' (r : Spaced) : (!(on s r).allBlank) = !r.all (·.isGap) := by rw [hb]
  simp only [texts?, usable?, hps, any_map_on (hb s),
    any_map_on (f := fun t => t.trim.eqIgnoringCase "not".toList) (hn s),
    filter_map_on (f := fun t => !t.allBlank) hb']
  split_ifs <;> simp only [Option.map_some, Option.map_none, hf]

end Split
end Pattern

section WholeWords

variable {words : List Text} {nonempty : ∀ w ∈ words, w ≠ []} {m u v : Text}

-- A whole word is taken where it is spelled out, unless a word character touches it.
theorem Solid.takes_iff (hs : Solid words) : (Pattern.wholeWord words nonempty).Takes u m v ↔
    (∃ w ∈ words, Spells w m) ∧ endsWord u = false ∧ startsWord v = false := by
  constructor
  case mp => exact Pattern.Takes.spells
  case mpr =>
    rintro ⟨⟨w, hw, hm⟩, hu, hv⟩
    have hb : (Pattern.wholeWord words nonempty).Parted u (m ++ v) := hs.parted (.inl hu)
    have ha : (Pattern.wholeWord words nonempty).Parted m v := hs.parted (.inr hv)
    have ht : (Pattern.wholeWord words nonempty).Takes [] m [] := hs.takes hw hm
    rw [Pattern.Takes, List.append_nil] at ht
    rw [Pattern.Takes, hb.right]
    exact (ha.left (u := []) rfl (hm.ne_nil (hs w hw).right)).trans ht

theorem Solid.no_blank (hs : Solid words) (h : (Pattern.wholeWord words nonempty).Takes u m v) :
    ∀ c ∈ m, isBlank c = false := fun c hc => by
  obtain ⟨⟨w, hw, hm⟩, -⟩ := h.spells
  exact not_isBlank_of_isWordChar (List.all_eq_true.mp (hm.all_isWordChar (hs w hw).left) c hc)

theorem Solid.blind (hs : Solid words) (q : Spaced) :
    (Pattern.wholeWord words nonempty).Blind q := by
  refine .of_solid (fun u m v ht => hs.no_blank ht) (fun a b m s s' ht => ?_) q
  rw [hs.takes_iff] at ht ⊢
  rwa [endsWord_on s' s, startsWord_on s' s]

end WholeWords

section Keywords

-- The text ends with the word, or begins with it, and has it as a whole there.
def EndsIn (word t : Text) : Prop :=
  ∃ u m, t = u ++ m ∧ Spells word m ∧ endsWord u = false

def BeginsWith (word t : Text) : Prop :=
  ∃ m v, t = m ++ v ∧ Spells word m ∧ startsWord v = false

-- The gap between the two words of a keyword is one space on both sides or on neither.
def Keeps (q : Spaced) : Prop :=
  ∀ a run hn hb b, q = a ++ Mark.gap run hn hb :: b →
    (EndsIn "group".toList (on .before a) ∨
      EndsIn "order".toList (on .before a)) →
    BeginsWith "by".toList (on .before b) → (run .before = [' '] ↔ run .after = [' '])

-- A part of a text that is cut off where no two word characters meet has no other words.
theorem Keeps.of_append (h : Keeps (a ++ b))
    (hc : endsWord (on .before a) = false ∨ startsWord (on .before b) = false) :
    Keeps a ∧ Keeps b := by
  constructor
  case left =>
    rintro a₁ run hn hb b₁ rfl ho ⟨m, v, hm, hs, hv⟩
    refine h a₁ run hn hb (b₁ ++ b) (by simp) ho ⟨m, v ++ on .before b, ?_, hs, ?_⟩
    case refine_1 => rw [on_append, hm, List.append_assoc]
    case refine_2 =>
      by_cases hne : v = []
      case neg => rwa [startsWord_append hne]
      case pos =>
        subst hne
        -- The `by` ends the first part, so that no word character may follow it.
        have he : endsWord (on .before (a₁ ++ Mark.gap run hn hb :: b₁)) := by
          have hf : Framed "by".toList := by decide
          rw [on_append, on_cons, hm, List.append_nil, ← List.append_assoc,
            endsWord_append (hs.ne_nil hf), hs.endsWord hf]
        rw [he] at hc
        exact hc.resolve_left (by simp)
  case right =>
    rintro a₁ run hn hb b₁ rfl ho hy
    have step {w : Text} (hw : Framed w) (ho : EndsIn w (on .before a₁)) :
        EndsIn w (on .before (a ++ a₁)) := by
      obtain ⟨u, m, hm, hs, hu⟩ := ho
      refine ⟨on .before a ++ u, m, by rw [on_append, hm, List.append_assoc], hs, ?_⟩
      by_cases hne : u = []
      case neg => rwa [endsWord_append hne]
      case pos =>
        subst hne
        -- The word begins the second part, so that no word character may precede it.
        have he : startsWord (on .before (a₁ ++ Mark.gap run hn hb :: b₁)) := by
          rw [on_append, hm, List.nil_append, startsWord_append (hs.ne_nil hw), hs.startsWord hw]
        rw [he] at hc
        rw [List.append_nil]
        exact hc.resolve_right (by simp)
    exact h (a ++ a₁) run hn hb b₁ (by simp) (ho.imp (step (by decide)) (step (by decide))) hy

theorem Keeps.trim (h : Keeps q) : Keeps q.trim := by
  obtain ⟨a, b, hq, hb⟩ := exists_trim q
  rw [hq] at h
  have ha := endsWord_of_none (none_of_blank (hb .before).left)
  have hb := startsWord_of_none (none_of_blank (hb .before).right)
  exact ((h.of_append (.inl ha)).right.of_append (.inr hb)).left

-- One run of white space for another, where it does not make a keyword or break one up.
theorem exists_replacement {u v r r' : Text} (hr : r ≠ [] ∧ r.all isBlank)
    (hr' : r' ≠ [] ∧ r'.all isBlank)
    (hk : EndsIn "group".toList u ∨ EndsIn "order".toList u →
      BeginsWith "by".toList v → (r = [' '] ↔ r' = [' '])) :
    ∃ q, Keeps q ∧ on .before q = u ++ (r ++ v) ∧ on .after q = u ++ (r' ++ v) := by
  let run (s : Side) : Text := match s with
    | .before => r
    | .after => r'
  have hn (s) : run s ≠ [] := by cases s; exacts [hr.left, hr'.left]
  have hb (s) : (run s).all isBlank := by cases s; exacts [hr.right, hr'.right]
  refine ⟨fixed u ++ .gap run hn hb :: fixed v, ?keeps, ?old, ?new⟩
  case old => simp [on_fixed, Mark.on, run]
  case new => simp [on_fixed, Mark.on, run]
  case keeps =>
    intro a run' hn' hb' b hq ho hy
    by_cases he : run' .before = run' .after
    case pos => rw [he]
    case neg =>
      -- A run that differs is the one that was put in.
      have hu : Mark.gap run' hn' hb' ∉ fixed u := fun hm => he (run_of_mem_fixed hm)
      have hv : Mark.gap run' hn' hb' ∉ fixed v := fun hm => he (run_of_mem_fixed hm)
      obtain ⟨rfl, hg, rfl⟩ := (List.append_cons_inj_of_notMem hu hv).mp hq
      injection hg with hg
      subst hg
      rw [on_fixed] at ho hy
      exact hk ho hy

-- A stretch of marks that words are cut out at.
structure Parts (q : Spaced) (x : Span) : Prop where
  start_lt : x.start < x.stop
  stop_le  : x.stop ≤ q.length
  before   : endsWord (on .before (q.take x.start)) = false
  after    : startsWord (on .before (q.drop x.stop)) = false

theorem Parts.keeps_take (hx : Parts q x) (h : Keeps q) : Keeps (q.take x.start) := by
  rw [← List.take_append_drop x.start q] at h
  exact (h.of_append (.inl hx.before)).left

theorem Parts.keeps_drop (hx : Parts q x) (h : Keeps q) : Keeps (q.drop x.stop) := by
  rw [← List.take_append_drop x.stop q] at h
  exact (h.of_append (.inr hx.after)).right

section Pair

variable {w₁ w₂ m v : Text}

theorem Spells.append (h₁ : Spells w₁ m) (h₂ : Spells w₂ v) : Spells (w₁ ++ w₂) (m ++ v) :=
  List.rel_append h₁ h₂

theorem Spells.exists_pair (h : Spells (w₁ ++ ' ' :: w₂) m) :
    ∃ m₁ m₂, m = m₁ ++ ' ' :: m₂ ∧ Spells w₁ m₁ ∧ Spells w₂ m₂ := by
  obtain ⟨m₁, m, rfl, h₁, h₂⟩ := h.append_right
  cases h₂ with
  | cons hc h₂ => exact ⟨m₁, _, by rw [foldsTo_space hc], h₁, h₂⟩

-- Two words are found on both sides if they have the same single space between them.
theorem blind_pair (w₁ w₂ : Text) {nonempty : ∀ w ∈ [w₁ ++ ' ' :: w₂], w ≠ []}
    (hw : Framed (w₁ ++ ' ' :: w₂)) (hl₁ : w₁.all Char.isLower) (hl₂ : w₂.all Char.isLower)
    (hn₂ : Framed w₂)
    (hq : ∀ a run hn hb b, q = a ++ Mark.gap run hn hb :: b → EndsIn w₁ (on .before a) →
      BeginsWith w₂ (on .before b) → (run .before = [' '] ↔ run .after = [' '])) :
    (Pattern.wholeWord [w₁ ++ ' ' :: w₂] nonempty).Blind q where
  solid u c m v ht := by
    obtain ⟨hm, -⟩ := Pattern.takes_singleton_iff.mp ht
    have hs := hm.startsWord hw
    exact not_isBlank_of_isWordChar hs
  agree a b s m v hab hb ht := by
    have hsolid {w m : Text} (hl : w.all Char.isLower) (h : Spells w m) :
        ∀ c ∈ m, isBlank c = false := fun c hc =>
      not_isBlank_of_isWordChar (List.all_eq_true.mp (h.all_isWordChar hl) c hc)
    obtain ⟨hm, hu, hv⟩ := Pattern.takes_singleton_iff.mp ht
    obtain ⟨m₁, m₂, rfl, h₁, h₂⟩ := hm.exists_pair
    rw [List.append_assoc] at hb
    -- The first word, the gap and the second word are marks of their own.
    obtain ⟨b₁, r, rfl, hr, hb₁⟩ := exists_append_of_solid hb (hsolid hl₁ h₁)
    obtain ⟨c, t, rfl⟩ := List.exists_cons_of_ne_nil (h₂.ne_nil hn₂)
    obtain ⟨run, hn, hbl, r, rfl, hrun, hr⟩ := exists_gap_of_space hr (hsolid hl₂ h₂ c (.head _))
    obtain ⟨b₂, r, rfl, rfl, hb₂⟩ := exists_append_of_solid (m := c :: t) hr (hsolid hl₂ h₂)
    have hiff := hq (a ++ b₁) run hn hbl (b₂ ++ r) (by simp [hab])
      ⟨on .before a, m₁, by simp [hb₁], h₁, by rwa [endsWord_on _ s]⟩
      ⟨c :: t, on .before r, by simp [hb₂], h₂, by rwa [startsWord_on _ s]⟩
    have hone (s' : Side) : run s' = [' '] := by
      cases s <;> cases s' <;> simp_all
    refine ⟨b₁ ++ Mark.gap run hn hbl :: b₂, r, by simp, fun s' => ?_⟩
    rw [Pattern.takes_singleton_iff]
    refine ⟨?_, by rwa [endsWord_on _ s], by rwa [startsWord_on _ s]⟩
    rw [on_append, on_cons, Mark.on, hb₁, hb₂, hone]
    exact h₁.append (.cons (by decide) h₂)

end Pair

namespace Keyword

variable {k : Keyword}

theorem blind (k : Keyword) (h : k.letters.all Char.isLower ∨ Keeps q) : k.pattern.Blind q := by
  by_cases hl : k.letters.all Char.isLower
  case pos => exact Solid.blind (List.forall_mem_singleton.mpr ⟨hl, k.framed⟩) q
  case neg =>
    have hk := h.resolve_left hl
    cases k
    case groupBy =>
      exact blind_pair "group".toList "by".toList (by decide) (by decide) (by decide)
        (by decide) fun a run hn hb b hq ho hy => hk a run hn hb b hq (.inl ho) hy
    case orderBy =>
      exact blind_pair "order".toList "by".toList (by decide) (by decide) (by decide)
        (by decide) fun a run hn hb b hq ho hy => hk a run hn hb b hq (.inr ho) hy
    all_goals exact absurd (by decide) hl

theorem occursIn_on (h : k.letters.all Char.isLower ∨ Keeps q) (s s' : Side) :
    k.occursIn (on s q) = k.occursIn (on s' q) :=
  (k.blind h).occursIn_on s s'

theorem count_on (h : k.letters.all Char.isLower ∨ Keeps q) (s s' : Side) :
    k.count (on s q) = k.count (on s' q) :=
  (k.blind h).count_on s s'

theorem exists_spans_on (k : Keyword) (h : k.letters.all Char.isLower ∨ Keeps q) :
    ∃ xs : List Span, (∀ x ∈ xs, Parts q x) ∧ ∀ s, k.spans (on s q) = xs.map (spanOn s q) := by
  obtain ⟨xs, hx, hs⟩ := (k.blind h).exists_spans
  have hs : ∀ s, k.spans (on s q) = xs.map (spanOn s q) := hs
  refine ⟨xs, fun x hm => ?_, hs⟩
  have hm' : spanOn .before q x ∈ k.spans (on .before q) := by
    rw [hs]
    exact List.mem_map_of_mem hm
  obtain ⟨u, m, v, ht, -, hu, hv, he⟩ := exists_of_mem_spans hm'
  have h₁ : place .before q x.start = u.length := congrArg Span.start he
  have h₂ : place .before q x.stop = (u ++ m).length := by
    rw [List.length_append]
    exact congrArg Span.stop he
  refine ⟨(hx x hm).left, (hx x hm).right, ?_, ?_⟩
  · rwa [← take_place, h₁, ht, List.append_assoc, List.take_left]
  · rwa [← drop_place, h₂, ht, List.drop_left]

theorem exists_first_on (k : Keyword) (h : k.letters.all Char.isLower ∨ Keeps q) :
    ∃ x : Option Span, (∀ y ∈ x, Parts q y) ∧ ∀ s, k.first? (on s q) = x.map (spanOn s q) := by
  obtain ⟨xs, hx, hs⟩ := k.exists_spans_on h
  exact ⟨xs.head?, fun y hy => hx y (List.mem_of_head? hy),
    fun s => by rw [first?_eq, hs, List.head?_map]⟩

theorem exists_last_on (k : Keyword) (h : k.letters.all Char.isLower ∨ Keeps q) :
    ∃ x : Option Span, (∀ y ∈ x, Parts q y) ∧ ∀ s, k.last? (on s q) = x.map (spanOn s q) := by
  obtain ⟨xs, hx, hs⟩ := k.exists_spans_on h
  exact ⟨xs.getLast?, fun y hy => hx y (List.mem_of_getLast? hy),
    fun s => by rw [last?_eq, hs, List.getLast?_map]⟩

theorem exists_starts_on (k : Keyword) (h : k.letters.all Char.isLower ∨ Keeps q) :
    ∃ is : List Nat, (∀ i ∈ is, i ≤ q.length) ∧ ∀ s, k.starts (on s q) = is.map (place s q) := by
  obtain ⟨xs, hx, hs⟩ := k.exists_spans_on h
  refine ⟨xs.map (·.start), fun i hi => ?_, fun s => ?_⟩
  · obtain ⟨x, hm, rfl⟩ := List.mem_map.mp hi
    exact (hx x hm).start_lt.le.trans (hx x hm).stop_le
  · rw [starts, hs, List.map_map, List.map_map]
    rfl

end Keyword

theorem blind_joiners (q : Spaced) : Pattern.joiners.Blind q :=
  Pattern.solid_joiners.blind q

theorem found_connectives_on (s s' : Side) (q : Spaced) :
    Pattern.connectives.found (on s q) = Pattern.connectives.found (on s' q) :=
  (Pattern.solid_connectives.blind q).found_on (fun _ _ _ ht =>
    Pattern.solid_connectives.no_blank ht) s s'

end Keywords
end FlatQuery
