import FlatQuery.Proofs.Text.Words
import Mathlib.Data.List.DropRight
import Mathlib.Data.List.Induction

namespace FlatQuery

-- The two texts that are compared.
inductive Side
  | before
  | after
  deriving DecidableEq

-- One list of marks stands for both texts: characters that they share, and gaps with a run of white
-- space for each side. What is cut out of one text has its marks, and so its counterpart in the other.
inductive Mark
  | ink (c : Char) (solid : isBlank c = false)
  | gap (run : Side → Text) (ne_nil : ∀ s, run s ≠ []) (blank : ∀ s, (run s).all isBlank)

namespace Mark

variable {m : Mark} {p : Char → Bool} {s s' : Side}

def isGap : Mark → Bool
  | ink .. => false
  | gap .. => true

def on (s : Side) : Mark → Text
  | ink c _ => [c]
  | gap run _ _ => run s

theorem on_ne_nil : (m : Mark) → m.on s ≠ []
  | ink .. => by simp [on]
  | gap _ hn _ => hn s

theorem all_isBlank_on : (m.on s).all isBlank = m.isGap := by
  cases m
  case ink c hc => simp [on, isGap, hc]
  case gap run hn hb => exact hb s

theorem any_isBlank_on : (m.on s).any isBlank = m.isGap := by
  cases m
  case ink c hc => simp [on, isGap, hc]
  case gap run hn hb =>
    obtain ⟨c, t, ht⟩ := List.exists_cons_of_ne_nil (hn s)
    have hb := hb s
    rw [ht, List.all_cons, Bool.and_eq_true] at hb
    simp [on, isGap, ht, hb.left]

theorem on_of_not_isGap (h : m.isGap = false) : m.on s = m.on s' := by
  cases m
  case ink => rfl
  case gap => contradiction

-- What is not white space stands on both sides.
theorem on_of_solid {c : Char} (hc : isBlank c = false) (h : c ∈ m.on s) : m.on s' = m.on s := by
  cases hg : m.isGap
  case false => exact on_of_not_isGap hg
  case true =>
    have hb := m.all_isBlank_on (s := s)
    rw [hg, List.all_eq_true] at hb
    rw [hb c h] at hc
    contradiction

end Mark

-- A test that takes all white space for the same.
def Uniform (p : Char → Bool) : Prop :=
  (∀ c, isBlank c → p c) ∨ ∀ c, isBlank c → p c = false

namespace Mark

variable {m : Mark} {p : Char → Bool}

def all (p : Char → Bool) (m : Mark) : Bool :=
  (m.on .before).all p

theorem all_on (hp : Uniform p) (h : m.all p) (s : Side) : ∀ c ∈ m.on s, p c := by
  cases m
  case ink c hc => exact List.all_eq_true.mp h
  case gap run hn hb =>
    have hb (s : Side) : ∀ c ∈ run s, isBlank c := List.all_eq_true.mp (hb s)
    cases hp
    case inl hp => exact fun c hc => hp c (hb s c hc)
    case inr hp =>
      obtain ⟨c, t, ht⟩ := List.exists_cons_of_ne_nil (hn .before)
      have hc : c ∈ run .before := by simp [ht]
      have hpc := List.all_eq_true.mp h c hc
      rw [hp c (hb .before c hc)] at hpc
      contradiction

theorem none_on (hp : Uniform p) (h : m.all p = false) (s : Side) : ∀ c ∈ m.on s, p c = false := by
  cases m
  case ink c hc => simpa [all, on] using h
  case gap run hn hb =>
    have hb (s : Side) : ∀ c ∈ run s, isBlank c := List.all_eq_true.mp (hb s)
    cases hp
    case inl hp =>
      have ha : all p (gap run hn ‹_›) := List.all_eq_true.mpr fun c hc => hp c (hb .before c hc)
      rw [ha] at h
      contradiction
    case inr hp => exact fun c hc => hp c (hb s c hc)

end Mark

abbrev Spaced := List Mark

namespace Spaced

variable {s s' : Side} {q a b : Spaced} {p : Char → Bool} {i j k : Nat} {c : Char} {x : Span}

-- The text on a side.
def on (s : Side) (q : Spaced) : Text :=
  q.flatMap (·.on s)

@[simp]
theorem on_nil : on s [] = [] :=
  rfl

@[simp]
theorem on_cons : on s (m :: q) = m.on s ++ on s q :=
  rfl

@[simp]
theorem on_append : on s (a ++ b) = on s a ++ on s b :=
  List.flatMap_append

theorem isEmpty_on (s : Side) (q : Spaced) : (on s q).isEmpty = q.isEmpty := by
  cases q
  case nil => rfl
  case cons m q => simp [m.on_ne_nil]

theorem on_eq_nil_iff : on s q = [] ↔ q = [] := by
  cases q
  case nil => simp
  case cons m q => simp [m.on_ne_nil]

section Fixed

-- The same text on both sides.
def fixed (t : Text) : Spaced :=
  t.map fun c =>
    if h : isBlank c then .gap (fun _ => [c]) (by simp) (by simp [h])
    else .ink c (Bool.eq_false_iff.mpr h)

theorem on_fixed (s : Side) (t : Text) : on s (fixed t) = t := by
  induction t
  case nil => rfl
  case cons c t hi =>
    rw [fixed, List.map_cons, on_cons, ← fixed, hi]
    split <;> rfl

theorem run_of_mem_fixed {t : Text} (h : Mark.gap run hn hb ∈ fixed t) :
    run .before = run .after := by
  obtain ⟨c, -, hc⟩ := List.mem_map.mp h
  split at hc
  case isTrue =>
    injection hc with hc
    rw [← hc]
  case isFalse => contradiction

end Fixed

section Places

-- Where a text has arrived after the first marks.
def place (s : Side) (q : Spaced) (i : Nat) : Nat :=
  (on s (q.take i)).length

theorem place_cons_succ (m : Mark) : place s (m :: q) (i + 1) = (m.on s).length + place s q i :=
  List.length_append

def spanOn (s : Side) (q : Spaced) (x : Span) : Span :=
  ⟨place s q x.start, place s q x.stop⟩

@[simp]
theorem spanOn_start : (spanOn s q x).start = place s q x.start :=
  rfl

@[simp]
theorem spanOn_stop : (spanOn s q x).stop = place s q x.stop :=
  rfl

def stretch (q : Spaced) (x : Span) : Spaced :=
  (q.drop x.start).take (x.stop - x.start)

theorem place_of_le (h : i ≤ j) : place s q j = place s q i + (on s (stretch q ⟨i, j⟩)).length := by
  have hj : q.take j = q.take i ++ stretch q ⟨i, j⟩ := by
    rw [stretch, ← List.take_add, Nat.add_sub_cancel' h]
  rw [place, hj, on_append, List.length_append, place]

theorem place_mono (h : i ≤ j) : place s q i ≤ place s q j := by
  rw [place_of_le h]
  exact Nat.le_add_right ..

theorem place_strictMono (h : i < j) (hj : j ≤ q.length) : place s q i < place s q j := by
  have hn : stretch q ⟨i, j⟩ ≠ [] := by
    rw [← List.length_pos_iff, stretch, List.length_take, List.length_drop]
    simp only
    omega
  rw [place_of_le h.le, Nat.lt_add_right_iff_pos, List.length_pos_iff, Ne, on_eq_nil_iff]
  exact hn

-- Places stand in the same order on both sides.
theorem place_lt_iff (hj : j ≤ q.length) : place s q i < place s q j ↔ i < j :=
  ⟨fun h => Nat.lt_of_not_le fun hle => Nat.not_le_of_lt h (place_mono hle),
    fun h => place_strictMono h hj⟩

theorem place_le_iff (hi : i ≤ q.length) : place s q i ≤ place s q j ↔ i ≤ j := by
  rw [← Nat.not_lt, ← Nat.not_lt, place_lt_iff hi]

theorem place_eq_iff (hi : i ≤ q.length) (hj : j ≤ q.length) :
    place s q i = place s q j ↔ i = j := by
  rw [Nat.le_antisymm_iff, place_le_iff hi, place_le_iff hj, Nat.le_antisymm_iff]

theorem place_min : min (place s q i) (place s q j) = place s q (min i j) := by
  obtain h | h := Nat.le_total i j
  case inl => rw [Nat.min_eq_left h, Nat.min_eq_left (place_mono h)]
  case inr => rw [Nat.min_eq_right h, Nat.min_eq_right (place_mono h)]

theorem place_length : place s q q.length = (on s q).length := by
  rw [place, List.take_length]

theorem on_take_append_drop : on s (q.take i) ++ on s (q.drop i) = on s q := by
  rw [← on_append, List.take_append_drop]

theorem take_place : (on s q).take (place s q i) = on s (q.take i) := by
  rw [← on_take_append_drop (i := i), place, List.take_left]

theorem drop_place : (on s q).drop (place s q i) = on s (q.drop i) := by
  rw [← on_take_append_drop (i := i), place, List.drop_left]

theorem slice_spanOn : (on s q).slice (spanOn s q x) = on s (stretch q x) := by
  simp only [Text.slice, spanOn, drop_place, stretch]
  by_cases h : x.start ≤ x.stop
  case pos =>
    rw [place_of_le h, Nat.add_sub_cancel_left]
    exact take_place
  case neg =>
    have hs : x.stop - x.start = 0 := by omega
    have hp : place s q x.stop - place s q x.start = 0 :=
      Nat.sub_eq_zero_of_le (place_mono (by omega))
    simp [hs, hp]

theorem slice_place : (on s q).slice ⟨place s q i, place s q j⟩ = on s (stretch q ⟨i, j⟩) :=
  slice_spanOn (x := ⟨i, j⟩)

end Places

section Blank

theorem any_isBlank_on (s : Side) (q : Spaced) : (on s q).any isBlank = q.any (·.isGap) := by
  induction q
  case nil => rfl
  case cons m q hi => rw [on_cons, List.any_append, List.any_cons, m.any_isBlank_on, hi]

theorem allBlank_on (s : Side) (q : Spaced) : (on s q).allBlank = q.all (·.isGap) := by
  induction q
  case nil => rfl
  case cons m q hi =>
    rw [Text.allBlank] at hi ⊢
    rw [on_cons, List.all_append, List.all_cons, m.all_isBlank_on, hi]

-- Without white space there is no difference.
theorem on_eq_of_no_blank (h : (on s q).any isBlank = false) (s' : Side) : on s' q = on s q := by
  rw [any_isBlank_on, List.any_eq_false] at h
  have hm : q.map (·.on s') = q.map (·.on s) := List.map_congr_left fun m hm =>
    Mark.on_of_not_isGap (by simpa using h m hm)
  rw [on, on, List.flatMap_def, List.flatMap_def, hm]

theorem mem_on_of_solid (hc : isBlank c = false) (h : c ∈ on s q) (s' : Side) : c ∈ on s' q := by
  obtain ⟨m, hm, hcm⟩ := List.mem_flatMap.mp h
  exact List.mem_flatMap.mpr ⟨m, hm, Mark.on_of_solid hc hcm ▸ hcm⟩

-- Both texts begin with the same character, unless they begin with white space.
theorem head?_on (hc : isBlank c = false) (s s' : Side) (q : Spaced) :
    (on s q).head? = some c ↔ (on s' q).head? = some c := by
  cases q
  case nil => rfl
  case cons m q =>
    rw [on_cons, on_cons, List.head?_append_of_ne_nil _ m.on_ne_nil,
      List.head?_append_of_ne_nil _ m.on_ne_nil]
    exact ⟨fun h => Mark.on_of_solid hc (List.mem_of_head? h) ▸ h,
      fun h => Mark.on_of_solid hc (List.mem_of_head? h) ▸ h⟩

theorem getLast?_on (hc : isBlank c = false) (s s' : Side) (q : Spaced) :
    (on s q).getLast? = some c ↔ (on s' q).getLast? = some c := by
  obtain rfl | ⟨q, m, rfl⟩ := List.eq_nil_or_concat' q
  case inl => rfl
  case inr =>
    simp only [on_append, on_cons, on_nil, List.append_nil]
    rw [List.getLast?_append_of_ne_nil _ m.on_ne_nil, List.getLast?_append_of_ne_nil _ m.on_ne_nil]
    exact ⟨fun h => Mark.on_of_solid hc (List.mem_of_getLast? h) ▸ h,
      fun h => Mark.on_of_solid hc (List.mem_of_getLast? h) ▸ h⟩

theorem contains_on (hc : isBlank c = false) (s s' : Side) (q : Spaced) :
    (on s q).contains c = (on s' q).contains c := by
  rw [Bool.eq_iff_iff, List.contains_iff_mem, List.contains_iff_mem]
  exact ⟨fun h => mem_on_of_solid hc h s', fun h => mem_on_of_solid hc h s⟩

theorem words_append_on {u : Text} (hu : ∀ c ∈ u, isBlank c = false) :
    (u ++ on s q).words = (u ++ on s' q).words := by
  induction q generalizing u
  case nil => rfl
  case cons m q hi =>
    cases m
    case ink c hc =>
      have huc : ∀ d ∈ u ++ [c], isBlank d = false :=
        List.forall_mem_append.mpr ⟨hu, by simpa using hc⟩
      simpa [Mark.on] using hi huc
    case gap run hn hb =>
      have hr (s : Side) : (u ++ (run s ++ on s q)).words = u.words ++ (on s q).words := by
        obtain ⟨c, t, ht⟩ := List.exists_cons_of_ne_nil (hn s)
        have hb := hb s
        rw [ht, List.all_cons, Bool.and_eq_true] at hb
        rw [ht, List.cons_append, Text.words_append_cons hb.left, Text.words_blank_append hb.right]
      have hi := hi (u := []) (by simp)
      rw [on_cons, on_cons, Mark.on, Mark.on, hr, hr]
      exact congrArg _ hi

theorem words_on (s s' : Side) (q : Spaced) : (on s q).words = (on s' q).words :=
  words_append_on (u := []) (by simp)

end Blank

section Lists

variable {f : Text → Bool} {g : Spaced → Bool} {ps : List Spaced}

-- A test with the same answer on both sides picks the same texts out of a list.
theorem filter_map_on (h : ∀ q, f (on s q) = g q) :
    (ps.map (on s)).filter f = (ps.filter g).map (on s) := by
  rw [List.filter_map, Function.comp_def, funext h]

theorem any_map_on (h : ∀ q, f (on s q) = g q) : (ps.map (on s)).any f = ps.any g := by
  rw [List.any_map, Function.comp_def, funext h]

theorem all_map_on (h : ∀ q, f (on s q) = g q) : (ps.map (on s)).all f = ps.all g := by
  rw [List.all_map, Function.comp_def, funext h]

end Lists

section Strip

def strip (p : Char → Bool) (q : Spaced) : Spaced :=
  (q.dropWhile (·.all p)).rdropWhile (·.all p)

def trim (q : Spaced) : Spaced :=
  q.strip isBlank

-- The first character that fails a test stands at the front of the first mark that does.
theorem span_on (hp : Uniform p) (s : Side) (q : Spaced) :
    (on s q).takeWhile p = on s (q.takeWhile (·.all p)) ∧
      (on s q).dropWhile p = on s (q.dropWhile (·.all p)) := by
  induction q
  case nil => exact ⟨rfl, rfl⟩
  case cons m q hi =>
    cases hm : m.all p
    case true =>
      have ha := Mark.all_on hp hm s
      rw [on_cons, List.takeWhile_append_of_pos ha, List.dropWhile_append_of_pos ha, hi.left,
        hi.right, List.takeWhile_cons_of_pos hm, List.dropWhile_cons_of_pos hm]
      exact ⟨rfl, rfl⟩
    case false =>
      obtain ⟨c, t, ht⟩ := List.exists_cons_of_ne_nil (m.on_ne_nil (s := s))
      have hc := Mark.none_on hp hm s c (by simp [ht])
      simp [hm, ht, hc]

theorem takeWhile_on (hp : Uniform p) (s : Side) (q : Spaced) :
    (on s q).takeWhile p = on s (q.takeWhile (·.all p)) :=
  (span_on hp s q).left

theorem dropWhile_on (hp : Uniform p) (s : Side) (q : Spaced) :
    (on s q).dropWhile p = on s (q.dropWhile (·.all p)) :=
  (span_on hp s q).right

theorem dropEndWhile_on (hp : Uniform p) (s : Side) (q : Spaced) :
    (on s q).dropEndWhile p = on s (q.rdropWhile (·.all p)) := by
  induction q using List.reverseRecOn
  case nil => rfl
  case append_singleton q m hi =>
    have ht : on s (q ++ [m]) = on s q ++ m.on s := by simp
    cases hm : m.all p
    case true =>
      have hr : (m.on s).reverse.all p := by
        rw [List.all_reverse]
        exact List.all_eq_true.mpr (Mark.all_on hp hm s)
      rw [List.rdropWhile_concat_pos _ _ _ hm, ← hi, ht, Text.dropEndWhile, List.reverse_append,
        Text.dropWhile_append_all hr, Text.dropEndWhile]
    case false =>
      obtain ⟨t, c, hc⟩ := (List.eq_nil_or_concat' (m.on s)).resolve_left m.on_ne_nil
      have hpc := Mark.none_on hp hm s c (by simp [hc])
      rw [List.rdropWhile_concat_neg _ _ _ (by simp [hm]), ht, hc, ← List.append_assoc]
      simp [Text.dropEndWhile, hpc]

theorem strip_on (hp : Uniform p) (s : Side) (q : Spaced) :
    Text.strip p (on s q) = on s (q.strip p) := by
  rw [Text.strip, dropWhile_on hp, dropEndWhile_on hp, strip]

theorem uniform_isBlank : Uniform isBlank :=
  .inl fun _ h => h

theorem not_beq_of_isBlank (hc : isBlank c = false) (d : Char) (hd : isBlank d) : (d == c) = false :=
  beq_eq_false_iff_ne.mpr fun h => by simp [← h, hd] at hc

theorem uniform_beq (hc : isBlank c = false) : Uniform (· == c) :=
  .inr (not_beq_of_isBlank hc)

theorem trim_on (s : Side) (q : Spaced) : (on s q).trim = on s q.trim :=
  strip_on uniform_isBlank s q

theorem map_trim_on (s : Side) (ps : List Spaced) :
    (ps.map (on s)).map Text.trim = (ps.map trim).map (on s) := by
  rw [List.map_map, List.map_map]
  exact List.map_congr_left fun q _ => trim_on s q

-- Only gaps are trimmed off.
theorem exists_trim (q : Spaced) : ∃ a b, q = a ++ (q.trim ++ b) ∧
    ∀ s, (on s a).all isBlank ∧ (on s b).all isBlank := by
  have hg {l : Spaced} (hl : ∀ m ∈ l, m.all isBlank) (s : Side) : (on s l).all isBlank := by
    refine List.all_eq_true.mpr fun c hc => ?_
    obtain ⟨m, hm, hc⟩ := List.mem_flatMap.mp hc
    exact Mark.all_on uniform_isBlank (hl m hm) s c hc
  refine ⟨q.takeWhile (·.all isBlank), (q.dropWhile (·.all isBlank)).rtakeWhile (·.all isBlank),
    ?_, fun s => ⟨hg (fun m hm => List.mem_takeWhile_imp hm) s,
      hg (fun m hm => List.mem_rtakeWhile_imp hm) s⟩⟩
  rw [trim, strip, List.rdropWhile_append_rtakeWhile, List.takeWhile_append_dropWhile]

end Strip

section Pieces

theorem pieces_append_of_none {u t w : Text} {ws : List Text} (hu : ∀ c ∈ u, p c = false)
    (h : t.pieces p = w :: ws) : (u ++ t).pieces p = (u ++ w) :: ws := by
  induction u
  case nil => exact h
  case cons c u hi =>
    have ⟨hc, hu⟩ := List.forall_mem_cons.mp hu
    exact Text.pieces_cons_of_neg hc (hi hu)

-- Pieces between separators that are no white space are the same on both sides.
theorem exists_pieces (hp : ∀ c, isBlank c → p c = false) (q : Spaced) : ∃ ps : List Spaced,
    ∀ s, (on s q).pieces p = ps.map (on s) := by
  induction q
  case nil => exact ⟨[[]], fun _ => rfl⟩
  case cons m q hi =>
    obtain ⟨ps, hi⟩ := hi
    have hps : ps ≠ [] := by
      rintro rfl
      exact Text.pieces_ne_nil _ (hi .before)
    obtain ⟨w, ps, rfl⟩ := List.exists_cons_of_ne_nil hps
    have joined (h : ∀ s, ∀ c ∈ m.on s, p c = false) :
        ∃ ps : List Spaced, ∀ s, (on s (m :: q)).pieces p = ps.map (on s) :=
      ⟨(m :: w) :: ps, fun s => pieces_append_of_none (h s) (hi s)⟩
    cases m
    case gap run hn hb => exact joined fun s c hc => hp c (List.all_eq_true.mp (hb s) c hc)
    case ink c h =>
      cases hc : p c
      case false => exact joined fun s => by simpa [Mark.on] using hc
      case true => exact ⟨[] :: w :: ps, fun s => by simp [Mark.on, Text.pieces_cons_of_pos hc, hi]⟩

end Pieces

end Spaced
end FlatQuery
