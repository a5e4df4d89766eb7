import FlatQuery.Proofs.Pattern.Splits

namespace FlatQuery

variable {p : Pattern} {t u m v : Text}

namespace Split

variable {s : Split} {q : Text → Bool}

theorem pieces_eq : s.pieces = s.head :: s.tail.flatMap fun x => [x.1, x.2] :=
  rfl

theorem mem_pieces : x ∈ s.pieces ↔ x ∈ s.texts ∨ x ∈ s.delimiters := by
  obtain ⟨head, tail⟩ := s
  have hp : x ∈ tail.flatMap (fun y => [y.1, y.2]) ↔ x ∈ tail.map (·.2) ∨ x ∈ tail.map (·.1) := by
    induction tail
    case nil => simp
    case cons _ _ hi =>
      simp only [List.flatMap_cons, List.map_cons, List.mem_append, List.mem_cons, hi]
      tauto
  simp only [pieces_eq, texts, delimiters, List.mem_cons, hp, or_assoc]

theorem length_texts : s.texts.length = s.delimiters.length + 1 := by
  simp [texts, delimiters]

-- A test that holds of the delimiters alone parts the pieces.
theorem filter_pieces (ht : ∀ t ∈ s.texts, q t = false) (hd : ∀ d ∈ s.delimiters, q d) :
    s.pieces.filter q = s.delimiters ∧ (s.pieces.filter fun x => !q x) = s.texts := by
  obtain ⟨head, tail⟩ := s
  have hh : q head = false := ht head (.head _)
  have hx : ∀ x ∈ tail, q x.1 ∧ q x.2 = false := fun x hm =>
    ⟨hd _ (List.mem_map_of_mem hm), ht _ (.tail _ (List.mem_map_of_mem hm))⟩
  clear ht hd
  have hp : (tail.flatMap fun x => [x.1, x.2]).filter q = tail.map (·.1) ∧
      ((tail.flatMap fun x => [x.1, x.2]).filter fun x => !q x) = tail.map (·.2) := by
    induction tail
    case nil => exact ⟨rfl, rfl⟩
    case cons x tail hi =>
      obtain ⟨⟨h₁, h₂⟩, hx⟩ := List.forall_mem_cons.mp hx
      simp [hi hx, h₁, h₂]
  simp [pieces_eq, texts, delimiters, hh, hp]

end Split

namespace Pattern

theorem delimiters_cutAround : (cutAround t i l).delimiters = l.map t.slice := by
  induction l generalizing i
  case nil => rfl
  case cons s l hi => exact congrArg (t.slice s :: ·) hi

-- The delimiters are what the pattern takes, in the order of the text.
theorem delimiters_split : (p.split t).delimiters = p.found t :=
  delimiters_cutAround

theorem found_of_free (h : p.occursIn t = false) : p.found t = [] := by
  rw [found, occursIn_eq_false_iff.mp h]
  rfl

theorem found_ne_nil (h : p.occursIn t) : p.found t ≠ [] := by
  simpa [occursIn, found] using h

-- Up to the first match, nothing is taken.
theorem exists_first (hp : ∀ {u m v}, p.Takes u m v → p.Parted u (m ++ v)) (h : p.occursIn t) :
    ∃ u m v, t = u ++ (m ++ v) ∧ p.Takes u m v ∧ p.occursIn u = false := by
  have hh := not_occursIn_head_split hp (t := t)
  rw [split] at hh
  cases hs : p.spans t
  case nil => rw [occursIn, hs] at h; contradiction
  case cons s later =>
    obtain ⟨u, m, v, rfl, hm, rfl⟩ := exists_takes_of_mem_spans (hs ▸ List.mem_cons_self)
    have hu : Text.slice (u ++ m ++ v) ⟨0, u.length⟩ = u := by simp [Text.slice]
    simp only [hs, cutAround, hu] at hh
    exact ⟨u, m, v, by simp, hm, hh⟩

end Pattern

section Words

variable {words : List Text} {nonempty : ∀ w ∈ words, w ≠ []}

-- A text is free of the words, or the first of them cuts off a stretch that is.
@[elab_as_elim]
theorem Solid.induction {motive : Text → Prop} (hs : Solid words)
    (free : ∀ t, FreeOf words t → motive t)
    (cut : ∀ w ∈ words, ∀ a m b, Spells w m → FreeOf words a → endsWord a = false →
      startsWord b = false → motive b → motive (a ++ (m ++ b))) (t : Text) : motive t := by
  have hn : ∀ w ∈ words, w ≠ [] := fun w hw => (hs w hw).right.ne_nil
  by_cases h : (Pattern.wholeWord words hn).occursIn t
  case neg => exact free t (Pattern.occursIn_eq_false_iff_freeOf.mp (Bool.eq_false_iff.mpr h))
  case pos =>
    obtain ⟨u, m, v, rfl, hm, hu⟩ :=
      Pattern.exists_first (fun h => hs.parted (.inl h.spells.right.left)) h
    obtain ⟨⟨w, hw, hm'⟩, hu', hv⟩ := hm.spells
    have hlt : v.length < (u ++ (m ++ v)).length := by
      have := List.length_pos_iff.mpr hm.ne_nil
      simp only [List.length_append]
      omega
    exact cut w hw u m v hm' (Pattern.occursIn_eq_false_iff_freeOf.mp hu) hu' hv
      (Solid.induction hs free cut v)
termination_by t.length

theorem Pattern.spells_of_mem_found (h : m ∈ (wholeWord words nonempty).found t) :
    ∃ w ∈ words, Spells w m := by
  obtain ⟨u, v, -, ht⟩ := exists_takes_of_mem_found h
  exact ht.spells.left

variable (hs : Solid words)
include hs

theorem Solid.found_append (hw : w ∈ words) (hm : Spells w m) (hf : FreeOf words a)
    (ha : endsWord a = false) (hb : startsWord b = false) :
    (Pattern.wholeWord words nonempty).found (a ++ (m ++ b)) =
      m :: (Pattern.wholeWord words nonempty).found b := by
  rw [← Pattern.delimiters_split, hs.split_append hw hm hf ha hb, ← Pattern.delimiters_split]
  rfl

theorem Solid.freeOf_texts (t : Text) :
    ∀ x ∈ ((Pattern.wholeWord words nonempty).split t).texts, FreeOf words x := by
  induction t using hs.induction
  case free t hf =>
    rw [Pattern.split_of_free (Pattern.occursIn_eq_false_iff_freeOf.mpr hf)]
    simpa [Split.texts] using hf
  case cut w hw a m b hm hf ha hb hi =>
    rw [hs.split_append hw hm hf ha hb]
    exact List.forall_mem_cons.mpr ⟨hf, hi⟩

-- Taken on its own, each piece of the text is what it is in the text.
theorem Solid.filter_pieces :
    ((Pattern.wholeWord words nonempty).split t).pieces.filter
      (Pattern.wholeWord words nonempty).occursIn = (Pattern.wholeWord words nonempty).found t ∧
    (((Pattern.wholeWord words nonempty).split t).pieces.filter fun x =>
      !(Pattern.wholeWord words nonempty).occursIn x) =
        ((Pattern.wholeWord words nonempty).split t).texts := by
  rw [← Pattern.delimiters_split]
  refine Split.filter_pieces (fun x hx => ?_) fun d hd => ?_
  · exact Pattern.occursIn_eq_false_iff_freeOf.mpr (hs.freeOf_texts t x hx)
  · rw [Pattern.delimiters_split] at hd
    obtain ⟨w, hw, hm⟩ := Pattern.spells_of_mem_found hd
    exact hs.occursIn hw hm

section Subset

variable {words' : List Text} {nonempty' : ∀ w ∈ words', w ≠ []} (hsub : words' ⊆ words)

-- A spelling of one word is free of all others.
theorem Solid.freeOf_spelled (hw : w ∈ words) (hm : Spells w m) (hn : w ∉ words')
    (hsub : words' ⊆ words) : FreeOf words' m := by
  have hk (w : Text) (hw : w ∈ words) : w.all isKeyLetter :=
    List.all_eq_true.mpr fun c hc => by
      simp [isKeyLetter, List.all_eq_true.mp (hs w hw).left c hc]
  intro w' hw' hmen
  have hm' := (mentions_of_all (hm.all_isWordChar (hs w hw).left)).mp hmen
  exact hn (hm.unique hm' (hk w hw) (hk w' (hsub hw')) ▸ hw')

include hsub

-- With fewer words, the words left out are no longer found, and all others still are.
theorem Solid.found_subset (t : Text) : (Pattern.wholeWord words' nonempty').found t =
    ((Pattern.wholeWord words nonempty).found t).filter
      (Pattern.wholeWord words' nonempty').occursIn := by
  have hs' : Solid words' := fun w hw => hs w (hsub hw)
  induction t using hs.induction
  case free t hf =>
    rw [Pattern.found_of_free (Pattern.occursIn_eq_false_iff_freeOf.mpr hf),
      Pattern.found_of_free (Pattern.occursIn_eq_false_iff_freeOf.mpr (hf.subset hsub))]
    rfl
  case cut w hw a m b hm hf ha hb hi =>
    rw [hs.found_append hw hm hf ha hb, List.filter_cons, ← hi]
    by_cases hw' : w ∈ words'
    case pos =>
      rw [if_pos (hs'.occursIn hw' hm), hs'.found_append hw' hm (hf.subset hsub) ha hb]
    case neg =>
      have ho : (Pattern.wholeWord words' nonempty').occursIn m = false :=
        Pattern.occursIn_eq_false_iff_freeOf.mpr (hs.freeOf_spelled hw hm hw' hsub)
      have ho' : (Pattern.wholeWord words' nonempty').occursIn a = false :=
        Pattern.occursIn_eq_false_iff_freeOf.mpr (hf.subset hsub)
      rw [ho, (hs'.parted (.inl ha)).found_append, (hs'.parted (.inr hb)).found_append,
        Pattern.found_of_free ho, Pattern.found_of_free ho']
      rfl

-- Words that do not stand in the text make no difference to how it is cut.
theorem Solid.split_subset (h : ∀ w ∈ words, w ∉ words' → ¬Mentions w t) :
    (Pattern.wholeWord words nonempty).split t = (Pattern.wholeWord words' nonempty').split t := by
  have hs' : Solid words' := fun w hw => hs w (hsub hw)
  induction t using hs.induction
  case free t hf =>
    rw [Pattern.split_of_free (Pattern.occursIn_eq_false_iff_freeOf.mpr hf),
      Pattern.split_of_free (Pattern.occursIn_eq_false_iff_freeOf.mpr (hf.subset hsub))]
  case cut w hw a m b hm hf ha hb hi =>
    have hw' : w ∈ words' := by
      by_contra hn
      exact h w hw hn ⟨a, m, b, by simp, hm, ha, hb⟩
    have hi := hi fun w hw hn hmen => h w hw hn <| by
      rw [← List.append_assoc]
      refine (mentions_append (hs w hw).right ?_ (.inr hb)).mpr (.inr hmen)
      exact clear_of_all (hs w hw).left (.inr hb)
    rw [hs.split_append hw hm hf ha hb, hs'.split_append hw' hm (hf.subset hsub) ha hb, hi]

end Subset
end Words
end FlatQuery
