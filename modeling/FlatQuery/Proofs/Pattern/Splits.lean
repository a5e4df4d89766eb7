import FlatQuery.Pattern.Keyword
import FlatQuery.Proofs.Pattern.WholeWords

namespace FlatQuery
namespace Pattern

variable {p : Pattern} {a b t u v : Text}

theorem solid_joiners : Solid [Keyword.and.letters, Keyword.or.letters] := by
  unfold Solid
  decide

theorem solid_connectives :
    Solid [Keyword.and.letters, Keyword.or.letters, Keyword.not.letters] := by
  unfold Solid
  decide

theorem joiners_eq_false_iff :
    joiners.occursIn t = false ↔ FreeOf [Keyword.and.letters, Keyword.or.letters] t :=
  occursIn_eq_false_iff_freeOf

theorem connectives_eq_false_iff : connectives.occursIn t = false ↔
    FreeOf [Keyword.and.letters, Keyword.or.letters, Keyword.not.letters] t :=
  occursIn_eq_false_iff_freeOf

-- The stretch before the first match has no match.
theorem not_occursIn_head_split (hp : ∀ {u m v}, p.Takes u m v → p.Parted u (m ++ v)) :
    p.occursIn (p.split t).head = false := by
  rw [occursIn_eq_false_iff, split]
  cases hs : p.spans t
  case nil => simpa [cutAround] using hs
  case cons s later =>
    obtain ⟨u, m, v, rfl, hm, rfl⟩ := exists_takes_of_mem_spans (hs ▸ List.mem_cons_self)
    have ha := (hp hm).spans_append
    rw [List.append_assoc] at hs
    have hu : Text.slice (u ++ m ++ v) ⟨0, u.length⟩ = u := by simp [Text.slice]
    simp only [cutAround, hu]
    cases hu : p.spans u
    case nil => rfl
    case cons s' _ =>
      -- It would be found first, although it ends where the first match begins.
      obtain ⟨u', m', v', rfl, hm', rfl⟩ := exists_takes_of_mem_spans (hu ▸ List.mem_cons_self)
      rw [hs, hu, List.cons_append] at ha
      have he := congrArg Span.start (List.cons.inj ha).left
      have := List.length_pos_iff.mpr hm'.ne_nil
      simp only [List.length_append] at he
      omega

section Usable

theorem texts?_eq (h : (p.split t).pieces.any Text.allBlank = false) :
    p.texts? t = some (((p.split t).pieces.filter fun s => !p.occursIn s).map Text.trim) := by
  simp [texts?, usable?, h]

-- Blank pieces are no matches, so that it does not matter whether they are left out.
theorem delimiters?_eq
    (h : (p.split t).pieces.any Text.allBlank →
      (p.split t).pieces.any fun s => s.trim.eqIgnoringCase "not".toList)
    (hb : ∀ s ∈ (p.split t).pieces, s.allBlank → p.occursIn s = false) :
    p.delimiters? t = some (((p.split t).pieces.filter p.occursIn).map Text.trim) := by
  simp only [delimiters?, usable?]
  split
  case isFalse => rfl
  case isTrue ha =>
    rw [if_pos (h ha), Option.map_some, List.filter_filter]
    congr 2
    refine List.filter_congr fun s hs => ?_
    cases hn : s.allBlank
    case false => simp
    case true => simp [hb s hs hn]

end Usable

theorem lowerAscii_of_not (h : Text.eqIgnoringCase t "not".toList) :
    t.lowerAscii = Keyword.not.letters := by
  have hn : Text.lowerAscii "not".toList = Keyword.not.letters := by decide
  rw [← hn]
  exact beq_iff_eq.mp h

-- `not` is no joiner.
theorem not_joiners_of_not (h : t.trim.eqIgnoringCase "not".toList) :
    joiners.occursIn t = false ∧ t.allBlank = false := by
  have hl : t.trim.lowerAscii = Keyword.not.letters := lowerAscii_of_not h
  have hs := spells_of_lowerAscii hl
  have hk : ∀ w ∈ [Keyword.and.letters, Keyword.or.letters],
      w.all isKeyLetter ∧ w ≠ Keyword.not.letters := by decide
  constructor
  case left =>
    rw [joiners_eq_false_iff, ← solid_joiners.freeOf_trim]
    intro w hw hm
    rw [mentions_of_all (hs.all_isWordChar (by decide))] at hm
    exact (hk w hw).right (hm.unique hs (hk w hw).left (by decide))
  case right =>
    refine Bool.eq_false_iff.mpr fun hb => ?_
    have ht : t.trim = [] := Text.strip_append_all (t := []) hb
    rw [ht] at hl
    contradiction

-- A filter has a condition, be it a malformed one.
theorem texts?_joiners_ne_nil : joiners.texts? t ≠ some [] := by
  intro h
  simp only [texts?, usable?, Option.map_eq_some_iff, List.map_eq_nil_iff] at h
  obtain ⟨pieces, hp, hf⟩ := h
  have hf := List.filter_eq_nil_iff.mp hf
  split at hp
  case isTrue =>
    split at hp
    case isFalse => contradiction
    case isTrue hn =>
      obtain ⟨piece, hm, hn⟩ := List.any_eq_true.mp hn
      have ⟨ho, hb⟩ := not_joiners_of_not hn
      obtain rfl := Option.some.inj hp
      exact hf piece (List.mem_filter.mpr ⟨hm, by simp [hb]⟩) (by simp [ho])
  case isFalse =>
    obtain rfl := Option.some.inj hp
    have ho := not_occursIn_head_split (p := joiners) (t := t) fun h =>
      solid_joiners.parted (.inl h.spells.right.left)
    exact hf _ (.head _) (by simp [ho])

end Pattern

section Cuts

variable {words : List Text} {nonempty : ∀ w ∈ words, w ≠ []} {w a b m t : Text} {ts : List Text}

theorem Solid.occursIn (hs : Solid words) (hw : w ∈ words) (hm : Spells w m) :
    (Pattern.wholeWord words nonempty).occursIn m :=
  Pattern.occursIn_iff.mpr ⟨[], m, [], by simp, hs.takes hw hm⟩

theorem Solid.split_append (hs : Solid words) (hw : w ∈ words) (hm : Spells w m)
    (hf : FreeOf words a) (ha : endsWord a = false) (hb : startsWord b = false) :
    (Pattern.wholeWord words nonempty).split (a ++ (m ++ b)) =
      ⟨a, (m, ((Pattern.wholeWord words nonempty).split b).head) ::
        ((Pattern.wholeWord words nonempty).split b).tail⟩ :=
  Pattern.split_append (hs.takes hw hm) (Pattern.occursIn_eq_false_iff_freeOf.mpr hf)
    (hs.parted (.inl ha)) (hs.parted (.inr hb))

theorem Solid.pieces_append (hs : Solid words) (hw : w ∈ words) (hm : Spells w m)
    (hf : FreeOf words a) (ha : endsWord a = false) (hb : startsWord b = false) :
    ((Pattern.wholeWord words nonempty).split (a ++ (m ++ b))).pieces =
      a :: m :: ((Pattern.wholeWord words nonempty).split b).pieces := by
  simp [hs.split_append hw hm hf ha hb, Split.pieces]

-- At its joiners the text comes apart into `ts`.
structure Joined (t : Text) (ts : List Text) : Prop where
  texts : ((Pattern.joiners.split t).pieces.filter fun s =>
    !Pattern.joiners.occursIn s).map Text.trim = ts
  whole : (Pattern.joiners.split t).pieces.any Text.allBlank = false

namespace Joined

theorem texts?_eq (h : Joined t ts) : Pattern.joiners.texts? t = some ts := by
  rw [Pattern.texts?_eq h.whole, h.texts]

theorem one (hf : FreeOf [Keyword.and.letters, Keyword.or.letters] t) (ht : t.allBlank = false) :
    Joined t [t.trim] := by
  have ho := Pattern.joiners_eq_false_iff.mpr hf
  have hp := Pattern.pieces_split_of_free ho
  exact ⟨by simp [hp, ho], by simp [hp, ht]⟩

-- The first joiner cuts off what stands before it.
theorem cons (hw : w ∈ [Keyword.and.letters, Keyword.or.letters]) (hm : Spells w m)
    (hf : FreeOf [Keyword.and.letters, Keyword.or.letters] a) (hn : a.allBlank = false)
    (ha : endsWord a = false) (hb : startsWord b = false) (h : Joined b ts) :
    Joined (a ++ (m ++ b)) (a.trim :: ts) := by
  have hs := Pattern.solid_joiners
  have hp : (Pattern.joiners.split (a ++ (m ++ b))).pieces =
      a :: m :: (Pattern.joiners.split b).pieces :=
    hs.pieces_append hw hm hf ha hb
  have ho : Pattern.joiners.occursIn m := hs.occursIn hw hm
  have hl := hm.tight (hs w hw).right
  constructor
  case texts => simp [hp, Pattern.joiners_eq_false_iff.mpr hf, ho, h.texts]
  case whole => simpa [hp, hn, by simpa using hl.not_allBlank [] []] using h.whole

end Joined

-- The connectives of the text are `ts`, and a bare `not` explains any stretch that is blank.
structure Connected (t : Text) (ts : List Text) : Prop where
  tokens    : ((Pattern.connectives.split t).pieces.filter
    Pattern.connectives.occursIn).map Text.trim = ts
  explained : (Pattern.connectives.split t).pieces.any Text.allBlank →
    (Pattern.connectives.split t).pieces.any fun s => s.trim.eqIgnoringCase "not".toList

namespace Connected

theorem delimiters?_eq (h : Connected t ts) : Pattern.connectives.delimiters? t = some ts := by
  rw [Pattern.delimiters?_eq h.explained fun s _ hs => ?_, h.tokens]
  exact Pattern.connectives_eq_false_iff.mpr
    (Pattern.solid_connectives.freeOf_of_none (none_of_blank hs))

theorem none (hf : FreeOf [Keyword.and.letters, Keyword.or.letters, Keyword.not.letters] t)
    (ht : t.allBlank = false) : Connected t [] := by
  have ho := Pattern.connectives_eq_false_iff.mpr hf
  have hp := Pattern.pieces_split_of_free ho
  exact ⟨by simp [hp, ho], by simp [hp, ht]⟩

-- Nothing but white space may stand before a `not`.
theorem cons (hw : w ∈ [Keyword.and.letters, Keyword.or.letters, Keyword.not.letters])
    (hm : Spells w m) (hf : FreeOf [Keyword.and.letters, Keyword.or.letters, Keyword.not.letters] a)
    (hn : a.allBlank → m.trim.eqIgnoringCase "not".toList)
    (ha : endsWord a = false) (hb : startsWord b = false) (h : Connected b ts) :
    Connected (a ++ (m ++ b)) (m :: ts) := by
  have hs := Pattern.solid_connectives
  have hp : (Pattern.connectives.split (a ++ (m ++ b))).pieces =
      a :: m :: (Pattern.connectives.split b).pieces := hs.pieces_append hw hm hf ha hb
  have ho : Pattern.connectives.occursIn m := hs.occursIn hw hm
  have hl := hm.tight (hs w hw).right
  constructor
  case tokens => simp [hp, Pattern.connectives_eq_false_iff.mpr hf, ho, h.tokens, hl.trim_eq]
  case explained =>
    have hm : Text.allBlank m = false := by simpa using hl.not_allBlank [] []
    simp only [hp, List.any_cons, hm, Bool.false_or, Bool.or_eq_true]
    rintro (hab | hbl)
    · exact .inr (.inl (hn hab))
    · exact .inr (.inr (h.explained hbl))

end Connected
end Cuts

end FlatQuery
