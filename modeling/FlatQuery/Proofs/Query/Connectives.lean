import FlatQuery.Proofs.Fallible
import FlatQuery.Proofs.Pattern.Cuts
import FlatQuery.Proofs.Query.LostClauses

namespace FlatQuery

variable {t m : Text}

-- Only `s` and `k` have forms beyond ASCII.
theorem Spells.lowerAscii_eq (h : Spells w m) (hw : w.all fun c => c != 's' && c != 'k') :
    m.lowerAscii = w := by
  induction h
  case nil => rfl
  case cons letter c _ _ hc _ hi =>
    simp only [List.all_cons, Bool.and_eq_true, bne_iff_ne] at hw
    obtain ⟨⟨hs, hk⟩, hw⟩ := hw
    have hc : c.toLower = letter := by
      obtain h | ⟨h, -⟩ | ⟨h, -⟩ := foldsTo_cases hc
      case inl => exact h
      case inr.inl => exact absurd h hs
      case inr.inr => exact absurd h hk
    simpa [Text.lowerAscii, hc] using hi hw

namespace Connective

def word : Connective → Text
  | and => Keyword.and.letters
  | or => Keyword.or.letters
  | not => Keyword.not.letters

theorem exists_word (h : w ∈ [Keyword.and.letters, Keyword.or.letters, Keyword.not.letters]) :
    ∃ c : Connective, c.word = w := by
  simp only [List.mem_cons, List.not_mem_nil, or_false] at h
  obtain rfl | rfl | rfl := h
  case inl => exact ⟨and, rfl⟩
  case inr.inl => exact ⟨or, rfl⟩
  case inr.inr => exact ⟨not, rfl⟩

theorem parse_word (c : Connective) : parse c.word = .ok c := by
  cases c <;> rfl

theorem mem_joiners_iff (c : Connective) :
    c.word ∈ [Keyword.and.letters, Keyword.or.letters] ↔ c.isBinary := by
  cases c <;> decide

end Connective

namespace Pattern

theorem joiners_subset : [Keyword.and.letters, Keyword.or.letters] ⊆
    [Keyword.and.letters, Keyword.or.letters, Keyword.not.letters] := by
  simp

-- What is found as a connective is one, and is found as a joiner only if it joins conditions.
theorem connective_of_mem_found (h : m ∈ connectives.found t) :
    ∃ c : Connective, m.lowerAscii = c.word ∧ joiners.occursIn m = c.isBinary := by
  obtain ⟨w, hw, hm⟩ := spells_of_mem_found h
  obtain ⟨c, rfl⟩ := Connective.exists_word hw
  refine ⟨c, hm.lowerAscii_eq ?_, ?_⟩
  case refine_1 => cases c <;> decide
  case refine_2 =>
    cases hc : c.isBinary
    case true => exact solid_joiners.occursIn (c.mem_joiners_iff.mpr hc) hm
    case false =>
      refine joiners_eq_false_iff.mpr (solid_connectives.freeOf_spelled hw hm ?_ joiners_subset)
      rw [c.mem_joiners_iff, hc]
      simp

theorem found_joiners (t : Text) :
    joiners.found t = (connectives.found t).filter joiners.occursIn :=
  solid_connectives.found_subset joiners_subset t

-- Every connective that is found can be read, and as many of them join conditions as joiners are
-- found.
theorem parse_found (t : Text) : ∃ cs,
    ((connectives.found t).map Text.lowerAscii).mapM Connective.parse = .ok cs ∧
      (cs.filter (·.isBinary)).length = (joiners.found t).length := by
  have hc : ∀ m ∈ connectives.found t, ∃ c, Connective.parse m.lowerAscii = .ok c ∧
      joiners.occursIn m = c.isBinary := fun m hm => by
    obtain ⟨c, hw, hb⟩ := connective_of_mem_found hm
    exact ⟨c, hw ▸ c.parse_word, hb⟩
  rw [List.mapM_map]
  obtain ⟨cs, hcs⟩ := exists_mapM_eq_ok fun m hm => (hc m hm).imp fun _ h => h.left
  refine ⟨cs, hcs, ?_⟩
  have hb : cs.map (·.isBinary) = (connectives.found t).map joiners.occursIn :=
    map_eq_of_mapM_eq_ok hcs fun m hm c hp => by
      obtain ⟨c', hp', hb⟩ := hc m hm
      obtain rfl : c' = c := Except.ok.inj (hp'.symm.trans hp)
      exact hb.symm
  have hn := congrArg (List.countP id) hb
  rw [List.countP_map, List.countP_map] at hn
  rw [found_joiners, ← List.countP_eq_length_filter, ← List.countP_eq_length_filter]
  exact hn

theorem exists_not_of_mentions (h : Mentions Keyword.not.letters t) :
    ∃ m ∈ connectives.found t, Spells Keyword.not.letters m := by
  have hf : Keyword.not.pattern.found t =
      (connectives.found t).filter Keyword.not.pattern.occursIn :=
    solid_connectives.found_subset (by simp) t
  have ho := Keyword.occursIn_iff.mpr h
  obtain ⟨m, hm⟩ := List.exists_mem_of_ne_nil _ (found_ne_nil ho)
  obtain ⟨w, hw, hs⟩ := spells_of_mem_found hm
  obtain rfl := List.mem_singleton.mp hw
  rw [hf] at hm
  exact ⟨m, (List.mem_filter.mp hm).left, hs⟩

-- Unless a bare `not` is found, a text is cut at its joiners only.
theorem connected_of_whole (h : (joiners.split t).pieces.any Text.allBlank = false) :
    Connected t (connectives.found t) where
  tokens := by
    have ht : ∀ m ∈ connectives.found t, m.trim = id m := fun m hm => by
      obtain ⟨w, hw, hm⟩ := spells_of_mem_found hm
      exact (hm.tight (solid_connectives w hw).right).trim_eq
    have hf : (connectives.split t).pieces.filter connectives.occursIn = connectives.found t :=
      solid_connectives.filter_pieces.left
    rw [hf, List.map_congr_left ht, List.map_id]
  explained hb := by
    by_cases hn : Mentions Keyword.not.letters t
    case neg =>
      have hs : connectives.split t = joiners.split t := by
        refine solid_connectives.split_subset joiners_subset fun w hw hw' => ?_
        obtain ⟨c, rfl⟩ := Connective.exists_word hw
        cases c
        case not => exact hn
        all_goals exact absurd (by decide) hw'
      rw [hs, h] at hb
      contradiction
    case pos =>
      obtain ⟨m, hm, hs⟩ := exists_not_of_mentions hn
      have hp : m ∈ (connectives.split t).pieces :=
        Split.mem_pieces.mpr (.inr (delimiters_split ▸ hm))
      refine List.any_eq_true.mpr ⟨m, hp, ?_⟩
      rw [(hs.tight (by decide)).trim_eq, Text.eqIgnoringCase, hs.lowerAscii_eq (by decide)]
      decide

-- As many of the tokens are joiners as joiners are found.
theorem length_joiners (t : Text) :
    (((connectives.found t).map Text.lowerAscii).filter
      [Keyword.and.letters, Keyword.or.letters].contains).length = (joiners.found t).length := by
  have hc : ∀ m ∈ connectives.found t,
      [Keyword.and.letters, Keyword.or.letters].contains m.lowerAscii = joiners.occursIn m :=
    fun m hm => by
      obtain ⟨c, hw, hb⟩ := connective_of_mem_found hm
      rw [hw, hb, Bool.eq_iff_iff, List.contains_iff_mem, c.mem_joiners_iff]
  rw [List.filter_map, List.length_map, found_joiners]
  exact congrArg List.length (List.filter_congr hc)

end Pattern

theorem Joined.length {ts : List Text} (h : Joined t ts) :
    ts.length = (Pattern.joiners.found t).length + 1 := by
  have hf : ((Pattern.joiners.split t).pieces.filter fun s => !Pattern.joiners.occursIn s) =
      (Pattern.joiners.split t).texts := Pattern.solid_joiners.filter_pieces.right
  rw [← h.texts, hf, List.length_map, Split.length_texts, Pattern.delimiters_split]

namespace Clause

variable {query text piece : Text} {pieces : List Text}

-- A bare `not` has nothing to compare.
theorem ofText?_of_not (h : Text.eqIgnoringCase piece "not".toList) :
    Condition.ofText? piece.stripNot.2 = none := by
  have hl : piece.lowerAscii = Keyword.not.letters := Pattern.lowerAscii_of_not h
  have hs := spells_of_lowerAscii hl
  have hb : ∀ c ∈ piece, !isBlank c := fun c hc => by
    simp [not_isBlank_of_isWordChar (List.all_eq_true.mp (hs.all_isWordChar (by decide)) c hc)]
  have ht : piece.takeWhile (!isBlank ·) = piece := List.takeWhile_eq_self_iff.mpr hb
  have hd : piece.dropWhile (!isBlank ·) = [] := List.dropWhile_eq_nil_iff.mpr hb
  rw [Text.stripNot, (hs.tight (by decide)).trimStart_eq, ht, if_pos h, hd]
  rfl

-- Conditions that can be read leave no stretch of the filter blank, since a bare `not` is none.
theorem joined_of_conditions (h : conditions query = .present pieces) :
    ∃ text, filter query = .present text ∧ Joined text pieces ∧
      ∀ piece ∈ pieces, (Condition.ofText? piece.stripNot.2).isSome := by
  rw [conditions] at h
  cases hf : filter query
  case absent => rw [hf] at h; contradiction
  case malformed => rw [hf] at h; contradiction
  case present text =>
    simp only [hf, bind] at h
    split at h
    case h_1 => contradiction
    case h_2 texts ht =>
      split at h
      case isFalse => contradiction
      case isTrue hc =>
        obtain rfl := Clause.present.inj h
        have hc := List.all_eq_true.mp hc
        refine ⟨text, rfl, ?_, hc⟩
        -- Blank pieces are explained by a bare `not` only, and that is no condition.
        have hw : (Pattern.joiners.split text).pieces.any Text.allBlank = false := by
          refine Bool.eq_false_iff.mpr fun hb => ?_
          simp only [Pattern.texts?, Pattern.usable?, hb, if_true, Option.map_eq_some_iff] at ht
          obtain ⟨_, hu, rfl⟩ := ht
          split at hu
          case isFalse => contradiction
          case isTrue hn =>
            obtain rfl := Option.some.inj hu
            obtain ⟨x, hx, hn⟩ := List.any_eq_true.mp hn
            obtain ⟨ho, hb⟩ := Pattern.not_joiners_of_not hn
            have hx : x ∈ ((Pattern.joiners.split text).pieces.filter (!·.allBlank)).filter
                (!Pattern.joiners.occursIn ·) :=
              List.mem_filter.mpr ⟨List.mem_filter.mpr ⟨hx, by simp [hb]⟩, by simp [ho]⟩
            have := hc x.trim (List.mem_map_of_mem hx)
            rw [ofText?_of_not hn] at this
            contradiction
        rw [Pattern.texts?_eq hw] at ht
        exact ⟨Option.some.inj ht, hw⟩

theorem connectives_of_whole (hf : filter query = .present text)
    (h : (Pattern.joiners.split text).pieces.any Text.allBlank = false) :
    connectives query ≠ .malformed ∧
      (connectives query).texts = (Pattern.connectives.found text).map Text.lowerAscii := by
  simp only [connectives, hf, bind, (Pattern.connected_of_whole h).delimiters?_eq]
  cases Pattern.connectives.found text <;> simp [texts]

-- Without a filter there is nothing to cut, in either way.
theorem connectives_of_absent {why : Absence} (h : conditions query = .absent why) :
    connectives query = .absent why := by
  rw [conditions] at h
  cases hf : filter query
  case absent => simp_all [connectives, bind]
  case malformed => simp [hf, bind] at h
  case present =>
    simp only [hf, bind] at h
    split at h
    case h_1 => contradiction
    case h_2 => split at h <;> contradiction

-- The two cuts of a filter fit together.
theorem connectives_of_conditions (h : conditions query ≠ .malformed) :
    connectives query ≠ .malformed ∧
      ∃ cs, (connectives query).texts.mapM Connective.parse = .ok cs ∧
        ((conditions query).texts = [] ∨
          (conditions query).texts.length = (cs.filter (·.isBinary)).length + 1) := by
  cases hc : conditions query
  case malformed => contradiction
  case absent =>
    rw [connectives_of_absent hc]
    exact ⟨by simp, [], rfl, .inl rfl⟩
  case present pieces =>
    obtain ⟨text, hf, hj, -⟩ := joined_of_conditions hc
    obtain ⟨hn, ht⟩ := connectives_of_whole hf hj.whole
    obtain ⟨cs, hp, hl⟩ := Pattern.parse_found text
    exact ⟨hn, cs, ht ▸ hp, .inr (by rw [hl]; exact hj.length)⟩

end Clause
end FlatQuery
