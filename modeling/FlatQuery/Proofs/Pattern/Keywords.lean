import FlatQuery.Pattern.Keyword
import FlatQuery.Proofs.Pattern.WholeWords
import FlatQuery.Proofs.Text.Words

namespace FlatQuery
namespace Keyword

variable {k k' : Keyword} {t u m v a b : Text} {s : Span}

theorem framed (k : Keyword) : Framed k.letters := by
  cases k <;> decide

theorem all_isKeyLetter (k : Keyword) : k.letters.all isKeyLetter := by
  cases k <;> decide

-- The keyword up to its space, if it has one.
def opening (k : Keyword) : Text :=
  k.letters.takeWhile (· != ' ')

theorem eq_opening {w₁ w₂ : Text} (h : k.letters = w₁ ++ ' ' :: w₂) : w₁ = k.opening := by
  have hc : k.letters.count ' ' ≤ 1 := by cases k <;> decide
  have hn : ∀ c ∈ w₁, c != ' ' := by
    intro c hm
    rw [h, List.count_append, List.count_cons_self] at hc
    have : w₁.count ' ' = 0 := by omega
    simp only [bne_iff_ne]
    rintro rfl
    exact List.count_eq_zero.mp this hm
  rw [opening, h, List.takeWhile_append_of_pos hn]
  simp

section Views

theorem first?_eq : k.first? t = (k.spans t).head? :=
  rfl

theorem last?_eq : k.last? t = (k.spans t).getLast? :=
  rfl

theorem count_eq : k.count t = (k.spans t).length :=
  rfl

theorem occursIn_eq : k.occursIn t = !(k.spans t).isEmpty :=
  rfl

end Views

theorem occursIn_iff : k.occursIn t ↔ Mentions k.letters t := by
  simp [occursIn, pattern, Pattern.occursIn_wholeWord]

theorem spans_eq_nil_iff : k.spans t = [] ↔ ¬Mentions k.letters t := by
  rw [← occursIn_iff, occursIn, Bool.not_eq_true, Pattern.occursIn_eq_false_iff, spans]

theorem exists_of_mem_spans (h : s ∈ k.spans t) :
    ∃ u m v, t = u ++ m ++ v ∧ Spells k.letters m ∧ endsWord u = false ∧ startsWord v = false ∧
      s = ⟨u.length, u.length + m.length⟩ := by
  obtain ⟨u, m, v, ht, hm, hs⟩ := Pattern.exists_takes_of_mem_spans h
  obtain ⟨hm, hu, hv⟩ := Pattern.takes_singleton_iff.mp hm
  exact ⟨u, m, v, ht, hm, hu, hv, hs⟩

theorem spans_spelled (h : Spells k.letters m) : k.spans m = [⟨0, m.length⟩] :=
  Pattern.spans_of_takes (Pattern.takes_singleton_iff.mpr ⟨h, rfl, rfl⟩)

theorem spans_append (hc : endsWord a = false ∨ startsWord b = false) (hx : Clear k.letters a b) :
    k.spans (a ++ b) = k.spans a ++ (k.spans b).map (·.shift a.length) :=
  Pattern.Parted.spans_append <| Pattern.parted_wholeWord hc fun w hw => by
    rw [List.mem_singleton.mp hw]
    exact ⟨k.framed, hx⟩

-- A keyword of one word is found on one side of every place where no two word characters meet.
theorem spans_append_of_solid (hk : k.letters.all Char.isLower)
    (hc : endsWord a = false ∨ startsWord b = false) :
    k.spans (a ++ b) = k.spans a ++ (k.spans b).map (·.shift a.length) :=
  spans_append hc (clear_of_all hk hc)

-- What stands at a space is found after it.
theorem spans_space (k : Keyword) (t : Text) :
    k.spans (' ' :: t) = (k.spans t).map (·.shift 1) := by
  have hn : ∀ c ∈ [' '], isWordChar c = false := by simp
  have ha := spans_append (k := k) (b := t) (.inl rfl) (clear_of_left k.framed hn)
  rw [spans_eq_nil_iff.mpr (not_mentions_of_none k.framed hn)] at ha
  exact ha

theorem spans_append_space (hx : Clear k.letters a (' ' :: b)) :
    k.spans (a ++ ' ' :: b) = k.spans a ++ (k.spans b).map (·.shift (a.length + 1)) := by
  rw [spans_append (.inr (by simp)) hx, spans_space, List.map_map, Span.shift_shift]

section Clear

theorem clear_of_not_mentions (h : ¬Mentions k.opening a) : Clear k.letters a (' ' :: b) := by
  refine clear_space k.all_isKeyLetter fun w₁ w₂ u m hk ha hu hm => h ?_
  exact ⟨u, m, [], by simpa using ha, eq_opening hk ▸ hm, hu, rfl⟩

theorem clear_of_spells (h : Spells k'.letters a) : Clear k.letters a (' ' :: b) := by
  refine clear_space k.all_isKeyLetter fun w₁ w₂ u m hk ha _ hm => ?_
  -- No keyword ends with the first word of another one that has two.
  have hn : ¬(k.opening <:+ k'.letters ∧ k.opening ≠ k.letters) := by
    cases k <;> cases k' <;> decide
  obtain ⟨v₁, v₂, hk', -, hm'⟩ := (ha ▸ h).append_left
  have hv : v₂ = w₁ := by
    have hl := k.all_isKeyLetter
    have hl' := k'.all_isKeyLetter
    rw [hk, List.all_append, Bool.and_eq_true] at hl
    rw [hk', List.all_append, Bool.and_eq_true] at hl'
    exact hm'.unique hm hl'.right hl.left
  refine hn ⟨⟨v₁, by rw [hk', hv, eq_opening hk]⟩, fun he => ?_⟩
  have := congrArg List.length hk
  rw [← he, ← eq_opening hk, List.length_append, List.length_cons] at this
  omega

end Clear

-- No keyword is mentioned in another one.
theorem spans_spelled_of_ne (h : Spells k'.letters m) (hn : k ≠ k') : k.spans m = [] := by
  rw [spans_eq_nil_iff]
  intro hm
  have ho := occursIn_iff.mpr (h.mentions k'.all_isKeyLetter k.all_isKeyLetter hm)
  revert ho hn
  cases k <;> cases k' <;> decide

-- With a keyword its first word is mentioned, since a space ends it.
theorem mentions_opening (h : Mentions k.letters t) : Mentions k.opening t := by
  obtain ⟨u, m, v, rfl, hm, hu, hv⟩ := h
  have hs := List.takeWhile_append_dropWhile (p := (· != ' ')) (l := k.letters)
  cases hd : k.letters.dropWhile (· != ' ')
  case nil =>
    rw [hd, List.append_nil] at hs
    exact ⟨u, m, v, rfl, by rwa [opening, hs], hu, hv⟩
  case cons c w₂ =>
    have hc : c = ' ' := by simpa [hd] using List.head?_dropWhile_not (· != ' ') k.letters
    subst hc
    rw [← hs, hd] at hm
    obtain ⟨m₁, m₂, rfl, hm₁, hm₂⟩ := hm.append_right
    refine ⟨u, m₁, m₂ ++ v, by simp, hm₁, hu, ?_⟩
    cases hm₂ with
    | cons hc _ => simp [foldsTo_space hc]

section Trim

-- White space around a text moves the places of keywords, but adds none.
theorem exists_spans_trim (k : Keyword) (t : Text) :
    ∃ n, k.spans t = (k.spans t.trim).map (·.shift n) := by
  obtain ⟨u, v, ht, hu, hv⟩ := Text.exists_strip isBlank t
  have hu := none_of_blank hu
  have hv := none_of_blank hv
  refine ⟨u.length, ?_⟩
  have h₁ := spans_append (k := k) (b := t.trim ++ v) (.inl (endsWord_of_none hu))
    (clear_of_left k.framed hu)
  have h₂ := spans_append (k := k) (a := t.trim) (.inr (startsWord_of_none hv))
    (clear_of_right k.framed hv)
  rw [spans_eq_nil_iff.mpr (not_mentions_of_none k.framed hu), List.nil_append] at h₁
  rw [spans_eq_nil_iff.mpr (not_mentions_of_none k.framed hv), List.map_nil, List.append_nil] at h₂
  rw [h₂, ← List.append_assoc] at h₁
  exact (congrArg k.spans ht).trans h₁

theorem count_trim (k : Keyword) (t : Text) : k.count t.trim = k.count t := by
  have ⟨n, h⟩ := exists_spans_trim k t
  have h : k.pattern.spans t = (k.pattern.spans t.trim).map (·.shift n) := h
  simp [count, Pattern.count, h]

theorem occursIn_trim (k : Keyword) (t : Text) : k.occursIn t.trim = k.occursIn t := by
  have ⟨n, h⟩ := exists_spans_trim k t
  have h : k.pattern.spans t = (k.pattern.spans t.trim).map (·.shift n) := h
  simp [occursIn, Pattern.occursIn, h]

end Trim

end Keyword
end FlatQuery
