import FlatQuery.Proofs.Text.ByteRanges
import FlatQuery.Proofs.Text.Words

namespace FlatQuery

variable {c d : Char} {p : Char → Bool}

section Characters

theorem isLower_toLower (h : c.isUpper) : c.toLower.isLower := by
  have hn := toNat_toLower_of_isUpper h
  rw [isUpper_iff] at h
  rw [isLower_iff]
  omega

theorem not_isUpper_of_isLower (h : c.isLower) : ¬c.isUpper := by
  rw [isLower_iff] at h
  rw [isUpper_iff]
  omega

theorem toLower_toLower : c.toLower.toLower = c.toLower := by
  by_cases h : c.isUpper
  case pos => exact toLower_of_not_isUpper (not_isUpper_of_isLower (isLower_toLower h))
  case neg => rw [toLower_of_not_isUpper h, toLower_of_not_isUpper h]

-- A character that is no letter is not what a letter becomes.
theorem toLower_eq_iff (hd : d.isAlpha = false) : c.toLower = d ↔ c = d := by
  by_cases h : c.isUpper
  case neg => rw [toLower_of_not_isUpper h]
  case pos =>
    constructor
    case mp =>
      rintro rfl
      simp [isAlpha_iff.mpr (.inr (isLower_toLower h))] at hd
    case mpr =>
      rintro rfl
      simp [isAlpha_iff.mpr (.inl h)] at hd

theorem utf8Size_toLower : c.toLower.utf8Size = c.utf8Size := by
  by_cases h : c.isUpper
  case neg => rw [toLower_of_not_isUpper h]
  case pos =>
    have hs {c : Char} (hc : c.isAlpha) : c.utf8Size = 1 :=
      Char.utf8Size_eq_one_iff.mpr <| UInt32.le_iff_toNat_le.mpr <|
        Nat.le_of_lt_succ (isAscii_of_isAsciiWordChar (isAsciiWordChar_of_isAlpha hc))
    rw [hs (isAlpha_iff.mpr (.inl h)), hs (isAlpha_iff.mpr (.inr (isLower_toLower h)))]

-- A test that takes a letter and its lower case for the same.
def CaseBlind (p : Char → Bool) : Prop :=
  ∀ c, p c.toLower = p c

-- Only letters have a case, so that a test that treats them all alike does not see it.
theorem caseBlind_of_isAlpha (h : ∀ c, c.isAlpha → p c = b) : CaseBlind p := by
  intro c
  by_cases hc : c.isUpper
  case neg => rw [toLower_of_not_isUpper hc]
  case pos =>
    have hl : c.toLower.isAlpha := isAlpha_iff.mpr (.inr (isLower_toLower hc))
    rw [h c (isAlpha_iff.mpr (.inl hc)), h _ hl]

theorem caseBlind_isBlank : CaseBlind isBlank :=
  caseBlind_of_isAlpha fun _ h => not_isBlank_of_isAsciiWordChar (isAsciiWordChar_of_isAlpha h)

theorem caseBlind_isWordChar : CaseBlind isWordChar :=
  caseBlind_of_isAlpha fun _ h => isWordChar_of_isAsciiWordChar (isAsciiWordChar_of_isAlpha h)

theorem caseBlind_isAsciiWordChar : CaseBlind isAsciiWordChar :=
  caseBlind_of_isAlpha fun _ h => isAsciiWordChar_of_isAlpha h

theorem caseBlind_beq (hd : d.isAlpha = false) : CaseBlind (· == d) := by
  intro c
  rw [Bool.eq_iff_iff, beq_iff_eq, beq_iff_eq, toLower_eq_iff hd]

theorem CaseBlind.not (h : CaseBlind p) : CaseBlind (!p ·) :=
  fun c => congrArg Bool.not (h c)

theorem CaseBlind.or {q : Char → Bool} (hp : CaseBlind p) (hq : CaseBlind q) :
    CaseBlind fun c => p c || q c :=
  fun c => congrArg₂ (· || ·) (hp c) (hq c)

theorem caseBlind_foldsTo (letter : Char) : CaseBlind (foldsTo letter) := by
  intro c
  have hs : (c.toLower == '\u017f') = (c == '\u017f') := caseBlind_beq (by decide) c
  have hk : (c.toLower == '\u212a') = (c == '\u212a') := caseBlind_beq (by decide) c
  rw [foldsTo, toLower_toLower, hs, hk, foldsTo]

end Characters

namespace Text

variable {t u v w : Text}

section Cuts

@[simp]
theorem length_lowerAscii : t.lowerAscii.length = t.length :=
  List.length_map _

@[simp]
theorem isEmpty_lowerAscii : t.lowerAscii.isEmpty = t.isEmpty :=
  List.isEmpty_map

theorem lowerAscii_lowerAscii : t.lowerAscii.lowerAscii = t.lowerAscii := by
  rw [lowerAscii, lowerAscii, List.map_map]
  exact List.map_congr_left fun _ _ => toLower_toLower

theorem take_lowerAscii : t.lowerAscii.take i = lowerAscii (t.take i) :=
  List.map_take.symm

theorem drop_lowerAscii : t.lowerAscii.drop i = lowerAscii (t.drop i) :=
  List.map_drop.symm

theorem slice_lowerAscii {s : Span} : t.lowerAscii.slice s = (t.slice s).lowerAscii := by
  rw [slice, drop_lowerAscii, take_lowerAscii, slice]

theorem any_lowerAscii (hp : CaseBlind p) : t.lowerAscii.any p = t.any p := by
  rw [lowerAscii, List.any_map, Function.comp_def, funext hp]

theorem all_lowerAscii (hp : CaseBlind p) : t.lowerAscii.all p = t.all p := by
  rw [lowerAscii, List.all_map, Function.comp_def, funext hp]

theorem takeWhile_lowerAscii (hp : CaseBlind p) :
    t.lowerAscii.takeWhile p = lowerAscii (t.takeWhile p) := by
  rw [lowerAscii, List.takeWhile_map, Function.comp_def, funext hp, lowerAscii]

theorem dropWhile_lowerAscii (hp : CaseBlind p) :
    t.lowerAscii.dropWhile p = lowerAscii (t.dropWhile p) := by
  rw [lowerAscii, List.dropWhile_map, Function.comp_def, funext hp, lowerAscii]

theorem reverse_lowerAscii : t.lowerAscii.reverse = lowerAscii t.reverse :=
  List.map_reverse.symm

theorem dropEndWhile_lowerAscii (hp : CaseBlind p) :
    t.lowerAscii.dropEndWhile p = (t.dropEndWhile p).lowerAscii := by
  rw [dropEndWhile, reverse_lowerAscii, dropWhile_lowerAscii hp, reverse_lowerAscii, dropEndWhile]

theorem strip_lowerAscii (hp : CaseBlind p) : strip p t.lowerAscii = (strip p t).lowerAscii := by
  rw [strip, dropWhile_lowerAscii hp, dropEndWhile_lowerAscii hp, strip]

theorem trim_lowerAscii : t.lowerAscii.trim = t.trim.lowerAscii :=
  strip_lowerAscii caseBlind_isBlank

theorem trimStart_lowerAscii : t.lowerAscii.trimStart = t.trimStart.lowerAscii :=
  dropWhile_lowerAscii caseBlind_isBlank

theorem trimEnd_lowerAscii : t.lowerAscii.trimEnd = t.trimEnd.lowerAscii :=
  dropEndWhile_lowerAscii caseBlind_isBlank

theorem allBlank_lowerAscii : t.lowerAscii.allBlank = t.allBlank :=
  all_lowerAscii caseBlind_isBlank

theorem contains_lowerAscii (hc : c.isAlpha = false) : t.lowerAscii.contains c = t.contains c := by
  rw [List.contains_eq_any_beq, List.contains_eq_any_beq]
  simpa only [Bool.beq_comm] using any_lowerAscii (caseBlind_beq hc)

theorem head?_lowerAscii (hc : c.isAlpha = false) :
    t.lowerAscii.head? = some c ↔ t.head? = some c := by
  rw [lowerAscii, List.head?_map, Option.map_eq_some_iff]
  simp only [toLower_eq_iff hc, exists_eq_right]

theorem tail_lowerAscii : t.lowerAscii.tail = lowerAscii t.tail :=
  List.map_tail.symm

theorem getLast?_lowerAscii (hc : c.isAlpha = false) :
    t.lowerAscii.getLast? = some c ↔ t.getLast? = some c := by
  rw [lowerAscii, List.getLast?_map, Option.map_eq_some_iff]
  simp only [toLower_eq_iff hc, exists_eq_right]

end Cuts

section Lists

theorem pieces_lowerAscii (hp : CaseBlind p) :
    t.lowerAscii.pieces p = (t.pieces p).map lowerAscii := by
  induction t
  case nil => rfl
  case cons c t hi =>
    have hc : lowerAscii (c :: t) = c.toLower :: lowerAscii t := rfl
    rw [hc, pieces, pieces, hp c, hi]
    split
    case isTrue => rfl
    case isFalse => cases pieces p t <;> rfl

theorem words_lowerAscii : t.lowerAscii.words = t.words.map lowerAscii := by
  rw [words, pieces_lowerAscii caseBlind_isBlank, List.filter_map, words]
  simp only [Function.comp_def, isEmpty_lowerAscii]

-- The letters of the text become those of its parts.
theorem cutAtFirst_lowerAscii (hc : c.isAlpha = false) : t.lowerAscii.cutAtFirst c =
    (t.cutAtFirst c).map (Prod.map lowerAscii lowerAscii) := by
  induction t
  case nil => rfl
  case cons d t hi =>
    have hd : lowerAscii (d :: t) = d.toLower :: lowerAscii t := rfl
    rw [hd, cutAtFirst, cutAtFirst, hi]
    simp only [toLower_eq_iff hc]
    split
    case isTrue => rfl
    case isFalse => cases cutAtFirst c t <;> rfl

theorem cutAtLast_lowerAscii (hc : c.isAlpha = false) : t.lowerAscii.cutAtLast c =
    (t.cutAtLast c).map (Prod.map lowerAscii lowerAscii) := by
  rw [cutAtLast, reverse_lowerAscii, cutAtFirst_lowerAscii hc, cutAtLast]
  cases cutAtFirst c t.reverse
  case none => rfl
  case some => simp [reverse_lowerAscii]

end Lists

section Words

theorem eqIgnoringCase_lowerAscii_left : t.lowerAscii.eqIgnoringCase w = t.eqIgnoringCase w := by
  rw [eqIgnoringCase, lowerAscii_lowerAscii, eqIgnoringCase]

theorem eqIgnoringCase_lowerAscii_right : w.eqIgnoringCase t.lowerAscii = w.eqIgnoringCase t := by
  rw [eqIgnoringCase, lowerAscii_lowerAscii, eqIgnoringCase]

-- A text without letters has no other case.
theorem lowerAscii_eq_iff (hw : w.all (!·.isAlpha)) : t.lowerAscii = w ↔ t = w := by
  induction w generalizing t
  case nil => simp [lowerAscii]
  case cons d w hi =>
    rw [List.all_cons, Bool.and_eq_true, Bool.not_eq_true'] at hw
    cases t
    case nil => simp [lowerAscii]
    case cons c t =>
      have hc : lowerAscii (c :: t) = c.toLower :: lowerAscii t := rfl
      rw [hc, List.cons.injEq, List.cons.injEq, toLower_eq_iff hw.left, hi hw.right]

theorem byteSize_lowerAscii : t.lowerAscii.byteSize = t.byteSize := by
  simp [byteSize, lowerAscii, List.foldr_map, utf8Size_toLower]

theorem byteOffset_lowerAscii : t.lowerAscii.byteOffset i = t.byteOffset i := by
  rw [byteOffset, take_lowerAscii, byteSize_lowerAscii, byteOffset]

end Words
end Text
end FlatQuery
