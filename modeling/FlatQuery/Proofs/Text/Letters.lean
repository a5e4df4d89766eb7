import FlatQuery.Pattern.WholeWord

namespace FlatQuery

variable {c d : Char}

-- Decides what the characters of a given text are, one after the other.
theorem none_of_all {t : Text} {p : Char → Bool} (h : t.all (!p ·)) : ∀ c ∈ t, p c = false := by
  simpa using h

section Ascii

theorem isUpper_iff : c.isUpper ↔ 65 ≤ c.toNat ∧ c.toNat ≤ 90 :=
  decide_eq_true_iff.trans (and_congr UInt32.le_iff_toNat_le UInt32.le_iff_toNat_le)

theorem isLower_iff : c.isLower ↔ 97 ≤ c.toNat ∧ c.toNat ≤ 122 := by
  have hb : c.isLower ↔ _ := Bool.and_eq_true_iff
  rw [hb, decide_eq_true_iff, decide_eq_true_iff, ge_iff_le, UInt32.le_iff_toNat_le,
    UInt32.le_iff_toNat_le]
  rfl

theorem isDigit_iff : c.isDigit ↔ 48 ≤ c.toNat ∧ c.toNat ≤ 57 := by
  have hb : c.isDigit ↔ _ := Bool.and_eq_true_iff
  rw [hb, decide_eq_true_iff, decide_eq_true_iff, ge_iff_le, UInt32.le_iff_toNat_le,
    UInt32.le_iff_toNat_le]
  rfl

theorem isAlpha_iff : c.isAlpha ↔ c.isUpper ∨ c.isLower :=
  Bool.or_eq_true_iff

theorem isAsciiWordChar_iff : isAsciiWordChar c ↔ (c.isAlpha ∨ c.isDigit) ∨ c = '_' := by
  rw [isAsciiWordChar, Char.isAlphanum, Bool.or_eq_true, Bool.or_eq_true, beq_iff_eq]

theorem toLower_of_not_isUpper (h : ¬c.isUpper) : c.toLower = c :=
  dif_neg fun hu => h (decide_eq_true hu)

theorem toNat_toLower_of_isUpper (h : c.isUpper) : c.toLower.toNat = c.toNat + 32 := by
  have hn : c.toLower.toNat = (c.val + ('a'.val - 'A'.val)).toNat :=
    congrArg Char.toNat (dif_pos (of_decide_eq_true h))
  have hd : ('a'.val - 'A'.val).toNat = 32 := by decide
  have hc : c.val.toNat ≤ 90 := (isUpper_iff.mp h).right
  rw [hn, UInt32.toNat_add, hd, Nat.mod_eq_of_lt (by omega)]
  rfl

end Ascii

theorem isAscii_of_isAsciiWordChar (h : isAsciiWordChar c) : c.toNat < 128 := by
  rw [isAsciiWordChar_iff, isAlpha_iff, isUpper_iff, isLower_iff, isDigit_iff] at h
  have : '_'.toNat = 95 := by decide
  obtain ((h | h) | h) | rfl := h <;> omega

theorem isWordChar_of_isAsciiWordChar (h : isAsciiWordChar c) : isWordChar c := by
  simp [isWordChar, isAscii_of_isAsciiWordChar h, h]

theorem isAsciiWordChar_of_isAlpha (h : c.isAlpha) : isAsciiWordChar c :=
  isAsciiWordChar_iff.mpr (.inl (.inl h))

-- The code points of white space, one by one.
def blankPoints : List Nat :=
  blankRanges.flatMap fun r => List.range' r.1 (r.2 - r.1 + 1)

theorem mem_blankPoints (h : isBlank c) : c.toNat ∈ blankPoints := by
  simp only [isBlank, Char.inRanges, List.any_eq_true, Bool.and_eq_true, decide_eq_true_eq] at h
  obtain ⟨r, hr, hl, hu⟩ := h
  refine List.mem_flatMap.mpr ⟨r, hr, ?_⟩
  simp only [List.mem_range'_1]
  omega

-- By ranges, since the points are too many to look for each of them among all word characters.
theorem blankRanges_apart :
    wordRanges.all fun w => blankRanges.all fun b => w.2.blt b.1 || b.2.blt w.1 := by
  decide +kernel

theorem not_isWordChar_of_isBlank (h : isBlank c) : isWordChar c = false := by
  unfold isWordChar
  split
  case isTrue =>
    have hp : ∀ n ∈ blankPoints, isAsciiWordChar (Char.ofNat n) = false := by decide
    simpa using hp _ (mem_blankPoints h)
  case isFalse =>
    simp only [isBlank, Char.inRanges, List.any_eq_true, Bool.and_eq_true, decide_eq_true_eq] at h
    obtain ⟨b, hb, hl, hu⟩ := h
    simp only [Char.inRanges, List.any_eq_false, Bool.and_eq_true, decide_eq_true_eq]
    intro w hw
    have ha := List.all_eq_true.mp (List.all_eq_true.mp blankRanges_apart w hw) b hb
    simp only [Bool.or_eq_true, Nat.blt_eq] at ha
    omega

theorem none_of_blank {t : Text} (h : t.all isBlank) : ∀ c ∈ t, isWordChar c = false :=
  fun c hc => not_isWordChar_of_isBlank (List.all_eq_true.mp h c hc)

theorem not_isBlank_of_isWordChar (h : isWordChar c) : isBlank c = false := by
  cases hb : isBlank c
  case false => rfl
  case true => simp [not_isWordChar_of_isBlank hb] at h

theorem not_isBlank_of_isAsciiWordChar (h : isAsciiWordChar c) : isBlank c = false :=
  not_isBlank_of_isWordChar (isWordChar_of_isAsciiWordChar h)

@[simp]
theorem isBlank_space : isBlank ' ' := by
  decide

@[simp]
theorem not_isWordChar_space : isWordChar ' ' = false := by
  decide

-- The letters that keywords are made of.
def isKeyLetter (c : Char) : Bool :=
  c.isLower || c == ' '

theorem toLower_of_isKeyLetter (h : isKeyLetter c) : c.toLower = c := by
  refine toLower_of_not_isUpper fun hu => ?_
  simp only [isKeyLetter, Bool.or_eq_true, beq_iff_eq, isLower_iff] at h
  rw [isUpper_iff] at hu
  have : ' '.toNat = 32 := by decide
  obtain h | rfl := h <;> omega

theorem eq_space_of_toLower (h : c.toLower = ' ') : c = ' ' := by
  by_cases hu : c.isUpper
  case pos =>
    have hn := toNat_toLower_of_isUpper hu
    have hs : ' '.toNat = 32 := by decide
    rw [h, hs] at hn
    rw [isUpper_iff] at hu
    omega
  case neg => rwa [toLower_of_not_isUpper hu] at h

theorem isAlpha_of_isLower_toLower (h : c.toLower.isLower) : c.isAlpha := by
  by_cases hu : c.isUpper
  case pos => exact isAlpha_iff.mpr (.inl hu)
  case neg => exact isAlpha_iff.mpr (.inr (toLower_of_not_isUpper hu ▸ h))

-- Two characters beyond ASCII have a letter of ASCII as their folding.
theorem foldsTo_cases (h : foldsTo letter c) :
    c.toLower = letter ∨ (letter = 's' ∧ c = '\u017f') ∨ (letter = 'k' ∧ c = '\u212a') := by
  simpa [foldsTo, or_assoc] using h

theorem foldsTo_space (h : foldsTo ' ' c) : c = ' ' := by
  obtain h | ⟨h, -⟩ | ⟨h, -⟩ := foldsTo_cases h
  case inl => exact eq_space_of_toLower h
  all_goals exact absurd h (by decide)

theorem isWordChar_of_foldsTo (hl : letter.isLower) (h : foldsTo letter c) : isWordChar c := by
  obtain h | ⟨-, rfl⟩ | ⟨-, rfl⟩ := foldsTo_cases h
  case inl =>
    subst h
    exact isWordChar_of_isAsciiWordChar (isAsciiWordChar_of_isAlpha (isAlpha_of_isLower_toLower hl))
  all_goals decide +kernel

theorem isWordChar_of_isLower (h : c.isLower) : isWordChar c :=
  isWordChar_of_isAsciiWordChar (isAsciiWordChar_of_isAlpha (isAlpha_iff.mpr (.inr h)))

theorem isWordChar_eq_of_foldsTo (hk : isKeyLetter letter) (h : foldsTo letter c) :
    isWordChar c = isWordChar letter := by
  simp only [isKeyLetter, Bool.or_eq_true, beq_iff_eq] at hk
  cases hk
  case inl hl => rw [isWordChar_of_foldsTo hl h, isWordChar_of_isLower hl]
  case inr hs =>
    subst hs
    rw [foldsTo_space h]

theorem not_isKeyLetter_beyond (h : isKeyLetter letter) :
    Char.toLower '\u017f' ≠ letter ∧ Char.toLower '\u212a' ≠ letter := by
  constructor <;> rintro rfl <;> exact absurd h (by decide)

-- A character is a form of one letter only.
theorem foldsTo_inj (hx : isKeyLetter x) (hy : isKeyLetter y) (h₁ : foldsTo x c) (h₂ : foldsTo y c) :
    x = y := by
  obtain h₁ | ⟨rfl, rfl⟩ | ⟨rfl, rfl⟩ := foldsTo_cases h₁
  case inl =>
    obtain h₂ | ⟨-, rfl⟩ | ⟨-, rfl⟩ := foldsTo_cases h₂
    case inl => exact h₁.symm.trans h₂
    case inr.inl => exact absurd h₁ (not_isKeyLetter_beyond hx).left
    case inr.inr => exact absurd h₁ (not_isKeyLetter_beyond hx).right
  case inr.inl =>
    obtain h₂ | ⟨rfl, -⟩ | ⟨-, h₂⟩ := foldsTo_cases h₂
    case inl => exact absurd h₂ (not_isKeyLetter_beyond hy).left
    case inr.inl => rfl
    case inr.inr => exact absurd h₂ (by decide)
  case inr.inr =>
    obtain h₂ | ⟨-, h₂⟩ | ⟨rfl, -⟩ := foldsTo_cases h₂
    case inl => exact absurd h₂ (not_isKeyLetter_beyond hy).right
    case inr.inl => exact absurd h₂ (by decide)
    case inr.inr => rfl

end FlatQuery
