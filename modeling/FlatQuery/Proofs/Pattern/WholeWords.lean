import FlatQuery.Proofs.Pattern.Places
import FlatQuery.Proofs.Text.Words
import Mathlib.Data.List.Forall2

namespace FlatQuery

variable {word t u m v a b rest : Text}

-- `m` is `word` in some letter case.
def Spells (word m : Text) : Prop :=
  List.Forall₂ (foldsTo · ·) word m

-- Letter by letter: what is taken is a spelling of the word.
theorem afterFolded_eq_some_iff :
    afterFolded word t = some rest ↔ ∃ m, t = m ++ rest ∧ Spells word m := by
  induction word generalizing t
  case nil => simp [afterFolded, Spells, Eq.comm (a := t)]
  case cons letter word hi =>
    cases t
    case nil => simp [afterFolded, Spells]
    case cons c t =>
      simp only [afterFolded, Option.ite_none_right_eq_some, hi]
      constructor
      case mp  =>
        rintro ⟨hc, m, rfl, hm⟩
        exact ⟨c :: m, rfl, .cons hc hm⟩
      case mpr =>
        rintro ⟨_, ht, hm⟩
        cases hm with
        | cons hc hm =>
          obtain ⟨hd, ht⟩ := List.cons.inj ht
          exact ⟨hd ▸ hc, _, ht, hm⟩

theorem Spells.foldsTo (h : Spells word m) (hc : c ∈ m) : ∃ letter ∈ word, foldsTo letter c := by
  induction h
  case nil => contradiction
  case cons letter _ _ _ hd _ hi =>
    cases hc
    case head => exact ⟨letter, .head _, hd⟩
    case tail hc =>
      have ⟨l, hl, hf⟩ := hi hc
      exact ⟨l, .tail _ hl, hf⟩

theorem spells_of_lowerAscii (h : m.lowerAscii = word) : Spells word m := by
  subst h
  induction m
  case nil => exact .nil
  case cons c m hi => exact .cons (by simp [FlatQuery.foldsTo]) hi

theorem spells_self (h : word.all isKeyLetter) : Spells word word := by
  have hl : ∀ c ∈ word, c.toLower = id c := fun c hc =>
    toLower_of_isKeyLetter (List.all_eq_true.mp h c hc)
  refine spells_of_lowerAscii ?_
  rw [Text.lowerAscii, List.map_congr_left hl, List.map_id]

-- Beyond ASCII two characters fold to letters; in ASCII only the letters themselves do.
theorem Spells.lowerAscii (h : Spells word m) (ha : ∀ c ∈ m, c.toNat < 128) :
    m.lowerAscii = word := by
  induction h
  case nil => rfl
  case cons letter d _ _ hd _ hi =>
    have ⟨hda, hma⟩ := List.forall_mem_cons.mp ha
    have hdl : d.toLower = letter := by
      obtain h | ⟨-, rfl⟩ | ⟨-, rfl⟩ := foldsTo_cases hd
      case inl => exact h
      all_goals exact absurd hda (by decide)
    simpa [Text.lowerAscii, hdl] using hi hma

theorem Spells.append_left {m₁ m₂ : Text} (h : Spells word (m₁ ++ m₂)) :
    ∃ w₁ w₂, word = w₁ ++ w₂ ∧ Spells w₁ m₁ ∧ Spells w₂ m₂ :=
  ⟨word.take m₁.length, word.drop m₁.length, (List.take_append_drop ..).symm,
    List.forall₂_take_append _ _ _ h, List.forall₂_drop_append _ _ _ h⟩

theorem Spells.append_right {w₁ w₂ : Text} (h : Spells (w₁ ++ w₂) m) :
    ∃ m₁ m₂, m = m₁ ++ m₂ ∧ Spells w₁ m₁ ∧ Spells w₂ m₂ := by
  have h₁ := List.forall₂_take w₁.length h
  have h₂ := List.forall₂_drop w₁.length h
  rw [List.take_left] at h₁
  rw [List.drop_left] at h₂
  exact ⟨_, _, (List.take_append_drop ..).symm, h₁, h₂⟩

-- A text spells one word only.
theorem Spells.unique (h₁ : Spells word m) (h₂ : Spells word' m) (hw₁ : word.all isKeyLetter)
    (hw₂ : word'.all isKeyLetter) : word = word' := by
  induction h₁ generalizing word'
  case nil => cases h₂; rfl
  case cons hc _ hi =>
    cases h₂ with
    | cons hd h₂ =>
      simp only [List.all_cons, Bool.and_eq_true] at hw₁ hw₂
      rw [foldsTo_inj hw₁.left hw₂.left hc hd, hi h₂ hw₁.right hw₂.right]

theorem Spells.all_isWordChar (hl : word.all Char.isLower) (h : Spells word m) :
    m.all isWordChar := by
  rw [List.all_eq_true] at hl ⊢
  intro c hc
  have ⟨letter, hm, hf⟩ := h.foldsTo hc
  exact isWordChar_of_foldsTo (hl letter hm) hf

section Ends

-- Whether the text ends with a word character.
def endsWord (t : Text) : Bool :=
  t.getLast?.any isWordChar

@[simp]
theorem endsWord_nil : endsWord [] = false :=
  rfl

@[simp]
theorem startsWord_cons : startsWord (c :: t) = isWordChar c :=
  rfl

@[simp]
theorem endsWord_concat : endsWord (t ++ [c]) = isWordChar c := by
  simp [endsWord]

theorem startsWord_append (h : t ≠ []) : startsWord (t ++ u) = startsWord t := by
  cases t
  case nil => contradiction
  case cons => rfl

theorem endsWord_append (h : u ≠ []) : endsWord (t ++ u) = endsWord u := by
  rw [← List.dropLast_concat_getLast h, ← List.append_assoc]
  simp only [endsWord_concat]

theorem startsWord_of_all (h : t.all isWordChar) (hn : t ≠ []) : startsWord t := by
  cases t <;> simp_all

theorem endsWord_of_all (h : t.all isWordChar) (hn : t ≠ []) : endsWord t := by
  rw [← List.dropLast_concat_getLast hn, endsWord_concat]
  exact List.all_eq_true.mp h _ (List.getLast_mem hn)

theorem not_startsWord_of_append (h : startsWord (t ++ u) = false) : startsWord t = false := by
  cases t
  case nil => rfl
  case cons => exact h

theorem endsWord_of_none (h : ∀ c ∈ t, isWordChar c = false) : endsWord t = false := by
  obtain rfl | ⟨t, c, rfl⟩ := List.eq_nil_or_concat' t
  case inl => rfl
  case inr => rw [endsWord_concat, h c (by simp)]

theorem startsWord_of_none (h : ∀ c ∈ t, isWordChar c = false) : startsWord t = false := by
  cases t
  case nil => rfl
  case cons c t => exact h c (.head _)

theorem not_endsWord_of_append (h : endsWord (t ++ u) = false) : endsWord u = false := by
  by_cases hu : u = []
  case pos => simp [hu]
  case neg => rwa [endsWord_append hu] at h

-- Within word characters, a whole word can only be all of them.
theorem eq_nil_of_all (h : (u ++ m ++ v).all isWordChar) (hu : endsWord u = false)
    (hv : startsWord v = false) : u = [] ∧ v = [] := by
  simp only [List.all_append, Bool.and_eq_true] at h
  constructor
  case left =>
    by_contra hn
    simp [endsWord_of_all h.left.left hn] at hu
  case right =>
    by_contra hn
    simp [startsWord_of_all h.right hn] at hv

end Ends

-- The word begins and ends with a letter.
def Framed (word : Text) : Prop :=
  word.head?.any Char.isLower ∧ word.getLast?.any Char.isLower

instance : Decidable (Framed word) :=
  inferInstanceAs (Decidable (_ ∧ _))

section Framed

variable (hw : Framed word)
include hw

theorem Framed.ne_nil : word ≠ [] := by
  rintro rfl
  cases hw.left

theorem Spells.ne_nil (h : Spells word m) : m ≠ [] := by
  rintro rfl
  cases h
  exact hw.ne_nil rfl

theorem Spells.startsWord (h : Spells word m) : startsWord m := by
  cases h
  case nil => exact absurd rfl hw.ne_nil
  case cons hc _ => exact isWordChar_of_foldsTo hw.left hc

theorem Spells.endsWord (h : Spells word m) : endsWord m := by
  obtain ⟨m, c, rfl⟩ := (List.eq_nil_or_concat' m).resolve_left (h.ne_nil hw)
  obtain ⟨w₁, w₂, rfl, -, hc⟩ := h.append_left
  cases hc with
  | cons hc hn =>
    cases hn
    have hl := hw.right
    rw [List.getLast?_concat, Option.any_some] at hl
    rw [endsWord_concat, isWordChar_of_foldsTo hl hc]

theorem Spells.tight (h : Spells word m) : m.Tight := by
  have hb {o : Option Char} (h : o.any isWordChar) : o.any (!isBlank ·) := by
    cases o
    case none => contradiction
    case some c => simpa using not_isBlank_of_isWordChar (by simpa using h)
  exact ⟨hb (h.startsWord hw), hb (h.endsWord hw)⟩

end Framed

-- No place of the word reaches over the cut between `a` and `b`.
def Clear (word a b : Text) : Prop :=
  ∀ {u m₁ m₂ v}, a = u ++ m₁ → b = m₂ ++ v → endsWord u = false → startsWord v = false →
    Spells word (m₁ ++ m₂) → m₁ = [] ∨ m₂ = []

section Clear

-- A word of letters that reached over the place would have word characters on both sides.
theorem clear_of_all (hl : word.all Char.isLower) (hc : endsWord a = false ∨ startsWord b = false) :
    Clear word a b := by
  rintro u m₁ m₂ v rfl rfl - - hm
  have ha := hm.all_isWordChar hl
  rw [List.all_append, Bool.and_eq_true] at ha
  by_cases h₁ : m₁ = []
  case pos => exact .inl h₁
  case neg =>
    by_cases h₂ : m₂ = []
    case pos => exact .inr h₂
    case neg =>
      rw [endsWord_append h₁, endsWord_of_all ha.left h₁] at hc
      rw [startsWord_append h₂, startsWord_of_all ha.right h₂] at hc
      cases hc <;> contradiction

theorem clear_of_left (hw : Framed word) (ha : ∀ c ∈ a, isWordChar c = false) : Clear word a b := by
  rintro u m₁ m₂ v rfl rfl - - hm
  cases m₁
  case nil => exact .inl rfl
  case cons c m₁ =>
    have hs := hm.startsWord hw
    rw [List.cons_append, startsWord_cons, ha c (by simp)] at hs
    contradiction

theorem clear_of_right (hw : Framed word) (hb : ∀ c ∈ b, isWordChar c = false) : Clear word a b := by
  rintro u m₁ m₂ v rfl rfl - - hm
  obtain rfl | ⟨m₂, c, rfl⟩ := List.eq_nil_or_concat' m₂
  case inl => exact .inr rfl
  case inr =>
    have he := hm.endsWord hw
    rw [← List.append_assoc, endsWord_concat, hb c (by simp)] at he
    contradiction

-- Before a space, only a word that goes on after a space is in the way.
theorem clear_space (hk : word.all isKeyLetter)
    (h : ∀ w₁ w₂ u m, word = w₁ ++ ' ' :: w₂ → a = u ++ m → endsWord u = false → ¬Spells w₁ m) :
    Clear word a (' ' :: b) := by
  rintro u m₁ m₂ v ha hb hu - hm
  cases m₂
  case nil => exact .inr rfl
  case cons c m₂ =>
    obtain ⟨rfl, -⟩ := List.cons.inj hb
    obtain ⟨w₁, w₂, rfl, hm₁, hm₂⟩ := hm.append_left
    cases hm₂ with
    | @cons letter _ w₂ _ hc _ =>
      have hl : letter = ' ' := by
        have hk : isKeyLetter letter := List.all_eq_true.mp hk letter (by simp)
        exact foldsTo_inj hk (by decide) hc (by decide)
      exact absurd hm₁ (h w₁ w₂ u m₁ (by rw [hl]) ha hu)

end Clear

-- The word stands in the text as a whole.
def Mentions (word t : Text) : Prop :=
  ∃ u m v, t = u ++ m ++ v ∧ Spells word m ∧ endsWord u = false ∧ startsWord v = false

namespace Pattern

variable {words : List Text} {nonempty : ∀ w ∈ words, w ≠ []}

theorem wholeWordLength_eq_findSome? :
    wholeWordLength words prev t = words.findSome? fun w => wholeWordLength [w] prev t := by
  cases h : prev.any isWordChar
  case false => simp [wholeWordLength, h]
  case true => simp [wholeWordLength, h, List.findSome?_eq_none_iff.mpr]

theorem wholeWordLength_congr
    (h : ∀ w ∈ words, wholeWordLength [w] prev t = wholeWordLength [w] prev' t') :
    wholeWordLength words prev t = wholeWordLength words prev' t' := by
  have hf {prev t} : wholeWordLength words prev t =
      (words.filterMap fun w => wholeWordLength [w] prev t).head? := by
    rw [wholeWordLength_eq_findSome?, List.head?_filterMap]
  rw [hf, hf, List.filterMap_congr h]

-- A single word is taken where it is spelled out, unless a word character touches it.
theorem wholeWordLength_singleton :
    wholeWordLength [word] prev t = some n ↔
      ∃ m v, t = m ++ v ∧ Spells word m ∧ prev.any isWordChar = false ∧ startsWord v = false ∧
        n = m.length := by
  simp only [wholeWordLength, List.findSome?_cons, List.findSome?_nil]
  constructor
  case mp =>
    intro h
    split at h
    case isTrue => contradiction
    case isFalse hp =>
      split at h
      case h_2 => contradiction
      case h_1 hs =>
        split at hs
        case h_2 => contradiction
        case h_1 rest hr =>
          obtain ⟨m, rfl, hm⟩ := afterFolded_eq_some_iff.mp hr
          split at hs
          case isTrue => contradiction
          case isFalse hv =>
            have hl : word.length = n := by simp_all
            exact ⟨m, rest, rfl, hm, by simpa using hp, by simpa using hv, hl ▸ hm.length_eq⟩
  case mpr =>
    rintro ⟨m, v, rfl, hm, hp, hv, rfl⟩
    have hr : afterFolded word (m ++ v) = some v := afterFolded_eq_some_iff.mpr ⟨m, rfl, hm⟩
    simp [hr, hv, hp, hm.length_eq]

theorem Takes.spells (h : (wholeWord words nonempty).Takes u m v) :
    (∃ w ∈ words, Spells w m) ∧ endsWord u = false ∧ startsWord v = false := by
  have h : wholeWordLength words u.getLast? (m ++ v) = some m.length := h
  rw [wholeWordLength_eq_findSome?] at h
  have ⟨w, hw, hm⟩ := List.exists_of_findSome?_eq_some h
  obtain ⟨m', v', he, hm, hu, hv, hl⟩ := wholeWordLength_singleton.mp hm
  obtain ⟨rfl, rfl⟩ := List.append_inj he hl
  exact ⟨⟨w, hw, hm⟩, hu, hv⟩

theorem occursIn_wholeWord :
    (wholeWord words nonempty).occursIn t ↔ ∃ w ∈ words, Mentions w t := by
  rw [occursIn_iff]
  constructor
  case mp =>
    rintro ⟨u, m, v, ht, h⟩
    obtain ⟨⟨w, hw, hm⟩, hu, hv⟩ := h.spells
    exact ⟨w, hw, u, m, v, ht, hm, hu, hv⟩
  case mpr =>
    rintro ⟨w, hw, u, m, v, rfl, hm, hu, hv⟩
    -- Another word of the list may be taken there, but some word is.
    have hs : ((wholeWord words nonempty).matchLength u.getLast? (m ++ v)).isSome := by
      have : wholeWordLength [w] u.getLast? (m ++ v) = some m.length :=
        wholeWordLength_singleton.mpr ⟨m, v, rfl, hm, hu, hv, rfl⟩
      simp only [wholeWord]
      rw [wholeWordLength_eq_findSome?, List.findSome?_isSome_iff]
      exact ⟨w, hw, by rw [this]; rfl⟩
    have ⟨n, hn⟩ := Option.isSome_iff_exists.mp hs
    have ht := Takes.of_matchLength hn
    exact ⟨u, _, _, by rw [List.append_assoc, List.append_assoc, List.take_append_drop], ht.left⟩

theorem takes_singleton_iff {nonempty : ∀ w ∈ [word], w ≠ []} :
    (wholeWord [word] nonempty).Takes u m v ↔
      Spells word m ∧ endsWord u = false ∧ startsWord v = false := by
  constructor
  case mp =>
    intro h
    obtain ⟨⟨w, hw, hm⟩, h⟩ := h.spells
    exact ⟨List.mem_singleton.mp hw ▸ hm, h⟩
  case mpr =>
    rintro ⟨hm, hu, hv⟩
    exact wholeWordLength_singleton.mpr ⟨m, v, rfl, hm, hu, hv, rfl⟩

section Cut

variable (hc : endsWord a = false ∨ startsWord b = false)
include hc

theorem wholeWordLength_append (hw : Framed word) (hx : Clear word a b) (ha : a = u ++ v)
    (hv : v ≠ []) :
    wholeWordLength [word] u.getLast? (v ++ b) = wholeWordLength [word] u.getLast? v := by
  refine Option.ext fun n => ?_
  rw [wholeWordLength_singleton, wholeWordLength_singleton]
  constructor
  case mp =>
    rintro ⟨m, r, he, hm, hu, hr, rfl⟩
    obtain ⟨m', rfl, hb⟩ | ⟨r', rfl, rfl⟩ := List.append_eq_append_iff.mp he
    case inl =>
      obtain h | rfl := hx ha hb hu hr hm
      case inl => contradiction
      case inr => exact ⟨v, [], by simp, by simpa using hm, hu, rfl, by simp⟩
    case inr => exact ⟨m, r', rfl, hm, hu, not_startsWord_of_append hr, rfl⟩
  case mpr =>
    rintro ⟨m, r, rfl, hm, hu, hr, rfl⟩
    refine ⟨m, r ++ b, by simp, hm, hu, ?_, rfl⟩
    by_cases hn : r = []
    case neg => rwa [startsWord_append hn]
    case pos =>
      -- The word ends with `a`, so that `b` does not go on with a word character.
      subst hn
      have he : endsWord a := by
        rw [ha, List.append_nil, endsWord_append (hm.ne_nil hw), hm.endsWord hw]
      simpa [he] using hc

theorem wholeWordLength_right (hw : Framed word) :
    wholeWordLength [word] a.getLast? b = wholeWordLength [word] none b := by
  refine Option.ext fun n => ?_
  rw [wholeWordLength_singleton, wholeWordLength_singleton]
  constructor
  case mp  => rintro ⟨m, r, rfl, hm, -, hr⟩; exact ⟨m, r, rfl, hm, rfl, hr⟩
  case mpr =>
    rintro ⟨m, r, rfl, hm, -, hr⟩
    refine ⟨m, r, rfl, hm, hc.resolve_right ?_, hr⟩
    simp [startsWord_append (hm.ne_nil hw), hm.startsWord hw]

theorem parted_wholeWord (hw : ∀ w ∈ words, Framed w ∧ Clear w a b) :
    (wholeWord words nonempty).Parted a b where
  left ha hv := wholeWordLength_congr fun w hm =>
    wholeWordLength_append hc (hw w hm).left (hw w hm).right ha hv
  right := wholeWordLength_congr fun w hm => wholeWordLength_right hc (hw w hm).left

end Cut

end Pattern

section Mentions

theorem mentions_append (hw : Framed word) (hx : Clear word a b)
    (hc : endsWord a = false ∨ startsWord b = false) :
    Mentions word (a ++ b) ↔ Mentions word a ∨ Mentions word b := by
  have hn : ∀ w ∈ [word], w ≠ [] := by simpa using hw.ne_nil
  have ho (t : Text) : (Pattern.wholeWord [word] hn).occursIn t ↔ Mentions word t := by
    simp [Pattern.occursIn_wholeWord]
  have hp : (Pattern.wholeWord [word] hn).Parted a b :=
    Pattern.parted_wholeWord hc (by simpa using ⟨hw, hx⟩)
  rw [← ho, hp.occursIn_append, Bool.or_eq_true, ho, ho]

theorem mentions_of_all (h : t.all isWordChar) : Mentions word t ↔ Spells word t := by
  constructor
  case mpr => intro hs; exact ⟨[], t, [], by simp, hs, rfl, rfl⟩
  case mp =>
    rintro ⟨u, m, v, rfl, hm, hu, hv⟩
    obtain ⟨rfl, rfl⟩ := eq_nil_of_all h hu hv
    simpa using hm

theorem not_mentions_of_none (hw : Framed word) (h : ∀ c ∈ t, isWordChar c = false) :
    ¬Mentions word t := by
  rintro ⟨u, m, v, rfl, hm, -, -⟩
  have hs := hm.startsWord hw
  cases m
  case nil => contradiction
  case cons c m => simp [h c (by simp)] at hs

section Letters

variable {w : Text} (hw : word.all isKeyLetter) (h : Spells word m)
include hw h

-- A spelling ends like the word: every letter is a word character in all its forms.
theorem Spells.endsWord_eq : FlatQuery.endsWord m = FlatQuery.endsWord word := by
  obtain rfl | ⟨m, c, rfl⟩ := List.eq_nil_or_concat' m
  case inl =>
    cases h
    rfl
  case inr =>
    obtain ⟨w₁, w₂, rfl, -, hc⟩ := h.append_left
    cases hc with
    | cons hc hn =>
      cases hn
      rw [List.all_append, Bool.and_eq_true, List.all_cons, Bool.and_eq_true] at hw
      rw [endsWord_concat, endsWord_concat, isWordChar_eq_of_foldsTo hw.right.left hc]

theorem Spells.startsWord_eq : FlatQuery.startsWord m = FlatQuery.startsWord word := by
  cases h
  case nil => rfl
  case cons hc _ =>
    rw [List.all_cons, Bool.and_eq_true] at hw
    exact isWordChar_eq_of_foldsTo hw.left hc

-- Letter case does not matter for what stands in a text.
theorem Spells.mentions (hk : w.all isKeyLetter) (hm : Mentions w m) : Mentions w word := by
  obtain ⟨u, x, v, rfl, hx, hu, hv⟩ := hm
  obtain ⟨_, w₂, rfl, hl, h₂⟩ := h.append_left
  obtain ⟨w₁, w', rfl, h₁, h'⟩ := hl.append_left
  simp only [List.all_append, Bool.and_eq_true] at hw
  obtain rfl := hx.unique h' hk hw.left.right
  refine ⟨w₁, w, w₂, rfl, spells_self hk, ?_, ?_⟩
  · rw [← h₁.endsWord_eq hw.left.left, hu]
  · rw [← h₂.startsWord_eq hw.right, hv]

end Letters

-- An occurrence in the last part of a text is one of that part.
theorem Mentions.suffix (hm : Spells word m) (hu : endsWord (a ++ u) = false)
    (hv : startsWord v = false) : Mentions word (u ++ m ++ v) :=
  ⟨u, m, v, rfl, hm, not_endsWord_of_append hu, hv⟩

end Mentions

-- Words of letters only.
def Solid (words : List Text) : Prop :=
  ∀ w ∈ words, w.all Char.isLower ∧ Framed w

-- None of the words stands in the text.
def FreeOf (words : List Text) (t : Text) : Prop :=
  ∀ w ∈ words, ¬Mentions w t

namespace Pattern

variable {words : List Text} {nonempty : ∀ w ∈ words, w ≠ []}

theorem occursIn_eq_false_iff_freeOf :
    (wholeWord words nonempty).occursIn t = false ↔ FreeOf words t := by
  rw [Bool.eq_false_iff, Ne, occursIn_wholeWord]
  simp [FreeOf]

end Pattern

section FreeOf

variable {words words' : List Text}

theorem FreeOf.subset (h : FreeOf words t) (hs : words' ⊆ words) : FreeOf words' t :=
  fun w hw => h w (hs hw)

theorem freeOf_of_all (h : t.all isAsciiWordChar) (hn : t.lowerAscii ∉ words) : FreeOf words t := by
  intro w hw hm
  have ha : ∀ c ∈ t, isAsciiWordChar c := List.all_eq_true.mp h
  have hc : t.all isWordChar :=
    List.all_eq_true.mpr fun c hc => isWordChar_of_isAsciiWordChar (ha c hc)
  have hs := (mentions_of_all hc).mp hm
  rw [hs.lowerAscii fun c hc => isAscii_of_isAsciiWordChar (ha c hc)] at hn
  exact hn hw

variable (hs : Solid words)
include hs

theorem Solid.parted {nonempty : ∀ w ∈ words, w ≠ []}
    (hc : endsWord a = false ∨ startsWord b = false) :
    (Pattern.wholeWord words nonempty).Parted a b :=
  Pattern.parted_wholeWord hc fun w hw => ⟨(hs w hw).right, clear_of_all (hs w hw).left hc⟩

-- A word that begins like a longer one ends with it, since letters go on to the end.
theorem Solid.takes {nonempty : ∀ w ∈ words, w ≠ []} (hw : word ∈ words) (h : Spells word m) :
    (Pattern.wholeWord words nonempty).Takes [] m [] := by
  have ho : (Pattern.wholeWord words nonempty).occursIn m :=
    Pattern.occursIn_wholeWord.mpr ⟨word, hw, [], m, [], by simp, h, rfl, rfl⟩
  have ha := h.all_isWordChar (hs word hw).left
  obtain ⟨u, m', v, rfl, ht⟩ := Pattern.occursIn_iff.mp ho
  obtain ⟨-, hu, hv⟩ := ht.spells
  obtain ⟨rfl, rfl⟩ := eq_nil_of_all ha hu hv
  simpa using ht

theorem Solid.freeOf_of_none (h : ∀ c ∈ t, isWordChar c = false) : FreeOf words t :=
  fun w hw => not_mentions_of_none (hs w hw).right h

theorem Solid.freeOf_append (hc : endsWord a = false ∨ startsWord b = false) :
    FreeOf words (a ++ b) ↔ FreeOf words a ∧ FreeOf words b := by
  have ha (w : Text) (hw : w ∈ words) :
      Mentions w (a ++ b) ↔ Mentions w a ∨ Mentions w b :=
    mentions_append (hs w hw).right (clear_of_all (hs w hw).left hc) hc
  constructor
  case mp =>
    intro h
    refine ⟨fun w hw hm => h w hw ?_, fun w hw hm => h w hw ?_⟩
    · exact (ha w hw).mpr (.inl hm)
    · exact (ha w hw).mpr (.inr hm)
  case mpr =>
    intro ⟨h₁, h₂⟩ w hw hm
    cases (ha w hw).mp hm
    case inl hm => exact h₁ w hw hm
    case inr hm => exact h₂ w hw hm

theorem Solid.freeOf_nil : FreeOf words [] :=
  hs.freeOf_of_none (by simp)

theorem Solid.freeOf_cons (hc : isWordChar c = false) : FreeOf words (c :: t) ↔ FreeOf words t := by
  have hn : ∀ d ∈ [c], isWordChar d = false := by simpa using hc
  rw [← List.singleton_append, hs.freeOf_append (.inl (endsWord_of_none hn))]
  simp [hs.freeOf_of_none hn]

-- A character that no word has parts a text.
theorem Solid.freeOf_append_cons (hc : isWordChar c = false) :
    FreeOf words (a ++ c :: b) ↔ FreeOf words a ∧ FreeOf words b := by
  have hb : startsWord (c :: b) = false := hc
  rw [hs.freeOf_append (.inr hb), hs.freeOf_cons hc]

-- A separator without word characters keeps the texts of a list apart.
theorem Solid.freeOf_join {sep : Text} {ts : List Text} (hn : ∀ c ∈ sep, isWordChar c = false)
    (hs' : sep ≠ []) (ht : ∀ t ∈ ts, FreeOf words t) : FreeOf words (Text.join sep ts) := by
  induction ts
  case nil => exact hs.freeOf_of_none (by simp [Text.join])
  case cons t ts hi =>
    obtain ⟨hf, hts⟩ := List.forall_mem_cons.mp ht
    cases ts
    case nil => simpa using hf
    case cons u ts =>
      have he : endsWord (t ++ sep) = false := by rw [endsWord_append hs', endsWord_of_none hn]
      rw [Text.join_cons_cons, hs.freeOf_append (.inl he),
        hs.freeOf_append (.inr (startsWord_of_none hn))]
      exact ⟨⟨hf, hs.freeOf_of_none hn⟩, hi hts⟩

theorem Solid.freeOf_trim : FreeOf words t.trim ↔ FreeOf words t := by
  obtain ⟨u, v, ht, hu, hv⟩ := Text.exists_strip isBlank t
  have hu := none_of_blank hu
  have hv := none_of_blank hv
  have h : FreeOf words (u ++ t.trim ++ v) ↔ FreeOf words t.trim := by
    rw [hs.freeOf_append (.inr (startsWord_of_none hv)),
      hs.freeOf_append (.inl (endsWord_of_none hu))]
    simp [hs.freeOf_of_none hu, hs.freeOf_of_none hv]
  exact h.symm.trans (iff_of_eq (congrArg _ ht.symm))

end FreeOf
end FlatQuery
