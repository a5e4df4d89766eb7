import FlatQuery.Calendar.Instant
import FlatQuery.Proofs.Text.Words

namespace FlatQuery

variable {a t u : Text} {c : Char} {n w : Nat}

-- `n` ASCII digits.
structure Numeral (n : Nat) (a : Text) : Prop where
  length : a.length = n
  digits : a.all Char.isDigit

theorem Numeral.ne_nil (h : Numeral (n + 1) a) : a ≠ [] :=
  List.ne_nil_of_length_pos (by rw [h.length]; exact Nat.succ_pos n)

def startsDigit (t : Text) : Bool :=
  t.head?.any Char.isDigit

theorem takeWhile_isDigit (ha : a.all Char.isDigit) (ht : startsDigit t = false) :
    (a ++ t).takeWhile Char.isDigit = a := by
  have ht : t.takeWhile Char.isDigit = [] := by
    cases t
    case nil => rfl
    case cons c t => simpa [startsDigit] using ht
  rw [List.takeWhile_append_of_pos (List.all_eq_true.mp ha), ht, List.append_nil]

@[simp]
theorem trimStart_append (ha : a.all Char.isDigit) (hn : a ≠ []) :
    (a ++ t).trimStart = a ++ t := by
  obtain ⟨d, a, rfl⟩ := List.exists_cons_of_ne_nil hn
  have hd : d.isDigit := by simp_all
  refine Text.dropWhile_eq_self fun c hc => ?_
  obtain rfl : d = c := by simpa using hc
  exact not_isBlank_of_isAsciiWordChar (isAsciiWordChar_iff.mpr (.inl (.inr hd)))

namespace FormatItem

@[reducible, simp]
def isNumber : FormatItem → Bool
  | year | shortYear | month | day | hour | minute | second => true
  | shortMonthName | longMonthName | space | literal _ => false

@[reducible, simp]
def width : FormatItem → Nat
  | year => 4
  | _ => 2

-- The parts with the number of the item in its place, if it is in range.
@[simp]
def put? (parts : DateParts) (n : Nat) : FormatItem → Option DateParts
  | year => some { parts with year := n }
  | shortYear => some { parts with year := Format.centuryOf n }
  | month => if 1 ≤ n ∧ n ≤ 12 then some { parts with month := n } else none
  | day => if 1 ≤ n ∧ n ≤ 31 then some { parts with day := n } else none
  | hour => if n ≤ 23 then some { parts with hour := n } else none
  | minute => if n ≤ 59 then some { parts with minute := n } else none
  | second => if n ≤ 60 then some { parts with second := n } else none
  | _ => none

end FormatItem

namespace Format

variable {item : FormatItem} {items : Format} {parts : DateParts}

theorem readNumber?_append (ha : a.all Char.isDigit) (hn : a ≠ [])
    (hl : a.length = w ∨ a.length ≤ w ∧ startsDigit t = false) :
    readNumber? w (a ++ t) = some (Decimal.value a, t) := by
  have hd : ((a ++ t).take w).takeWhile Char.isDigit = a := by
    obtain rfl | ⟨hl, ht⟩ := hl
    case inl => simp [List.takeWhile_eq_self_iff.mpr (List.all_eq_true.mp ha)]
    case inr =>
      rw [List.take_append, List.take_of_length_le hl]
      refine takeWhile_isDigit ha ?_
      cases w - a.length
      case zero => rfl
      case succ => cases t <;> exact ht
  simp [readNumber?, trimStart_append ha hn, hd, hn]

theorem readYear?_append (ha : a.all Char.isDigit) (hn : a ≠ []) :
    readYear? (a ++ t) = (readNumber? 4 (a ++ t)).map fun (n, rest) => ((n : Int), rest) := by
  obtain ⟨d, a, rfl⟩ := List.exists_cons_of_ne_nil hn
  have hd : d.isDigit := by simp_all
  simp only [readYear?, trimStart_append ha hn]
  split
  case h_1 he | h_2 he =>
    obtain ⟨rfl, -⟩ := List.cons.inj he
    contradiction
  case h_3 => rfl

theorem readItem?_append (hi : item.isNumber) (ha : a.all Char.isDigit) (hn : a ≠ [])
    (hl : a.length = item.width ∨ a.length ≤ item.width ∧ startsDigit t = false) :
    readItem? parts (a ++ t) item = (item.put? parts (Decimal.value a)).map (·, t) := by
  have hr := readNumber?_append ha hn hl
  cases item <;> simp only [FormatItem.isNumber, Bool.false_eq_true] at hi
  all_goals
    simp [FormatItem.width] at hr
    simp [readItem?, readBetween?, readYear?_append ha hn, hr, FormatItem.put?, Option.filter]

-- What follows does not matter to the number, unless it goes on with a digit.
theorem readFrom?_of_numeral (hi : item.isNumber) (ha : a.all Char.isDigit) (hn : a ≠ [])
    (hl : a.length ≤ item.width) (ht : startsDigit t = false) :
    readFrom? parts (a ++ t) (item :: items) =
      (item.put? parts (Decimal.value a)).bind (readFrom? · t items) := by
  rw [readFrom?, readItem?_append hi ha hn (.inr ⟨hl, ht⟩)]
  cases item.put? parts (Decimal.value a) <;> rfl

@[simp]
theorem readFrom?_append_cons (hi : item.isNumber) (ha : a.all Char.isDigit) (hn : a ≠ [])
    (hl : a.length ≤ item.width) (hc : c.isDigit = false) :
    readFrom? parts (a ++ c :: t) (item :: items) =
      (item.put? parts (Decimal.value a)).bind (readFrom? · (c :: t) items) :=
  readFrom?_of_numeral hi ha hn hl hc

@[simp]
theorem readFrom?_end (hi : item.isNumber) (ha : a.all Char.isDigit) (hn : a ≠ [])
    (hl : a.length ≤ item.width) :
    readFrom? parts a (item :: items) =
      (item.put? parts (Decimal.value a)).bind (readFrom? · [] items) := by
  simpa using readFrom?_of_numeral (t := []) hi ha hn hl rfl

@[simp]
theorem readFrom?_number_nil (hi : item.isNumber) : readFrom? parts [] (item :: items) = none := by
  have hn (w : Nat) : readNumber? w [] = none := by simp [readNumber?, Text.trimStart]
  have hy : readYear? [] = none := by simp [readYear?, Text.trimStart, hn]
  cases item <;> simp only [FormatItem.isNumber, Bool.false_eq_true] at hi
  all_goals simp [readFrom?, readItem?, readBetween?, hn, hy]

theorem readFrom?_of_no_number (hi : item.isNumber) (hd : c.isDigit = false)
    (hb : isBlank c = false) (hs : c ≠ '-' ∧ c ≠ '+') :
    readFrom? parts (c :: t) (item :: items) = none := by
  have ht : Text.trimStart (c :: t) = c :: t := by simp [Text.trimStart, hb]
  have hn (w : Nat) : readNumber? w (c :: t) = none := by
    cases w <;> simp [readNumber?, ht, hd]
  have hy : readYear? (c :: t) = none := by
    simp only [readYear?, ht]
    split
    case h_1 he | h_2 he =>
      obtain ⟨rfl, -⟩ := List.cons.inj he
      simp at hs
    case h_3 => simp [hn]
  cases item <;> simp only [FormatItem.isNumber, Bool.false_eq_true] at hi
  all_goals simp [readFrom?, readItem?, readBetween?, hn, hy]

@[simp]
theorem readFrom?_nil : readFrom? parts t [] = if t.isEmpty then some parts else none :=
  rfl

@[simp]
theorem readFrom?_space : readFrom? parts t (.space :: items) = readFrom? parts t.trimStart items :=
  rfl

@[simp]
theorem readFrom?_literal_nil : readFrom? parts [] (.literal c :: items) = none :=
  rfl

@[simp]
theorem readFrom?_literal_cons :
    readFrom? parts (d :: t) (.literal c :: items) =
      if d = c then readFrom? parts t items else none := by
  by_cases h : d = c <;> simp [readFrom?, readItem?, h]

section Separators

open Decimal

variable {x y z : FormatItem} {b d : Text} {s s' : Char}

theorem readFrom?_separated (hi : item.isNumber) (ha : Numeral (n + 1) a) (hl : n + 1 ≤ item.width)
    (hs : s.isDigit = false) :
    readFrom? parts (a ++ s :: t) (item :: .literal s :: items) =
      (item.put? parts (value a)).bind (readFrom? · t items) := by
  rw [readFrom?_append_cons hi ha.digits ha.ne_nil (ha.length ▸ hl) hs]
  simp only [readFrom?_literal_cons, if_true]

-- A number is read up to its end, where another separator stands.
theorem readFrom?_of_separator (hi : item.isNumber) (ha : Numeral (n + 1) a)
    (hl : n + 1 ≤ item.width) (hs : s.isDigit = false) (hne : s ≠ s') :
    readFrom? parts (a ++ s :: t) (item :: .literal s' :: items) = none := by
  rw [readFrom?_append_cons hi ha.digits ha.ne_nil (ha.length ▸ hl) hs]
  simp only [readFrom?_literal_cons, if_neg hne, Option.bind_fun_none]

-- Three numbers with the separators that the format has.
theorem readFrom?_triple (hx : x.isNumber ∧ y.isNumber ∧ z.isNumber)
    (ha : Numeral (k + 1) a) (hb : Numeral (m + 1) b) (hd : Numeral (n + 1) d)
    (hl : k + 1 ≤ x.width ∧ m + 1 ≤ y.width ∧ n + 1 ≤ z.width) (hs : s.isDigit = false)
    (ht : startsDigit t = false) :
    readFrom? parts (a ++ s :: (b ++ s :: (d ++ t)))
      (x :: .literal s :: y :: .literal s :: z :: items) =
        (x.put? parts (value a)).bind fun p => (y.put? p (value b)).bind fun p =>
          (z.put? p (value d)).bind (readFrom? · t items) := by
  rw [readFrom?_separated hx.left ha hl.left hs]
  congr 1
  funext p
  rw [readFrom?_separated hx.right.left hb hl.right.left hs]
  congr 1
  funext p
  exact readFrom?_of_numeral hx.right.right hd.digits hd.ne_nil (hd.length ▸ hl.right.right) ht

end Separators

section LongNumbers

theorem exists_of_long (ha : a.all Char.isDigit) (hl : w < a.length) :
    ∃ b d u, a = b ++ d :: u ∧ b.length = w ∧ b.all Char.isDigit ∧ d.isDigit := by
  have hd : (a.drop w).length ≠ 0 := by rw [List.length_drop]; omega
  obtain ⟨d, u, hu⟩ := List.exists_cons_of_ne_nil (mt List.length_eq_zero_iff.mpr hd)
  have he : a = a.take w ++ d :: u := by rw [← hu, List.take_append_drop]
  rw [he, List.all_append, List.all_cons, Bool.and_eq_true, Bool.and_eq_true] at ha
  exact ⟨_, d, u, he, by rw [List.length_take]; omega, ha.left, ha.right.left⟩

theorem readFrom?_of_long (parts : DateParts) (t : Text) (hi : item.isNumber)
    (ha : a.all Char.isDigit) (hl : item.width < a.length) : ∃ d u, d.isDigit ∧ ∀ items,
      readFrom? parts (a ++ t) (item :: items) =
        (item.put? parts (Decimal.value (a.take item.width))).bind
          (readFrom? · (d :: u ++ t) items) := by
  obtain ⟨b, d, u, rfl, hb, hbd, hd⟩ := exists_of_long ha hl
  have hw : 0 < item.width := by unfold FormatItem.width; split <;> decide
  have hn : b ≠ [] := List.ne_nil_of_length_pos (by omega)
  refine ⟨d, u, hd, fun items => ?_⟩
  rw [readFrom?, List.append_assoc, readItem?_append hi hbd hn (.inl hb), ← hb, List.take_left]
  cases item.put? parts (Decimal.value b) <;> rfl

-- What is left of a number that is too long is no separator, and not the end either.
@[simp]
theorem readFrom?_literal_of_long (hi : item.isNumber) (ha : a.all Char.isDigit)
    (hl : item.width < a.length) (hc : c.isDigit = false) :
    readFrom? parts (a ++ t) (item :: .literal c :: items) = none := by
  obtain ⟨d, u, hd, hr⟩ := readFrom?_of_long parts t hi ha hl
  have hdc : d ≠ c := by rintro rfl; simp [hc] at hd
  rw [hr]
  simp [readFrom?_literal_cons, hdc]

@[simp]
theorem readFrom?_end_of_long (hi : item.isNumber) (ha : a.all Char.isDigit)
    (hl : item.width < a.length) : readFrom? parts a [item] = none := by
  obtain ⟨d, u, hd, hr⟩ := readFrom?_of_long parts [] hi ha hl
  rw [List.append_nil] at hr
  rw [hr]
  simp [readFrom?_nil]

end LongNumbers

end Format

namespace Month

variable {m : Text} {month : Nat}

-- The short or the long name of the month in any case of ASCII letters.
def IsName (month : Nat) (m : Text) : Prop :=
  ∃ name, (name, month) ∈ names.zipIdx 1 ∧ (m.lowerAscii = name.take 3 ∨ m.lowerAscii = name)

theorem IsName.all_isAlpha (h : IsName month m) : m.all Char.isAlpha := by
  obtain ⟨name, hm, h⟩ := h
  have hl : ∀ x ∈ names.zipIdx 1, x.1.all Char.isLower := by decide
  have hl := List.all_eq_true.mp (hl _ hm)
  refine List.all_eq_true.mpr fun c hc => isAlpha_of_isLower_toLower (hl _ ?_)
  have hc : c.toLower ∈ m.lowerAscii := List.mem_map_of_mem hc
  obtain h | h := h <;> rw [h] at hc
  case inl => exact List.mem_of_mem_take hc
  case inr => exact hc

-- Three letters tell the month; the rest of its name is there or not.
theorem IsName.parts (h : IsName month m) : 3 ≤ m.length ∧ ∃ name, (name, month) ∈ names.zipIdx 1 ∧
    Text.lowerAscii (m.take 3) = name.take 3 ∧
    (m.drop 3 = [] ∨ Text.lowerAscii (m.drop 3) = name.drop 3) := by
  obtain ⟨name, hm, h⟩ := h
  have hl : ∀ x ∈ names.zipIdx 1, 3 ≤ x.1.length := by decide
  have hl : 3 ≤ name.length := hl _ hm
  have hn : m.lowerAscii.length = m.length := List.length_map ..
  have ht : Text.lowerAscii (m.take 3) = m.lowerAscii.take 3 := List.map_take ..
  have hd : Text.lowerAscii (m.drop 3) = m.lowerAscii.drop 3 := List.map_drop ..
  obtain h | h := h
  case inl =>
    have hlen : m.length = 3 := by rw [← hn, h, List.length_take]; omega
    refine ⟨by omega, name, hm, by rw [ht, h, List.take_take, Nat.min_self],
      .inl (List.drop_eq_nil_of_le (by omega))⟩
  case inr => exact ⟨by rw [← hn, h]; exact hl, name, hm, by rw [ht, h], .inr (by rw [hd, h])⟩

theorem isSome_afterWord (h : name ∈ shortNames) :
    (afterWord name t).isSome = (Text.lowerAscii (t.take 3) == name) := by
  have hn : ∀ n ∈ shortNames, n.length = 3 ∧ n.lowerAscii = n := by decide
  obtain ⟨hl, hn⟩ := hn _ h
  rw [afterWord, hl, Text.eqIgnoringCase, hn]
  split <;> simp_all

theorem readShort?_append (h : IsName month m) :
    readShort? (m ++ t) = some (month, m.drop 3 ++ t) := by
  obtain ⟨hlen, name, hm, hl, -⟩ := h.parts
  have hi : ∀ x ∈ names.zipIdx 1, 1 ≤ x.2 ∧
      shortNames.findIdx? (x.1.take 3 == ·) = some (x.2 - 1) := by decide
  obtain ⟨hpos, hi⟩ := hi _ hm
  have hp : ∀ n ∈ shortNames, (afterWord n (m ++ t)).isSome = (name.take 3 == n) := fun n hn => by
    rw [isSome_afterWord hn, List.take_append_of_le_length hlen, hl]
  have hf : (shortNames.findIdx? fun n => (afterWord n (m ++ t)).isSome) = some (month - 1) := by
    rw [List.findIdx?_eq_some_iff_getElem] at hi ⊢
    obtain ⟨hlt, he, hj⟩ := hi
    refine ⟨hlt, ?_, fun j hji => ?_⟩
    case refine_1 => rw [hp _ (List.getElem_mem hlt)]; exact he
    case refine_2 => rw [hp _ (List.getElem_mem _)]; exact hj j hji
  rw [readShort?, hf]
  simp only [List.drop_append_of_le_length hlen, Nat.sub_add_cancel hpos]

theorem afterWord_append (h : u.lowerAscii = word) (hw : word.lowerAscii = word) :
    afterWord word (u ++ t) = some t := by
  have hl : u.length = word.length := by simp [← h, Text.lowerAscii]
  simp [afterWord, ← hl, Text.eqIgnoringCase, h, hw]

-- A word that is not there at all, since another character stands in its place.
theorem afterWord_of_ne (hd : d.toLower ≠ c.toLower) : afterWord (c :: word) (d :: t) = none := by
  simp [afterWord, Text.eqIgnoringCase, Text.lowerAscii, hd]

theorem readLong?_append (h : IsName month m) :
    readLong? (m ++ '-' :: t) = some (month, '-' :: t) := by
  obtain ⟨hlen, name, hm, -, hd⟩ := h.parts
  have hn : ∀ x ∈ names.zipIdx 1, names.getD (x.2 - 1) [] = x.1 ∧
      Text.lowerAscii (x.1.drop 3) = x.1.drop 3 ∧ '-'.toLower ∉ x.1.map Char.toLower := by decide
  obtain ⟨hn, hw, hne⟩ := hn _ hm
  dsimp only at hn hw hne
  rw [readLong?, readShort?_append h, Option.map_some]
  dsimp only
  rw [hn]
  obtain hd | hd := hd
  case inr => rw [afterWord_append hd hw, Option.getD_some]
  case inl =>
    rw [hd, List.nil_append]
    cases hr : name.drop 3
    case nil => rfl
    case cons c word =>
      have hc : c ∈ name := List.mem_of_mem_drop (hr ▸ List.mem_cons_self)
      have hne : '-'.toLower ≠ c.toLower := fun he => hne (he ▸ List.mem_map_of_mem hc)
      rw [afterWord_of_ne hne, Option.getD_none]

end Month

namespace Format

variable {item : FormatItem} {items : Format} {parts : DateParts} {m : Text} {month : Nat}

section MonthNames

open Month

theorem readFrom?_longMonthName (h : IsName month m) :
    readFrom? parts (m ++ '-' :: t) (.longMonthName :: .literal '-' :: items) =
      readFrom? { parts with month := month } t items := by
  simp [readFrom?, readItem?, readLong?_append h]

theorem readFrom?_shortMonthName (h : IsName month m) :
    readFrom? parts (m ++ '-' :: t) (.shortMonthName :: .literal '-' :: items) =
      if m.length = 3 then readFrom? { parts with month := month } t items else none := by
  have hlen := h.parts.left
  have hr : readFrom? parts (m ++ '-' :: t) (.shortMonthName :: .literal '-' :: items) =
      readFrom? { parts with month := month } (m.drop 3 ++ '-' :: t) (.literal '-' :: items) := by
    simp [readFrom?, readItem?, readShort?_append h]
  rw [hr]
  cases hd : m.drop 3
  case nil =>
    have hl : m.length = 3 := by have := List.drop_eq_nil_iff.mp hd; omega
    simp [readFrom?_literal_cons, hl]
  case cons c rest =>
    have hl : m.length ≠ 3 := fun hl => by simp [List.drop_of_length_le, hl] at hd
    have hc : c.isAlpha :=
      List.all_eq_true.mp h.all_isAlpha c (List.mem_of_mem_drop (hd ▸ List.mem_cons_self))
    have hne : c ≠ '-' := by rintro rfl; contradiction
    simp [readFrom?_literal_cons, hl, hne]

-- A name is no number.
theorem readFrom?_of_name (hi : item.isNumber) (h : IsName month m) :
    readFrom? parts (m ++ t) (item :: items) = none := by
  obtain ⟨c, m, rfl⟩ := List.exists_cons_of_ne_nil (List.ne_nil_of_length_pos
    (Nat.lt_of_lt_of_le (by decide) h.parts.left))
  have hc : c.isAlpha := by
    have := h.all_isAlpha
    simp_all
  refine readFrom?_of_no_number hi ?_ ?_ ?_
  case refine_1 =>
    rw [isAlpha_iff, isUpper_iff, isLower_iff] at hc
    rw [Bool.eq_false_iff, Ne, isDigit_iff]
    omega
  case refine_2 => exact not_isBlank_of_isAsciiWordChar (isAsciiWordChar_of_isAlpha hc)
  case refine_3 => exact ⟨by rintro rfl; contradiction, by rintro rfl; contradiction⟩

end MonthNames

section Plain

-- The characters that a format reads.
def isPlain (c : Char) : Bool :=
  c.toNat < 128 || isBlank c

def isPlainItem : FormatItem → Bool
  | .literal c => isPlain c
  | _ => true

theorem isPlain_of_isDigit (h : c.isDigit) : isPlain c := by
  rw [isDigit_iff] at h
  simp only [isPlain, Bool.or_eq_true, decide_eq_true_eq]
  omega

theorem all_isPlain_of_trimStart (h : t.trimStart.all isPlain) : t.all isPlain := by
  rw [← List.takeWhile_append_dropWhile (p := isBlank) (l := t), List.all_append, Bool.and_eq_true]
  refine ⟨List.all_eq_true.mpr fun c hc => ?_, h⟩
  simp [isPlain, List.mem_takeWhile_imp hc]

theorem all_isPlain_of_drop {digits : Text} (hp : digits <+: t) (hd : digits.all Char.isDigit)
    (h : List.all (t.drop digits.length) isPlain) : t.all isPlain := by
  obtain ⟨rest, rfl⟩ := hp
  rw [List.drop_left] at h
  rw [List.all_append, h, Bool.and_true]
  exact List.all_eq_true.mpr fun c hc => isPlain_of_isDigit (List.all_eq_true.mp hd c hc)

theorem plain_of_readNumber (h : readNumber? w t = some (n, u)) (hu : u.all isPlain) :
    t.all isPlain := by
  refine all_isPlain_of_trimStart ?_
  simp only [readNumber?] at h
  split at h
  case isTrue => contradiction
  case isFalse =>
    obtain ⟨-, rfl⟩ : _ ∧ _ = u := by simpa using h
    exact all_isPlain_of_drop ((List.takeWhile_prefix _).trans (List.take_prefix ..))
      List.all_takeWhile hu

theorem plain_of_readBetween (h : readBetween? low high t = some (n, u)) (hu : u.all isPlain) :
    t.all isPlain :=
  plain_of_readNumber (Option.eq_some_of_filter_eq_some h) hu

theorem plain_of_readRun (h : readRun? t = some (y, u)) (hu : u.all isPlain) : t.all isPlain := by
  simp only [readRun?] at h
  split at h
  case isTrue => contradiction
  case isFalse =>
    obtain ⟨-, rfl⟩ : _ ∧ _ = u := by simpa using h
    exact all_isPlain_of_drop (List.takeWhile_prefix _) List.all_takeWhile hu

theorem plain_of_readYear (h : readYear? t = some (y, u)) (hu : u.all isPlain) : t.all isPlain := by
  refine all_isPlain_of_trimStart ?_
  simp only [readYear?] at h
  split at h
  case h_1 _ t' he =>
    obtain ⟨⟨_, _⟩, hr, hru⟩ := Option.map_eq_some_iff.mp h
    obtain ⟨-, rfl⟩ := Prod.mk.inj hru
    rw [he, List.all_cons, plain_of_readRun hr hu]
    rfl
  case h_2 _ t' he =>
    rw [he, List.all_cons, plain_of_readRun h hu]
    rfl
  case h_3 =>
    obtain ⟨⟨_, _⟩, hr, hru⟩ := Option.map_eq_some_iff.mp h
    obtain ⟨-, rfl⟩ := Prod.mk.inj hru
    exact plain_of_readNumber hr hu

-- A word in some case of ASCII letters has no others.
theorem all_isPlain_of_lowerAscii (h : (Text.lowerAscii (t.take n)).all Char.isLower)
    (hu : List.all (t.drop n) isPlain) : t.all isPlain := by
  rw [← List.take_append_drop n t, List.all_append, hu, Bool.and_true]
  refine List.all_eq_true.mpr fun c hc => ?_
  have hl := List.all_eq_true.mp h c.toLower (List.mem_map_of_mem hc)
  have ha := isAscii_of_isAsciiWordChar (isAsciiWordChar_of_isAlpha (isAlpha_of_isLower_toLower hl))
  simp [isPlain, ha]

theorem plain_of_afterWord (hw : word.lowerAscii.all Char.isLower)
    (h : Month.afterWord word t = some u) (hu : u.all isPlain) : t.all isPlain := by
  obtain ⟨he, h⟩ := Option.ite_none_right_eq_some.mp h
  obtain rfl := Option.some.inj h
  rw [Text.eqIgnoringCase, beq_iff_eq] at he
  exact all_isPlain_of_lowerAscii (he ▸ hw) hu

theorem plain_of_readShort (h : Month.readShort? t = some (month, u)) (hu : u.all isPlain) :
    t.all isPlain := by
  simp only [Month.readShort?] at h
  split at h
  case h_2 => contradiction
  case h_1 i hi =>
    obtain ⟨-, rfl⟩ : _ ∧ _ = u := by simpa using h
    obtain ⟨hlt, hs, -⟩ := List.findIdx?_eq_some_iff_getElem.mp hi
    have hm := List.getElem_mem hlt
    rw [Month.isSome_afterWord hm, beq_iff_eq] at hs
    have hl : ∀ name ∈ Month.shortNames, name.all Char.isLower := by decide
    exact all_isPlain_of_lowerAscii (hs ▸ hl _ hm) hu

theorem plain_of_readLong (h : Month.readLong? t = some (month, u)) (hu : u.all isPlain) :
    t.all isPlain := by
  obtain ⟨⟨k, rest⟩, hr, h⟩ := Option.map_eq_some_iff.mp h
  obtain ⟨-, rfl⟩ := Prod.mk.inj h
  refine plain_of_readShort hr ?_
  cases ha : Month.afterWord ((Month.names.getD (k - 1) []).drop 3) rest
  case none => rwa [ha] at hu
  case some =>
    rw [ha] at hu
    refine plain_of_afterWord ?_ ha hu
    have hl : ∀ name ∈ Month.names, (Text.lowerAscii (name.drop 3)).all Char.isLower := by decide
    rw [List.getD_eq_getElem?_getD]
    cases hk : Month.names[k - 1]?
    case none => rfl
    case some name => exact hl name (List.mem_of_getElem? hk)

theorem plain_of_readItem (hi : isPlainItem item)
    (h : readItem? parts t item = some (parts', u)) (hu : u.all isPlain) : t.all isPlain := by
  cases item <;> simp only [readItem?] at h
  case space =>
    obtain ⟨-, rfl⟩ : _ ∧ _ = u := by simpa using h
    exact all_isPlain_of_trimStart hu
  case literal c =>
    split at h
    case isFalse => contradiction
    case isTrue hc =>
      obtain ⟨-, rfl⟩ : _ ∧ _ = u := by simpa using h
      obtain ⟨t, rfl⟩ := List.head?_eq_some_iff.mp hc
      rw [List.all_cons, Bool.and_eq_true]
      exact ⟨hi, hu⟩
  all_goals
    obtain ⟨⟨_, _⟩, hr, hru⟩ := Option.map_eq_some_iff.mp h
    obtain ⟨-, rfl⟩ := Prod.mk.inj hru
  case year => exact plain_of_readYear hr hu
  case shortYear => exact plain_of_readNumber hr hu
  case shortMonthName => exact plain_of_readShort hr hu
  case longMonthName => exact plain_of_readLong hr hu
  all_goals exact plain_of_readBetween hr hu

-- What a format reads consists of ASCII characters and white space.
theorem plain_of_readFrom (hf : items.all isPlainItem)
    (h : readFrom? parts t items = some parts') : t.all isPlain := by
  induction items generalizing parts t
  case nil => cases t <;> simp_all [readFrom?]
  case cons item items hi =>
    obtain ⟨⟨_, u⟩, hr, h⟩ := Option.bind_eq_some_iff.mp h
    rw [List.all_cons, Bool.and_eq_true] at hf
    exact plain_of_readItem hf.left hr (hi hf.right h)

end Plain

end Format

namespace Instant

theorem length_of_readDigits (h : readDigits? n t = some (v, u)) : t.length = n + u.length := by
  obtain ⟨⟨hl, -⟩, h⟩ := Option.ite_none_right_eq_some.mp h
  obtain ⟨-, rfl⟩ := Prod.mk.inj (Option.some.inj h)
  simp only [List.length_take, List.length_drop] at hl ⊢
  omega

theorem length_of_readWithin (h : readWithin? n low high t = some (v, u)) :
    t.length = n + u.length :=
  length_of_readDigits (Option.eq_some_of_filter_eq_some h)

theorem length_of_readChar (h : readChar? chars t = some u) : t.length = 1 + u.length := by
  cases t
  case nil => contradiction
  case cons c t =>
    obtain ⟨-, h⟩ := Option.ite_none_right_eq_some.mp h
    obtain rfl := Option.some.inj h
    simp only [List.length_cons]
    omega

theorem length_of_readFraction (h : readFraction? t = some (v, u)) : u.length ≤ t.length := by
  simp only [readFraction?] at h
  split at h
  case h_1 =>
    split at h
    case isTrue => contradiction
    case isFalse =>
      obtain ⟨-, rfl⟩ := Prod.mk.inj (Option.some.inj h)
      simp only [List.length_drop, List.length_cons]
      omega
  case h_2 =>
    obtain ⟨-, rfl⟩ := Prod.mk.inj (Option.some.inj h)
    exact Nat.le_refl _

theorem length_of_readOffset (h : readOffset? t = some (v, u)) : u.length < t.length := by
  cases t
  case nil => contradiction
  case cons c t =>
    simp only [readOffset?] at h
    split at h
    case isTrue =>
      obtain ⟨-, rfl⟩ := Prod.mk.inj (Option.some.inj h)
      simp
    case isFalse =>
      split at h
      case isFalse => contradiction
      case isTrue =>
        simp only [Option.bind_eq_bind, Option.bind_eq_some_iff, Prod.exists] at h
        obtain ⟨_, t₁, h₁, t₂, h₂, _, t₃, h₃, h⟩ := h
        obtain ⟨-, rfl⟩ := Prod.mk.inj (Option.some.inj h)
        have := length_of_readWithin h₁
        have := length_of_readChar h₂
        have := length_of_readWithin h₃
        simp only [List.length_cons]
        omega

-- No day alone is as long as a moment with its offset.
theorem length_of_read (h : read? t = some s) : 20 ≤ t.length := by
  simp only [read?, Option.bind_eq_bind, Option.bind_eq_some_iff, Prod.exists] at h
  obtain ⟨_, t₁, h₁, t₂, h₂, _, t₃, h₃, t₄, h₄, _, t₅, h₅, t₆, h₆, _, t₇, h₇, t₈, h₈, _, t₉, h₉,
    u₁, k₁, _, u₂, k₂, _, u₃, k₃, _, u₄, k₄, -⟩ := h
  have := length_of_readDigits h₁
  have := length_of_readChar h₂
  have := length_of_readDigits h₃
  have := length_of_readChar h₄
  have := length_of_readDigits h₅
  have := length_of_readChar h₆
  have := length_of_readWithin h₇
  have := length_of_readChar h₈
  have := length_of_readWithin h₉
  have := length_of_readChar k₁
  have := length_of_readWithin k₂
  have := length_of_readFraction k₃
  have := length_of_readOffset k₄
  omega

theorem read?_eq_none (h : t.length < 20) : read? t = none := by
  rw [Option.eq_none_iff_forall_ne_some]
  intro s hr
  have := length_of_read hr
  omega

end Instant
end FlatQuery
