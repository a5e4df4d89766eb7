import FlatQuery.Csv.Inference
import FlatQuery.Proofs.Calendar.DateTexts
import FlatQuery.Proofs.Pattern.WholeWords
import FlatQuery.Table.Cell
import Mathlib.Algebra.GroupWithZero.Nat

namespace FlatQuery

section Shapes

open Format (isPlain)

variable {c : Char} {t rest : Text} {item : DateShapeItem} {shape : DateShape}

-- What an item stands for in plain characters.
def DateShapeItem.Spelled : DateShapeItem → Text → Prop
  | .day, a | .month, a => Numeral 2 a
  | .digits n, a => Numeral n a
  | .shortMonthName, a | .longMonthName, a => ∃ month, Month.IsName month a
  | .oneOf chars, a => ∃ c ∈ chars, a = [c]

namespace DateShape

-- The digits of other scripts are neither in ASCII nor white space.
theorem isDigit_of_isDecimalDigit (h : isDecimalDigit c) (hp : isPlain c) : c.isDigit := by
  simp only [isPlain, Bool.or_eq_true, decide_eq_true_eq] at hp
  obtain ha | hb := hp
  case inl => rwa [isDecimalDigit, if_pos ha] at h
  case inr =>
    have hn : ∀ n ∈ blankPoints, isDecimalDigit (Char.ofNat n) = false := by decide +kernel
    have hd := hn _ (mem_blankPoints hb)
    rw [Char.ofNat_toNat, h] at hd
    contradiction

theorem isDecimalDigit_of_le (hl : '0' ≤ c) (hu : c ≤ '9') : isDecimalDigit c := by
  rw [Char.le_def, UInt32.le_iff_toNat_le] at hl hu
  have hd : c.isDigit := isDigit_iff.mpr ⟨hl, hu⟩
  have ha := isDigit_iff.mp hd
  rwa [isDecimalDigit, if_pos (by omega)]

theorem isDecimalDigit_of_isDay (h : isDay a b) : isDecimalDigit a ∧ isDecimalDigit b := by
  simp only [isDay] at h
  split at h
  case h_1 =>
    simp only [Bool.and_eq_true, decide_eq_true_eq] at h
    exact ⟨rfl, isDecimalDigit_of_le (Char.le_trans (by decide) h.left) h.right⟩
  case h_2 | h_3 => exact ⟨rfl, h⟩
  case h_4 =>
    simp only [Bool.or_eq_true, beq_iff_eq] at h
    obtain rfl | rfl := h <;> decide
  case h_5 => contradiction

theorem isDecimalDigit_of_isMonth (h : isMonth a b) : isDecimalDigit a ∧ isDecimalDigit b := by
  simp only [isMonth] at h
  split at h
  case h_1 | h_2 =>
    simp only [Bool.and_eq_true, decide_eq_true_eq] at h
    exact ⟨rfl, isDecimalDigit_of_le (Char.le_trans (by decide) h.left)
      (Char.le_trans h.right (by decide))⟩
  case h_3 => contradiction

theorem afterPair_eq_some {fits : Char → Char → Bool} (h : afterPair fits t = some rest) :
    ∃ a b, t = a :: b :: rest ∧ fits a b := by
  simp only [afterPair] at h
  split at h
  case h_1 a b t =>
    obtain ⟨hf, h⟩ := Option.ite_none_right_eq_some.mp h
    exact ⟨a, b, by rw [Option.some.inj h], hf⟩
  case h_2 => contradiction

theorem numeral_of_afterPair {fits : Char → Char → Bool} (h : afterPair fits t = some rest)
    (hf : ∀ a b, fits a b → isDecimalDigit a ∧ isDecimalDigit b) (ht : t.all isPlain) :
    ∃ a, t = a ++ rest ∧ Numeral 2 a := by
  obtain ⟨a, b, rfl, hab⟩ := afterPair_eq_some h
  obtain ⟨ha, hb⟩ := hf a b hab
  simp only [List.all_cons, Bool.and_eq_true] at ht
  refine ⟨[a, b], rfl, rfl, ?_⟩
  simp [isDigit_of_isDecimalDigit ha ht.left, isDigit_of_isDecimalDigit hb ht.right.left]

-- A name that is found in plain characters has only letters of ASCII.
theorem isName_of_spells {word m : Text} (hx : (name, month) ∈ Month.names.zipIdx 1)
    (hw : word = name.take 3 ∨ word = name) (h : Spells word m) (hm : m.all isPlain) :
    Month.IsName month m := by
  have hl : ∀ x ∈ Month.names.zipIdx 1, x.1.all Char.isLower := by decide
  have ha : ∀ c ∈ m, c.toNat < 128 := fun c hc => by
    obtain ⟨letter, hlw, hf⟩ := h.foldsTo hc
    have hln : letter ∈ name := by
      obtain rfl | rfl := hw
      case inl => exact List.mem_of_mem_take hlw
      case inr => exact hlw
    have hb := not_isBlank_of_isWordChar
      (isWordChar_of_foldsTo (List.all_eq_true.mp (hl _ hx) _ hln) hf)
    simpa [isPlain, hb] using List.all_eq_true.mp hm c hc
  rw [← h.lowerAscii ha] at hw
  exact ⟨name, hx, hw⟩

theorem isName_of_afterFolded {words : List Text} (h : words.findSome? (afterFolded · t) = some rest)
    (hw : ∀ word ∈ words, ∃ x ∈ Month.names.zipIdx 1, word = x.1.take 3 ∨ word = x.1)
    (ht : t.all isPlain) : ∃ a, t = a ++ rest ∧ ∃ month, Month.IsName month a := by
  obtain ⟨word, hm, h⟩ := List.exists_of_findSome?_eq_some h
  obtain ⟨a, rfl, ha⟩ := afterFolded_eq_some_iff.mp h
  obtain ⟨⟨name, month⟩, hx, hw⟩ := hw word hm
  rw [List.all_append, Bool.and_eq_true] at ht
  exact ⟨a, rfl, month, isName_of_spells hx hw ha ht.left⟩

theorem spelled_of_afterItem (h : afterItem t item = some rest) (ht : t.all isPlain) :
    ∃ a, t = a ++ rest ∧ item.Spelled a := by
  cases item
  case day => exact numeral_of_afterPair h (fun _ _ => isDecimalDigit_of_isDay) ht
  case month => exact numeral_of_afterPair h (fun _ _ => isDecimalDigit_of_isMonth) ht
  case digits n =>
    obtain ⟨⟨hl, hd⟩, h⟩ := Option.ite_none_right_eq_some.mp h
    obtain rfl := Option.some.inj h
    refine ⟨t.take n, (List.take_append_drop n t).symm, hl, List.all_eq_true.mpr fun c hc => ?_⟩
    exact isDigit_of_isDecimalDigit (List.all_eq_true.mp hd c hc)
      (List.all_eq_true.mp ht c (List.mem_of_mem_take hc))
  case shortMonthName => exact isName_of_afterFolded h (by decide) ht
  case longMonthName => exact isName_of_afterFolded h (by decide) ht
  case oneOf chars =>
    cases t
    case nil => contradiction
    case cons c t =>
      obtain ⟨hc, h⟩ := Option.ite_none_right_eq_some.mp h
      obtain rfl := Option.some.inj h
      exact ⟨[c], rfl, c, by simpa using hc, rfl⟩

theorem exists_spelled (h : fits t shape) (ht : t.all isPlain) :
    ∃ as : List Text, t = as.flatten ∧ List.Forall₂ DateShapeItem.Spelled shape as := by
  induction shape generalizing t
  case nil => exact ⟨[], by simpa [fits] using h, .nil⟩
  case cons item items hi =>
    simp only [fits] at h
    split at h
    case h_1 rest hr =>
      obtain ⟨a, rfl, ha⟩ := spelled_of_afterItem hr ht
      rw [List.all_append, Bool.and_eq_true] at ht
      obtain ⟨as, rfl, has⟩ := hi h ht.right
      exact ⟨a :: as, rfl, .cons ha has⟩
    case h_2 => contradiction

theorem flatten_day {a b c : Text} {x : Char} :
    [a, [x], b, [x], c].flatten = a ++ x :: b ++ x :: c := by
  simp

theorem flatten_moment {a b c d e f : Text} {x y z : Char} :
    [a, [x], b, [x], c, [y], d, [z], e, [z], f].flatten =
      a ++ x :: b ++ x :: c ++ y :: d ++ z :: e ++ z :: f := by
  simp

-- The shapes are those in which a day, and a moment of it, can be written in full.
theorem writes_of_fits (hs : shape ∈ all) (h : fits t shape) (ht : t.all isPlain) :
    ∃ parts, Writes t parts := by
  obtain ⟨as, rfl, has⟩ := exists_spelled h ht
  simp only [all, yearMonthDay, List.cons_append, List.nil_append, List.mem_cons, List.not_mem_nil,
    or_false] at hs
  obtain rfl | rfl | rfl | rfl | rfl | rfl | rfl | rfl := hs <;>
    simp [List.forall₂_cons_left_iff, DateShapeItem.Spelled] at has
  case inl | inr.inl =>
    obtain ⟨a, ha, b, c, ⟨hb, hc⟩, rfl⟩ := has
    rw [flatten_day]
    exact ⟨_, .dayFirst ha hb hc⟩
  case inr.inr.inl | inr.inr.inr.inr.inl =>
    obtain ⟨a, ha, b, c, ⟨⟨month, hb⟩, hc⟩, rfl⟩ := has
    rw [flatten_day]
    exact ⟨_, .namedShort ha hb hc⟩
  case inr.inr.inr.inl | inr.inr.inr.inr.inr.inl =>
    obtain ⟨a, ha, b, c, ⟨⟨month, hb⟩, hc⟩, rfl⟩ := has
    rw [flatten_day]
    exact ⟨_, .named ha hb hc⟩
  case inr.inr.inr.inr.inr.inr.inl =>
    obtain ⟨a, ha, b, c, ⟨hb, hc⟩, rfl⟩ := has
    rw [flatten_day]
    exact ⟨_, .yearFirst ha hb hc⟩
  case inr.inr.inr.inr.inr.inr.inr =>
    obtain ⟨a, ha, b, c, x, ⟨hb, hc, hx⟩, rfl⟩ := has
    obtain ⟨d, e, f, ⟨hd, he, hf⟩, rfl⟩ | ⟨d, e, f, ⟨hd, he, hf⟩, rfl⟩ := hx <;>
      rw [flatten_moment]
    case inl => exact ⟨_, .yearFirstAt ha hb hc (.inl rfl) hd he hf⟩
    case inr => exact ⟨_, .yearFirstAt ha hb hc (.inr rfl) hd he hf⟩

end DateShape

section Lengths

def DateShapeItem.maxLength : DateShapeItem → Nat
  | .day | .month => 2
  | .digits n => n
  | .shortMonthName => 3
  | .longMonthName => 9
  | .oneOf _ => 1

theorem DateShapeItem.length_of_afterItem (h : DateShape.afterItem t item = some rest) :
    t.length ≤ item.maxLength + rest.length := by
  cases item
  case day | month =>
    obtain ⟨a, b, rfl, -⟩ := DateShape.afterPair_eq_some h
    simp only [List.length_cons, maxLength]
    omega
  case digits n =>
    obtain ⟨⟨hl, -⟩, h⟩ := Option.ite_none_right_eq_some.mp h
    obtain rfl := Option.some.inj h
    simp only [List.length_take, List.length_drop, maxLength] at hl ⊢
    omega
  case shortMonthName =>
    obtain ⟨word, hm, h⟩ := List.exists_of_findSome?_eq_some h
    have hl : ∀ word ∈ Month.shortNames, word.length ≤ 3 := by decide
    rw [afterFolded_length h]
    exact Nat.add_le_add_right (hl word hm) _
  case longMonthName =>
    obtain ⟨word, hm, h⟩ := List.exists_of_findSome?_eq_some h
    have hl : ∀ word ∈ Month.names, word.length ≤ 9 := by decide
    rw [afterFolded_length h]
    exact Nat.add_le_add_right (hl word hm) _
  case oneOf chars =>
    cases t
    case nil => contradiction
    case cons c t =>
      obtain ⟨-, h⟩ := Option.ite_none_right_eq_some.mp h
      obtain rfl := Option.some.inj h
      simp only [List.length_cons, maxLength]
      omega

theorem DateShape.length_of_fits (h : fits t shape) :
    t.length ≤ (shape.map DateShapeItem.maxLength).sum := by
  induction shape generalizing t
  case nil => simpa [fits] using h
  case cons item items hi =>
    simp only [fits] at h
    split at h
    case h_1 rest hr =>
      have := DateShapeItem.length_of_afterItem hr
      have := hi h
      simp only [List.map_cons, List.sum_cons]
      omega
    case h_2 => contradiction

-- No shape is as long as an instant with its offset.
theorem DateShape.length_lt (hs : shape ∈ all) (h : fits t shape) : t.length < 20 := by
  have hl : ∀ shape ∈ all, (shape.map DateShapeItem.maxLength).sum < 20 := by decide
  exact Nat.lt_of_le_of_lt (length_of_fits h) (hl shape hs)

end Lengths
end Shapes

section Numbers

variable {t ds fraction : Text} {negative : Bool}

theorem startsDigit_of_isDigits (h : Decimal.isDigits ds) : startsDigit (ds ++ t) := by
  cases ds
  case nil => contradiction
  case cons c ds => simp_all [Decimal.isDigits, startsDigit]

-- A plus is no digit, so both ways of taking a sign off come to the same.
theorem takeSign_eq (h : startsDigit (ColumnType.dropMinus t)) :
    (Decimal.takeSign t).2 = ColumnType.dropMinus t := by
  cases t
  case nil => rfl
  case cons c t =>
    by_cases hm : c = '-'
    case pos => subst hm; rfl
    case neg =>
      by_cases hp : c = '+'
      case pos => subst hp; contradiction
      case neg => simp [Decimal.takeSign, ColumnType.dropMinus, hm, hp]

theorem takeWhile_of_isDigits (h : Decimal.isDigits ds) :
    ds ≠ [] ∧ ds.takeWhile Char.isDigit = ds ∧ ds.dropWhile Char.isDigit = [] := by
  simp only [Decimal.isDigits, Bool.and_eq_true, Bool.not_eq_true', List.isEmpty_eq_false_iff] at h
  have hd := List.all_eq_true.mp h.right
  exact ⟨h.left, List.takeWhile_eq_self_iff.mpr hd, List.dropWhile_eq_nil_iff.mpr hd⟩

theorem isSome_readDecimal_of_digits (h : Decimal.isDigits ds) :
    (Binary64.readDecimal? negative ds).isSome := by
  obtain ⟨hn, ht, hd⟩ := takeWhile_of_isDigits h
  simp [Binary64.readDecimal?, ht, hd, hn, Binary64.readExponent?]

theorem isSome_readDecimal_of_fraction (h : Decimal.isDigits ds) (hf : Decimal.isDigits fraction) :
    (Binary64.readDecimal? negative (ds ++ '.' :: fraction)).isSome := by
  obtain ⟨hn, ht, hd⟩ := takeWhile_of_isDigits h
  obtain ⟨-, hft, hfd⟩ := takeWhile_of_isDigits hf
  have hp : '.'.isDigit = false := rfl
  have ht : (ds ++ '.' :: fraction).takeWhile Char.isDigit = ds := by
    rw [List.takeWhile_append_of_pos (List.takeWhile_eq_self_iff.mp ht)]
    simp [hp]
  have hd : (ds ++ '.' :: fraction).dropWhile Char.isDigit = '.' :: fraction := by
    rw [List.dropWhile_append_of_pos (List.dropWhile_eq_nil_iff.mp hd)]
    simp [hp]
  simp [Binary64.readDecimal?, ht, hd, hft, hfd, hn, Binary64.readExponent?]

theorem isSome_read_of_readDecimal
    (h : (Binary64.readDecimal? (Decimal.takeSign t).1 (Decimal.takeSign t).2).isSome) :
    (Binary64.read? t).isSome := by
  simp only [Binary64.read?]
  split
  case isTrue => rfl
  case isFalse =>
    split
    case isTrue => rfl
    case isFalse => exact h

theorem isSome_read_of_isWholeNumber (h : ColumnType.isWholeNumber t) : (Binary64.read? t).isSome := by
  refine isSome_read_of_readDecimal ?_
  rw [takeSign_eq (by simpa using startsDigit_of_isDigits (t := []) h)]
  exact isSome_readDecimal_of_digits h

theorem isSome_read_of_isFraction (h : ColumnType.isFraction t) : (Binary64.read? t).isSome := by
  simp only [ColumnType.isFraction] at h
  split at h
  case h_1 whole fraction hc =>
    have he := Text.eq_append_of_cutAtFirst hc
    rw [Bool.and_eq_true] at h
    have hs : startsDigit (ColumnType.dropMinus t) := by
      rw [he]
      exact startsDigit_of_isDigits h.left
    refine isSome_read_of_readDecimal ?_
    rw [takeSign_eq hs, he]
    exact isSome_readDecimal_of_fraction h.left h.right
  case h_2 => contradiction

end Numbers

namespace ColumnType

variable {sample t : Text} {shape : DateShape}

-- What the inference has seen of a sample when it settles on a type with values.
theorem infer_cases (sample : Text) :
    (infer sample = .integer → (Decimal.readInt64? sample.trim).isSome) ∧
    (infer sample = .float → isWholeNumber sample.trim ∨ isFraction sample.trim) ∧
    (infer sample = .dateTime → ∃ shape ∈ DateShape.all, DateShape.fits sample.trim shape) := by
  simp only [infer]
  split
  case isTrue hw =>
    split
    case isTrue hr => exact ⟨fun _ => hr, nofun, nofun⟩
    case isFalse => exact ⟨nofun, fun _ => .inl hw, nofun⟩
  case isFalse =>
    split
    case isTrue hf => exact ⟨nofun, fun _ => .inr hf, nofun⟩
    case isFalse =>
      split
      case isTrue hs => exact ⟨nofun, nofun, fun _ => List.any_eq_true.mp hs⟩
      case isFalse => split <;> exact ⟨nofun, nofun, nofun⟩

theorem isComparable_of_infer_integer (h : infer sample = .integer) :
    isComparable .integer sample := by
  simpa [isComparable, read?] using (infer_cases sample).left h

theorem isComparable_of_infer_float (h : infer sample = .float) : isComparable .float sample := by
  have hr : (Binary64.read? sample.trim).isSome := by
    obtain hw | hf := (infer_cases sample).right.left h
    case inl => exact isSome_read_of_isWholeNumber hw
    case inr => exact isSome_read_of_isFraction hf
  simpa [isComparable, read?] using hr

theorem isComparable_dateTime_iff (h : infer sample = .dateTime) :
    isComparable .dateTime sample ↔ ∃ parts, Writes sample.trim parts ∧ parts.isMoment := by
  obtain ⟨shape, hs, hf⟩ := (infer_cases sample).right.right h
  have ht : sample.trim.trim = sample.trim := Text.strip_strip
  have hi : Instant.read? sample.trim = none := Instant.read?_eq_none (DateShape.length_lt hs hf)
  have hc : isComparable .dateTime sample ↔ Format.IsReadable sample.trim := by
    have hr := Stamp.isSome_read_iff (t := sample.trim)
    rw [ht, hi] at hr
    simpa [isComparable, read?] using hr
  rw [hc]
  constructor
  case mp =>
    intro hr
    obtain ⟨parts, hw⟩ := DateShape.writes_of_fits hs hf (Format.plain_of_isReadable hr)
    exact (isReadable_iff_of_writes hw).mp hr
  case mpr =>
    rintro ⟨parts, hw, hp⟩
    exact (isReadable_iff_of_writes hw).mpr ⟨parts, hw, hp⟩

-- A sample of numbers can be read under its type; one of dates only if it names a moment.
theorem infer_comparable (sample : Text) :
    (infer sample = .integer → isComparable .integer sample) ∧
    (infer sample = .float → isComparable .float sample) ∧
    (infer sample = .dateTime →
      (isComparable .dateTime sample ↔ ∃ parts, Writes sample.trim parts ∧ parts.isMoment)) :=
  ⟨isComparable_of_infer_integer, isComparable_of_infer_float, isComparable_dateTime_iff⟩

theorem infer_comparable_april5 :
    infer "05-apr-17".toList = .dateTime ∧ isComparable .dateTime "05-apr-17".toList := by
  have hi : infer "05-apr-17".toList = .dateTime := by decide +kernel
  have hd : Numeral 2 "05".toList := ⟨rfl, rfl⟩
  have hm : Month.IsName 4 "apr".toList := ⟨"april".toList, by decide, .inl rfl⟩
  have hy : Numeral 2 "17".toList := ⟨rfl, rfl⟩
  have hw : Writes (Text.trim "05-apr-17".toList) ⟨2017, 4, 5, 0, 0, 0⟩ := .namedShort hd hm hy
  exact ⟨hi, ((infer_comparable _).right.right hi).mpr ⟨_, hw, by decide⟩⟩

-- The shape of a date is enough for the inference, which never asks for the calendar.
theorem infer_dateTime_february30 :
    infer "2017-02-30".toList = .dateTime ∧
      isComparable .dateTime "2017-02-30".toList = false := by
  decide +kernel

end ColumnType
end FlatQuery
