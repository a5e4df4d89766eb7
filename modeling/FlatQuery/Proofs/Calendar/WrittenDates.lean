import FlatQuery.Proofs.Calendar.DateTexts
import FlatQuery.Proofs.Number.Decimals

namespace FlatQuery

open Decimal

namespace Date

variable (d : Date) (name : Text)

def yearDigits : Text :=
  padded 4 d.year.natAbs

def lastYearDigits : Text :=
  padded 2 (d.year.natAbs % 100)

def monthDigits : Text :=
  padded 2 d.month

def dayDigits : Text :=
  padded 2 d.day

def yearFirst : Text :=
  d.yearDigits ++ '-' :: d.monthDigits ++ '-' :: d.dayDigits

def dayFirst : Text :=
  d.dayDigits ++ '/' :: d.monthDigits ++ '/' :: d.yearDigits

def monthFirst : Text :=
  d.monthDigits ++ '/' :: d.dayDigits ++ '/' :: d.yearDigits

-- `name` stands for the month.
def named : Text :=
  d.dayDigits ++ '-' :: name ++ '-' :: d.yearDigits

def namedShort : Text :=
  d.dayDigits ++ '-' :: name ++ '-' :: d.lastYearDigits

def yearFirstAt (separator : Char) (hour minute second : Nat) : Text :=
  d.yearFirst ++ separator :: padded 2 hour ++ ':' :: padded 2 minute ++ ':' :: padded 2 second

end Date

section Numerals

variable {a b t : Text} {w n : Nat}

theorem numeral_padded (hw : 0 < w) (h : n < 10 ^ w) : Numeral w (padded w n) where
  length := length_padded hw h
  digits := List.all_eq_true.mpr fun _ => isDigit_of_mem_padded

theorem Numeral.tight (h : Numeral (n + 1) a) : a.Tight :=
  Text.tight_of_no_blank (fun _ hc => not_isBlank_of_isAsciiWordChar <| isAsciiWordChar_iff.mpr <|
    .inl (.inr (List.all_eq_true.mp h.digits _ hc))) h.ne_nil

end Numerals

section Calendar

variable {d : Date} {hour minute second : Nat}

theorem DateParts.moment?_at (hd : d.exists?) (hh : hour ≤ 23) (hm : minute ≤ 59)
    (hs : second ≤ 60) :
    DateParts.moment? ⟨d.year, d.month, d.day, hour, minute, second⟩ =
      some (.ofTime d hour minute second 0) :=
  if_pos (by simp [isMoment, hd, hh, hm, hs])

theorem DateParts.moment?_day (hd : d.exists?) :
    DateParts.moment? { year := d.year, month := d.month, day := d.day } = some (.midnight d) :=
  moment?_at hd (by decide) (by decide) (by decide)

-- A day that can be a month makes a day of every month.
theorem Date.exists?_exchanged (hd : d.exists?) (hm : d.day ≤ 12) :
    Date.exists? ⟨d.year, d.day, d.month⟩ := by
  have hb := bounds_of_exists? hd
  have hl : d.month ≤ daysIn d.year d.day := by
    unfold daysIn
    split_ifs <;> omega
  simp only [exists?, Bool.and_eq_true, decide_eq_true_eq] at hd ⊢
  omega

theorem Date.not_exists?_exchanged (hm : 12 < d.day) :
    Date.exists? ⟨d.year, d.day, d.month⟩ = false := by
  simp only [exists?, Bool.and_eq_false_iff, decide_eq_false_iff_not]
  omega

-- The leap years of a century are those of its last two digits, but for the turn of the century.
theorem Date.exists?_lastDigits {n : Nat} (hd : Date.exists? ⟨n, d.month, d.day⟩) :
    Date.exists? ⟨(n % 100 : Nat), d.month, d.day⟩ := by
  have hl (h : isLeap n) : isLeap (n % 100 : Nat) := by
    simp only [isLeap, Bool.and_eq_true, Bool.or_eq_true, beq_iff_eq, bne_iff_ne] at h ⊢
    omega
  have hi : daysIn n d.month ≤ daysIn (n % 100 : Nat) d.month := by
    unfold daysIn
    split_ifs <;> simp_all
  have hb : minYear ≤ (n % 100 : Nat) ∧ (n % 100 : Nat) ≤ maxYear := by
    simp only [minYear, maxYear]
    omega
  simp only [exists?, Bool.and_eq_true, decide_eq_true_eq] at hd ⊢
  omega

end Calendar

section Digits

variable {d : Date}

@[simp]
theorem Date.value_monthDigits : value d.monthDigits = d.month :=
  value_padded 2 d.month

@[simp]
theorem Date.value_dayDigits : value d.dayDigits = d.day :=
  value_padded 2 d.day

@[simp]
theorem Date.value_lastYearDigits : value d.lastYearDigits = d.year.natAbs % 100 :=
  value_padded 2 _

theorem Date.value_yearDigits (hy : 0 ≤ d.year) : (value d.yearDigits : Int) = d.year := by
  rw [yearDigits, value_padded, Int.natAbs_of_nonneg hy]

theorem Date.numeral_monthDigits (hd : d.exists?) : Numeral 2 d.monthDigits :=
  numeral_padded (by decide) (by have := bounds_of_exists? hd; omega)

theorem Date.numeral_dayDigits (hd : d.exists?) : Numeral 2 d.dayDigits :=
  numeral_padded (by decide) (by have := bounds_of_exists? hd; omega)

theorem Date.numeral_yearDigits (hy : 0 ≤ d.year ∧ d.year ≤ 9999) : Numeral 4 d.yearDigits :=
  numeral_padded (by decide) (by omega)

theorem Date.numeral_lastYearDigits : Numeral 2 d.lastYearDigits :=
  numeral_padded (by decide) (Nat.mod_lt _ (by decide))

theorem Month.IsName.length_le {month : Nat} {name : Text} (h : IsName month name) :
    name.length ≤ 9 := by
  obtain ⟨long, hm, h⟩ := h
  have hl : ∀ x ∈ names.zipIdx 1, x.1.length ≤ 9 := by decide
  have hl : long.length ≤ 9 := hl _ hm
  have hn : name.length = name.lowerAscii.length := (List.length_map ..).symm
  obtain h | h := h <;> rw [hn, h]
  case inl => exact Nat.le_trans (List.length_take_le ..) (by decide)
  case inr => exact hl

end Digits

namespace Stamp

open Format

variable {d : Date} {a b c t u v name : Text} {s : Char} {m n : Nat}

-- A day or a time without an offset is too short for an instant.
theorem read?_padded (ht : t.Tight) (hl : t.length < 20) (hu : u.allBlank) (hv : v.allBlank) :
    read? (u ++ t ++ v) = readAny? t := by
  rw [read?_eq, ht.trim_padded hu hv, Instant.read?_eq_none hl, Option.none_or]

theorem read?_separated (ha : Numeral (m + 1) a) (hc : Numeral (n + 1) c)
    (hl : a.length + b.length + c.length < 18) (hu : u.allBlank) (hv : v.allBlank) :
    read? (u ++ (a ++ s :: b ++ s :: c) ++ v) = readAny? (a ++ s :: b ++ s :: c) := by
  have ht : (a ++ s :: b ++ s :: c).Tight := by
    simpa using ha.tight.append hc.tight (s :: b ++ [s])
  refine read?_padded ht ?_ hu hv
  simp only [List.length_append, List.length_cons]
  omega

section Written

variable (hd : d.exists?) (hy : 0 ≤ d.year ∧ d.year ≤ 9999) (hu : u.allBlank) (hv : v.allBlank)
include hy hu hv

theorem read?_slashed (ha : Numeral 2 a) (hb : Numeral 2 b) :
    read? (u ++ (a ++ '/' :: b ++ '/' :: d.yearDigits) ++ v) =
      (DateParts.moment? { year := d.year, month := value b, day := value a }).or
        (DateParts.moment? { year := d.year, month := value a, day := value b }) := by
  have hyear := Date.numeral_yearDigits hy
  have hl : a.length + b.length + d.yearDigits.length < 18 := by
    rw [ha.length, hb.length, hyear.length]
    decide
  rw [read?_separated ha hyear hl hu hv, readAny?_slashed ha hb hyear,
    Date.value_yearDigits hy.left]

include hd

theorem read?_yearFirst : read? (u ++ d.yearFirst ++ v) = some (.midnight d) := by
  have hyear := Date.numeral_yearDigits hy
  have hmonth := Date.numeral_monthDigits hd
  have hday := Date.numeral_dayDigits hd
  have hl : d.yearDigits.length + d.monthDigits.length + d.dayDigits.length < 18 := by
    rw [hyear.length, hmonth.length, hday.length]
    decide
  rw [Date.yearFirst, read?_separated hyear hday hl hu hv, readAny?_yearFirst hyear hmonth hday,
    Date.value_yearDigits hy.left, Date.value_monthDigits, Date.value_dayDigits,
    DateParts.moment?_day hd]

theorem read?_dayFirst : read? (u ++ d.dayFirst ++ v) = some (.midnight d) := by
  rw [Date.dayFirst,
    read?_slashed hy hu hv (Date.numeral_dayDigits hd) (Date.numeral_monthDigits hd),
    Date.value_monthDigits, Date.value_dayDigits, DateParts.moment?_day hd, Option.some_or]

theorem read?_monthFirst : read? (u ++ d.monthFirst ++ v) =
    some (.midnight (if 12 < d.day then d else ⟨d.year, d.day, d.month⟩)) := by
  rw [Date.monthFirst,
    read?_slashed hy hu hv (Date.numeral_monthDigits hd) (Date.numeral_dayDigits hd),
    Date.value_monthDigits, Date.value_dayDigits]
  split
  case isTrue h =>
    have hn : DateParts.moment? { year := d.year, month := d.day, day := d.month } = none :=
      if_neg (by simp [DateParts.isMoment, Date.not_exists?_exchanged h])
    rw [hn, Option.none_or, DateParts.moment?_day hd]
  case isFalse h =>
    have he := Date.exists?_exchanged hd (Nat.not_lt.mp h)
    rw [DateParts.moment?_day he, Option.some_or]

theorem read?_named (hn : Month.IsName d.month name) :
    read? (u ++ d.named name ++ v) = some (.midnight d) := by
  have hyear := Date.numeral_yearDigits hy
  have hday := Date.numeral_dayDigits hd
  have hl : d.dayDigits.length + name.length + d.yearDigits.length < 18 := by
    have := hn.length_le
    rw [hyear.length, hday.length]
    omega
  rw [Date.named, read?_separated hday hyear hl hu hv, readAny?_named hday hn hyear,
    Date.value_yearDigits hy.left, Date.value_dayDigits, DateParts.moment?_day hd]

theorem read?_namedShort (hn : Month.IsName d.month name) : read? (u ++ d.namedShort name ++ v) =
    some (.midnight ⟨centuryOf (d.year.natAbs % 100), d.month, d.day⟩) := by
  have hyear := Date.numeral_lastYearDigits (d := d)
  have hday := Date.numeral_dayDigits hd
  have hl : d.dayDigits.length + name.length + d.lastYearDigits.length < 18 := by
    have := hn.length_le
    rw [hyear.length, hday.length]
    omega
  have he : Date.exists? ⟨centuryOf (d.year.natAbs % 100), d.month, d.day⟩ := by
    rw [Date.exists?_centuryOf (Nat.mod_lt _ (by decide))]
    refine Date.exists?_lastDigits ?_
    rwa [Int.natAbs_of_nonneg hy.left]
  rw [Date.namedShort, read?_separated hday hyear hl hu hv, readAny?_namedShort hday hn hyear,
    Date.value_lastYearDigits, Date.value_dayDigits, DateParts.moment?_day he]

theorem read?_yearFirstAt {separator : Char} {hour minute second : Nat}
    (hs : separator = ' ' ∨ separator = 'T') (hh : hour ≤ 23) (hm : minute ≤ 59)
    (hsec : second ≤ 60) :
    read? (u ++ d.yearFirstAt separator hour minute second ++ v) =
      some (.ofTime d hour minute second 0) := by
  have hyear := Date.numeral_yearDigits hy
  have hmonth := Date.numeral_monthDigits hd
  have hday := Date.numeral_dayDigits hd
  have numeral {n : Nat} (h : n ≤ 60) : Numeral 2 (padded 2 n) :=
    numeral_padded (by decide) (by omega)
  have hhour := numeral (Nat.le_trans hh (by decide))
  have hminute := numeral (Nat.le_trans hm (by decide))
  have hsecond := numeral hsec
  have ht : (d.yearFirstAt separator hour minute second).Tight := by
    have h := hyear.tight.append hsecond.tight ('-' :: d.monthDigits ++ '-' :: d.dayDigits ++
      separator :: padded 2 hour ++ ':' :: padded 2 minute ++ [':'])
    simpa [Date.yearFirstAt, Date.yearFirst] using h
  have hl : (d.yearFirstAt separator hour minute second).length < 20 := by
    simp only [Date.yearFirstAt, Date.yearFirst, List.length_append, List.length_cons,
      hyear.length, hmonth.length, hday.length, hhour.length, hminute.length, hsecond.length]
    decide
  rw [read?_padded ht hl hu hv, Date.yearFirstAt, Date.yearFirst,
    readAny?_yearFirstAt hyear hmonth hday hs hhour hminute hsecond,
    Date.value_yearDigits hy.left, Date.value_monthDigits, Date.value_dayDigits, value_padded,
    value_padded, value_padded, DateParts.moment?_at hd hh hm hsec]

end Written

-- A day is read back as it was written, but with the month first only if it is too great for a month.
-- Two digits of a year stand for the year from 1970 to 2069 that ends in them.
theorem read?_written (hd : d.exists?) (hy : 0 ≤ d.year ∧ d.year ≤ 9999)
    (hn : Month.IsName d.month name) (hu : u.allBlank) (hv : v.allBlank) :
    read? (u ++ d.yearFirst ++ v) = some (.midnight d) ∧
    read? (u ++ d.dayFirst ++ v) = some (.midnight d) ∧
    read? (u ++ d.named name ++ v) = some (.midnight d) ∧
    read? (u ++ d.monthFirst ++ v) =
      some (.midnight (if 12 < d.day then d else ⟨d.year, d.day, d.month⟩)) ∧
    (∃ year : Int, 1970 ≤ year ∧ year ≤ 2069 ∧ year % 100 = d.year % 100 ∧
      read? (u ++ d.namedShort name ++ v) = some (.midnight ⟨year, d.month, d.day⟩)) ∧
    ∀ separator hour minute second, separator = ' ' ∨ separator = 'T' →
      hour ≤ 23 → minute ≤ 59 → second ≤ 60 →
      read? (u ++ d.yearFirstAt separator hour minute second ++ v) =
        some (.ofTime d hour minute second 0) := by
  refine ⟨read?_yearFirst hd hy hu hv, read?_dayFirst hd hy hu hv, read?_named hd hy hu hv hn,
    read?_monthFirst hd hy hu hv,
    ⟨centuryOf (d.year.natAbs % 100), ?_, ?_, ?_, read?_namedShort hd hy hu hv hn⟩,
    fun _ _ _ _ hs hh hm hsec => read?_yearFirstAt hd hy hu hv hs hh hm hsec⟩
  all_goals
    unfold centuryOf
    split <;> omega

theorem read?_written_leapDay :
    Date.exists? ⟨1904, 2, 29⟩ ∧ Month.IsName 2 "fEb".toList ∧
    read? "\t02/29/1904\u3000".toList = some (.midnight ⟨1904, 2, 29⟩) ∧
    (∃ year : Int, 1970 ≤ year ∧ year ≤ 2069 ∧ year % 100 = 4 ∧
      read? "\t29-fEb-04\u3000".toList = some (.midnight ⟨year, 2, 29⟩)) ∧
    read? "\t1904-02-29T23:59:60\u3000".toList = some (.ofTime ⟨1904, 2, 29⟩ 23 59 60 0) := by
  have hd : Date.exists? ⟨1904, 2, 29⟩ := by decide
  have hn : Month.IsName 2 "fEb".toList := ⟨"february".toList, by decide, .inl (by decide)⟩
  have ⟨_, _, _, monthFirst, namedShort, yearFirstAt⟩ :=
    read?_written (u := ['\t']) (v := ['\u3000']) hd (by decide) hn rfl rfl
  exact ⟨hd, hn, monthFirst, namedShort,
    yearFirstAt 'T' 23 59 60 (.inr rfl) (by decide) (by decide) (by decide)⟩

end Stamp
end FlatQuery
