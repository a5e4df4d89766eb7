import FlatQuery.Proofs.Calendar.Reading
import Mathlib.Tactic.SplitIfs

namespace FlatQuery

open Decimal

-- The day is on the calendar and the time on the clock, leap seconds included.
def DateParts.isMoment (p : DateParts) : Bool :=
  Date.exists? ⟨p.year, p.month, p.day⟩ && p.hour ≤ 23 && p.minute ≤ 59 && p.second ≤ 60

-- With day and month both in digits either of them may come first.
inductive Writes : Text → DateParts → Prop
  | dayFirst (hd : Numeral 2 day) (hm : Numeral 2 month) (hy : Numeral 4 year) :
    Writes (day ++ '/' :: month ++ '/' :: year)
      { year := value year, month := value month, day := value day }
  | monthFirst (hm : Numeral 2 month) (hd : Numeral 2 day) (hy : Numeral 4 year) :
    Writes (month ++ '/' :: day ++ '/' :: year)
      { year := value year, month := value month, day := value day }
  | named (hd : Numeral 2 day) (hm : Month.IsName k month) (hy : Numeral 4 year) :
    Writes (day ++ '-' :: month ++ '-' :: year)
      { year := value year, month := k, day := value day }
  | namedShort (hd : Numeral 2 day) (hm : Month.IsName k month) (hy : Numeral 2 year) :
    Writes (day ++ '-' :: month ++ '-' :: year)
      { year := Format.centuryOf (value year), month := k, day := value day }
  | yearFirst (hy : Numeral 4 year) (hm : Numeral 2 month) (hd : Numeral 2 day) :
    Writes (year ++ '-' :: month ++ '-' :: day)
      { year := value year, month := value month, day := value day }
  | yearFirstAt (hy : Numeral 4 year) (hm : Numeral 2 month) (hd : Numeral 2 day)
      (ht : separator = ' ' ∨ separator = 'T')
      (hh : Numeral 2 hour) (hi : Numeral 2 minute) (hs : Numeral 2 second) :
    Writes (year ++ '-' :: month ++ '-' :: day ++ separator :: hour ++ ':' :: minute ++ ':' :: second)
      { year := value year, month := value month, day := value day,
        hour := value hour, minute := value minute, second := value second }

namespace Format

theorem isSome_read_iff {f : Format} {t : Text} : (f.read? t).isSome ↔
    ∃ parts, readFrom? {} t f = some parts ∧ Date.exists? ⟨parts.year, parts.month, parts.day⟩ := by
  simp [read?, Option.isSome_bind, Option.any_eq_true]

end Format

section Calendar

variable {a : Text} {c : Char} {y : Int} {m d n : Nat}

theorem Date.bounds_of_exists? (h : Date.exists? ⟨y, m, d⟩) :
    1 ≤ m ∧ m ≤ 12 ∧ 1 ≤ d ∧ d ≤ 31 := by
  have hd : daysIn y m ≤ 31 := by
    unfold daysIn
    split_ifs <;> decide
  simp only [exists?, Bool.and_eq_true, decide_eq_true_eq] at h
  omega

-- The century of a short year makes no difference to the calendar.
theorem Date.exists?_centuryOf (hn : n < 100) :
    Date.exists? ⟨Format.centuryOf n, m, d⟩ = Date.exists? ⟨n, m, d⟩ := by
  have hl : ∀ n < 100, isLeap (Format.centuryOf n) = isLeap n := by decide
  have hb : minYear ≤ Format.centuryOf n ∧ Format.centuryOf n ≤ maxYear := by
    simp only [Format.centuryOf, minYear, maxYear]
    split <;> omega
  have hb' : minYear ≤ (n : Int) ∧ (n : Int) ≤ maxYear := by
    simp only [minYear, maxYear]
    omega
  simp [exists?, daysIn, hl n hn, hb, hb']

theorem digitValue_le (h : c.isDigit) : digitValue c ≤ 9 := by
  rw [isDigit_iff] at h
  have : '0'.toNat = 48 := rfl
  simp only [digitValue]
  omega

theorem value_lt (h : Numeral 2 a) : value a < 100 := by
  obtain ⟨c, d, rfl⟩ : ∃ c d, a = [c, d] := by
    match a, h.length with
    | [c, d], _ => exact ⟨c, d, rfl⟩
  have hd := h.digits
  simp only [List.all_cons, List.all_nil, Bool.and_true, Bool.and_eq_true] at hd
  have hc := digitValue_le hd.left
  have hd := digitValue_le hd.right
  simp only [value, List.foldl_cons, List.foldl_nil]
  omega

end Calendar

section Readings

variable {a b c d e f t u : Text} {k n : Nat} {parts : DateParts} {format : Format}

theorem findSome?_cons_or {read : α → Option β} {x : α} {xs : List α} :
    (x :: xs).findSome? read = (read x).or (xs.findSome? read) := by
  rw [List.findSome?_cons]
  cases read x <;> rfl

namespace DateParts

variable {p q : DateParts}

-- The moment that the parts make up, if they make up one.
def moment? (p : DateParts) : Option Stamp :=
  if p.isMoment then some (.ofTime ⟨p.year, p.month, p.day⟩ p.hour p.minute p.second 0) else none

@[simp]
theorem isSome_moment? : parts.moment?.isSome = parts.isMoment := by
  unfold moment?
  split <;> simp_all

theorem isMoment_iff : p.isMoment ↔
    Date.exists? ⟨p.year, p.month, p.day⟩ ∧ p.hour ≤ 23 ∧ p.minute ≤ 59 ∧ p.second ≤ 60 := by
  simp only [isMoment, Bool.and_eq_true, decide_eq_true_eq, and_assoc]

-- A number that is out of range for its part leaves no moment.
theorem ite_bind_eq_moment? {r : Prop} [Decidable r] {g : DateParts → Option Stamp}
    (hr : p.isMoment → r) (hg : r → g q = p.moment?) :
    (if r then some q else none).bind g = p.moment? := by
  by_cases h : r
  case pos => rw [if_pos h, Option.bind_some, hg h]
  case neg => rw [if_neg h, Option.bind_none, moment?, if_neg (mt hr h)]

-- The calendar asks for a month and a day in range.
theorem month_of_isMoment (h : p.isMoment) : 1 ≤ p.month ∧ p.month ≤ 12 :=
  have hb := Date.bounds_of_exists? (isMoment_iff.mp h).left
  ⟨hb.left, hb.right.left⟩

theorem day_of_isMoment (h : p.isMoment) : 1 ≤ p.day ∧ p.day ≤ 31 :=
  (Date.bounds_of_exists? (isMoment_iff.mp h).left).right.right

end DateParts

namespace Format

open DateParts

-- Some format reads the text, as a day on the calendar.
def IsReadable (t : Text) : Prop :=
  ∃ format ∈ timestamps ++ dates, (format.read? t).isSome

-- What the first format that reads the text makes of it.
def readAny? (t : Text) : Option Stamp :=
  (timestamps ++ dates).findSome? (·.read? t)

theorem isReadable_iff : IsReadable t ↔ (readAny? t).isSome := by
  rw [readAny?, List.findSome?_isSome_iff]
  rfl

-- The moment of the parts that were read, once their times are known to be in range.
def stamp? (p : DateParts) : Option Stamp :=
  if Date.exists? ⟨p.year, p.month, p.day⟩ then
    some (.ofTime ⟨p.year, p.month, p.day⟩ p.hour p.minute p.second 0)
  else
    none

theorem read?_eq : format.read? t = (readFrom? {} t format).bind stamp? :=
  rfl

theorem read?_eq_none (h : readFrom? {} t format = none) : format.read? t = none := by
  rw [read?_eq, h]
  rfl

theorem stamp?_eq_moment? {p : DateParts} (hh : p.hour ≤ 23) (hm : p.minute ≤ 59)
    (hs : p.second ≤ 60) : stamp? p = p.moment? := by
  have hp : p.isMoment = Date.exists? ⟨p.year, p.month, p.day⟩ := by simp [isMoment, hh, hm, hs]
  rw [stamp?, moment?, hp]

theorem stamp?_day {y : Int} :
    stamp? { year := y, month := k, day := n } = moment? { year := y, month := k, day := n } :=
  stamp?_eq_moment? (Nat.zero_le _) (Nat.zero_le _) (Nat.zero_le _)

section Slashes

-- The formats with the year first ask for a hyphen after it, and for a month in digits.
theorem readAny?_of_year_refused
    (h : ∀ items, readFrom? {} t (.year :: .literal '-' :: .month :: items) = none) :
    readAny? t = dates.tail.findSome? (·.read? t) := by
  have hl : timestamps ++ dates = (yearMonthDay ++ .space :: timeOfDay) ::
      (yearMonthDay ++ .literal 'T' :: timeOfDay) :: yearMonthDay :: dates.tail := rfl
  have hr (items : Format) : read? (yearMonthDay ++ items) t = none := read?_eq_none (h _)
  have hr' : yearMonthDay.read? t = none := hr []
  rw [readAny?, hl, findSome?_cons_or, findSome?_cons_or, findSome?_cons_or, hr, hr, hr',
    Option.none_or, Option.none_or, Option.none_or]

theorem hyphen_of_mem_dates (h : format ∈ dates.drop 3) :
    ∃ items, format = .day :: .literal '-' :: items := by
  simp only [dates, List.drop, List.mem_cons, List.not_mem_nil, or_false] at h
  obtain rfl | rfl | rfl | rfl := h <;> exact ⟨_, rfl⟩

-- A day and a month in digits, in either order, in front of a year.
theorem read?_slashed (ha : Numeral 2 a) (hb : Numeral 2 b) (hc : Numeral 4 c) :
    read? [.day, .literal '/', .month, .literal '/', .year] (a ++ '/' :: b ++ '/' :: c) =
        moment? { year := value c, month := value b, day := value a } ∧
      read? [.month, .literal '/', .day, .literal '/', .year] (a ++ '/' :: b ++ '/' :: c) =
        moment? { year := value c, month := value a, day := value b } := by
  have ht : a ++ '/' :: b ++ '/' :: c = a ++ '/' :: (b ++ '/' :: (c ++ [])) := by simp
  rw [ht, read?_eq, read?_eq]
  constructor
  case left =>
    rw [readFrom?_triple ⟨rfl, rfl, rfl⟩ ha hb hc (by decide) rfl rfl]
    simp only [Option.bind_assoc]
    exact ite_bind_eq_moment? day_of_isMoment fun _ =>
      ite_bind_eq_moment? month_of_isMoment fun _ => stamp?_day
  case right =>
    rw [readFrom?_triple ⟨rfl, rfl, rfl⟩ ha hb hc (by decide) rfl rfl]
    simp only [Option.bind_assoc]
    exact ite_bind_eq_moment? month_of_isMoment fun _ =>
      ite_bind_eq_moment? day_of_isMoment fun _ => stamp?_day

-- Of two numbers the first is the day, unless only the second can be.
theorem readAny?_slashed (ha : Numeral 2 a) (hb : Numeral 2 b) (hc : Numeral 4 c) :
    readAny? (a ++ '/' :: b ++ '/' :: c) =
      (moment? { year := value c, month := value b, day := value a }).or
        (moment? { year := value c, month := value a, day := value b }) := by
  obtain ⟨hday, hmonth⟩ := read?_slashed ha hb hc
  have ht : a ++ '/' :: b ++ '/' :: c = a ++ '/' :: (b ++ '/' :: c) := by simp
  -- All other formats have a hyphen where the text has its first slash.
  have hn : (dates.drop 3).findSome? (·.read? (a ++ '/' :: b ++ '/' :: c)) = none := by
    refine List.findSome?_eq_none_iff.mpr fun format hf => ?_
    obtain ⟨items, rfl⟩ := hyphen_of_mem_dates hf
    rw [ht, read?_eq_none (readFrom?_of_separator rfl ha (by decide) rfl (by decide))]
  have hl : dates.tail = [.day, .literal '/', .month, .literal '/', .year] ::
      [.month, .literal '/', .day, .literal '/', .year] :: dates.drop 3 := rfl
  rw [readAny?_of_year_refused, hl, findSome?_cons_or, findSome?_cons_or, hday, hmonth, hn,
    Option.or_none]
  exact fun _ => ht ▸ readFrom?_of_separator rfl ha (by decide) rfl (by decide)

end Slashes

section Names

open Month

variable {m : Text} {y : Int} {z : FormatItem} {items : Format}

theorem readFrom?_longName (ha : Numeral 2 a) (hm : IsName k m) :
    readFrom? parts (a ++ '-' :: (m ++ '-' :: c))
      (.day :: .literal '-' :: .longMonthName :: .literal '-' :: items) =
        (FormatItem.day.put? parts (value a)).bind fun p =>
          readFrom? { p with month := k } c items := by
  rw [readFrom?_separated rfl ha (by decide) rfl]
  congr 1
  funext p
  exact readFrom?_longMonthName hm

-- Formats for short names take no others, and these as the formats for long names do.
theorem read?_shortName (ha : Numeral 2 a) (hm : IsName k m) :
    read? [.day, .literal '-', .shortMonthName, .literal '-', z] (a ++ '-' :: (m ++ '-' :: c)) =
      if m.length = 3 then
        read? [.day, .literal '-', .longMonthName, .literal '-', z] (a ++ '-' :: (m ++ '-' :: c))
      else none := by
  rw [read?_eq, read?_eq, readFrom?_longName ha hm, readFrom?_separated rfl ha (by decide) rfl]
  simp only [readFrom?_shortMonthName hm]
  by_cases hl : m.length = 3
  case pos => simp only [if_pos hl]
  case neg => rw [if_neg hl]; simp only [if_neg hl, Option.bind_fun_none, Option.bind_none]

theorem read?_longName (ha : Numeral 2 a) (hm : IsName k m) (hz : z.isNumber)
    (hc : Numeral (n + 1) c) (hl : n + 1 ≤ z.width)
    (hy : ∀ p, z.put? p (value c) = some { p with year := y }) :
    read? [.day, .literal '-', .longMonthName, .literal '-', z] (a ++ '-' :: (m ++ '-' :: c)) =
      moment? { year := y, month := k, day := value a } := by
  rw [read?_eq, readFrom?_longName ha hm, Option.bind_assoc]
  refine ite_bind_eq_moment? day_of_isMoment fun _ => ?_
  rw [readFrom?_end hz hc.digits hc.ne_nil (hc.length ▸ hl), hy]
  exact stamp?_day

-- With a name for the month only the formats for names are left.
theorem readAny?_of_name (ha : Numeral 2 a) (hm : IsName k m) :
    readAny? (a ++ '-' :: (m ++ '-' :: c)) =
      (read? [.day, .literal '-', .longMonthName, .literal '-', .shortYear]
        (a ++ '-' :: (m ++ '-' :: c))).or
      (read? [.day, .literal '-', .longMonthName, .literal '-', .year]
        (a ++ '-' :: (m ++ '-' :: c))) := by
  have hy (items : Format) : readFrom? {} (a ++ '-' :: (m ++ '-' :: c))
      (.year :: .literal '-' :: .month :: items) = none := by
    have hr (parts : DateParts) : readFrom? parts (m ++ '-' :: c) (.month :: items) = none :=
      readFrom?_of_name rfl hm
    rw [readFrom?_separated rfl ha (by decide) rfl]
    simp only [hr, Option.bind_fun_none]
  have hs (item : FormatItem) (hi : item.isNumber) (hl : 2 ≤ item.width) (items : Format) :
      read? (item :: .literal '/' :: items) (a ++ '-' :: (m ++ '-' :: c)) = none :=
    read?_eq_none (readFrom?_of_separator hi ha hl rfl (by decide))
  have hd := hs .day rfl (by decide)
  have hn := hs .month rfl (by decide)
  rw [readAny?_of_year_refused hy, dates, List.tail_cons]
  simp only [findSome?_cons_or, hd, hn, read?_shortName ha hm, List.findSome?_nil, Option.none_or,
    Option.or_none]
  -- What a format for short names reads, the one for long names reads too.
  by_cases hl : m.length = 3
  case neg => simp only [if_neg hl, Option.none_or]
  case pos =>
    simp only [if_pos hl]
    cases read? [.day, .literal '-', .longMonthName, .literal '-', .shortYear] _ <;>
      cases read? [.day, .literal '-', .longMonthName, .literal '-', .year] _ <;> rfl

theorem readAny?_named (ha : Numeral 2 a) (hb : IsName k b) (hc : Numeral 4 c) :
    readAny? (a ++ '-' :: b ++ '-' :: c) =
      moment? { year := value c, month := k, day := value a } := by
  have hs : read? [.day, .literal '-', .longMonthName, .literal '-', .shortYear]
      (a ++ '-' :: (b ++ '-' :: c)) = none := by
    have hy (parts : DateParts) : readFrom? parts c [.shortYear] = none :=
      readFrom?_end_of_long rfl hc.digits (by rw [hc.length]; decide)
    refine read?_eq_none ?_
    rw [readFrom?_longName ha hb]
    simp only [hy, Option.bind_fun_none]
  rw [List.append_assoc, List.cons_append, readAny?_of_name ha hb, hs, Option.none_or]
  exact read?_longName ha hb rfl hc (by decide) fun _ => rfl

-- Two digits are never taken for a whole year, since the short year is tried first.
theorem readAny?_namedShort (ha : Numeral 2 a) (hb : IsName k b) (hc : Numeral 2 c) :
    readAny? (a ++ '-' :: b ++ '-' :: c) =
      moment? { year := centuryOf (value c), month := k, day := value a } := by
  have he : isMoment { year := value c, month := k, day := value a } =
      isMoment { year := centuryOf (value c), month := k, day := value a } := by
    simp only [isMoment, Date.exists?_centuryOf (value_lt hc)]
  rw [List.append_assoc, List.cons_append, readAny?_of_name ha hb,
    read?_longName ha hb rfl hc (by decide) fun _ => rfl,
    read?_longName ha hb rfl hc (by decide) fun _ => rfl, moment?, moment?, he]
  split <;> rfl

end Names

section YearFirst

variable {items : Format} {q : DateParts}

-- A year in front is too long for a day or a month.
theorem readAny?_of_year (ha : Numeral 4 a) :
    readAny? (a ++ t) =
      (read? (yearMonthDay ++ .space :: timeOfDay) (a ++ t)).or
        ((read? (yearMonthDay ++ .literal 'T' :: timeOfDay) (a ++ t)).or
          (read? (yearMonthDay ++ []) (a ++ t))) := by
  have hl (item : FormatItem) (hi : item.isNumber) (hw : item.width = 2) (s : Char)
      (hs : s.isDigit = false) (items : Format) :
      read? (item :: .literal s :: items) (a ++ t) = none :=
    read?_eq_none (readFrom?_literal_of_long hi ha.digits (by rw [hw, ha.length]; decide) hs)
  have hd := hl .day rfl rfl
  have hn : dates.tail.findSome? (·.read? (a ++ t)) = none := by
    rw [dates, List.tail_cons]
    simp only [findSome?_cons_or, hl .month rfl rfl '/' rfl, hd '/' rfl, hd '-' rfl,
      List.findSome?_nil, Option.none_or]
  have hf : timestamps ++ dates = (yearMonthDay ++ .space :: timeOfDay) ::
      (yearMonthDay ++ .literal 'T' :: timeOfDay) :: (yearMonthDay ++ []) :: dates.tail := rfl
  rw [readAny?, hf, findSome?_cons_or, findSome?_cons_or, findSome?_cons_or, hn, Option.or_none]

theorem readFrom?_yearMonthDay (ha : Numeral 4 a) (hb : Numeral 2 b) (hc : Numeral 2 c)
    (ht : startsDigit t = false) :
    readFrom? {} (a ++ '-' :: (b ++ '-' :: (c ++ t))) (yearMonthDay ++ items) =
      (FormatItem.month.put? { year := value a } (value b)).bind fun p =>
        (FormatItem.day.put? p (value c)).bind (readFrom? · t items) :=
  readFrom?_triple ⟨rfl, rfl, rfl⟩ ha hb hc (by decide) rfl ht

theorem read?_yearMonthDay_of_refused (ha : Numeral 4 a) (hb : Numeral 2 b) (hc : Numeral 2 c)
    (ht : startsDigit t = false) (h : ∀ parts, readFrom? parts t items = none) :
    read? (yearMonthDay ++ items) (a ++ '-' :: (b ++ '-' :: (c ++ t))) = none := by
  refine read?_eq_none ?_
  rw [readFrom?_yearMonthDay ha hb hc ht]
  simp only [h, Option.bind_fun_none]

-- What follows the day makes the rest of the moment.
theorem read?_yearMonthDay (ha : Numeral 4 a) (hb : Numeral 2 b) (hc : Numeral 2 c)
    (ht : startsDigit t = false) (hq : q.month = value b ∧ q.day = value c)
    (h : (readFrom? { year := value a, month := value b, day := value c } t items).bind stamp? =
      q.moment?) :
    read? (yearMonthDay ++ items) (a ++ '-' :: (b ++ '-' :: (c ++ t))) = q.moment? := by
  rw [read?_eq, readFrom?_yearMonthDay ha hb hc ht]
  simp only [Option.bind_assoc]
  refine ite_bind_eq_moment? (fun hm => hq.left ▸ month_of_isMoment hm) fun _ => ?_
  exact ite_bind_eq_moment? (fun hm => hq.right ▸ day_of_isMoment hm) fun _ => h

theorem readFrom?_timeOfDay (hd : Numeral 2 d) (he : Numeral 2 e) (hf : Numeral 2 f) :
    (readFrom? parts (d ++ ':' :: (e ++ ':' :: f)) timeOfDay).bind stamp? =
      moment? { parts with hour := value d, minute := value e, second := value f } := by
  have ht : readFrom? parts (d ++ ':' :: (e ++ ':' :: (f ++ []))) timeOfDay =
      (FormatItem.hour.put? parts (value d)).bind fun p =>
        (FormatItem.minute.put? p (value e)).bind fun p =>
          (FormatItem.second.put? p (value f)).bind (readFrom? · [] []) :=
    readFrom?_triple ⟨rfl, rfl, rfl⟩ hd he hf (by decide) rfl rfl
  rw [List.append_nil] at ht
  rw [ht]
  simp only [Option.bind_assoc]
  refine ite_bind_eq_moment? (fun h => (isMoment_iff.mp h).right.left) fun hh => ?_
  refine ite_bind_eq_moment? (fun h => (isMoment_iff.mp h).right.right.left) fun hm => ?_
  refine ite_bind_eq_moment? (fun h => (isMoment_iff.mp h).right.right.right) fun hs => ?_
  exact stamp?_eq_moment? hh hm hs

theorem readAny?_yearFirst (ha : Numeral 4 a) (hb : Numeral 2 b) (hc : Numeral 2 c) :
    readAny? (a ++ '-' :: b ++ '-' :: c) =
      moment? { year := value a, month := value b, day := value c } := by
  have ht : a ++ '-' :: b ++ '-' :: c = a ++ '-' :: (b ++ '-' :: (c ++ [])) := by simp
  -- Both formats with a time ask for more than the day.
  have hn (parts : DateParts) : readFrom? parts [] timeOfDay = none := readFrom?_number_nil rfl
  have hsp : read? (yearMonthDay ++ .space :: timeOfDay) (a ++ '-' :: (b ++ '-' :: (c ++ []))) =
      none :=
    read?_yearMonthDay_of_refused ha hb hc rfl hn
  have hat : read? (yearMonthDay ++ .literal 'T' :: timeOfDay)
      (a ++ '-' :: (b ++ '-' :: (c ++ []))) = none :=
    read?_yearMonthDay_of_refused ha hb hc rfl fun _ => readFrom?_literal_nil
  rw [ht, readAny?_of_year ha, hsp, hat, Option.none_or, Option.none_or]
  exact read?_yearMonthDay ha hb hc rfl ⟨rfl, rfl⟩ stamp?_day

theorem readAny?_yearFirstAt (ha : Numeral 4 a) (hb : Numeral 2 b) (hc : Numeral 2 c)
    (hs : separator = ' ' ∨ separator = 'T')
    (hd : Numeral 2 d) (he : Numeral 2 e) (hf : Numeral 2 f) :
    readAny? (a ++ '-' :: b ++ '-' :: c ++ separator :: d ++ ':' :: e ++ ':' :: f) =
      moment? { year := value a, month := value b, day := value c,
                hour := value d, minute := value e, second := value f } := by
  have ht : a ++ '-' :: b ++ '-' :: c ++ separator :: d ++ ':' :: e ++ ':' :: f =
      a ++ '-' :: (b ++ '-' :: (c ++ separator :: (d ++ ':' :: (e ++ ':' :: f)))) := by simp
  have hn : startsDigit (separator :: (d ++ ':' :: (e ++ ':' :: f))) = false := by
    obtain rfl | rfl := hs <;> rfl
  have hday : read? (yearMonthDay ++ [])
      (a ++ '-' :: (b ++ '-' :: (c ++ separator :: (d ++ ':' :: (e ++ ':' :: f))))) = none :=
    read?_yearMonthDay_of_refused ha hb hc hn fun _ => rfl
  rw [ht, readAny?_of_year ha, hday, Option.or_none]
  obtain rfl | rfl := hs
  case inl =>
    have hat : read? (yearMonthDay ++ .literal 'T' :: timeOfDay)
        (a ++ '-' :: (b ++ '-' :: (c ++ ' ' :: (d ++ ':' :: (e ++ ':' :: f))))) = none :=
      read?_yearMonthDay_of_refused ha hb hc hn fun _ => rfl
    have hsp : Text.trimStart (' ' :: (d ++ ':' :: (e ++ ':' :: f))) = d ++ ':' :: (e ++ ':' :: f) :=
      trimStart_append hd.digits hd.ne_nil
    rw [hat, Option.or_none]
    refine read?_yearMonthDay ha hb hc hn ⟨rfl, rfl⟩ ?_
    rw [readFrom?_space, hsp]
    exact readFrom?_timeOfDay hd he hf
  case inr =>
    have hr (parts : DateParts) : readFrom? parts ('T' :: (d ++ ':' :: (e ++ ':' :: f))) timeOfDay =
        none := readFrom?_of_no_number rfl rfl rfl (by decide)
    have hsp : read? (yearMonthDay ++ .space :: timeOfDay)
        (a ++ '-' :: (b ++ '-' :: (c ++ 'T' :: (d ++ ':' :: (e ++ ':' :: f))))) = none :=
      read?_yearMonthDay_of_refused ha hb hc hn hr
    rw [hsp, Option.none_or]
    refine read?_yearMonthDay ha hb hc hn ⟨rfl, rfl⟩ ?_
    exact readFrom?_timeOfDay hd he hf

end YearFirst
end Format

open Format

theorem isReadable_slashed (ha : Numeral 2 a) (hb : Numeral 2 b) (hc : Numeral 4 c) :
    IsReadable (a ++ '/' :: b ++ '/' :: c) ↔
      DateParts.isMoment { year := value c, month := value b, day := value a } ∨
      DateParts.isMoment { year := value c, month := value a, day := value b } := by
  rw [isReadable_iff, readAny?_slashed ha hb hc, Option.isSome_or, Bool.or_eq_true,
    DateParts.isSome_moment?, DateParts.isSome_moment?]

theorem isReadable_named (ha : Numeral 2 a) (hb : Month.IsName k b) (hc : Numeral 4 c) :
    IsReadable (a ++ '-' :: b ++ '-' :: c) ↔
      DateParts.isMoment { year := value c, month := k, day := value a } := by
  rw [isReadable_iff, readAny?_named ha hb hc, DateParts.isSome_moment?]

theorem isReadable_namedShort (ha : Numeral 2 a) (hb : Month.IsName k b) (hc : Numeral 2 c) :
    IsReadable (a ++ '-' :: b ++ '-' :: c) ↔
      DateParts.isMoment { year := centuryOf (value c), month := k, day := value a } := by
  rw [isReadable_iff, readAny?_namedShort ha hb hc, DateParts.isSome_moment?]

theorem isReadable_yearFirst (ha : Numeral 4 a) (hb : Numeral 2 b) (hc : Numeral 2 c) :
    IsReadable (a ++ '-' :: b ++ '-' :: c) ↔
      DateParts.isMoment { year := value a, month := value b, day := value c } := by
  rw [isReadable_iff, readAny?_yearFirst ha hb hc, DateParts.isSome_moment?]

theorem isReadable_yearFirstAt (ha : Numeral 4 a) (hb : Numeral 2 b) (hc : Numeral 2 c)
    (hs : separator = ' ' ∨ separator = 'T')
    (hd : Numeral 2 d) (he : Numeral 2 e) (hf : Numeral 2 f) :
    IsReadable (a ++ '-' :: b ++ '-' :: c ++ separator :: d ++ ':' :: e ++ ':' :: f) ↔
      DateParts.isMoment { year := value a, month := value b, day := value c,
                           hour := value d, minute := value e, second := value f } := by
  rw [isReadable_iff, readAny?_yearFirstAt ha hb hc hs hd he hf, DateParts.isSome_moment?]

end Readings

-- Of all meanings of a text at least one must be a moment.
theorem isReadable_iff_of_writes (h : Writes t parts) :
    Format.IsReadable t ↔ ∃ parts, Writes t parts ∧ parts.isMoment := by
  constructor
  case mp =>
    intro hr
    cases h
    case dayFirst hd hm hy =>
      obtain hp | hp := (isReadable_slashed hd hm hy).mp hr
      case inl => exact ⟨_, .dayFirst hd hm hy, hp⟩
      case inr => exact ⟨_, .monthFirst hd hm hy, hp⟩
    case monthFirst hm hd hy =>
      obtain hp | hp := (isReadable_slashed hm hd hy).mp hr
      case inl => exact ⟨_, .dayFirst hm hd hy, hp⟩
      case inr => exact ⟨_, .monthFirst hm hd hy, hp⟩
    case named hd hm hy => exact ⟨_, .named hd hm hy, (isReadable_named hd hm hy).mp hr⟩
    case namedShort hd hm hy =>
      exact ⟨_, .namedShort hd hm hy, (isReadable_namedShort hd hm hy).mp hr⟩
    case yearFirst hy hm hd => exact ⟨_, .yearFirst hy hm hd, (isReadable_yearFirst hy hm hd).mp hr⟩
    case yearFirstAt hy hm hd ht hh hi hs =>
      exact ⟨_, .yearFirstAt hy hm hd ht hh hi hs,
        (isReadable_yearFirstAt hy hm hd ht hh hi hs).mp hr⟩
  case mpr =>
    rintro ⟨parts, h, hp⟩
    cases h
    case dayFirst hd hm hy => exact (isReadable_slashed hd hm hy).mpr (.inl hp)
    case monthFirst hm hd hy => exact (isReadable_slashed hm hd hy).mpr (.inr hp)
    case named hd hm hy => exact (isReadable_named hd hm hy).mpr hp
    case namedShort hd hm hy => exact (isReadable_namedShort hd hm hy).mpr hp
    case yearFirst hy hm hd => exact (isReadable_yearFirst hy hm hd).mpr hp
    case yearFirstAt hy hm hd ht hh hi hs =>
      exact (isReadable_yearFirstAt hy hm hd ht hh hi hs).mpr hp

section Stamps

variable {t : Text}

theorem Stamp.read?_eq : Stamp.read? t = (Instant.read? t.trim).or (Format.readAny? t.trim) := by
  rw [Format.readAny?, List.findSome?_append]
  rfl

theorem Stamp.isSome_read_iff : (Stamp.read? t).isSome ↔
    (Instant.read? t.trim).isSome ∨ Format.IsReadable t.trim := by
  rw [Stamp.read?_eq, Option.isSome_or, Bool.or_eq_true, Format.isReadable_iff]

-- Formats read nothing beyond ASCII but white space.
theorem Format.plain_of_isReadable (h : IsReadable t) : t.all isPlain := by
  obtain ⟨f, hf, h⟩ := h
  obtain ⟨parts, hr, -⟩ := isSome_read_iff.mp h
  have hl : ∀ f ∈ timestamps ++ dates, f.all isPlainItem := by decide
  exact plain_of_readFrom (hl f hf) hr

end Stamps

end FlatQuery
