import FlatQuery.Proofs.Query.Calls
import FlatQuery.Proofs.Query.Refusals

namespace FlatQuery

variable {t u name field rest : Text} {f g : AggregateFunction}

namespace AggregateFunction

-- A function is called by letters.
theorem ne_nil_of_parse (h : parse t = .ok f) : t ≠ [] := by
  rintro rfl
  exact f.name_ne_nil (parse_eq_ok_iff.mp h).symm

theorem not_mem_of_parse (h : parse t = .ok f) : '(' ∉ t := by
  rw [← List.contains_iff_mem, ← Text.contains_strip (p := isBlank) (by decide),
    List.contains_iff_mem]
  intro hc
  have hw := Dialect.Spelling.all_isAsciiWordChar ⟨t.trim, parse_eq_ok_iff.mp h⟩ f.isLower_name
  exact absurd (List.all_eq_true.mp hw _ hc) (by decide)

end AggregateFunction

-- A call begins with a letter and ends with a parenthesis.
theorem IsCall.tight (h : IsCall f t) : t.Tight where
  head := by
    have hs := h.startsWord
    cases t
    case nil => contradiction
    case cons c t => simp [not_isBlank_of_isWordChar (c := c) hs]
  last := by
    obtain ⟨u, rfl, -⟩ := h.exists_concat
    rw [List.getLast?_concat]
    decide

namespace AggregateCall

variable {c : AggregateCall}

-- The name of the function stands before the only opening parenthesis, and `rest` after it.
def Opens (t : Text) (f : AggregateFunction) (rest : Text) : Prop :=
  ∃ name, t.trim = name ++ '(' :: rest ∧ (Text.trim name).lowerAscii = f.name ∧ '(' ∉ rest

-- `function(field)`, where the field is there and has no parentheses.
def Written (t : Text) (c : AggregateCall) : Prop :=
  ∃ field, Opens t c.function (field ++ [')']) ∧ ')' ∉ field ∧ Text.allBlank field = false ∧
    c.field = Text.trim field

-- What can be wrong after the opening parenthesis.
inductive Slip (rest : Text) : Prop
  | unclosed (h : rest.getLast? ≠ some ')')
  | stray (h : ')' ∈ rest.dropLast)
  | blank (h : Text.allBlank rest.dropLast)

-- There is one opening parenthesis at which the text can be cut.
theorem Opens.of_append (h : Opens t f rest) (ht : t.trim = name ++ '(' :: u) (hu : '(' ∉ u) :
    rest = u ∧ AggregateFunction.parse name = .ok f := by
  obtain ⟨name', ho, hn, hr⟩ := h
  have hc := Text.cutAtLast_append (u := name) hu
  rw [← ht, ho, Text.cutAtLast_append hr] at hc
  obtain ⟨rfl, rfl⟩ := Prod.mk.inj (Option.some.inj hc)
  exact ⟨rfl, AggregateFunction.parse_eq_ok_iff.mpr hn⟩

theorem Opens.unique (h : Opens t f rest) (h' : Opens t g u) : f = g ∧ rest = u := by
  obtain ⟨name, ht, hn, hu⟩ := h'
  obtain ⟨rfl, hp⟩ := h.of_append ht hu
  exact ⟨Except.ok.inj (hp.symm.trans (AggregateFunction.parse_eq_ok_iff.mpr hn)), rfl⟩

-- All that is asked of the field is to have anything but closing parentheses.
theorem parse_eq_ok_iff : parse t = .ok c ↔ ∃ rest, Opens t c.function rest ∧
    (∃ d ∈ rest, d ≠ ')') ∧ c.field = Text.trim (Text.strip (· == ')') rest) := by
  have hs {rest : Text} : Text.strip (· == ')') rest ≠ [] ↔ ∃ d ∈ rest, d ≠ ')' := by
    rw [ne_eq, Text.strip_eq_nil_iff]
    simp
  constructor
  case mp =>
    intro h
    rw [parse] at h
    split at h
    case h_1 => contradiction
    case h_2 name field hc =>
      obtain ⟨rest, ht, -, hr, -, hf, rfl⟩ := split?_eq_some_iff.mp hc
      obtain ⟨f, hp, h⟩ := except_bind_eq_ok.mp h
      obtain rfl := Except.ok.inj h
      exact ⟨rest, ⟨name, ht, AggregateFunction.parse_eq_ok_iff.mp hp, hr⟩, hs.mp hf, rfl⟩
  case mpr =>
    rintro ⟨rest, ⟨name, ht, hn, hr⟩, hd, hf⟩
    have hp := AggregateFunction.parse_eq_ok_iff.mpr hn
    have hc : split? t = some (name, Text.strip (· == ')') rest) :=
      split?_eq_some_iff.mpr ⟨rest, ht, AggregateFunction.not_mem_of_parse hp, hr,
        AggregateFunction.ne_nil_of_parse hp, hs.mpr hd, rfl⟩
    simp only [parse, hc, hp, ← hf]
    rfl

theorem not_slip_iff : ¬Slip rest ↔
    ∃ field, rest = field ++ [')'] ∧ ')' ∉ field ∧ Text.allBlank field = false := by
  constructor
  case mp =>
    intro h
    have hl : rest.getLast? = some ')' := by
      by_contra hl
      exact h (.unclosed hl)
    refine ⟨rest.dropLast, (List.dropLast_append_getLast? _ hl).symm, fun hs => h (.stray hs), ?_⟩
    exact Bool.eq_false_iff.mpr fun hb => h (.blank hb)
  case mpr =>
    rintro ⟨field, rfl, hc, hb⟩ (hl | hs | hb')
    case unclosed => simp at hl
    case stray => simp [hc] at hs
    case blank => simp [hb] at hb'

-- A text that opens a call without a slip is written as one.
theorem exists_written_iff (h : Opens t f rest) : (∃ c, Written t c) ↔ ¬Slip rest := by
  rw [not_slip_iff]
  constructor
  case mp =>
    rintro ⟨c, field, ho, hc, hb, -⟩
    exact ⟨field, (h.unique ho).right, hc, hb⟩
  case mpr =>
    rintro ⟨field, rfl, hc, hb⟩
    exact ⟨⟨f, Text.trim field⟩, field, h, hc, hb, rfl⟩

theorem parse_of_written (h : Written t c) : parse t = .ok c := by
  obtain ⟨field, ho, hc, hb, hf⟩ := h
  refine parse_eq_ok_iff.mpr ⟨_, ho, ?_, by rwa [strip_closing hc]⟩
  obtain ⟨d, hd, -⟩ := List.all_eq_false.mp hb
  exact ⟨d, by simp [hd], fun he => hc (he ▸ hd)⟩

theorem written_of_parse (h : parse t = .ok c) (ho : Opens t f rest) (hs : ¬Slip rest) :
    Written t c := by
  obtain ⟨c', hw⟩ := (exists_written_iff ho).mpr hs
  obtain rfl := Except.ok.inj (h.symm.trans (parse_of_written hw))
  exact hw

-- Calls are read as they are written, and nothing else is read as one.
def Exact (t : Text) : Prop :=
  (∀ c, parse t = .ok c ↔ Written t c) ∧
    ((∀ c, ¬Written t c) → parse t = .error (.malformed .aggregate))

theorem exact_iff : Exact t ↔
    ∀ f rest, Opens t f rest → Slip rest → ∀ d ∈ rest, d = ')' := by
  constructor
  case mp =>
    intro he f rest ho hs
    by_contra hd
    have hp : parse t = .ok ⟨f, Text.trim (Text.strip (· == ')') rest)⟩ :=
      parse_eq_ok_iff.mpr ⟨rest, ho, by simpa using hd, rfl⟩
    exact (exists_written_iff ho).mp ⟨_, (he.left _).mp hp⟩ hs
  case mpr =>
    intro h
    have hw (c : AggregateCall) (hp : parse t = .ok c) : Written t c := by
      obtain ⟨rest, ho, ⟨d, hd, hn⟩, -⟩ := parse_eq_ok_iff.mp hp
      exact written_of_parse hp ho fun hs => hn (h _ _ ho hs d hd)
    refine ⟨fun c => ⟨hw c, parse_of_written⟩, fun hn => ?_⟩
    cases hp : parse t
    case ok c => exact absurd (hw c hp) (hn c)
    case error e => rw [eq_of_parse_eq_error hp]

-- A call that is found in a query has no slip.
theorem exact_of_isCall (h : IsCall f t) : Exact t := by
  have ht := h.tight.trim_eq
  obtain ⟨name, field, rfl, -, hf, hne⟩ := h
  have hf : ∀ d ∈ field, isWordChar d := fun d hd =>
    isWordChar_of_isCallFieldChar (List.all_eq_true.mp hf d hd)
  have hw {d : Char} (hd : isWordChar d = false) : d ∉ field := fun hm => by
    rw [hf d hm] at hd
    contradiction
  refine exact_iff.mpr fun g rest ho hs => absurd hs (not_slip_iff.mpr ⟨field, ?_, ?_⟩)
  case refine_1 =>
    have ho := ho.of_append (ht.trans (List.append_assoc ..)) (by simpa using hw (by decide))
    exact ho.left
  case refine_2 =>
    obtain ⟨d, hd⟩ := List.exists_mem_of_ne_nil field hne
    have hb := not_isBlank_of_isWordChar (hf d hd)
    exact ⟨hw (by decide), List.all_eq_false.mpr ⟨d, hd, by simp [hb]⟩⟩

theorem texts_aggregates {query base : Text} (h : Clause.base query = .present base) :
    (Clause.aggregates query).texts = Pattern.aggregateCalls.found base := by
  rw [Clause.aggregates, h, Clause.bind]
  split
  case h_1 hn => exact hn.symm
  case h_2 => rfl

-- A query has no calls with slips, as they are not found in it.
theorem exact_of_mem_aggregates {query : Text} (h : t ∈ (Clause.aggregates query).texts) :
    Exact t := by
  cases hb : Clause.base query
  case absent => simp [Clause.aggregates, hb, Clause.bind, Clause.texts] at h
  case malformed => simp [Clause.aggregates, hb, Clause.bind, Clause.texts] at h
  case present base =>
    rw [texts_aggregates hb] at h
    obtain ⟨f, hf⟩ := Pattern.exists_isCall_of_mem_found h
    exact exact_of_isCall hf

-- An entry of a select list is read as a call only where a call takes it as a whole.
theorem isCall_of_ofEntry? (h : ofEntry? t = some c) :
    (∃ f, IsCall f t.trim) ∧ parse t.trim = .ok c := by
  unfold ofEntry? at h
  split at h
  case isFalse => contradiction
  case isTrue hc =>
    have hm : t.trim ∈ Pattern.aggregateCalls.found t.trim :=
      List.mem_map.mpr ⟨_, List.mem_of_head? hc, by simp [Text.slice]⟩
    refine ⟨Pattern.exists_isCall_of_mem_found hm, ?_⟩
    cases hp : parse t.trim
    case error => simp [hp, Except.toOption] at h
    case ok c' =>
      rw [hp] at h
      obtain rfl := Option.some.inj h
      rfl

theorem parse_exactly (t : Text) :
    (∀ c, parse t = .ok c ↔ ∃ rest, Opens t c.function rest ∧ (∃ d ∈ rest, d ≠ ')') ∧
      c.field = Text.trim (Text.strip (· == ')') rest)) ∧
    (∀ c, Written t c → parse t = .ok c) ∧
    (∀ e, parse t = .error e → e = .malformed .aggregate) ∧
    (Exact t ↔ ∀ f rest, Opens t f rest → Slip rest → ∀ d ∈ rest, d = ')') ∧
    (∀ query, t ∈ (Clause.aggregates query).texts → Exact t) :=
  ⟨fun _ => parse_eq_ok_iff, fun _ => parse_of_written, fun _ => eq_of_parse_eq_error, exact_iff,
    fun _ => exact_of_mem_aggregates⟩

-- A parenthesis may be missing or stray, and a field may be blank.
theorem parse_slips :
    (parse "sum(x".toList = .ok ⟨.sum, ['x']⟩ ∧ ¬∃ c, Written "sum(x".toList c) ∧
    (parse "sum(x)y)".toList = .ok ⟨.sum, "x)y".toList⟩ ∧ ¬∃ c, Written "sum(x)y)".toList c) ∧
    (parse "sum( )".toList = .ok ⟨.sum, []⟩ ∧ ¬∃ c, Written "sum( )".toList c) := by
  have ho (rest : Text) (ht : Text.trim ("sum(".toList ++ rest) = "sum(".toList ++ rest)
      (hr : '(' ∉ rest) : Opens ("sum(".toList ++ rest) .sum rest :=
    ⟨"sum".toList, ht, by decide, hr⟩
  have hw (rest : Text) (ht : Text.trim ("sum(".toList ++ rest) = "sum(".toList ++ rest)
      (hr : '(' ∉ rest) (hs : Slip rest) : ¬∃ c, Written ("sum(".toList ++ rest) c :=
    fun h => (exists_written_iff (ho rest ht hr)).mp h hs
  exact ⟨⟨by decide, hw ['x'] (by decide) (by decide) (.unclosed (by decide))⟩,
    ⟨by decide, hw "x)y)".toList (by decide) (by decide) (.stray (by decide))⟩,
    ⟨by decide, hw " )".toList (by decide) (by decide) (.blank (by decide))⟩⟩

end AggregateCall
end FlatQuery
