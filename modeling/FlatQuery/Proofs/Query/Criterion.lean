import FlatQuery.Proofs.Query.Comparisons
import FlatQuery.Proofs.Query.Printed

namespace FlatQuery

namespace Text

variable {t u v : Text} {c : Char}

-- The text up to its first white space.
def firstWord (t : Text) : Text :=
  t.takeWhile (!isBlank ·)

def isNot (t : Text) : Bool :=
  t.eqIgnoringCase "not".toList

theorem isAsciiWordChar_of_isNot (h : t.isNot) (hc : c ∈ t) : isAsciiWordChar c := by
  have hw := Dialect.Spelling.all_isAsciiWordChar ⟨t, eq_of_beq h⟩ (by decide)
  exact List.all_eq_true.mp hw c hc

theorem firstWord_append_cons (hc : isBlank c) : firstWord (u ++ c :: v) = firstWord u := by
  rw [firstWord, List.takeWhile_append, List.takeWhile_cons_of_neg (by simp [hc])]
  split
  case isFalse => rfl
  case isTrue hl => rw [List.append_nil, firstWord, (List.takeWhile_prefix _).eq_of_length hl]

theorem firstWord_eq_self (h : ∀ c ∈ t, isBlank c = false) : firstWord t = t :=
  List.takeWhile_eq_self_iff.mpr fun c hc => by simp [h c hc]

theorem stripNot_eq (t : Text) : stripNot t =
    if isNot (firstWord t.trimStart) then
      (true, trim (t.trimStart.dropWhile (!isBlank ·)))
    else
      (false, t.trim) :=
  rfl

end Text

namespace Dialect

-- Neither a quote, nor a parenthesis, nor a sign of comparison.
def isValueChar (c : Char) : Bool :=
  !Text.isQuote c && !(['(', ')', '=', '<', '>'].contains c)

-- What stands between quotes.
structure Value where
  text  : Text
  plain : text.all isValueChar
  free  : reserved.occursIn text = false

-- White space, which may be missing.
structure Gap where
  text  : Text
  blank : text.all isBlank

-- Around the operator there may be any white space, and in the value anything but quotes,
-- parentheses, signs and reserved words.
structure Criterion where
  negation : Option (Spelling Keyword.not.letters)
  field    : Word
  before   : Gap
  operator : Comparison
  after    : Gap
  quote    : Char
  quotes   : Text.isQuote quote
  value    : Value

namespace Criterion

variable (c : Criterion)

-- The value as it stands between its quotes.
def quoted : Text :=
  c.quote :: c.value.text ++ [c.quote]

def condition : Text :=
  c.field.text ++ c.before.text ++ (c.operator.symbol ++ (c.after.text ++ c.quoted))

def text : Text :=
  match c.negation with
  | none => c.condition
  | some n => n.text ++ ' ' :: c.condition

def predicate : Predicate :=
  ⟨c.field.text, c.operator, c.value.text, c.negation.isSome⟩

def connectives : List Connective :=
  match c.negation with
  | none => []
  | some _ => [.not]

end Criterion

section Words

variable {c : Char} {u : Text}

-- A field is not called `not`.
theorem Word.stripNot_append (w : Word) (hc : isWordChar c = false)
    (ht : (w.text ++ c :: u).Tight) : Text.stripNot (w.text ++ c :: u) = (false, w.text ++ c :: u) := by
  have hw : ∀ d ∈ w.text, isBlank d = false := fun d hd =>
    not_isBlank_of_isAsciiWordChar (w.isAsciiWordChar hd)
  have hn : ¬Text.isNot (Text.firstWord (w.text ++ c :: u)) := by
    intro h
    cases hb : isBlank c
    case true =>
      rw [Text.firstWord_append_cons hb, Text.firstWord_eq_self hw] at h
      exact w.free (eq_of_beq h ▸ by decide)
    case false =>
      have hm : c ∈ Text.firstWord (w.text ++ c :: u) := by
        rw [Text.firstWord, List.takeWhile_append_of_pos (by simpa using hw),
          List.takeWhile_cons_of_pos (by simp [hb])]
        simp
      rw [isWordChar_of_isAsciiWordChar (Text.isAsciiWordChar_of_isNot h hm)] at hc
      contradiction
  rw [Text.stripNot_eq, ht.trimStart_eq, if_neg hn, ht.trim_eq]

-- A negation is taken off.
theorem Spelling.stripNot_append (n : Spelling Keyword.not.letters) (hu : u.Tight) :
    Text.stripNot (n.text ++ ' ' :: u) = (true, u) := by
  have hw := n.all_isAsciiWordChar (by decide)
  have hb : ∀ d ∈ n.text, isBlank d = false := fun d hd =>
    not_isBlank_of_isAsciiWordChar (List.all_eq_true.mp hw d hd)
  have ht : (n.text ++ ' ' :: u).Tight := by
    simpa using (tight_of_all hw (n.ne_nil (by decide))).append hu [' ']
  have hn : Text.isNot n.text := by
    rw [Text.isNot, Text.eqIgnoringCase, n.spelled]
    decide
  have hu : Text.trim (' ' :: u) = u := by
    simpa using hu.trim_padded (u := [' ']) (v := []) rfl rfl
  rw [Text.stripNot_eq, ht.trimStart_eq, Text.firstWord_append_cons isBlank_space,
    Text.firstWord_eq_self hb, if_pos hn, List.dropWhile_append_of_pos (by simpa using hb)]
  simp [hu]

end Words

namespace Value

variable (v : Value) {c : Char}

theorem mem_text (hc : c ∈ v.text) : isValueChar c :=
  List.all_eq_true.mp v.plain c hc

theorem not_isQuote (hc : c ∈ v.text) : Text.isQuote c = false := by
  have := v.mem_text hc
  simp_all [isValueChar]

theorem not_isSign (hc : c ∈ v.text) : isSign c = false := by
  have := v.mem_text hc
  simp_all [isValueChar, isSign]

theorem freeOf : FreeOf reservedWords v.text :=
  Pattern.occursIn_eq_false_iff_freeOf.mp v.free

end Value

section Quotes

variable {c : Char} {t : Text}

-- A quote is neither a word character nor a blank, nor a sign, nor a parenthesis.
theorem quote_cases (h : Text.isQuote c) : c = '\x27' ∨ c = '"' := by
  simpa [Text.isQuote] using h

theorem not_isWordChar_of_isQuote (h : Text.isQuote c) : isWordChar c = false := by
  obtain rfl | rfl := quote_cases h <;> decide

theorem not_isBlank_of_isQuote (h : Text.isQuote c) : isBlank c = false := by
  obtain rfl | rfl := quote_cases h <;> decide

theorem tight_quoted (h : Text.isQuote c) (t : Text) : Text.Tight (c :: t ++ [c]) where
  head := by simpa using not_isBlank_of_isQuote h
  last := by
    rw [List.getLast?_concat]
    simpa using not_isBlank_of_isQuote h

-- Quotes inside a text are kept when those around it are taken off, if none stands at its ends.
theorem stripQuotes_enclosed (h : Text.isQuote c) (hh : ∀ d ∈ t.head?, Text.isQuote d = false)
    (hl : ∀ d ∈ t.getLast?, Text.isQuote d = false) : Text.stripQuotes (c :: t ++ [c]) = t := by
  have hq : c :: t ++ [c] = [c] ++ (t ++ [c]) := rfl
  rw [Text.stripQuotes, hq, Text.strip_all_append (by simpa), Text.strip_append_all (by simpa),
    Text.strip_eq_self hh hl]

theorem stripQuotes_quoted (h : Text.isQuote c) (ht : ∀ d ∈ t, Text.isQuote d = false) :
    Text.stripQuotes (c :: t ++ [c]) = t :=
  stripQuotes_enclosed h (fun d hd => ht d (List.mem_of_head? hd))
    fun d hd => ht d (List.mem_of_getLast? hd)

-- A quoted literal is told from the operator whatever is in it, unless white space and signs meet.
theorem ofText?_quoted {field : Text} (op : Comparison) (hf : field.Tight)
    (h : (∀ d ∈ field ++ t, isBlank d = false) ∨ ∀ d ∈ field ++ t, isSign d = false) :
    Condition.ofText? (field ++ ' ' :: (op.symbol ++ ' ' :: ('\x27' :: t ++ ['\x27']))) =
      some ⟨field, op.symbol, '\x27' :: t ++ ['\x27']⟩ := by
  have enclosed {q : Char → Bool} (hq : q '\x27' = false) (h : ∀ d ∈ field ++ t, q d = false) :
      ∀ d ∈ field ++ ('\x27' :: t ++ ['\x27']), q d = false := by
    simp only [List.forall_mem_append, List.forall_mem_cons] at h ⊢
    exact ⟨h.left, ⟨hq, h.right⟩, hq, by simp⟩
  exact Condition.ofText?_spaced op hf (tight_quoted rfl t)
    (h.imp (enclosed (by decide)) (enclosed (by decide)))

end Quotes

namespace Criterion

variable (c : Criterion)

def parts : Condition :=
  ⟨c.field.text, c.operator.symbol, c.quoted⟩

theorem tight_quoted : c.quoted.Tight :=
  Dialect.tight_quoted c.quotes c.value.text

theorem tight_condition : c.condition.Tight := by
  have h := c.field.tight.append c.tight_quoted
    (c.before.text ++ c.operator.symbol ++ c.after.text)
  simpa [condition] using h

theorem tight_text : c.text.Tight := by
  rw [text]
  split
  case h_1 => exact c.tight_condition
  case h_2 n _ =>
    have hn := tight_of_all (n.all_isAsciiWordChar (by decide)) (n.ne_nil (by decide))
    simpa using hn.append c.tight_condition [' ']

-- The operator is the only one in the condition, so that it comes apart there.
theorem ofText?_condition : Condition.ofText? c.condition = some c.parts := by
  refine Condition.ofText?_of_operands c.operator c.field.tight (fun d hd => ?_) c.before.blank
    c.after.blank c.tight_quoted fun d hd => ?_
  case refine_1 => exact not_isComparisonChar_of_isAsciiWordChar (c.field.isAsciiWordChar hd)
  case refine_2 =>
    have hq : isSign c.quote = false := by
      obtain h | h := quote_cases c.quotes <;> rw [h] <;> decide
    simp only [quoted, List.mem_append, List.mem_cons, List.not_mem_nil, or_false] at hd
    obtain (rfl | hd) | rfl := hd
    case inl.inr => exact c.value.not_isSign hd
    all_goals exact hq

-- What stands between the field and the value has no word characters.
theorem no_wordChar : ∀ d ∈ c.before.text ++ c.operator.symbol ++ c.after.text,
    isWordChar d = false := by
  have ho : ∀ d ∈ c.operator.symbol, isWordChar d = false := by
    cases c.operator <;> exact none_of_all (by decide)
  simp only [List.forall_mem_append]
  exact ⟨⟨none_of_blank c.before.blank, ho⟩, none_of_blank c.after.blank⟩

theorem condition_eq : c.condition =
    (c.field.text ++ (c.before.text ++ c.operator.symbol ++ c.after.text)) ++ c.quoted := by
  simp [condition]

theorem stripNot_text : Text.stripNot c.text = (c.negation.isSome, c.condition) := by
  rw [text]
  cases c.negation
  case some n => exact n.stripNot_append c.tight_condition
  case none =>
    obtain ⟨d, m, hm⟩ := List.exists_cons_of_ne_nil
      (l := c.before.text ++ c.operator.symbol ++ c.after.text) (by simp [c.operator.symbol_ne_nil])
    have hd : isWordChar d = false := c.no_wordChar d (by simp [hm])
    have he : c.condition = c.field.text ++ d :: (m ++ c.quoted) := by
      simp [condition_eq, hm]
    have ht := c.tight_condition
    rw [he] at ht ⊢
    exact c.field.stripNot_append hd ht

theorem parse_text : Predicate.parse c.text = .ok c.predicate := by
  have hv : Text.stripQuotes c.quoted = c.value.text :=
    stripQuotes_quoted c.quotes fun _ => c.value.not_isQuote
  simp [Predicate.parse, c.stripNot_text, c.ofText?_condition, parts, c.operator.parse_symbol, hv,
    predicate, bind, Except.bind, pure, Except.pure]

theorem freeOf_condition : FreeOf reservedWords c.condition := by
  have hs := solid_reservedWords
  have hq := not_isWordChar_of_isQuote c.quotes
  rw [condition_eq, quoted, List.cons_append, hs.freeOf_append_cons hq, hs.freeOf_append_cons hq,
    hs.freeOf_append (.inr (startsWord_of_none c.no_wordChar))]
  exact ⟨⟨c.field.freeOf, hs.freeOf_of_none c.no_wordChar⟩, c.value.freeOf, hs.freeOf_nil⟩

theorem freeOf_text {words : List Text} (hs : Solid words) (hr : words ⊆ reservedWords)
    (hn : Keyword.not.letters ∉ words) : FreeOf words c.text := by
  have hc := c.freeOf_condition.subset hr
  rw [text]
  split
  case h_1 => exact hc
  case h_2 n _ =>
    rw [hs.freeOf_append_cons not_isWordChar_space]
    exact ⟨n.freeOf (by decide) hn, hc⟩

-- The characters of a condition, of which a parenthesis is none.
theorem mem_text {d : Char} (h : d ∈ c.text) : isAsciiWordChar d ∨ isBlank d ∨
    isComparisonChar d ∨ isValueChar d ∨ Text.isQuote d := by
  have hc (h : d ∈ c.condition) : isAsciiWordChar d ∨ isBlank d ∨ isComparisonChar d ∨
      isValueChar d ∨ Text.isQuote d := by
    have ho : ∀ d ∈ c.operator.symbol, isComparisonChar d :=
      List.all_eq_true.mp (by cases c.operator <;> decide)
    simp only [condition, quoted, List.mem_append, List.mem_cons, List.not_mem_nil, or_false] at h
    obtain (h | h) | h | h | (rfl | h) | rfl := h
    case inl.inl => exact .inl (c.field.isAsciiWordChar h)
    case inl.inr => exact .inr (.inl (List.all_eq_true.mp c.before.blank d h))
    case inr.inl => exact .inr (.inr (.inl (ho d h)))
    case inr.inr.inl => exact .inr (.inl (List.all_eq_true.mp c.after.blank d h))
    case inr.inr.inr.inl.inr => exact .inr (.inr (.inr (.inl (c.value.mem_text h))))
    all_goals exact .inr (.inr (.inr (.inr c.quotes)))
  rw [text] at h
  split at h
  case h_1 => exact hc h
  case h_2 n _ =>
    obtain h | rfl | h := by simpa using h
    case inl => exact .inl (List.all_eq_true.mp (n.all_isAsciiWordChar (by decide)) d h)
    case inr.inl => exact .inr (.inl isBlank_space)
    case inr.inr => exact hc h

end Criterion

end Dialect
end FlatQuery
