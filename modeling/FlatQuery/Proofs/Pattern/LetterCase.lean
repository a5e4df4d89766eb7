import FlatQuery.Proofs.Query.Calls
import FlatQuery.Proofs.Text.LetterCase
import FlatQuery.Query.Comparison

namespace FlatQuery

variable {t : Text} {c : Char}

namespace Split

def lowerAscii (s : Split) : Split :=
  ⟨s.head.lowerAscii, s.tail.map fun (delimiter, text) => (delimiter.lowerAscii, text.lowerAscii)⟩

theorem pieces_lowerAscii {s : Split} : s.lowerAscii.pieces = s.pieces.map Text.lowerAscii := by
  simp [pieces, lowerAscii, List.flatMap_map, List.map_flatMap]

end Split

section Words

theorem afterFolded_lowerAscii {word : Text} :
    afterFolded word t.lowerAscii = (afterFolded word t).map Text.lowerAscii := by
  induction word generalizing t
  case nil => rfl
  case cons letter word hi =>
    cases t
    case nil => rfl
    case cons c t =>
      have hc : Text.lowerAscii (c :: t) = c.toLower :: Text.lowerAscii t := rfl
      rw [hc, afterFolded, afterFolded, caseBlind_foldsTo letter c, hi]
      split <;> rfl

theorem startsWord_lowerAscii : startsWord t.lowerAscii = startsWord t := by
  cases t
  case nil => rfl
  case cons c t => exact caseBlind_isWordChar c

end Words

namespace Pattern

variable {p : Pattern}

-- A pattern that takes as much of the text in lower case.
def CaseBlind (p : Pattern) : Prop :=
  ∀ prev t, p.matchLength (prev.map Char.toLower) t.lowerAscii = p.matchLength prev t

section Patterns

theorem caseBlind_wholeWord {words : List Text} {nonempty : ∀ w ∈ words, w ≠ []} :
    CaseBlind (wholeWord words nonempty) := by
  intro prev t
  have hp : (prev.map Char.toLower).any isWordChar = prev.any isWordChar := by
    cases prev
    case none => rfl
    case some c => exact caseBlind_isWordChar c
  simp only [wholeWord, wholeWordLength, hp, afterFolded_lowerAscii]
  congr 2
  funext word
  cases afterFolded word t
  case none => rfl
  case some rest => simp only [Option.map_some, startsWord_lowerAscii]

theorem matchLength_cons : Comparison.matchLength (c :: t) =
    if (c = '!' ∨ c = '<' ∨ c = '>') ∧ t.head? = some '=' then some 2
    else if c = '=' ∨ c = '<' ∨ c = '>' then some 1 else none := by
  unfold Comparison.matchLength
  split <;> simp_all [List.head?_eq_some_iff]

theorem caseBlind_comparisons : CaseBlind comparisons := by
  intro _ t
  cases t
  case nil => rfl
  case cons c t =>
    have hc : Text.lowerAscii (c :: t) = c.toLower :: Text.lowerAscii t := rfl
    have hs {d : Char} (hd : d.isAlpha = false) : c.toLower = d ↔ c = d := toLower_eq_iff hd
    simp only [comparisons, hc, matchLength_cons, Text.head?_lowerAscii (c := '=') (by decide),
      hs (d := '!') (by decide), hs (d := '<') (by decide), hs (d := '>') (by decide),
      hs (d := '=') (by decide)]

theorem caseBlind_isCallFieldChar : FlatQuery.CaseBlind isCallFieldChar :=
  (caseBlind_isAsciiWordChar.or (caseBlind_beq (by decide))).or (caseBlind_beq (by decide))

-- What follows the name: a field in parentheses.
theorem lengthOfCall_eq : lengthOfCall f t = (afterFolded f.name t).bind fun rest =>
    if rest.head? = some '(' ∧ (rest.tail.dropWhile isCallFieldChar).head? = some ')' ∧
      (rest.tail.takeWhile isCallFieldChar).isEmpty = false
    then some (f.name.length + (rest.tail.takeWhile isCallFieldChar).length + 2) else none := by
  rw [lengthOfCall]
  split
  case h_2 =>
    cases h : afterFolded f.name t
    case none => rfl
    case some rest => simp_all [List.head?_eq_some_iff]
  case h_1 rest h =>
    rw [h]
    simp only [Option.bind_some, List.head?_cons, List.tail_cons, true_and]
    split
    case h_1 hd => cases (rest.takeWhile isCallFieldChar).isEmpty <;> simp [hd]
    case h_2 => simp_all [List.head?_eq_some_iff]

theorem lengthOfCall_lowerAscii (f : AggregateFunction) :
    lengthOfCall f t.lowerAscii = lengthOfCall f t := by
  rw [lengthOfCall_eq, afterFolded_lowerAscii, lengthOfCall_eq]
  cases afterFolded f.name t
  case none => rfl
  case some rest =>
    simp only [Option.map_some, Option.bind_some, Text.tail_lowerAscii,
      Text.head?_lowerAscii (c := '(') (by decide), Text.head?_lowerAscii (c := ')') (by decide),
      Text.takeWhile_lowerAscii caseBlind_isCallFieldChar,
      Text.dropWhile_lowerAscii caseBlind_isCallFieldChar, Text.isEmpty_lowerAscii,
      Text.length_lowerAscii]

theorem caseBlind_aggregateCalls : CaseBlind aggregateCalls := by
  intro _ t
  simp only [aggregateCalls, callLength_eq, lengthOfCall_lowerAscii]

end Patterns

section Cuts

theorem cutAround_lowerAscii {spans : List Span} :
    cutAround t.lowerAscii i spans = (cutAround t i spans).lowerAscii := by
  induction spans generalizing i
  case nil => simp [cutAround, Split.lowerAscii, Text.drop_lowerAscii]
  case cons s later hi => simp [cutAround, Split.lowerAscii, Text.slice_lowerAscii, hi]

variable (hp : p.CaseBlind)
include hp

theorem CaseBlind.spansFrom_eq (prev : Option Char) (pos skip : Nat) :
    p.spansFrom (prev.map Char.toLower) pos skip t.lowerAscii = p.spansFrom prev pos skip t := by
  induction t generalizing prev pos skip
  case nil => rfl
  case cons c t hi =>
    have hc : Text.lowerAscii (c :: t) = c.toLower :: Text.lowerAscii t := rfl
    have hi := hi (some c)
    rw [Option.map_some] at hi
    rw [hc]
    cases skip
    case succ => rw [spansFrom, spansFrom, hi]
    case zero =>
      rw [spansFrom, spansFrom, ← hc, hp]
      split <;> rw [hi]

theorem CaseBlind.spans_eq : p.spans t.lowerAscii = p.spans t :=
  hp.spansFrom_eq none 0 0

theorem CaseBlind.occursIn_eq : p.occursIn t.lowerAscii = p.occursIn t := by
  rw [occursIn, hp.spans_eq, occursIn]

theorem CaseBlind.split_eq : p.split t.lowerAscii = (p.split t).lowerAscii := by
  rw [split, hp.spans_eq, cutAround_lowerAscii, split]

theorem CaseBlind.usable?_eq : p.usable? t.lowerAscii =
    (p.usable? t).map (·.map Text.lowerAscii) := by
  have hn (piece : Text) : piece.lowerAscii.trim.eqIgnoringCase "not".toList =
      piece.trim.eqIgnoringCase "not".toList := by
    rw [Text.trim_lowerAscii, Text.eqIgnoringCase_lowerAscii_left]
  simp only [usable?, hp.split_eq, Split.pieces_lowerAscii, List.any_map, List.filter_map,
    Function.comp_def, Text.allBlank_lowerAscii, hn]
  split
  case isFalse => rfl
  case isTrue => split <;> rfl

-- What is kept of a split does not hang on letter case, and is kept in lower case.
theorem CaseBlind.texts?_eq : p.texts? t.lowerAscii = (p.texts? t).map (·.map Text.lowerAscii) := by
  simp [texts?, hp.usable?_eq, List.filter_map, Function.comp_def, hp.occursIn_eq,
    Text.trim_lowerAscii]

theorem CaseBlind.delimiters?_eq :
    p.delimiters? t.lowerAscii = (p.delimiters? t).map (·.map Text.lowerAscii) := by
  simp [delimiters?, hp.usable?_eq, List.filter_map, Function.comp_def, hp.occursIn_eq,
    Text.trim_lowerAscii]

end Cuts
end Pattern

namespace Keyword

variable (k : Keyword) (t : Text)

@[simp]
theorem spans_lowerAscii : k.spans t.lowerAscii = k.spans t :=
  Pattern.caseBlind_wholeWord.spans_eq

@[simp]
theorem starts_lowerAscii : k.starts t.lowerAscii = k.starts t := by
  rw [starts, spans_lowerAscii, starts]

@[simp]
theorem first?_lowerAscii : k.first? t.lowerAscii = k.first? t :=
  congrArg List.head? (k.spans_lowerAscii t)

@[simp]
theorem last?_lowerAscii : k.last? t.lowerAscii = k.last? t :=
  congrArg List.getLast? (k.spans_lowerAscii t)

@[simp]
theorem count_lowerAscii : k.count t.lowerAscii = k.count t :=
  congrArg List.length (k.spans_lowerAscii t)

@[simp]
theorem occursIn_lowerAscii : k.occursIn t.lowerAscii = k.occursIn t :=
  Pattern.caseBlind_wholeWord.occursIn_eq

end Keyword
end FlatQuery
