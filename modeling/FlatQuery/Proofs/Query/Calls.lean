import FlatQuery.Proofs.Query.Printed
import FlatQuery.Query.Aggregate

namespace FlatQuery

variable {c : Char} {t u m v a b : Text}

-- The length of a call of the function at the front of the text.
def lengthOfCall (f : AggregateFunction) (t : Text) : Option Nat :=
  match afterFolded f.name t with
  | some ('(' :: rest) =>
    let field := rest.takeWhile isCallFieldChar
    match rest.dropWhile isCallFieldChar with
    | ')' :: _ => if field.isEmpty then none else some (f.name.length + field.length + 2)
    | _ => none
  | _ => none

theorem callLength_eq : callLength t = AggregateFunction.all.findSome? (lengthOfCall · t) :=
  rfl

-- `m` is a call of the function.
def IsCall (f : AggregateFunction) (m : Text) : Prop :=
  ∃ name field, m = name ++ '(' :: field ++ [')'] ∧ Spells f.name name ∧ field.all isCallFieldChar ∧
    field ≠ []

theorem exists_isCall_of_lengthOfCall (h : lengthOfCall f t = some n) :
    ∃ m v, t = m ++ v ∧ IsCall f m ∧ n = m.length := by
  rw [lengthOfCall] at h
  split at h
  case h_2 => contradiction
  case h_1 rest hr =>
    obtain ⟨name, rfl, hn⟩ := afterFolded_eq_some_iff.mp hr
    have hs := List.takeWhile_append_dropWhile (p := isCallFieldChar) (l := rest)
    have hf : (rest.takeWhile isCallFieldChar).all isCallFieldChar := by simp
    generalize rest.takeWhile isCallFieldChar = field at h hs hf
    dsimp only at h
    split at h
    case h_2 => contradiction
    case h_1 v hv =>
      split at h
      case isTrue => contradiction
      case isFalse he =>
        refine ⟨name ++ '(' :: field ++ [')'], v, ?_, ?_, ?_⟩
        case refine_1 =>
          rw [← hs, hv]
          simp
        case refine_2 => exact ⟨name, field, rfl, hn, hf, by simpa using he⟩
        case refine_3 =>
          rw [← Option.some.inj h, hn.length_eq]
          simp
          omega

-- The field of a call ends at its closing parenthesis.
theorem lengthOfCall_of_isCall (h : IsCall f m) : lengthOfCall f (m ++ v) = some m.length := by
  obtain ⟨name, field, rfl, hn, hf, hne⟩ := h
  have hr : afterFolded f.name (name ++ '(' :: field ++ [')'] ++ v) =
      some ('(' :: (field ++ ')' :: v)) :=
    afterFolded_eq_some_iff.mpr ⟨name, by simp, hn⟩
  have ht : (field ++ ')' :: v).takeWhile isCallFieldChar = field := by
    rw [List.takeWhile_append_of_pos (List.all_eq_true.mp hf),
      List.takeWhile_cons_of_neg (by decide), List.append_nil]
  have hd : (field ++ ')' :: v).dropWhile isCallFieldChar = ')' :: v := by
    rw [List.dropWhile_append_of_pos (List.all_eq_true.mp hf),
      List.dropWhile_cons_of_neg (by decide)]
  have he : field.isEmpty = false := by simpa using hne
  simp only [lengthOfCall, hr, ht, hd, he]
  simp [hn.length_eq]
  omega

theorem lengthOfCall_eq_some_iff :
    lengthOfCall f t = some n ↔ ∃ m v, t = m ++ v ∧ IsCall f m ∧ n = m.length := by
  constructor
  case mp => exact exists_isCall_of_lengthOfCall
  case mpr =>
    rintro ⟨m, v, rfl, hm, rfl⟩
    exact lengthOfCall_of_isCall hm

-- The characters that calls are made of.
def isCallChar (c : Char) : Bool :=
  isWordChar c || c == '(' || c == ')'

theorem isWordChar_of_isCallFieldChar (h : isCallFieldChar c) : isWordChar c := by
  simp only [isCallFieldChar, Bool.or_eq_true, beq_iff_eq] at h
  obtain (h | rfl) | rfl := h
  case inl.inl => exact isWordChar_of_isAsciiWordChar h
  all_goals decide +kernel

namespace IsCall

variable (h : IsCall f m)
include h

theorem isCallChar (hc : c ∈ m) : isCallChar c := by
  obtain ⟨name, field, rfl, hn, hf, -⟩ := h
  simp only [List.append_assoc, List.cons_append, List.mem_append, List.mem_cons,
    List.not_mem_nil, or_false] at hc
  obtain hc | rfl | hc | rfl := hc
  case inl =>
    simp [FlatQuery.isCallChar, List.all_eq_true.mp (hn.all_isWordChar f.isLower_name) c hc]
  case inr.inr.inl =>
    simp [FlatQuery.isCallChar, isWordChar_of_isCallFieldChar (List.all_eq_true.mp hf c hc)]
  all_goals decide

theorem startsWord : startsWord m := by
  obtain ⟨name, field, rfl, hn, -⟩ := h
  have hne : name ≠ [] := by
    rintro rfl
    exact f.name_ne_nil (List.length_eq_zero_iff.mp hn.length_eq)
  rw [List.append_assoc, startsWord_append hne,
    startsWord_of_all (hn.all_isWordChar f.isLower_name) hne]

theorem mem_open : '(' ∈ m := by
  obtain ⟨name, field, rfl, -⟩ := h
  simp

-- A parenthesis is closed at the end and nowhere else.
theorem exists_concat : ∃ u, m = u ++ [')'] ∧ ')' ∉ u := by
  obtain ⟨name, field, rfl, hn, hf, -⟩ := h
  refine ⟨name ++ '(' :: field, rfl, fun hc => ?_⟩
  have hw : isWordChar ')' = false := by decide
  simp only [List.mem_append, List.mem_cons] at hc
  obtain hc | hc | hc := hc
  case inl => simp [List.all_eq_true.mp (hn.all_isWordChar f.isLower_name) _ hc] at hw
  case inr.inl => contradiction
  case inr.inr => simp [isWordChar_of_isCallFieldChar (List.all_eq_true.mp hf _ hc)] at hw

end IsCall

-- No other character of a call is the one that closes it.
theorem IsCall.inner (h : IsCall f (u ++ c :: v)) (hv : v ≠ []) :
    FlatQuery.isCallChar c ∧ c ≠ ')' := by
  refine ⟨h.isCallChar (by simp), ?_⟩
  rintro rfl
  obtain ⟨w, hw, hc⟩ := h.exists_concat
  obtain ⟨v, d, rfl⟩ := (List.eq_nil_or_concat' v).resolve_left hv
  rw [← List.cons_append, ← List.append_assoc] at hw
  have hw := (List.append_inj' hw rfl).left
  exact hc (by simp [← hw])

-- What stands behind `v` makes no difference, if no call goes on into it.
theorem lengthOfCall_append (hn : ∀ c m r, b = c :: m ++ r → ¬IsCall f (v ++ c :: m)) :
    lengthOfCall f (v ++ b) = lengthOfCall f v := by
  refine Option.ext fun n => ?_
  rw [lengthOfCall_eq_some_iff, lengthOfCall_eq_some_iff]
  constructor
  case mpr =>
    rintro ⟨m, r, rfl, hm, rfl⟩
    exact ⟨m, r ++ b, by simp, hm, rfl⟩
  case mp =>
    rintro ⟨m, r, he, hm, rfl⟩
    obtain ⟨m', rfl, rfl⟩ | ⟨r', rfl, -⟩ := List.append_eq_append_iff.mp he
    case inr => exact ⟨m, r', rfl, hm, rfl⟩
    case inl =>
      cases m'
      case nil => exact ⟨v, [], by simp, by simpa using hm, by simp⟩
      case cons c m' => exact absurd hm (hn c m' r rfl)

namespace Pattern

theorem exists_isCall (h : callLength t = some n) :
    ∃ f m v, t = m ++ v ∧ IsCall f m ∧ n = m.length := by
  rw [callLength_eq] at h
  obtain ⟨f, -, hf⟩ := List.exists_of_findSome?_eq_some h
  exact ⟨f, lengthOfCall_eq_some_iff.mp hf⟩

theorem exists_isCall_of_mem_found (h : m ∈ aggregateCalls.found t) : ∃ f, IsCall f m := by
  obtain ⟨u, v, -, hm⟩ := exists_takes_of_mem_found h
  obtain ⟨f, m', v', he, hf, hl⟩ := exists_isCall hm
  obtain ⟨rfl, -⟩ := List.append_inj he hl
  exact ⟨f, hf⟩

theorem callLength_of_other (h : startsWord t = false) : callLength t = none := by
  cases hn : callLength t
  case none => rfl
  case some n =>
    obtain ⟨f, m, v, rfl, hm, -⟩ := exists_isCall hn
    have hs := not_startsWord_of_append h
    rw [hm.startsWord] at hs
    contradiction

-- A call does not go on beyond a character that calls have not.
theorem parted_calls (hb : ∀ c ∈ b.head?, isCallChar c = false) : aggregateCalls.Parted a b where
  right := rfl
  left {u v} _ _ := by
    have hf : (fun f => lengthOfCall f (v ++ b)) = fun f => lengthOfCall f v := by
      refine funext fun f => lengthOfCall_append fun c m r he hm => ?_
      have hc := hm.isCallChar (c := c) (by simp)
      simp [hb c (by simp [he])] at hc
    exact congrArg AggregateFunction.all.findSome? hf

-- Nor does it beyond the character that closes it.
theorem parted_calls_of_last (ha : ∀ c ∈ a.getLast?, c = ')' ∨ isCallChar c = false) :
    aggregateCalls.Parted a b where
  right := rfl
  left {u v} he hv := by
    obtain ⟨v, d, rfl⟩ := (List.eq_nil_or_concat' v).resolve_left hv
    have hd : d = ')' ∨ isCallChar d = false := ha d (by simp [he])
    have hf : (fun f => lengthOfCall f (v ++ [d] ++ b)) = fun f => lengthOfCall f (v ++ [d]) := by
      refine funext fun f => lengthOfCall_append fun c m r _ hm => ?_
      rw [List.append_assoc, List.singleton_append] at hm
      obtain ⟨hd', hn⟩ := hm.inner (by simp)
      simp [hd.resolve_left hn] at hd'
    exact congrArg AggregateFunction.all.findSome? hf

theorem parted_calls_of_none (ha : ∀ c ∈ a, isWordChar c = false) : aggregateCalls.Parted a b where
  right := rfl
  left {u v} hu hv := by
    obtain ⟨c, v, rfl⟩ := List.exists_cons_of_ne_nil hv
    have hc : startsWord (c :: v) = false := ha c (by simp [hu])
    have hc' : startsWord (c :: v ++ b) = false := hc
    exact (callLength_of_other hc').trans (callLength_of_other hc).symm

theorem found_calls_of_not_mem (h : '(' ∉ t) : aggregateCalls.found t = [] := by
  rw [found, List.map_eq_nil_iff, spans_eq_nil_iff]
  rintro u m v rfl ht
  obtain ⟨f, m', v', he, hm, -⟩ := exists_isCall ht
  have hc : '(' ∈ u ++ (m ++ v) := by simp [he, hm.mem_open]
  exact h (by simpa using hc)

-- No call goes over a character that calls have not.
theorem found_calls_cut (hc : isCallChar c = false) :
    aggregateCalls.found (a ++ c :: b) = aggregateCalls.found a ++ aggregateCalls.found b := by
  have hs : aggregateCalls.found [c] = [] := by
    refine found_calls_of_not_mem fun hm => ?_
    rw [← List.mem_singleton.mp hm] at hc
    contradiction
  have h₁ : aggregateCalls.Parted a ([c] ++ b) := parted_calls (by simpa using hc)
  have h₂ : aggregateCalls.Parted [c] b := parted_calls_of_last (by simp [hc])
  rw [← List.singleton_append, h₁.found_append, h₂.found_append, hs]
  rfl

theorem found_calls_space :
    aggregateCalls.found (a ++ ' ' :: b) = aggregateCalls.found a ++ aggregateCalls.found b :=
  found_calls_cut (by decide)

-- Nothing after a call has a say in it, since the call ends with its only closing parenthesis.
theorem takes_calls_iff : aggregateCalls.Takes u m v ↔ ∃ f, IsCall f m := by
  constructor
  case mp =>
    intro h
    obtain ⟨f, m', v', he, hf, hl⟩ := exists_isCall h
    obtain ⟨rfl, -⟩ := List.append_inj he hl
    exact ⟨f, hf⟩
  case mpr =>
    rintro ⟨f, hf⟩
    show callLength (m ++ v) = some m.length
    cases hn : callLength (m ++ v)
    case none =>
      rw [callLength_eq, List.findSome?_eq_none_iff] at hn
      have hm : f ∈ AggregateFunction.all := by cases f <;> decide
      have := hn f hm
      rw [lengthOfCall_of_isCall hf] at this
      contradiction
    case some n =>
      obtain ⟨g, m', v', he, hg, rfl⟩ := exists_isCall hn
      obtain ⟨w, rfl, hw⟩ := hf.exists_concat
      obtain ⟨w', rfl, hw'⟩ := hg.exists_concat
      rw [List.append_assoc, List.append_assoc] at he
      have hc := congrArg (Text.cutAtFirst ')') he
      have h₁ : Text.cutAtFirst ')' (w ++ ([')'] ++ v)) = some (w, v) := Text.cutAtFirst_append hw
      have h₂ : Text.cutAtFirst ')' (w' ++ ([')'] ++ v')) = some (w', v') :=
        Text.cutAtFirst_append hw'
      rw [h₁, h₂] at hc
      rw [(Prod.mk.inj (Option.some.inj hc)).left]

theorem found_call (h : IsCall f m) : aggregateCalls.found m = [m] :=
  found_of_takes (takes_calls_iff.mpr ⟨f, h⟩)

-- A call that stands by itself is found as it is.
theorem found_calls_append (ha : ∀ c ∈ a.getLast?, isCallChar c = false) (h : IsCall f m) :
    aggregateCalls.found (a ++ (m ++ b)) =
      aggregateCalls.found a ++ m :: aggregateCalls.found b := by
  have h₁ : aggregateCalls.Parted a (m ++ b) := parted_calls_of_last fun c hc => .inr (ha c hc)
  have h₂ : aggregateCalls.Parted m b := by
    obtain ⟨u, rfl, -⟩ := h.exists_concat
    exact parted_calls_of_last (by simp)
  rw [h₁.found_append, h₂.found_append, found_call h]
  rfl

-- No call has a comma, so none reaches over the end of an entry.
theorem found_calls_join {ts : List Text} :
    aggregateCalls.found (Text.join ", ".toList ts) = ts.flatMap aggregateCalls.found := by
  induction ts
  case nil => rfl
  case cons t ts hi =>
    cases ts
    case nil => simp
    case cons u ts =>
      have hj : aggregateCalls.found (' ' :: Text.join ", ".toList (u :: ts)) =
          aggregateCalls.found (Text.join ", ".toList (u :: ts)) := found_calls_space (a := [])
      have hs (r : Text) : ", ".toList ++ r = ',' :: ' ' :: r := rfl
      rw [Text.join_cons_cons, List.append_assoc, hs, found_calls_cut (by decide), hj, hi]
      rfl

end Pattern

namespace AggregateFunction

variable {f : AggregateFunction}

theorem lowerAscii_name (f : AggregateFunction) : f.name.lowerAscii = f.name := by
  cases f <;> rfl

-- No two functions have the same name.
theorem parse_eq_ok_iff : parse t = .ok f ↔ t.trim.lowerAscii = f.name := by
  have hb (g : AggregateFunction) : g.name.eqIgnoringCase t.trim = (t.trim.lowerAscii == g.name) := by
    rw [Text.eqIgnoringCase, g.lowerAscii_name, Bool.beq_comm]
  simp only [parse, hb]
  constructor
  case mp =>
    intro h
    split at h
    case h_2 => contradiction
    case h_1 g hf =>
      obtain rfl := Except.ok.inj h
      have hg := @List.find?_some _ (t.trim.lowerAscii == name ·) _ _ hf
      exact eq_of_beq hg
  case mpr =>
    intro h
    rw [h]
    cases f <;> rfl

end AggregateFunction

namespace AggregateCall

variable {name field : Text}

-- Closing parentheses after a field are taken off if the field has none.
theorem strip_closing (h : ')' ∉ field) : Text.strip (· == ')') (field ++ [')']) = field := by
  have hp : ∀ c ∈ field, (c == ')') = false := fun c hc => by
    rw [beq_eq_false_iff_ne]
    rintro rfl
    exact h hc
  rw [Text.strip_append_all (by simp), Text.strip_eq_self
    (fun c hc => hp c (List.mem_of_head? hc)) fun c hc => hp c (List.mem_of_getLast? hc)]

theorem split?_eq_some_iff : split? t = some (name, field) ↔
    ∃ rest, t.trim = name ++ '(' :: rest ∧ '(' ∉ name ∧ '(' ∉ rest ∧ name ≠ [] ∧ field ≠ [] ∧
      field = Text.strip (· == ')') rest := by
  rw [split?]
  constructor
  case mp =>
    intro h
    split at h
    case h_1 => contradiction
    case h_2 name rest hc =>
      dsimp only at h
      split at h
      case isTrue => contradiction
      case isFalse hn =>
        obtain ⟨rfl, rfl⟩ := Prod.mk.inj (Option.some.inj h)
        obtain ⟨ht, hname⟩ := Text.cutAtFirst_eq_some_iff.mp hc
        simp only [Bool.or_eq_true, List.contains_iff_mem, List.isEmpty_iff, not_or] at hn
        exact ⟨rest, ht, hname, hn.left.left, hn.left.right, hn.right, rfl⟩
  case mpr =>
    rintro ⟨rest, ht, hname, hrest, hn, hf, rfl⟩
    rw [Text.cutAtFirst_eq_some_iff.mpr ⟨ht, hname⟩]
    simp [hrest, hn, hf]

end AggregateCall

namespace Dialect
namespace Entry

variable (e : Entry)

theorem isCallFieldChar_of_isAsciiWordChar (h : isAsciiWordChar c) : isCallFieldChar c := by
  simp [isCallFieldChar, h]

theorem found_text :
    Pattern.aggregateCalls.found e.text = (e.call?.map fun _ => e.text).toList := by
  cases e
  case word w =>
    exact Pattern.found_calls_of_not_mem fun hc => absurd (w.isAsciiWordChar hc) (by decide)
  case call f name field =>
    refine Pattern.found_call (f := f) ⟨name.text, field.text, rfl, name.spells, ?_, field.nonempty⟩
    exact List.all_eq_true.mpr fun c hc =>
      isCallFieldChar_of_isAsciiWordChar (field.isAsciiWordChar hc)

theorem parse_name (name : Spelling f.name) : AggregateFunction.parse name.text = .ok f := by
  have ht := tight_of_all (name.all_isAsciiWordChar f.isLower_name) (name.ne_nil f.name_ne_nil)
  exact AggregateFunction.parse_eq_ok_iff.mpr (by rw [ht.trim_eq, name.spelled])

-- The name stands before the only opening parenthesis.
theorem split?_text (name : Spelling f.name) (field : Word) :
    AggregateCall.split? (call f name field).text = some (name.text, field.text) := by
  have hw {d : Char} (hd : isAsciiWordChar d = false) : d ∉ field.text := fun hc => by
    simp [field.isAsciiWordChar hc] at hd
  have hn : '(' ∉ name.text := fun hc => by
    have := List.all_eq_true.mp (name.all_isAsciiWordChar f.isLower_name) _ hc
    contradiction
  have ht : (call f name field).text.trim = name.text ++ '(' :: (field.text ++ [')']) := by
    rw [(call f name field).tight.trim_eq, text, List.append_assoc]
    rfl
  have ho : '(' ∉ field.text ++ [')'] := by simpa using hw (by decide)
  exact AggregateCall.split?_eq_some_iff.mpr ⟨_, ht, hn, ho, name.ne_nil f.name_ne_nil,
    field.nonempty, (AggregateCall.strip_closing (hw (by decide))).symm⟩

theorem parse_text {a : AggregateCall} (h : e.call? = some a) :
    AggregateCall.parse e.text = .ok a := by
  cases e
  case word => contradiction
  case call f name field =>
    obtain rfl := Option.some.inj h
    simp only [AggregateCall.parse, split?_text, parse_name, field.tight.trim_eq]
    rfl

end Entry
end Dialect
end FlatQuery
