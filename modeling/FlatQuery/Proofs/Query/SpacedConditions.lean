import FlatQuery.Proofs.Pattern.Spacing
import FlatQuery.Proofs.Query.Calls
import FlatQuery.Proofs.Query.Comparisons

namespace FlatQuery

open Spaced

variable {u m v : Text} {q : Spaced}

namespace Pattern

theorem no_blank_of_takes_calls (h : aggregateCalls.Takes u m v) : ∀ c ∈ m, isBlank c = false := by
  obtain ⟨f, hf⟩ := takes_calls_iff.mp h
  intro c hc
  have hc := hf.isCallChar hc
  simp only [isCallChar, Bool.or_eq_true, beq_iff_eq] at hc
  obtain (hc | rfl) | rfl := hc
  case inl.inl => exact not_isBlank_of_isWordChar hc
  all_goals decide

theorem blind_calls (q : Spaced) : aggregateCalls.Blind q :=
  .of_solid (fun _ _ _ => no_blank_of_takes_calls)
    (fun _ _ _ _ _ h => takes_calls_iff.mpr (takes_calls_iff.mp h)) q

-- An operator without an equality sign has none after it.
theorem takes_comparisons_iff : comparisons.Takes u m v ↔
    ∃ op : Comparison, m = op.symbol ∧ (v.head? = some '=' → '=' ∈ m) := by
  constructor
  case mp =>
    intro h
    obtain ⟨op, rfl⟩ := Comparison.exists_symbol_of_matchLength h
    refine ⟨op, rfl, fun hv => ?_⟩
    obtain ⟨c, v, rfl⟩ : ∃ c t, v = c :: t := by cases v <;> simp_all
    obtain rfl : c = '=' := by simpa using hv
    cases op
    case lt | gt =>
      exact absurd h (by simp [Takes, comparisons, Comparison.symbol, Comparison.matchLength])
    all_goals decide
  case mpr =>
    rintro ⟨op, rfl, hv⟩
    have ht := takes_symbol op
    by_cases he : v.head? = some '='
    case neg =>
      have hp := (parted_comparisons he (a := op.symbol)).left (u := []) rfl op.symbol_ne_nil
      rw [Takes, List.append_nil] at ht
      exact hp.trans ht
    case pos =>
      have hv := hv he
      obtain ⟨c, v, rfl⟩ : ∃ c t, v = c :: t := by cases v <;> simp_all
      obtain rfl : c = '=' := by simpa using he
      cases op
      case lt => simp [Comparison.symbol] at hv
      case gt => simp [Comparison.symbol] at hv
      all_goals rfl

theorem no_blank_of_takes_comparisons (h : comparisons.Takes u m v) :
    ∀ c ∈ m, isBlank c = false := by
  obtain ⟨op, rfl, -⟩ := takes_comparisons_iff.mp h
  exact op.no_blank_symbol

theorem blind_comparisons (q : Spaced) : comparisons.Blind q := by
  refine .of_solid (fun _ _ _ => no_blank_of_takes_comparisons) (fun a b m s s' h => ?_) q
  obtain ⟨op, hm, hv⟩ := takes_comparisons_iff.mp h
  exact takes_comparisons_iff.mpr ⟨op, hm, fun hv' => hv ((head?_on (by decide) s s' b).mpr hv')⟩

end Pattern

namespace Condition

theorem ofWords?_on (s s' : Side) (q : Spaced) : ofWords? (on s q) = ofWords? (on s' q) := by
  rw [ofWords?, words_on s s', ofWords?]

theorem exists_ofSplit? (q : Spaced) : (∀ s, ofSplit? (on s q) = none) ∨
    ∃ field operator literal, ∀ s,
      ofSplit? (on s q) = some ⟨on s field, operator, on s literal⟩ := by
  obtain ⟨head, tail, hs⟩ := (Pattern.blind_comparisons q).exists_split
  -- With any other number of operators the condition does not come apart.
  rcases tail with _ | ⟨⟨d, r⟩, _ | ⟨y, tail⟩⟩
  case nil => exact .inl fun s => by rw [ofSplit?, hs]; rfl
  case cons.cons => exact .inl fun s => by rw [ofSplit?, hs]; rfl
  case cons.nil =>
    have hd (s) : on s d = on .before d := by
      have hf (s) : Pattern.comparisons.found (on s q) = [on s d] := by
        rw [← Pattern.delimiters_split, hs]
        rfl
      have := (Pattern.blind_comparisons q).found_on
        (fun _ _ _ => Pattern.no_blank_of_takes_comparisons) s .before
      rw [hf, hf] at this
      exact (List.cons.inj this).left
    have ho (s) : ofSplit? (on s q) = if head.all (·.isGap) || r.all (·.isGap) then none
        else some ⟨on s head.trim, on .before d, on s r.trim⟩ := by
      rw [ofSplit?, hs]
      simp only [List.map_cons, List.map_nil, Prod.map_apply, allBlank_on, trim_on, hd s]
    cases hb : head.all (·.isGap) || r.all (·.isGap)
    case true => exact .inl fun s => by rw [ho, hb, if_pos rfl]
    case false => exact .inr ⟨_, _, _, fun s => by rw [ho, hb]; rfl⟩

theorem exists_ofText? (q : Spaced) : (∀ s, ofText? (on s q) = none) ∨
    ∃ field operator literal, ∀ s,
      ofText? (on s q) = some ⟨on s field, operator, on s literal⟩ := by
  have ht (s) : ofText? (on s q) = (ofWords? (on .before q.trim)).or (ofSplit? (on s q.trim)) := by
    rw [ofText?, trim_on, ofWords?_on]
  cases hw : ofWords? (on .before q.trim)
  case none =>
    simp only [ht, hw, Option.none_or]
    exact exists_ofSplit? q.trim
  case some c =>
    -- Three words are the same on both sides.
    refine .inr ⟨fixed c.field, c.operator, fixed c.literal, fun s => ?_⟩
    rw [ht, hw, on_fixed, on_fixed]
    rfl

end Condition

section Predicates

theorem uniform_not_isBlank : Uniform (!isBlank ·) :=
  .inr fun c hc => by simp [hc]

theorem uniform_isQuote : Uniform Text.isQuote := by
  refine .inr fun c hc => Bool.eq_false_iff.mpr fun hq => ?_
  simp only [Text.isQuote, Bool.or_eq_true, beq_iff_eq] at hq
  obtain rfl | rfl := hq
  all_goals contradiction

theorem exists_stripNot (q : Spaced) :
    ∃ negated r, ∀ s, (on s q).stripNot = (negated, on s r) := by
  obtain ⟨r, hr⟩ : ∃ r, ∀ s, (on s q).trimStart = on s r :=
    ⟨_, fun s => dropWhile_on uniform_isBlank s q⟩
  obtain ⟨w, v, hw, hv⟩ : ∃ w v : Spaced, (∀ s, (on s r).takeWhile (!isBlank ·) = on s w) ∧
      ∀ s, (on s r).dropWhile (!isBlank ·) = on s v :=
    ⟨_, _, fun s => takeWhile_on uniform_not_isBlank s r,
      fun s => dropWhile_on uniform_not_isBlank s r⟩
  have hn (s) : (on s w).eqIgnoringCase "not".toList =
      (on .before w).eqIgnoringCase "not".toList :=
    eqIgnoringCase_on (by decide) s .before w
  have hs (s) : (on s q).stripNot = if (on .before w).eqIgnoringCase "not".toList then
      (true, on s v.trim) else (false, on s (r.rdropWhile (·.all isBlank))) := by
    simp only [Text.stripNot, hr, hw, hv, hn, trim_on, Text.trimEnd,
      dropEndWhile_on uniform_isBlank]
  cases hb : (on .before w).eqIgnoringCase "not".toList
  case true => exact ⟨true, _, fun s => by rw [hs, hb, if_pos rfl]⟩
  case false => exact ⟨false, _, fun s => by rw [hs, hb]; rfl⟩

theorem Predicate.exists_parse_on (q : Spaced) : (∃ e, ∀ s, parse (on s q) = .error e) ∨
    ∃ field op literal negated, ∀ s,
      parse (on s q) = .ok ⟨on s field, op, on s literal, negated⟩ := by
  obtain ⟨negated, r, hr⟩ := exists_stripNot q
  obtain h | ⟨field, operator, literal, h⟩ := Condition.exists_ofText? r
  case inl => exact .inl ⟨.malformed .condition, fun s => by simp only [parse, hr, h]⟩
  case inr =>
    have hq (s) : (on s literal).stripQuotes = on s (literal.strip Text.isQuote) :=
      strip_on uniform_isQuote s literal
    cases ho : Comparison.parse operator
    case error e => exact .inl ⟨e, fun s => by simp only [parse, hr, h, ho]; rfl⟩
    case ok op =>
      exact .inr ⟨field, op, _, negated, fun s => by simp only [parse, hr, h, ho, hq]; rfl⟩

end Predicates
end FlatQuery
