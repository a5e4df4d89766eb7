import FlatQuery.Engine.Execution
import FlatQuery.Proofs.Query.AcceptedCalls
import FlatQuery.Proofs.Query.PresentClauses
import FlatQuery.Proofs.Query.SpacedOutline

namespace FlatQuery

variable {query raw t a b : Text} {span : Span}

theorem not_isCallChar_of_isBlank (h : isBlank c) : isCallChar c = false := by
  have hp : isBlank '(' = false ∧ isBlank ')' = false := by decide
  simp only [isCallChar, not_isWordChar_of_isBlank h, Bool.false_or, Bool.or_eq_false_iff,
    beq_eq_false_iff_ne]
  constructor
  case left => rintro rfl; simp [hp] at h
  case right => rintro rfl; simp [hp] at h

namespace Pattern

theorem found_calls_trim : aggregateCalls.found t.trim = aggregateCalls.found t := by
  obtain ⟨u, v, ht, hu, hv⟩ := Text.exists_strip isBlank t
  have hn {w : Text} (hw : w.all isBlank) : aggregateCalls.found w = [] :=
    found_calls_of_not_mem fun hc => absurd (List.all_eq_true.mp hw _ hc) (by decide)
  have h₁ : aggregateCalls.Parted u (t.trim ++ v) := parted_calls_of_none (none_of_blank hu)
  have h₂ : aggregateCalls.Parted t.trim v := parted_calls fun c hc =>
    not_isCallChar_of_isBlank (List.all_eq_true.mp hv c (List.mem_of_head? hc))
  have hf := congrArg aggregateCalls.found ht
  rw [List.append_assoc] at hf
  rw [hf, show Text.strip isBlank t = t.trim from rfl, h₁.found_append, h₂.found_append, hn hu,
    hn hv, List.nil_append, List.append_nil]

end Pattern

namespace AggregateCall

-- The calls that stand in the text, each as it is read.
def within (t : Text) : List AggregateCall :=
  (Pattern.aggregateCalls.found t).filterMap fun m => (parse m).toOption

theorem within_cut (hc : isCallChar c = false) : within (a ++ c :: b) = within a ++ within b := by
  rw [within, Pattern.found_calls_cut hc, List.filterMap_append]
  rfl

-- White space or a comma stands in front of an entry, and a call ends by itself.
theorem mem_within (ha : a = [] ∨ startsWord t = false) (h : ofEntry? t.trim = some c) :
    c ∈ within (a ++ (t ++ b)) := by
  obtain ⟨⟨f, hf⟩, hp⟩ := isCall_of_ofEntry? h
  rw [Text.trim_trim] at hf hp
  obtain ⟨u, v, ht, hu, -⟩ := Text.exists_strip isBlank t
  have ht : t = u ++ t.trim ++ v := ht
  have hl : ∀ d ∈ (a ++ u).getLast?, isCallChar d = false := by
    obtain rfl | ⟨u, d, rfl⟩ := List.eq_nil_or_concat' u
    case inr => simpa using not_isCallChar_of_isBlank (List.all_eq_true.mp hu d (by simp))
    case inl =>
      obtain rfl | hs := ha
      case inl => simp
      case inr =>
        rw [ht, List.nil_append] at hs
        exact absurd hf.startsWord (Bool.eq_false_iff.mp (not_startsWord_of_append hs))
  have he : a ++ (t ++ b) = a ++ u ++ (t.trim ++ (v ++ b)) := by
    conv => lhs; rw [ht]
    simp
  rw [within, he, Pattern.found_calls_append hl hf]
  refine List.mem_filterMap.mpr ⟨t.trim, by simp, ?_⟩
  rw [hp]
  rfl

theorem sublist_entry (ha : a = [] ∨ startsWord t = false) :
    ([t.trim].filterMap ofEntry?).Sublist (within (a ++ (t ++ b))) := by
  cases h : ofEntry? t.trim
  case none => simp [h]
  case some c => simpa [h] using mem_within ha h

theorem sublist_entries {ts : List Text}
    (ha : a = [] ∨ startsWord (Text.join [','] ts) = false) :
    ((ts.map Text.trim).filterMap ofEntry?).Sublist (within (a ++ (Text.join [','] ts ++ b))) := by
  induction ts generalizing a
  case nil => exact List.nil_sublist _
  case cons t ts hi =>
    rw [List.map_cons, ← List.singleton_append, List.filterMap_append]
    cases ts
    case nil =>
      rw [Text.join_singleton] at ha ⊢
      simpa using sublist_entry ha
    case cons u ts =>
      rw [Text.join_cons_cons, List.append_assoc] at ha
      have he := sublist_entry (b := []) (ha.imp_right not_startsWord_of_append)
      have hs := hi (a := []) (.inl rfl)
      rw [List.append_nil] at he
      rw [Text.join_cons_cons]
      have hw : a ++ (t ++ [','] ++ Text.join [','] (u :: ts) ++ b) =
          (a ++ t) ++ ',' :: (Text.join [','] (u :: ts) ++ b) := by simp
      rw [hw, within_cut (by decide)]
      exact he.append hs

-- The entries that are calls are found in a text that has them, in their order.
theorem sublist_pieces (ha : a = [] ∨ startsWord t = false) :
    (((t.pieces (· == ',')).map Text.trim).filterMap ofEntry?).Sublist (within (a ++ (t ++ b))) := by
  have hj := Text.join_pieces ',' t
  have ha : a = [] ∨ startsWord (Text.join [','] (t.pieces (· == ','))) = false := by rwa [hj]
  have hs := sublist_entries (b := b) ha
  rwa [hj] at hs

end AggregateCall

namespace Clause

-- No clause begins in front of the `from` that closes the select list.
def SelectsFirst (query : Text) : Prop :=
  ∀ span ∈ selectSpan? query, ∀ k ∈ [Keyword.groupBy, .orderBy], ∀ i ∈ k.starts query,
    span.stop ≤ i

instance : Decidable (SelectsFirst query) :=
  inferInstanceAs (Decidable (∀ span ∈ selectSpan? query, ∀ k ∈ [Keyword.groupBy, .orderBy],
    ∀ i ∈ k.starts query, span.stop ≤ i))

-- The base query ends at a clause, all of which begin behind the select list.
theorem stop_le_baseEnd? (hc : Outline.check raw = .ok ()) (hf : SelectsFirst raw.trim)
    (hs : selectSpan? raw.trim = some span) (hb : baseEnd? raw.trim = some stop) :
    span.stop ≤ stop := by
  obtain ⟨s, hl, rfl⟩ := Option.map_eq_some_iff.mp hb
  obtain hl | ⟨-, hl⟩ := Option.or_eq_some_iff.mp hl
  case inl =>
    have := Outline.source_le_filter hc hl (selectSpan?_spec hs).right.right
    omega
  case inr =>
    obtain hl | ⟨-, hl⟩ := Option.or_eq_some_iff.mp hl
    case inl => exact hf span hs .groupBy (by simp) _ (List.mem_map_of_mem (Keyword.mem_of_last? hl))
    case inr => exact hf span hs .orderBy (by simp) _ (List.mem_map_of_mem (Keyword.mem_of_last? hl))

-- The base query has all of the select list, and the same calls as if it were not trimmed.
theorem exists_found_base (h : base query = .present t) (hs : span.start ≤ span.stop)
    (hl : span.stop ≤ query.length) (hb : ∀ stop, baseEnd? query = some stop → span.stop ≤ stop) :
    ∃ b, Pattern.aggregateCalls.found t =
      Pattern.aggregateCalls.found (query.take span.start ++ (query.slice span ++ b)) := by
  have ht {n : Nat} (hn : span.stop ≤ n) :
      query.take span.start ++ (query.slice span ++ query.slice ⟨span.stop, n⟩) = query.take n := by
    rw [← List.append_assoc, Text.take_append_slice hs, Text.take_append_slice hn]
  obtain rfl | ⟨stop, he, rfl⟩ := eq_of_base h
  case inl => exact ⟨_, by rw [ht hl, List.take_length]⟩
  case inr => exact ⟨_, by rw [ht (hb stop he), Pattern.found_calls_trim]⟩

theorem sublist_selectList {entries : List Text} (hc : Outline.check raw = .ok ())
    (hf : SelectsFirst raw.trim) (hb : base raw.trim = .present t)
    (hl : selectList raw.trim = .present entries) :
    (entries.filterMap AggregateCall.ofEntry?).Sublist (AggregateCall.within t) := by
  rw [selectList] at hl
  split at hl
  case h_1 => contradiction
  case h_2 span hs =>
    dsimp only at hl
    split at hl
    case isFalse => contradiction
    case isTrue =>
      obtain rfl := Clause.present.inj hl
      obtain ⟨hw, hle, hm⟩ := selectSpan?_spec hs
      obtain ⟨b, he⟩ := exists_found_base hb hle (Keyword.le_length_of_mem_starts hm) fun _ =>
        stop_le_baseEnd? hc hf hs
      rw [AggregateCall.within, he]
      refine AggregateCall.sublist_pieces (.inr ?_)
      refine not_startsWord_of_append (u := raw.trim.drop span.stop) ?_
      rwa [Text.slice_append_drop hle]

end Clause

namespace Plan

variable {settings : Settings} {plan : Plan}

-- The rows that are admitted, taken in groups.
def executeInGroups (plan : Plan) (s : Schema) (source : Source) : Except QueryError ResultSet := do
  let f ← Filter.bind plan s
  let rows ← admittedRows plan f source
  executeGrouped plan s rows

theorem executeWith_of_aggregates (h : plan.aggregates ≠ []) :
    executeWith plan = plan.executeInGroups := by
  have hg : (!plan.groupBy.isEmpty || !plan.aggregates.isEmpty) = true := by simp [h]
  funext s source
  simp only [executeWith, executeInGroups, hg, if_true]

-- The calls of the select list are computed in their order, and any of them groups the rows.
structure Computes (plan : Plan) (entries : List Text) : Prop where
  projection : plan.projection = .ofEntries entries
  calls      : (entries.filterMap AggregateCall.ofEntry?).Sublist plan.aggregates
  grouped    : ∀ entry ∈ entries, ∀ c, AggregateCall.ofEntry? entry = some c →
                 executeWith plan = plan.executeInGroups

theorem parse_computes (h : parse settings raw = .ok plan) (hf : Clause.SelectsFirst raw.trim) :
    ∃ entries, Clause.selectList raw.trim = .present entries ∧ plan.Computes entries := by
  have hr := reads_of_parse h
  obtain ⟨entries, he, hp⟩ := hr.selectList
  have hs := Clause.sublist_selectList hr.outline hf hr.base he
  have ha := filterMap_of_mapM_eq_ok hr.aggregates
  rw [AggregateCall.texts_aggregates hr.base] at ha
  rw [AggregateCall.within, ha] at hs
  refine ⟨entries, he, hp, hs, fun entry hm c hc => executeWith_of_aggregates ?_⟩
  exact List.ne_nil_of_mem (hs.subset (List.mem_filterMap.mpr ⟨entry, hm, hc⟩))

def totalsQuery : Text :=
  "select team, sum(runs), Max(runs) from scores.csv where runs > 3 group by team".toList

theorem parse_computes_totalsQuery :
    ∃ plan, parse {} totalsQuery = .ok plan ∧
      [⟨.sum, "runs".toList⟩, ⟨.max, "runs".toList⟩].Sublist plan.aggregates ∧
      executeWith plan = plan.executeInGroups := by
  have hp : (parse {} totalsQuery).isOk := by decide +kernel
  obtain ⟨plan, h⟩ := exists_of_isOk hp
  obtain ⟨entries, he, hc⟩ := parse_computes h (by decide +kernel)
  have hl : Clause.selectList totalsQuery.trim =
      .present ["team".toList, "sum(runs)".toList, "Max(runs)".toList] := by decide +kernel
  obtain rfl := Clause.present.inj (he.symm.trans hl)
  have hs : AggregateCall.ofEntry? "sum(runs)".toList = some ⟨.sum, "runs".toList⟩ := by
    decide +kernel
  exact ⟨plan, h, hc.calls, hc.grouped _ (by simp) _ hs⟩

end Plan
end FlatQuery
