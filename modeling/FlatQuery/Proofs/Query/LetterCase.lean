import FlatQuery.Proofs.Pattern.LetterCase
import FlatQuery.Proofs.Query.ConditionParts
import FlatQuery.Proofs.Query.Reading

namespace FlatQuery

open Text

variable {q t : Text}

section Outline

theorem Text.closesSubquery_lowerAscii : t.lowerAscii.closesSubquery = t.closesSubquery :=
  contains_lowerAscii (by decide)

namespace Outline

theorem checkSelectList_lowerAscii : checkSelectList q.lowerAscii = checkSelectList q := by
  simp only [checkSelectList, Keyword.first?_lowerAscii, slice_lowerAscii, allBlank_lowerAscii]

theorem checkCounts_lowerAscii : checkCounts q.lowerAscii = checkCounts q := by
  simp only [checkCounts, Keyword.count_lowerAscii]

theorem checkWheres_lowerAscii : checkWheres q.lowerAscii = checkWheres q := by
  simp only [checkWheres, Keyword.starts_lowerAscii, byteOffset_lowerAscii]

theorem andIsExplained_lowerAscii : andIsExplained t.lowerAscii = andIsExplained t := by
  simp only [andIsExplained, Keyword.first?_lowerAscii, slice_lowerAscii,
    closesSubquery_lowerAscii]

theorem checkOrders_lowerAscii : checkOrders q.lowerAscii = checkOrders q := by
  simp only [checkOrders, Keyword.starts_lowerAscii, slice_lowerAscii, closesSubquery_lowerAscii,
    andIsExplained_lowerAscii, byteOffset_lowerAscii]

-- The places of the faults are byte offsets, which letter case does not move.
theorem check_lowerAscii : check q.lowerAscii = check q := by
  simp only [check, trim_lowerAscii, length_lowerAscii, checkSelectList_lowerAscii,
    checkCounts_lowerAscii, checkWheres_lowerAscii, checkOrders_lowerAscii]

end Outline
end Outline

section Entries

theorem Settings.isSourceName_lowerAscii (s : Settings) :
    s.isSourceName t.lowerAscii = s.isSourceName t := by
  rw [isSourceName, cutAtLast_lowerAscii (by decide), isSourceName]
  cases cutAtLast '.' t
  case none => rfl
  case some => simp [eqIgnoringCase_lowerAscii_right]

namespace Comparison

theorem ofSymbol?_lowerAscii : ofSymbol? t.lowerAscii = ofSymbol? t := by
  have hs (op : Comparison) : (op.symbol == t.lowerAscii) = (op.symbol == t) := by
    rw [Bool.eq_iff_iff, beq_iff_eq, beq_iff_eq, eq_comm,
      lowerAscii_eq_iff (by cases op <;> decide), eq_comm]
  simp only [ofSymbol?, hs]

theorem lowerAscii_symbol (op : Comparison) : op.symbol.lowerAscii = op.symbol := by
  cases op <;> rfl

end Comparison

namespace Condition

def lowerAscii (c : Condition) : Condition :=
  ⟨c.field.lowerAscii, c.operator.lowerAscii, c.literal.lowerAscii⟩

theorem isOperator_lowerAscii : isOperator t.lowerAscii = isOperator t := by
  rw [isOperator, Comparison.ofSymbol?_lowerAscii, isOperator]

theorem ofWords?_lowerAscii : ofWords? t.lowerAscii = (ofWords? t).map lowerAscii := by
  rw [ofWords?, words_lowerAscii, ofWords?]
  -- Only three words make a condition.
  rcases t.words with _ | ⟨field, _ | ⟨operator, _ | ⟨literal, _ | ⟨w, ws⟩⟩⟩⟩
  case cons.cons.cons.nil =>
    simp only [List.map_cons, List.map_nil, isOperator_lowerAscii]
    split <;> rfl
  all_goals rfl

theorem ofSplit?_lowerAscii : ofSplit? t.lowerAscii = (ofSplit? t).map lowerAscii := by
  rw [ofSplit?, Pattern.caseBlind_comparisons.split_eq, ofSplit?]
  obtain ⟨field, tail⟩ := Pattern.comparisons.split t
  rcases tail with _ | ⟨⟨operator, literal⟩, _ | ⟨x, tail⟩⟩
  case cons.nil =>
    simp only [Split.lowerAscii, List.map_cons, List.map_nil, allBlank_lowerAscii]
    split
    case isTrue => rfl
    case isFalse => simp [lowerAscii, trim_lowerAscii]
  all_goals rfl

theorem ofText?_lowerAscii : ofText? t.lowerAscii = (ofText? t).map lowerAscii := by
  rw [ofText?, trim_lowerAscii, ofWords?_lowerAscii, ofSplit?_lowerAscii, ofText?, Option.map_or]

end Condition

theorem Text.stripNot_lowerAscii : t.lowerAscii.stripNot = t.stripNot.map id lowerAscii := by
  have hb : CaseBlind fun c => !isBlank c := caseBlind_isBlank.not
  simp only [stripNot, trimStart_lowerAscii, takeWhile_lowerAscii hb, dropWhile_lowerAscii hb,
    eqIgnoringCase_lowerAscii_left, trim_lowerAscii, trimEnd_lowerAscii]
  split <;> rfl

theorem Text.stripQuotes_lowerAscii : t.lowerAscii.stripQuotes = t.stripQuotes.lowerAscii :=
  strip_lowerAscii ((caseBlind_beq (by decide)).or (caseBlind_beq (by decide)))

namespace Predicate

def lowerAscii (p : Predicate) : Predicate :=
  { p with field := p.field.lowerAscii, literal := p.literal.lowerAscii }

theorem parse_lowerAscii : parse t.lowerAscii = (parse t).map lowerAscii := by
  rw [parse, stripNot_lowerAscii, parse]
  cases hc : Condition.ofText? t.stripNot.2
  case none => simp [Condition.ofText?_lowerAscii, hc, Except.map]
  case some c =>
    -- What is taken for an operator has no letters.
    obtain ⟨op, ho⟩ := (Condition.sound_of_ofText? hc).operator
    simp only [Prod.map_snd, Prod.map_fst, Condition.ofText?_lowerAscii, hc, Option.map_some,
      Condition.lowerAscii, ho, op.lowerAscii_symbol, op.parse_symbol, stripQuotes_lowerAscii]
    rfl

end Predicate

namespace AggregateCall

def lowerAscii (c : AggregateCall) : AggregateCall :=
  { c with field := c.field.lowerAscii }

theorem split?_lowerAscii : split? t.lowerAscii =
    (split? t).map (Prod.map Text.lowerAscii Text.lowerAscii) := by
  rw [split?, trim_lowerAscii, cutAtFirst_lowerAscii (by decide), split?]
  cases cutAtFirst '(' t.trim
  case none => rfl
  case some p =>
    obtain ⟨name, rest⟩ := p
    simp only [Option.map_some, Prod.map_apply, contains_lowerAscii (c := '(') (by decide),
      strip_lowerAscii (caseBlind_beq (d := ')') (by decide)), isEmpty_lowerAscii]
    split <;> rfl

theorem parse_lowerAscii : parse t.lowerAscii = (parse t).map lowerAscii := by
  rw [parse, split?_lowerAscii, parse]
  cases split? t
  case none => rfl
  case some p =>
    obtain ⟨name, field⟩ := p
    have hn : AggregateFunction.parse name.lowerAscii = AggregateFunction.parse name := by
      simp only [AggregateFunction.parse, trim_lowerAscii, eqIgnoringCase_lowerAscii_right]
    simp only [Option.map_some, Prod.map_apply, hn, trim_lowerAscii]
    cases AggregateFunction.parse name <;> rfl

end AggregateCall

namespace SortKey

def lowerAscii (k : SortKey) : SortKey :=
  { k with field := k.field.lowerAscii }

theorem parse_lowerAscii : parse t.lowerAscii = (parse t).map lowerAscii := by
  rw [parse, words_lowerAscii, parse]
  rcases t.words with _ | ⟨field, _ | ⟨word, _ | ⟨w, ws⟩⟩⟩
  case cons.cons.nil =>
    simp only [List.map_cons, List.map_nil, descending?, eqIgnoringCase_lowerAscii_left]
    split <;> simp_all [Except.map, lowerAscii]
  all_goals rfl

end SortKey

end Entries

namespace Clause

section Base

theorem source_lowerAscii (settings : Settings) :
    source settings q.lowerAscii = (source settings q).map lowerAscii := by
  rw [source, words_lowerAscii, List.find?_map, Function.comp_def]
  simp only [Settings.isSourceName_lowerAscii]
  rw [source]
  cases q.words.find? settings.isSourceName <;> rfl

theorem baseEnd?_lowerAscii : baseEnd? q.lowerAscii = baseEnd? q := by
  simp only [baseEnd?, Keyword.last?_lowerAscii]

theorem base_lowerAscii : base q.lowerAscii = (base q).map lowerAscii := by
  rw [base, baseEnd?_lowerAscii, base]
  cases baseEnd? q
  case none => rfl
  case some stop =>
    simp only [take_lowerAscii, trim_lowerAscii, Keyword.occursIn_lowerAscii,
      contains_lowerAscii (c := '(') (by decide), contains_lowerAscii (c := ')') (by decide)]
    split <;> rfl

theorem aggregates_lowerAscii :
    aggregates q.lowerAscii = (aggregates q).map (·.map lowerAscii) := by
  rw [aggregates, base_lowerAscii, aggregates]
  refine bind_map fun text => ?_
  have hs (spans : List Span) :
      spans.map text.lowerAscii.slice = (spans.map text.slice).map lowerAscii := by
    simp [slice_lowerAscii]
  rw [Pattern.caseBlind_aggregateCalls.spans_eq, hs]
  cases List.map text.slice (Pattern.aggregateCalls.spans text) <;> rfl

end Base

section Lists

theorem selectSpan?_lowerAscii : selectSpan? q.lowerAscii = selectSpan? q := by
  simp only [selectSpan?, Keyword.first?_lowerAscii, Keyword.starts_lowerAscii, isBalanced,
    slice_lowerAscii, Keyword.count_lowerAscii]

-- Commas part the text and its lower case alike.
theorem entries_lowerAscii : (t.lowerAscii.pieces (· == ',')).map trim =
    ((t.pieces (· == ',')).map trim).map lowerAscii := by
  rw [pieces_lowerAscii (caseBlind_beq (by decide)), List.map_map, List.map_map]
  exact List.map_congr_left fun _ _ => trim_lowerAscii

theorem isSelectEntry_lowerAscii : isSelectEntry t.lowerAscii = isSelectEntry t := by
  rw [isSelectEntry, isEmpty_lowerAscii, any_lowerAscii caseBlind_isBlank,
    contains_lowerAscii (by decide), isSelectEntry]

theorem selectList_lowerAscii :
    selectList q.lowerAscii = (selectList q).map (·.map lowerAscii) := by
  rw [selectList, selectSpan?_lowerAscii, selectList]
  cases selectSpan? q
  case none => rfl
  case some span =>
    simp only [slice_lowerAscii, entries_lowerAscii, List.all_map, Function.comp_def,
      isSelectEntry_lowerAscii]
    split <;> rfl

theorem fieldList_lowerAscii {limit : Option Nat} :
    fieldList limit t.lowerAscii = (fieldList limit t).map (·.map lowerAscii) := by
  simp only [fieldList, entries_lowerAscii]
  rw [List.all_map]
  simp only [Function.comp_def, words_lowerAscii, List.isEmpty_map, List.length_map]
  split <;> rfl

theorem tail_lowerAscii (k : Keyword) : tail k q.lowerAscii = (tail k q).map lowerAscii := by
  rw [tail, Keyword.last?_lowerAscii, tail]
  cases k.last? q
  case none => rfl
  case some span =>
    simp only [drop_lowerAscii, trim_lowerAscii, isEmpty_lowerAscii]
    split <;> rfl

theorem fieldsOfTail_lowerAscii {others : List Keyword} {read : Text → Clause (List Text)}
    (hr : read t.lowerAscii = (read t).map (·.map lowerAscii)) :
    fieldsOfTail others read t.lowerAscii =
      (fieldsOfTail others read t).map (·.map lowerAscii) := by
  simp only [fieldsOfTail, Keyword.occursIn_lowerAscii, closesSubquery_lowerAscii,
    contains_lowerAscii (c := '(') (by decide), hr]
  split
  case isTrue => split <;> rfl
  case isFalse => split <;> rfl

theorem orderBy_lowerAscii : orderBy q.lowerAscii = (orderBy q).map (·.map lowerAscii) := by
  rw [orderBy, tail_lowerAscii, orderBy]
  exact bind_map fun _ => fieldsOfTail_lowerAscii fieldList_lowerAscii

theorem groupFields_lowerAscii : groupFields t.lowerAscii = (groupFields t).lowerAscii := by
  simp only [groupFields, Keyword.first?_lowerAscii, length_lowerAscii, take_lowerAscii,
    trim_lowerAscii, getLast?_lowerAscii (c := ')') (by decide)]
  split
  case isTrue => exact strip_lowerAscii (caseBlind_beq (by decide))
  case isFalse => rfl

theorem groupBy_lowerAscii : groupBy q.lowerAscii = (groupBy q).map (·.map lowerAscii) := by
  rw [groupBy, tail_lowerAscii, groupBy]
  refine bind_map fun _ => fieldsOfTail_lowerAscii ?_
  rw [groupFields_lowerAscii, fieldList_lowerAscii]

end Lists

section Filter

theorem filterOfText_lowerAscii : filterOfText t.lowerAscii = (filterOfText t).map lowerAscii := by
  rw [filterOfText, length_lowerAscii, any_lowerAscii caseBlind_isBlank, filterOfText]
  split <;> split <;> rfl

theorem lastFilter_lowerAscii {clause : Option Nat} :
    lastFilter q.lowerAscii start clause = (lastFilter q start clause).map lowerAscii := by
  cases clause
  all_goals
    simp only [lastFilter, take_lowerAscii, Keyword.count_lowerAscii, drop_lowerAscii,
      trim_lowerAscii, isEmpty_lowerAscii, closesSubquery_lowerAscii, filterOfText_lowerAscii]
    split
    case isTrue => rfl
    case isFalse => split <;> rfl

theorem filter_lowerAscii : filter q.lowerAscii = (filter q).map lowerAscii := by
  have ho {order group : Option Nat} :
      ordersBeforeGroups q.lowerAscii order group = ordersBeforeGroups q order group := by
    cases order <;> cases group <;>
      simp only [ordersBeforeGroups, slice_lowerAscii, closesSubquery_lowerAscii]
  simp only [filter, Keyword.last?_lowerAscii, ho, slice_lowerAscii, trim_lowerAscii,
    isEmpty_lowerAscii, closesSubquery_lowerAscii, filterOfText_lowerAscii, lastFilter_lowerAscii]
  split
  case h_1 => rfl
  case h_2 =>
    split
    case isTrue => rfl
    case isFalse =>
      split
      case h_2 => rfl
      case h_1 =>
        split
        case isFalse => rfl
        case isTrue => split <;> [skip; split] <;> rfl

theorem conditions_lowerAscii :
    conditions q.lowerAscii = (conditions q).map (·.map lowerAscii) := by
  have hc {t : Text} : (Condition.ofText? t.lowerAscii.stripNot.2).isSome =
      (Condition.ofText? t.stripNot.2).isSome := by
    rw [stripNot_lowerAscii, Prod.map_snd, Condition.ofText?_lowerAscii, Option.isSome_map]
  have hj : Pattern.joiners.CaseBlind := Pattern.caseBlind_wholeWord
  rw [conditions, filter_lowerAscii, conditions]
  refine bind_map fun text => ?_
  rw [hj.texts?_eq]
  cases Pattern.joiners.texts? text
  case none => rfl
  case some pieces =>
    simp only [Option.map_some, List.all_map, Function.comp_def, hc]
    split <;> rfl

-- The connectives are kept in lower case as it is.
theorem connectives_lowerAscii : connectives q.lowerAscii = connectives q := by
  have hj : Pattern.connectives.CaseBlind := Pattern.caseBlind_wholeWord
  rw [connectives, filter_lowerAscii, connectives]
  cases filter q
  case present text =>
    simp only [map, bind, hj.delimiters?_eq]
    cases Pattern.connectives.delimiters? text
    case none => rfl
    case some tokens =>
      cases tokens
      case nil => rfl
      case cons => simp [Function.comp_def, lowerAscii_lowerAscii]
  all_goals rfl

end Filter

theorem require_map {f : α → β} {c : Clause α} {part : Part} :
    (c.map f).require part = (c.require part).map (·.map f) := by
  cases c <;> rfl

theorem requireList_map {f : α → β} {c : Clause (List α)} {part : Part} :
    (c.map (·.map f)).requireList part = (c.requireList part).map (·.map f) := by
  cases c <;> rfl

end Clause

section Plans

def Projection.lowerAscii : Projection → Projection
  | all => all
  | fields names => fields (names.map Text.lowerAscii)

theorem Projection.ofEntries_lowerAscii {entries : List Text} :
    ofEntries (entries.map Text.lowerAscii) = (ofEntries entries).lowerAscii := by
  have hs : entries.map Text.lowerAscii = [['*']] ↔ entries = [['*']] := by
    have hw {t : Text} : t.lowerAscii = ['*'] ↔ t = ['*'] := lowerAscii_eq_iff (by decide)
    rcases entries with _ | ⟨t, _ | ⟨_, _⟩⟩ <;> simp [hw]
  simp only [ofEntries, hs]
  split <;> rfl

namespace Plan

variable {settings : Settings} {raw : Text}

-- Every text of the plan in lower case.
def lowerAscii (p : Plan) : Plan :=
  { p with
    rawText := p.rawText.lowerAscii
    source := p.source.lowerAscii
    baseQuery := p.baseQuery.lowerAscii
    projection := p.projection.lowerAscii
    predicates := p.predicates.map Predicate.lowerAscii
    aggregates := p.aggregates.map AggregateCall.lowerAscii
    groupBy := p.groupBy.map Text.lowerAscii
    orderBy := p.orderBy.map Text.lowerAscii }

theorem sortKeys_lowerAscii {p : Plan} :
    p.lowerAscii.sortKeys = p.sortKeys.map (·.map SortKey.lowerAscii) :=
  mapM_map_map fun _ => SortKey.parse_lowerAscii

-- The plan that is put together from what the clauses say.
theorem mk_lowerAscii {source : Text} {base : Option Text} {entries groupBy orderBy : List Text}
    {predicates : List Predicate} {connectives : List Connective}
    {aggregates : List AggregateCall} :
    Plan.mk raw.lowerAscii source.lowerAscii ((base.map Text.lowerAscii).getD [])
      (.ofEntries (entries.map Text.lowerAscii)) (predicates.map Predicate.lowerAscii) connectives
      (aggregates.map AggregateCall.lowerAscii) (groupBy.map Text.lowerAscii)
      (orderBy.map Text.lowerAscii) (.classify (!(groupBy.map Text.lowerAscii).isEmpty)
        (!(orderBy.map Text.lowerAscii).isEmpty)
        (!(aggregates.map AggregateCall.lowerAscii).isEmpty)) =
    (Plan.mk raw source (base.getD []) (.ofEntries entries) predicates connectives aggregates
      groupBy orderBy
      (.classify (!groupBy.isEmpty) (!orderBy.isEmpty) (!aggregates.isEmpty))).lowerAscii := by
  rw [Projection.ofEntries_lowerAscii, List.isEmpty_map, List.isEmpty_map, List.isEmpty_map]
  cases base <;> rfl

theorem ofClauses_lowerAscii {query : Text} : ofClauses settings raw.lowerAscii query.lowerAscii =
    (ofClauses settings raw query).map lowerAscii := by
  simp only [ofClauses, Clause.source_lowerAscii, Clause.base_lowerAscii,
    Clause.selectList_lowerAscii, Clause.filter_lowerAscii, Clause.conditions_lowerAscii,
    Clause.connectives_lowerAscii, Clause.groupBy_lowerAscii, Clause.orderBy_lowerAscii,
    Clause.aggregates_lowerAscii, Clause.require_map, Clause.requireList_map]
  refine except_bind_map fun source => ?_
  cases source
  case none => rfl
  case some source =>
    refine except_bind_map fun base => except_bind_map fun entries => ?_
    cases entries
    case none => rfl
    case some entries =>
      refine except_bind_map fun _ => except_bind_map fun conditions => ?_
      rw [mapM_map_map fun _ => Predicate.parse_lowerAscii]
      refine except_bind_map fun predicates => ?_
      have hb (cs : List Connective) : checkBalance (predicates.map Predicate.lowerAscii) cs =
          checkBalance predicates cs := by
        simp [checkBalance]
      simp only [hb]
      refine except_bind_map_right fun tokens => except_bind_map_right fun connectives => ?_
      refine except_bind_map_right fun _ => except_bind_map fun groupBy => ?_
      refine except_bind_map fun orderBy => except_bind_map fun calls => ?_
      rw [mapM_map_map fun _ => AggregateCall.parse_lowerAscii]
      refine except_bind_map fun aggregates => ?_
      rw [mk_lowerAscii, sortKeys_lowerAscii]
      exact except_bind_map fun _ => rfl

-- Reading a query and writing it in lower case can be done in either order.
theorem parse_lowerAscii_eq_map : parse settings raw.lowerAscii =
    (parse settings raw).map lowerAscii := by
  rw [parse, Outline.check_lowerAscii, parse]
  split
  case h_1 => rfl
  case h_2 => rw [trim_lowerAscii, ofClauses_lowerAscii]

end Plan
end Plans
end FlatQuery
