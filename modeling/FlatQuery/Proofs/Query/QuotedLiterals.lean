import FlatQuery.Proofs.Query.Connectives
import FlatQuery.Proofs.Query.Criterion
import FlatQuery.Proofs.Query.PresentClauses
import FlatQuery.Proofs.Query.PrintedBase
import FlatQuery.Proofs.Query.SwallowedClauses

namespace FlatQuery
namespace Dialect

variable {f : Word} {v : Text} {k : Keyword}

def quotedOpening : Text :=
  "select * from t.csv where".toList

def quotedCondition (f : Word) (v : Text) : Text :=
  f.text ++ " = ".toList ++ ('\x27' :: v ++ ['\x27'])

-- What is printed as `select * from t.csv where f = 'v'`.
def quotedQuery (f : Word) (v : Text) : Text :=
  quotedOpening ++ ' ' :: quotedCondition f v

-- The keywords that divide a query into its clauses.
def clauseKeywords : List Keyword :=
  [.select, .source, .filter, .groupBy, .orderBy]

-- Those and the words that divide a filter into its conditions.
def cuttingKeywords : List Keyword :=
  clauseKeywords ++ [.and, .or]

-- Whether a value has nothing in it that a query is cut at.
def isOpaque (v : Text) : Bool :=
  cuttingKeywords.all (!·.occursIn v) && !(v.any isBlank && v.any isSign)

theorem isOpaque_iff : isOpaque v ↔ (∀ k ∈ clauseKeywords, k.spans v = []) ∧
    (∀ k ∈ [Keyword.and, .or], k.spans v = []) ∧
      ((∀ c ∈ v, isBlank c = false) ∨ ∀ c ∈ v, isSign c = false) := by
  have hk : cuttingKeywords.all (!·.occursIn v) ↔
      (∀ k ∈ clauseKeywords, k.spans v = []) ∧ ∀ k ∈ [Keyword.and, .or], k.spans v = [] := by
    simp [cuttingKeywords, Keyword.occursIn_eq, or_imp, forall_and]
  rw [isOpaque, Bool.and_eq_true, hk, Bool.not_and, Bool.or_eq_true, and_assoc]
  simp

section Places

-- A keyword is found in the condition where it is found in the literal.
theorem spans_quotedCondition (k : Keyword) : k.spans (quotedCondition f v) =
    (k.spans v).map (·.shift (f.text.length + 4)) := by
  have ho : k.opening ∈ reservedWords := by cases k <;> decide
  have hf := f.freeOf _ ho
  have hf' : k.spans f.text = [] := Keyword.spans_eq_nil_iff.mpr fun hm => hf (k.mentions_opening hm)
  have hn {t : Text} (ht : ∀ c ∈ t, isWordChar c = false) : k.spans t = [] :=
    Keyword.spans_eq_nil_iff.mpr (not_mentions_of_none k.framed ht)
  have hl : ∀ c ∈ "= \x27".toList, isWordChar c = false := none_of_all (by decide)
  have hr : ∀ c ∈ ['\x27'], isWordChar c = false := none_of_all (by decide)
  have he : quotedCondition f v = f.text ++ ' ' :: ("= \x27".toList ++ (v ++ ['\x27'])) := by
    simp [quotedCondition]
  rw [he, Keyword.spans_append_space (Keyword.clear_of_not_mentions hf), hf',
    Keyword.spans_append (.inl (endsWord_of_none hl)) (clear_of_left k.framed hl), hn hl,
    Keyword.spans_append (.inr (startsWord_of_none hr)) (clear_of_right k.framed hr), hn hr]
  simp [Span.shift_shift]

theorem freeOf_quotedOpening : FreeOf lateWords quotedOpening := by
  have h : (Pattern.wholeWord lateWords (by decide)).occursIn quotedOpening = false := by decide
  exact Pattern.occursIn_eq_false_iff_freeOf.mp h

theorem spans_quotedQuery (hk : k ∈ Keyword.clauses) : k.spans (quotedQuery f v) =
    k.spans quotedOpening ++ (k.spans v).map (·.shift (f.text.length + 30)) := by
  rw [quotedQuery, Keyword.spans_append_space (clear_of_freeOf freeOf_quotedOpening hk),
    spans_quotedCondition, List.map_map, Span.shift_shift]
  have hl : quotedOpening.length + 1 + (f.text.length + 4) = f.text.length + 30 := by
    rw [show quotedOpening.length = 25 from rfl]
    omega
  rw [hl]

theorem length_quotedQuery : (quotedQuery f v).length = f.text.length + v.length + 31 := by
  simp [quotedQuery, quotedCondition, show quotedOpening.length = 25 from rfl]
  omega

theorem tight_quotedCondition : (quotedCondition f v).Tight :=
  f.tight.append (tight_quoted rfl v) " = ".toList

theorem tight_quotedQuery : (quotedQuery f v).Tight := by
  have hs : quotedOpening.Tight := ⟨by decide, by decide⟩
  simpa [quotedQuery] using hs.append (tight_quotedCondition (f := f) (v := v)) [' ']

end Places

section Condition

theorem stripNot_quotedCondition :
    Text.stripNot (quotedCondition f v) = (false, quotedCondition f v) := by
  have he : quotedCondition f v = f.text ++ ' ' :: ('=' :: ' ' :: ('\x27' :: v ++ ['\x27'])) := by
    simp [quotedCondition]
  have ht := tight_quotedCondition (f := f) (v := v)
  rw [he] at ht ⊢
  exact f.stripNot_append not_isWordChar_space ht

theorem words_quotedCondition : (quotedCondition f v).words =
    f.text :: ['='] :: Text.words ('\x27' :: v ++ ['\x27']) := by
  have hf : ∀ c ∈ f.text, isBlank c = false := fun c hc =>
    not_isBlank_of_isAsciiWordChar (f.isAsciiWordChar hc)
  have he : quotedCondition f v = f.text ++ ' ' :: (['='] ++ ' ' :: ('\x27' :: v ++ ['\x27'])) := by
    simp [quotedCondition]
  rw [he, Text.words_append_cons isBlank_space, Text.words_append_cons isBlank_space,
    Text.words_eq_singleton hf f.nonempty, Text.words_eq_singleton (none_of_all (by decide)) (by simp)]
  rfl

-- Without signs the condition has one operator, and without white space it has three words.
theorem ofText?_quotedCondition
    (h : (∀ c ∈ v, isBlank c = false) ∨ ∀ c ∈ v, isSign c = false) :
    Condition.ofText? (quotedCondition f v) = some ⟨f.text, ['='], '\x27' :: v ++ ['\x27']⟩ := by
  have hb : ∀ c ∈ f.text, isBlank c = false := fun c hc =>
    not_isBlank_of_isAsciiWordChar (f.isAsciiWordChar hc)
  have hs : ∀ c ∈ f.text, isSign c = false := fun c hc =>
    not_isSign_of_not_isComparisonChar <|
      not_isComparisonChar_of_isAsciiWordChar (f.isAsciiWordChar hc)
  have hq := ofText?_quoted .eq f.tight (t := v) <| h.imp
    (fun h => List.forall_mem_append.mpr ⟨hb, h⟩) (fun h => List.forall_mem_append.mpr ⟨hs, h⟩)
  simpa [quotedCondition, Comparison.symbol] using hq

-- With both, there are more words and more operators.
theorem blankless_or_signless_of_ofText? (h : Condition.ofText? (quotedCondition f v) = some c) :
    (∀ c ∈ v, isBlank c = false) ∨ ∀ c ∈ v, isSign c = false := by
  rw [Condition.ofText?, tight_quotedCondition.trim_eq] at h
  obtain h | ⟨-, h⟩ := Option.or_eq_some_iff.mp h
  case inl =>
    have hw := (Condition.words_of_ofWords? h).left
    rw [words_quotedCondition] at hw
    have hw : Text.words ('\x27' :: v ++ ['\x27']) = [c.literal] := by
      simp only [List.cons.injEq] at hw
      exact hw.right.right
    have he := Text.trim_of_words_eq_singleton hw
    rw [(tight_quoted rfl v).trim_eq] at he
    have hm : '\x27' :: v ++ ['\x27'] ∈ Text.words ('\x27' :: v ++ ['\x27']) := by
      rw [hw, he]
      simp
    exact .inl fun c hc => Text.not_of_mem_pieces (List.mem_filter.mp hm).left (by simp [hc])
  case inr =>
    obtain ⟨x, y, hs, -⟩ := Condition.split_of_ofSplit? h
    have hn := congrArg (·.delimiters.length) hs
    have he : quotedCondition f v = (f.text ++ [' ']) ++
        (Comparison.eq.symbol ++ (' ' :: '\x27' :: v ++ ['\x27'])) := by
      simp [quotedCondition, Comparison.symbol]
    have hu : ∀ c ∈ (f.text ++ [' ']).getLast?, isComparisonChar c = false := by
      rw [List.getLast?_concat]
      simpa using not_isComparisonChar_of_isBlank isBlank_space
    rw [Pattern.delimiters_split, he, Pattern.found_symbol .eq hu (by simp)] at hn
    simp only [List.length_append, List.length_cons, Split.delimiters, List.map_cons, List.map_nil,
      List.length_nil] at hn
    have hf : Pattern.comparisons.found (' ' :: '\x27' :: v ++ ['\x27']) = [] :=
      List.length_eq_zero_iff.mp (by omega)
    have ho : Pattern.comparisons.occursIn (' ' :: '\x27' :: v ++ ['\x27']) = false :=
      Bool.eq_false_iff.mpr fun ho => Pattern.found_ne_nil ho hf
    exact .inr fun c hc => Pattern.not_comparisons_iff.mp ho c (by simp [hc])

theorem parse_quotedCondition (hv : ∀ c ∈ v, Text.isQuote c = false)
    (h : (∀ c ∈ v, isBlank c = false) ∨ ∀ c ∈ v, isSign c = false) :
    Predicate.parse (quotedCondition f v) = .ok ⟨f.text, .eq, v, false⟩ := by
  have hs : Text.stripQuotes ('\x27' :: v ++ ['\x27']) = v := stripQuotes_quoted (by decide) hv
  simp only [Predicate.parse, stripNot_quotedCondition, ofText?_quotedCondition h, hs]
  rfl

theorem filterOfText_quotedCondition :
    Clause.filterOfText (quotedCondition f v) = .present (quotedCondition f v) := by
  have := List.length_pos_iff.mpr f.nonempty
  have hl : ¬(quotedCondition f v).length <
      (if (quotedCondition f v).any isBlank then 5 else 3) := by
    have : (quotedCondition f v).length = f.text.length + v.length + 5 := by
      simp [quotedCondition]
      omega
    split <;> omega
  rw [Clause.filterOfText, if_neg hl]

end Condition

section Uncut

variable (h : ∀ k ∈ clauseKeywords, k.spans v = [])
include h

theorem spans_of_uncut (hk : k ∈ clauseKeywords) :
    k.spans (quotedQuery f v) = k.spans quotedOpening := by
  have hc : k ∈ Keyword.clauses := by
    revert k
    decide
  rw [spans_quotedQuery hc, h k hk, List.map_nil, List.append_nil]

theorem count_select_of_uncut : Keyword.select.count (quotedQuery f v) = 1 := by
  rw [Keyword.count_eq, spans_of_uncut h (by decide)]
  decide

-- Nothing of the query is taken for a clause but what stands in front of the condition.
theorem check_of_uncut : Outline.check (quotedQuery f v) = .ok () := by
  have hs {k : Keyword} (hk : k ∈ clauseKeywords) :=
    spans_of_uncut (f := f) h hk
  have hl : (quotedQuery f v).slice ⟨6, 9⟩ = " * ".toList :=
    Text.slice_append_of_le (u := quotedOpening) (by decide)
  rw [Outline.check_eq_ok_iff, tight_quotedQuery.trim_eq, Outline.checkSelectList_eq_ok_iff,
    Outline.checkCounts_eq_ok_iff, Outline.checkWheres_eq_ok_iff, Outline.checkOrders_eq_ok_iff]
  have hg : Keyword.groupBy.spans quotedOpening = [] := by decide
  simp only [Keyword.first?_eq, Keyword.count_eq, Keyword.starts, List.forall_mem_cons,
    hs (k := .select) (by decide), hs (k := .source) (by decide), hs (k := .filter) (by decide),
    hs (k := .groupBy) (by decide), hs (k := .orderBy) (by decide)]
  refine ⟨?_, ⟨⟨0, 6⟩, ⟨9, 13⟩, by decide, by decide, by decide, by rw [hl]; decide⟩,
    ⟨by decide, by decide, by decide, by decide, by simp⟩, by decide, by simp [hg]⟩
  rw [length_quotedQuery, Outline.minLength]
  omega

theorem filter_of_uncut :
    Clause.filter (quotedQuery f v) = .present (quotedCondition f v) := by
  have hs {k : Keyword} (hk : k ∈ clauseKeywords) :=
    spans_of_uncut (f := f) h hk
  have hl : Keyword.filter.last? (quotedQuery f v) = some ⟨20, 25⟩ := by
    rw [Keyword.last?_eq, hs (by decide)]
    decide
  have hg : Keyword.groupBy.last? (quotedQuery f v) = none := by
    rw [Keyword.last?_eq, hs (by decide)]
    decide
  have ho : Keyword.orderBy.last? (quotedQuery f v) = none := by
    rw [Keyword.last?_eq, hs (by decide)]
    decide
  have ht : Text.trim ((quotedQuery f v).slice ⟨25, (quotedQuery f v).length⟩) =
      quotedCondition f v := by
    have hd : (quotedQuery f v).slice ⟨25, (quotedQuery f v).length⟩ =
        [' '] ++ quotedCondition f v := by
      rw [Text.slice, List.take_of_length_le (by simp)]
      rfl
    rw [hd]
    simpa using tight_quotedCondition.trim_padded (u := [' ']) (v := []) rfl rfl
  have hb : Clause.ordersBeforeGroups (quotedQuery f v)
      ((Keyword.orderBy.last? (quotedQuery f v)).map (·.start))
      ((Keyword.groupBy.last? (quotedQuery f v)).map (·.start)) = false := by
    rw [hg, ho]
    rfl
  have hn : ((Keyword.groupBy.last? (quotedQuery f v)).map (·.start)).or
      ((Keyword.orderBy.last? (quotedQuery f v)).map (·.start)) = none := by
    rw [hg, ho]
    rfl
  rw [Clause.filter_eq hl (by decide) hb hn (by simp) ht tight_quotedCondition.ne_nil
    (.inr ⟨rfl, (count_select_of_uncut h).le⟩), filterOfText_quotedCondition]

omit h in
theorem source_of_quoted : Clause.source {} (quotedQuery f v) = .present "t.csv".toList :=
  Clause.source_eq (u := "select * from".toList)
    (s := "t.csv".toList)
    (v := " where".toList ++ ' ' :: quotedCondition f v) (by decide)
    (none_of_all (by decide)) (by decide) (by simp)

theorem base_of_uncut : Clause.base (quotedQuery f v) = .present (quotedOpening.take 19) := by
  have hb : Clause.baseEnd? (quotedQuery f v) = some 20 := by
    rw [Clause.baseEnd?, Keyword.last?_eq, spans_of_uncut h (by decide)]
    rfl
  have ht : Text.trim ((quotedQuery f v).take 20) = quotedOpening.take 19 := by
    rw [quotedQuery, List.take_append_of_le_length (by decide)]
    decide
  exact Clause.base_eq hb ht (.inr (by decide))

theorem selectList_of_uncut : Clause.selectList (quotedQuery f v) = .present [['*']] := by
  have hs : Keyword.select.first? (quotedQuery f v) = some ⟨0, 6⟩ := by
    rw [Keyword.first?_eq, spans_of_uncut h (by decide)]
    decide
  have ho : Keyword.source.starts (quotedQuery f v) = [9] := by
    rw [Keyword.starts, spans_of_uncut h (by decide)]
    decide
  have hl : (quotedQuery f v).slice ⟨6, 9⟩ = [' '] ++ ['*'] ++ [' '] :=
    Text.slice_append_of_le (u := quotedOpening) (by decide)
  have he : ∀ t ∈ [['*']], t ≠ [] ∧ ∀ c ∈ t, isBlank c = false := by
    simpa using (by decide)
  exact Clause.selectList_eq hs ho (by decide) hl ⟨by decide, by decide⟩ (by decide) (by decide) he

theorem aggregates_of_uncut : Clause.aggregates (quotedQuery f v) = .absent .notInQuery := by
  have hn : Pattern.aggregateCalls.spans (quotedOpening.take 19) = [] := by decide
  rw [Clause.aggregates, base_of_uncut h, Clause.bind, hn]
  rfl

end Uncut

section Joiners

theorem freeOf_joiners_iff : FreeOf [Keyword.and.letters, Keyword.or.letters] (quotedCondition f v) ↔
    ∀ k ∈ [Keyword.and, .or], k.spans v = [] := by
  have hk (k : Keyword) : ¬Mentions k.letters (quotedCondition f v) ↔ k.spans v = [] := by
    rw [← Keyword.spans_eq_nil_iff, spans_quotedCondition, List.map_eq_nil_iff]
  simp [FreeOf, hk]

-- Without joiners in the value there is one condition.
theorem conditions_of_isOpaque (h : isOpaque v) :
    Clause.conditions (quotedQuery f v) = .present [quotedCondition f v] := by
  obtain ⟨hk₁, hk₂, hc⟩ := isOpaque_iff.mp h
  have hb : Text.allBlank (quotedCondition f v) = false := by
    simpa using (tight_quotedCondition (f := f) (v := v)).not_allBlank [] []
  have hj := (Joined.one (freeOf_joiners_iff (f := f).mpr hk₂) hb).texts?_eq
  rw [tight_quotedCondition.trim_eq] at hj
  simp [Clause.conditions, filter_of_uncut hk₁, Clause.bind, hj, stripNot_quotedCondition,
    ofText?_quotedCondition hc]

end Joiners

-- No clause and no joiner is found in such a value, so that all of it goes to the one condition.
theorem parse_of_isOpaque (hv : ∀ c ∈ v, Text.isQuote c = false) (h : isOpaque v) :
    ∃ plan, Plan.parse {} (quotedQuery f v) = .ok plan ∧
      plan.predicates = [⟨f.text, .eq, v, false⟩] ∧ plan.joiners = [] := by
  obtain ⟨hk, -, hc⟩ := isOpaque_iff.mp h
  have hp := conditions_of_isOpaque (f := f) h
  have hm : Clause.conditions (quotedQuery f v) ≠ .malformed := by
    rw [hp]
    simp
  obtain ⟨ht, cs, hcs, hl⟩ := Clause.connectives_of_conditions hm
  have hj : cs.filter (·.isBinary) = [] := by
    rw [hp] at hl
    simpa [Clause.texts] using hl
  refine ⟨{
    rawText := quotedQuery f v
    source := "t.csv".toList
    baseQuery := quotedOpening.take 19
    projection := .all
    predicates := [⟨f.text, .eq, v, false⟩]
    connectives := cs
    aggregates := []
    groupBy := []
    orderBy := []
    kind := .simple }, Plan.parse_of_reads ?_, rfl, hj⟩
  have hg : Clause.groupBy (quotedQuery f v) = .absent .notInQuery :=
    Clause.groupBy_of_none (by rw [spans_of_uncut hk (by decide)]; decide)
  have ho : Clause.orderBy (quotedQuery f v) = .absent .notInQuery :=
    Clause.orderBy_of_none (by rw [spans_of_uncut hk (by decide)]; decide)
  have ha := aggregates_of_uncut (f := f) hk
  -- All other clauses are read from what stands in front of the value.
  have htrim := (tight_quotedQuery (f := f) (v := v)).trim_eq
  constructor
  case outline => exact check_of_uncut hk
  case rawText => rfl
  case balance => simp [Plan.checkBalance, hj]
  case kind => rfl
  case sortKeys => exact ⟨[], rfl⟩
  all_goals rw [htrim]
  case source => exact source_of_quoted
  case base => exact base_of_uncut hk
  case selectList => exact ⟨_, selectList_of_uncut hk, rfl⟩
  case filter => rw [filter_of_uncut hk]; simp
  case conditions => rw [hp]; simp
  case predicates => rw [hp]; exact mapM_cons_eq_ok.mpr ⟨_, _, parse_quotedCondition hv hc, rfl, rfl⟩
  case tokens => exact ht
  case connectives => exact hcs
  case groups => rw [hg]; simp
  case groupBy => rw [hg]; rfl
  case orders => rw [ho]; simp
  case orderBy => rw [ho]; rfl
  case calls => rw [ha]; simp
  case aggregates => rw [ha]; rfl

section Filter

variable {q text : Text} {plan : Plan} {p : Predicate}

-- A plan with one predicate has a filter without joiners, which is the condition.
theorem exists_filter_of_single (h : Plan.Reads {} q plan) (hp : plan.predicates = [p]) :
    ∃ text, Clause.filter q.trim = .present text ∧ Pattern.joiners.occursIn text = false ∧
      Predicate.parse text.trim = .ok p := by
  have hm := h.predicates
  rw [hp] at hm
  obtain ⟨piece, hl⟩ := List.length_eq_one_iff.mp (length_of_mapM_eq_ok hm).symm
  have hc : Clause.conditions q.trim = .present [piece] := by
    cases hc : Clause.conditions q.trim
    case present pieces => rw [hc] at hl; rw [← hl, Clause.texts]
    all_goals simp [hc, Clause.texts] at hl
  obtain ⟨text, hf, hj, -⟩ := Clause.joined_of_conditions hc
  have ho : Pattern.joiners.occursIn text = false := by
    have hl := hj.length
    rw [List.length_singleton] at hl
    exact Bool.eq_false_iff.mpr fun ho =>
      Pattern.found_ne_nil ho (List.length_eq_zero_iff.mp (by omega))
  have ht := hj.texts
  obtain rfl : text.trim = piece := by simpa [Pattern.pieces_split_of_free ho, ho] using ht
  rw [hl] at hm
  obtain ⟨_, _, hq, -, he⟩ := mapM_cons_eq_ok.mp hm
  obtain rfl := (List.cons.inj he).left
  exact ⟨text, hf, ho, hq⟩

-- A filter has no more room than there is between its two ends.
theorem length_filter_le (h : Clause.filter q = .present text) :
    ∃ w, Keyword.filter.last? q = some w ∧
      text.length ≤ Clause.filterStop q w.stop - w.stop := by
  obtain ⟨w, hw, rfl⟩ := Clause.filter_eq_present h
  exact ⟨w, hw, Text.length_strip_le.trans Text.length_slice_le⟩

variable (hf : Clause.filter (quotedQuery f v) = .present text)
  (hl : f.text.length + v.length ≤ text.length)
include hf hl

-- After another `where`, too little of the query is left for the condition.
theorem spans_filter_of_length : Keyword.filter.spans v = [] := by
  obtain ⟨w, hw, hlen⟩ := length_filter_le hf
  by_contra hn
  have hlast := hw
  rw [Keyword.last?_eq, spans_quotedQuery (by decide), List.getLast?_append, List.getLast?_map,
    List.getLast?_eq_some_getLast hn, Option.map_some, Option.some_or] at hlast
  have hs := Keyword.start_lt_stop (List.getLast_mem hn)
  have hstop : _ = w.stop := congrArg Span.stop (Option.some.inj hlast)
  have hle := (Clause.filterStop_spec hw).right.left
  have := List.length_pos_iff.mpr f.nonempty
  rw [length_quotedQuery] at hle
  simp only [Span.shift] at hstop
  omega

omit hf hl in
theorem spans_late {k : Keyword} (hk : k ∈ [Keyword.groupBy, .orderBy]) :
    k.spans (quotedQuery f v) = (k.spans v).map (·.shift (f.text.length + 30)) := by
  have hc : ∀ k ∈ [Keyword.groupBy, .orderBy], k ∈ Keyword.clauses ∧ k.spans quotedOpening = [] := by
    decide
  rw [spans_quotedQuery (hc k hk).left, (hc k hk).right, List.nil_append]

-- In front of another clause there is too little as well, since its keyword takes room.
theorem afterFilter?_of_length : Clause.afterFilter? (quotedQuery f v) = none := by
  obtain ⟨w, hw, hlen⟩ := length_filter_le hf
  obtain rfl : ⟨20, 25⟩ = w := by
    rw [Keyword.last?_eq, spans_quotedQuery (by decide), spans_filter_of_length hf hl] at hw
    exact Option.some.inj hw
  by_contra hn
  obtain ⟨n, hn⟩ := Option.ne_none_iff_exists'.mp hn
  obtain ⟨k, hk, hlast⟩ := Clause.exists_last_of_afterFilter hn
  have hm := Keyword.mem_of_last? hlast
  rw [spans_late hk] at hm
  obtain ⟨s, hs, rfl⟩ := List.mem_map.mp hm
  have h8 : ∀ k ∈ [Keyword.groupBy, .orderBy], k.letters.length = 8 := by decide
  have h8 := h8 k hk
  have hstop := Keyword.stop_eq hs
  have hle := Keyword.stop_le_length hs
  have hlt : 25 < (s.shift (f.text.length + 30)).start := by
    simp only [Span.shift]
    omega
  have hend : Clause.filterStop (quotedQuery f v) 25 = f.text.length + 30 + s.start := by
    rw [Clause.filterStop, hn]
    exact if_pos hlt
  simp only [hend] at hlen
  omega

theorem spans_late_of_length (hk : k ∈ [Keyword.groupBy, .orderBy]) : k.spans v = [] := by
  obtain ⟨hg, ho⟩ := Option.or_eq_none_iff.mp (afterFilter?_of_length hf hl)
  have hlast : k.last? (quotedQuery f v) = none := by
    obtain rfl | rfl : k = .groupBy ∨ k = .orderBy := by simpa using hk
    case inl => exact hg
    case inr => exact ho
  rw [Keyword.last?_eq, spans_late hk, List.getLast?_eq_none_iff, List.map_eq_nil_iff] at hlast
  exact hlast

end Filter

section Outline

variable (hw : Keyword.filter.spans v = [])
include hw

-- The only `where` is paired with the only `from`.
theorem spans_source_of_check (h : Outline.checkWheres (quotedQuery f v) = .ok ()) :
    Keyword.source.spans v = [] := by
  obtain ⟨hc, -⟩ := Outline.checkWheres_eq_ok_iff.mp h
  have hn : Keyword.filter.starts (quotedQuery f v) = [20] := by
    rw [Keyword.starts, spans_quotedQuery (by decide), hw]
    rfl
  have hs : (Keyword.source.starts (quotedQuery f v)).length =
      1 + (Keyword.source.spans v).length := by
    rw [Keyword.starts, spans_quotedQuery (by decide)]
    simp [show Keyword.source.spans quotedOpening = [⟨9, 13⟩] by decide]
    omega
  rw [hn, hs] at hc
  exact List.length_eq_zero_iff.mp (by simpa using hc)

-- And that one with the only `select`.
theorem spans_select_of_check (h : Outline.check (quotedQuery f v) = .ok ()) :
    Keyword.source.spans v = [] ∧ Keyword.select.spans v = [] := by
  have hoc := Outline.check_eq_ok_iff.mp h
  rw [tight_quotedQuery.trim_eq] at hoc
  have ho := spans_source_of_check hw hoc.right.right.right.left
  obtain ⟨hc, -⟩ := Outline.checkCounts_eq_ok_iff.mp hoc.right.right.left
  rw [Keyword.count_eq, Keyword.count_eq, spans_quotedQuery (by decide),
    spans_quotedQuery (by decide), ho] at hc
  exact ⟨ho, by simpa [show Keyword.source.spans quotedOpening = [⟨9, 13⟩] by decide,
    show Keyword.select.spans quotedOpening = [⟨0, 6⟩] by decide] using hc⟩

end Outline

-- A query with the one predicate has room for it in its filter, so that nothing in the value is taken
-- for a clause, and with no joiner and one operator in the filter, none is in the value.
theorem isOpaque_of_parse (h : Plan.parse {} (quotedQuery f v) = .ok plan)
    (hp : plan.predicates = [⟨f.text, .eq, v, false⟩]) : isOpaque v := by
  have hr := Plan.reads_of_parse h
  obtain ⟨text, hf, hj, hq⟩ := exists_filter_of_single hr hp
  rw [tight_quotedQuery.trim_eq] at hf
  have hl : f.text.length + v.length ≤ text.length :=
    (Predicate.length_of_parse hq).trans Text.length_strip_le
  have hw := spans_filter_of_length hf hl
  have hlate {k : Keyword} (hk : k ∈ [Keyword.groupBy, .orderBy]) : k.spans v = [] :=
    spans_late_of_length hf hl hk
  obtain ⟨ho, hs⟩ := spans_select_of_check hw hr.outline
  have hk : ∀ k ∈ clauseKeywords, k.spans v = [] := by
    simp [clauseKeywords, hs, ho, hw, hlate]
  obtain rfl := Clause.present.inj (hf.symm.trans (filter_of_uncut hk))
  rw [tight_quotedCondition.trim_eq] at hq
  refine isOpaque_iff.mpr ⟨hk, freeOf_joiners_iff.mp (Pattern.joiners_eq_false_iff.mp hj), ?_⟩
  cases hc : Condition.ofText? (quotedCondition f v)
  case none => simp [Predicate.parse, stripNot_quotedCondition, hc] at hq
  case some c => exact blankless_or_signless_of_ofText? hc

-- A quoted value is read as it is written exactly if nothing in it is cut at.
theorem parse_quoted_iff (hv : ∀ c ∈ v, Text.isQuote c = false) :
    (∃ plan, Plan.parse {} (quotedQuery f v) = .ok plan ∧
      plan.predicates = [⟨f.text, .eq, v, false⟩] ∧ plan.joiners = []) ↔ isOpaque v where
  mp := fun ⟨_, h, hp, _⟩ => isOpaque_of_parse h hp
  mpr := parse_of_isOpaque hv

-- Parentheses are left alone, and so is a `not`.
theorem parse_quoted_parentheses : (∀ c ∈ "not (x)".toList, Text.isQuote c = false) ∧
    ∃ plan, Plan.parse {} (quotedQuery ⟨['f'], by decide, by decide, by decide⟩
      "not (x)".toList) = .ok plan ∧
        plan.predicates = [⟨['f'], .eq, "not (x)".toList, false⟩] ∧
          plan.joiners = [] :=
  ⟨none_of_all (by decide), (parse_quoted_iff (none_of_all (by decide))).mpr (by decide)⟩

-- At `select * from t.csv where f = 'x and y'` the value is cut in two.
theorem not_parse_quoted_and : (∀ c ∈ "x and y".toList, Text.isQuote c = false) ∧
    ¬∃ plan, Plan.parse {} (quotedQuery ⟨['f'], by decide, by decide, by decide⟩
      "x and y".toList) = .ok plan ∧
        plan.predicates = [⟨['f'], .eq, "x and y".toList, false⟩] ∧
          plan.joiners = [] :=
  ⟨none_of_all (by decide), fun ⟨_, h, hp, _⟩ => absurd (isOpaque_of_parse h hp) (by decide)⟩

end Dialect
end FlatQuery
