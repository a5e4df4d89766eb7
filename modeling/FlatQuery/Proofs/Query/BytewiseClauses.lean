import FlatQuery.Proofs.Query.BytewiseOutline
import FlatQuery.Proofs.Query.PresentClauses

namespace FlatQuery
namespace Bytewise

section Lists

variable {f : β → Option γ} {p : α → β} {xs : List α}

theorem mapM_map_eq_some {g : α → γ} (h : ∀ a ∈ xs, f (p a) = some (g a)) :
    (xs.map p).mapM f = some (xs.map g) := by
  induction xs
  case nil => rfl
  case cons a xs hi =>
    obtain ⟨ha, hxs⟩ := List.forall_mem_cons.mp h
    rw [List.map_cons, List.mapM_cons, ha, hi hxs]
    rfl

theorem allM_eq_some {f : α → Option Bool} {g : α → Bool} (h : ∀ a ∈ xs, f a = some (g a)) :
    xs.allM f = some (xs.all g) := by
  induction xs
  case nil => rfl
  case cons a xs hi =>
    obtain ⟨ha, hxs⟩ := List.forall_mem_cons.mp h
    rw [List.allM, ha, List.all_cons]
    cases g a
    case false => rfl
    case true => exact hi hxs

theorem findM?_map_eq_some {f : β → Option Bool} {g : α → Bool}
    (h : ∀ a ∈ xs, f (p a) = some (g a)) : (xs.map p).findM? f = some ((xs.find? g).map p) := by
  induction xs
  case nil => rfl
  case cons a xs hi =>
    obtain ⟨ha, hxs⟩ := List.forall_mem_cons.mp h
    rw [List.map_cons, List.findM?, ha, List.find?_cons]
    cases g a
    case false => exact hi hxs
    case true => rfl

end Lists

def andThen (c : Clause α) (f : α → Option (Clause β)) : Option (Clause β) :=
  match c with
  | .absent why => some (.absent why)
  | .malformed => some .malformed
  | .present value => f value

def base (query : Text) : Option (Clause Text) :=
  match ((Keyword.filter.ranges query).getLast?.or ((Keyword.groupBy.ranges query).getLast?.or
      (Keyword.orderBy.ranges query).getLast?)).map (·.start) with
  | none => some (.present query)
  | some stop => do
    let text := Text.trim (← query.cut? ⟨0, stop⟩)
    if [Keyword.filter, .orderBy, .groupBy].any (·.occursIn text) && !text.contains '('
        && !text.contains ')' then
      return .malformed
    else
      return .present text

def isBalanced (query : Text) (start stop : Nat) : Option Bool :=
  (query.cut? ⟨start, stop⟩).map Clause.isBalanced

def selectRange? (query : Text) : Option (Option ByteRange) :=
  match (Keyword.select.ranges query).head? with
  | none => some none
  | some select =>
    if select.start = 0 then do
      let source ← ((starts .source query).filter (select.stop ≤ ·)).findM?
        (isBalanced query select.stop)
      return source.map (⟨select.stop, ·⟩)
    else
      some none

def selectList (query : Text) : Option (Clause (List Text)) := do
  match ← selectRange? query with
  | none => return .malformed
  | some range =>
    let entries := (Text.pieces (· == ',') (← query.cut? range)).map Text.trim
    if entries.all Clause.isSelectEntry then return .present entries else return .malformed

def ordersBeforeGroups (query : Text) : Option Nat → Option Nat → Option Bool
  | some order, some group =>
    if order < group then
      (query.cut? ⟨order, group⟩).map fun between => !between.closesSubquery
    else
      some false
  | _, _ => some false

-- What stands ahead of the clause.
def front? (query : Text) : Option Nat → Option Text
  | some stop => query.cut? ⟨0, stop⟩
  | none => some query

def lastFilter (query : Text) (start : Nat) (clause : Option Nat) : Option (Clause Text) := do
  let scope ← front? query clause
  let nested := Keyword.select.count scope > 1
  if clause.isSome && !nested then return .malformed
  let text := Text.trim (← query.cut? ⟨start, query.byteSize⟩)
  if text.isEmpty then return .malformed
  else if nested && text.closesSubquery then return .absent .onlyInSubquery
  else return Clause.filterOfText text

def filter (query : Text) : Option (Clause Text) :=
  match (Keyword.filter.ranges query).getLast? with
  | none => some (.absent .notInQuery)
  | some keyword => do
    let start := keyword.stop
    if (← query.cut? ⟨0, start⟩).length ≤ Outline.minLength then return .malformed
    let order := (Keyword.orderBy.ranges query).getLast?.map (·.start)
    let group := (Keyword.groupBy.ranges query).getLast?.map (·.start)
    if ← ordersBeforeGroups query order group then return .malformed
    match group.or order with
    | some stop =>
      if start < stop then
        let text := Text.trim (← query.cut? ⟨start, stop⟩)
        if text.isEmpty then return .malformed
        else if text.closesSubquery then return .absent .onlyInSubquery
        else return Clause.filterOfText text
      else
        lastFilter query start (some stop)
    | none => lastFilter query start none

def usable? (pieces : List Text) : Option (List Text) :=
  if pieces.any Text.allBlank then
    if pieces.any fun piece => piece.trim.eqIgnoringCase "not".toList then
      some (pieces.filter fun piece => !piece.allBlank)
    else
      none
  else
    some pieces

def ofText? (t : Text) : Option (Option Condition) :=
  match Condition.ofWords? t.trim with
  | some c => some (some c)
  | none => do
    match ← Pattern.comparisons.splitBytes? t.trim with
    | ⟨field, [(operator, literal)]⟩ =>
      if field.allBlank || literal.allBlank then return none
      else return some ⟨field.trim, operator, literal.trim⟩
    | _ => return none

def conditions (query : Text) : Option (Clause (List Text)) := do
  andThen (← filter query) fun text => do
    match usable? (← Pattern.joiners.splitBytes? text).pieces with
    | none => return .malformed
    | some pieces =>
      let pieces := (pieces.filter fun piece => !Pattern.joiners.occursIn piece).map Text.trim
      if ← pieces.allM fun piece => return (← ofText? piece.stripNot.2).isSome then
        return .present pieces
      else
        return .malformed

def connectives (query : Text) : Option (Clause (List Text)) := do
  andThen (← filter query) fun text => do
    match usable? (← Pattern.connectives.splitBytes? text).pieces with
    | none => return .malformed
    | some pieces =>
      match (pieces.filter Pattern.connectives.occursIn).map Text.trim with
      | [] => return .absent .notInQuery
      | tokens => return .present (tokens.map Text.lowerAscii)

def tail (k : Keyword) (query : Text) : Option (Clause Text) :=
  match (k.ranges query).getLast? with
  | none => some (.absent .notInQuery)
  | some range => do
    let text := Text.trim (← query.cut? ⟨range.stop, query.byteSize⟩)
    if text.isEmpty then return .malformed else return .present text

def fieldsOfTail (others : List Keyword) (read : Text → Option (Clause (List Text)))
    (text : Text) : Option (Clause (List Text)) :=
  if others.any (·.occursIn text) then
    if text.closesSubquery then some (.absent .onlyInSubquery) else some .malformed
  else if text.closesSubquery && !text.contains '(' then
    some (.absent .onlyInSubquery)
  else
    read text

def orderBy (query : Text) : Option (Clause (List Text)) := do
  andThen (← tail .orderBy query) <|
    fieldsOfTail [.filter, .groupBy] fun text => some (Clause.fieldList (some 2) text)

def groupFields (text : Text) : Option Text := do
  let stops := [Keyword.having, .orderBy].filterMap fun k => (k.ranges text).head?.map (·.start)
  let fields := Text.trim (← text.cut? ⟨0, stops.min?.getD text.byteSize⟩)
  if fields.getLast? = some ')' then return Text.strip (· == ')') fields else return fields

def groupBy (query : Text) : Option (Clause (List Text)) := do
  andThen (← tail .groupBy query) <|
    fieldsOfTail [.filter] fun text => do return Clause.fieldList none (← groupFields text)

def aggregates (query : Text) : Option (Clause (List Text)) := do
  andThen (← base query) fun text => do
    match ← (Pattern.aggregateCalls.ranges text).mapM text.cut? with
    | [] => return .absent .notInQuery
    | calls => return .present calls

-- Reads a clause from the trimmed text, whose outline is checked once more.
def ofSound (f : Text → Option (Clause α)) (raw : Text) : Option (Clause α) := do
  match ← (check raw.trim).run with
  | .ok () => f raw.trim
  | .error _ => return .malformed

section Clauses

variable (query : Text)

theorem andThen_eq {c : Clause α} {f : α → Option (Clause β)} {g : α → Clause β}
    (h : ∀ a, f a = some (g a)) : andThen c f = some (c.bind g) := by
  cases c
  case present a => exact h a
  all_goals rfl

theorem le_length_of_baseEnd? (h : Clause.baseEnd? query = some stop) : stop ≤ query.length := by
  obtain ⟨s, hs, rfl⟩ := Option.map_eq_some_iff.mp h
  obtain hs | ⟨-, hs⟩ := Option.or_eq_some_iff.mp hs
  case inl => exact Keyword.start_le_length (Keyword.mem_of_last? hs)
  case inr =>
    obtain hs | ⟨-, hs⟩ := Option.or_eq_some_iff.mp hs
    case inl => exact Keyword.start_le_length (Keyword.mem_of_last? hs)
    case inr => exact Keyword.start_le_length (Keyword.mem_of_last? hs)

theorem base_eq : base query = some (Clause.base query) := by
  have hb : ((Keyword.filter.ranges query).getLast?.or ((Keyword.groupBy.ranges query).getLast?.or
      (Keyword.orderBy.ranges query).getLast?)).map (·.start) =
        (Clause.baseEnd? query).map query.byteOffset := by
    simp only [Keyword.getLast?_ranges, ← Option.map_or, Clause.baseEnd?, Option.map_map]
    rfl
  rw [base, Clause.base, hb]
  cases h : Clause.baseEnd? query
  case none => rfl
  case some stop =>
    simp only [Option.map_some, Text.cut?_take (le_length_of_baseEnd? query h), Option.bind_eq_bind,
      Option.bind_some]
    split <;> rfl

theorem selectRange?_eq :
    selectRange? query = some ((Clause.selectSpan? query).map (·.bytes query)) := by
  rw [selectRange?, Clause.selectSpan?, Keyword.head?_ranges]
  cases hs : Keyword.select.first? query
  case none => rfl
  case some select =>
    have hl := Keyword.stop_le_length (Keyword.mem_of_first? hs)
    have h₀ := Text.byteOffset_eq_zero_iff (Keyword.start_le_length (Keyword.mem_of_first? hs))
    -- The places at or after the `select` are the same places.
    have hf : (starts .source query).filter (query.byteOffset select.stop ≤ ·) =
        ((Keyword.source.starts query).filter (select.stop ≤ ·)).map query.byteOffset := by
      rw [starts_eq, List.filter_map]
      congr 1
      refine List.filter_congr fun i hi => ?_
      simp [Text.byteOffset_le_iff hl (Keyword.le_length_of_mem_starts hi)]
    simp only [Option.map_some, Span.bytes, h₀, hf]
    split
    case isFalse => rfl
    case isTrue =>
      have hm : (((Keyword.source.starts query).filter (select.stop ≤ ·)).map
          query.byteOffset).findM? (isBalanced query (query.byteOffset select.stop)) =
            some ((((Keyword.source.starts query).filter (select.stop ≤ ·)).find? fun stop =>
              Clause.isBalanced (query.slice ⟨select.stop, stop⟩)).map query.byteOffset) :=
        findM?_map_eq_some fun i hi => by
          obtain ⟨hi, hle⟩ := List.mem_filter.mp hi
          rw [isBalanced, Text.cut?_bytes (by simpa using hle) (Keyword.le_length_of_mem_starts hi)]
          rfl
      simp only [hm, List.find?_filter, Option.map_map, Option.bind_eq_bind, Option.bind_some,
        Option.pure_def, Bool.decide_and, Bool.decide_eq_true]
      rfl

theorem selectSpan?_within (h : Clause.selectSpan? query = some span) :
    span.start ≤ span.stop ∧ span.stop ≤ query.length := by
  obtain ⟨-, hle, hm⟩ := Clause.selectSpan?_spec h
  exact ⟨hle, Keyword.le_length_of_mem_starts hm⟩

theorem selectList_eq : selectList query = some (Clause.selectList query) := by
  rw [selectList, Clause.selectList, selectRange?_eq]
  cases h : Clause.selectSpan? query
  case none => rfl
  case some span =>
    obtain ⟨ho, hl⟩ := selectSpan?_within query h
    have hc : query.cut? (span.bytes query) = some (query.slice span) := Text.cut?_bytes ho hl
    simp only [Option.map_some, Option.bind_eq_bind, Option.bind_some, hc]
    split <;> rfl

variable {query}

theorem ordersBeforeGroups_eq {order group : Option Nat} (ho : ∀ i ∈ order, i ≤ query.length)
    (hg : ∀ i ∈ group, i ≤ query.length) :
    ordersBeforeGroups query (order.map query.byteOffset) (group.map query.byteOffset) =
      some (Clause.ordersBeforeGroups query order group) := by
  cases order
  case none => rfl
  case some order =>
    cases group
    case none => rfl
    case some group =>
      have ho := ho order rfl
      have hg := hg group rfl
      simp only [Option.map_some, ordersBeforeGroups, Clause.ordersBeforeGroups,
        Text.byteOffset_lt_iff ho hg]
      split
      case isFalse h => simp [h]
      case isTrue h =>
        rw [Text.cut?_bytes (Nat.le_of_lt h) hg]
        simp [h]

theorem lastFilter_eq {start : Nat} {clause : Option Nat} (hs : start ≤ query.length)
    (hc : ∀ i ∈ clause, i ≤ query.length) :
    lastFilter query (query.byteOffset start) (clause.map query.byteOffset) =
      some (Clause.lastFilter query start clause) := by
  cases clause
  case none =>
    simp only [lastFilter, Clause.lastFilter, front?, Option.map_none, Text.cut?_drop hs,
      Option.bind_eq_bind, Option.bind_some, Option.isSome_none, Bool.false_and, Bool.false_or]
    split
    case isTrue => contradiction
    case isFalse =>
      split
      case isTrue => rfl
      case isFalse => split <;> rfl
  case some stop =>
    simp only [lastFilter, Clause.lastFilter, front?, Option.map_some, Text.cut?_drop hs,
      Text.cut?_take (hc stop rfl), Option.bind_eq_bind, Option.bind_some, Option.isSome_some,
      Bool.true_and, Bool.or_eq_true]
    split
    case isTrue h => rw [if_pos (.inl h)]; rfl
    case isFalse h =>
      split
      case isTrue he => rw [if_pos (.inr he)]; rfl
      case isFalse he =>
        rw [if_neg (not_or_intro h he)]
        split <;> rfl

variable (query)

-- The place of the last keyword, if there is one, is within the text.
theorem start_last?_eq (k : Keyword) : (k.ranges query).getLast?.map (·.start) =
    ((k.last? query).map (·.start)).map query.byteOffset := by
  rw [Keyword.getLast?_ranges, Option.map_map, Option.map_map]
  rfl

theorem start_last?_le (k : Keyword) : ∀ i ∈ (k.last? query).map (·.start), i ≤ query.length := by
  intro i hi
  obtain ⟨s, hs, rfl⟩ := Option.map_eq_some_iff.mp hi
  exact Keyword.start_le_length (Keyword.mem_of_last? hs)

theorem filter_eq : filter query = some (Clause.filter query) := by
  rw [filter, Clause.filter, Keyword.getLast?_ranges]
  cases hl : Keyword.filter.last? query
  case none => rfl
  case some keyword =>
    have hk := Keyword.stop_le_length (Keyword.mem_of_last? hl)
    have ho := start_last?_le query .orderBy
    have hg := start_last?_le query .groupBy
    have hn : (query.take keyword.stop).length = keyword.stop := by simp [hk]
    have hc : ∀ i ∈ ((Keyword.groupBy.last? query).map (·.start)).or
        ((Keyword.orderBy.last? query).map (·.start)), i ≤ query.length := fun i hi => by
      obtain hi | ⟨-, hi⟩ := Option.or_eq_some_iff.mp hi
      case inl => exact hg i hi
      case inr => exact ho i hi
    -- Offsets are compared as the places are, so that both readings take the same branches.
    simp only [Option.map_some, Span.bytes, start_last?_eq, Text.cut?_take hk, hn,
      ordersBeforeGroups_eq ho hg, ← Option.map_or (f := query.byteOffset), Option.bind_eq_bind,
      Option.bind_some, Bool.or_eq_true, decide_eq_true_eq]
    split
    case isTrue h => rw [if_pos (.inl h)]; rfl
    case isFalse hm =>
      split
      case isTrue h => rw [if_pos (.inr h)]; rfl
      case isFalse hb =>
        rw [if_neg (not_or_intro hm hb)]
        generalize ((Keyword.groupBy.last? query).map (·.start)).or
          ((Keyword.orderBy.last? query).map (·.start)) = clause at hc
        cases clause
        case none => exact lastFilter_eq hk hc
        case some stop =>
          have hs := hc stop rfl
          simp only [Option.map_some, Text.byteOffset_lt_iff hk hs]
          split
          case isFalse => exact lastFilter_eq hk hc
          case isTrue h =>
            rw [Text.cut?_bytes (Nat.le_of_lt h) hs, Option.bind_some]
            split
            case isTrue => rfl
            case isFalse => split <;> rfl

theorem usable?_pieces (p : Pattern) : usable? (p.split query).pieces = p.usable? query :=
  rfl

theorem ofText?_eq : ofText? query = some (Condition.ofText? query) := by
  rw [ofText?, Condition.ofText?, Condition.ofSplit?, Pattern.splitBytes?_eq]
  cases Condition.ofWords? query.trim
  case some => rfl
  case none =>
    obtain ⟨field, tail⟩ := Pattern.comparisons.split query.trim
    match tail with
    | [] => rfl
    | _ :: _ :: _ => rfl
    | [(operator, literal)] =>
      simp only [Option.bind_eq_bind, Option.bind_some, Option.none_or]
      split <;> rfl

theorem conditions_eq : conditions query = some (Clause.conditions query) := by
  rw [conditions, filter_eq]
  refine andThen_eq fun text => ?_
  simp only [Pattern.splitBytes?_eq, Option.bind_eq_bind, Option.bind_some, usable?_pieces,
    Pattern.texts?]
  cases Pattern.joiners.usable? text
  case none => rfl
  case some pieces =>
    have hp (piece : Text) : ((ofText? piece.stripNot.2).bind fun c => pure c.isSome) =
        some (Condition.ofText? piece.stripNot.2).isSome := by
      rw [ofText?_eq]
      rfl
    simp only [Option.map_some, allM_eq_some fun piece _ => hp piece, Option.bind_some]
    split <;> rfl

theorem connectives_eq : connectives query = some (Clause.connectives query) := by
  rw [connectives, filter_eq]
  refine andThen_eq fun text => ?_
  simp only [Pattern.splitBytes?_eq, Option.bind_eq_bind, Option.bind_some, usable?_pieces,
    Pattern.delimiters?]
  cases Pattern.connectives.usable? text
  case none => rfl
  case some pieces =>
    simp only [Option.map_some]
    cases (pieces.filter Pattern.connectives.occursIn).map Text.trim <;> rfl

theorem tail_eq (k : Keyword) : tail k query = some (Clause.tail k query) := by
  rw [tail, Clause.tail, Keyword.getLast?_ranges]
  cases hl : k.last? query
  case none => rfl
  case some s =>
    have hk := Keyword.stop_le_length (Keyword.mem_of_last? hl)
    simp only [Option.map_some, Span.bytes, Text.cut?_drop hk, Option.bind_eq_bind,
      Option.bind_some]
    split <;> rfl

theorem fieldsOfTail_eq {others : List Keyword} {f : Text → Option (Clause (List Text))}
    {g : Text → Clause (List Text)} (h : ∀ text, f text = some (g text)) :
    fieldsOfTail others f query = some (Clause.fieldsOfTail others g query) := by
  rw [fieldsOfTail, Clause.fieldsOfTail, h]
  split
  case isTrue => split <;> rfl
  case isFalse => split <;> rfl

theorem orderBy_eq : orderBy query = some (Clause.orderBy query) := by
  rw [orderBy, tail_eq]
  exact andThen_eq fun text => fieldsOfTail_eq text fun _ => rfl

-- The least of some places is at the least of their offsets.
theorem foldl_min_byteOffset {n : Nat} {l : List Nat} (hl : ∀ i ∈ l, i ≤ query.length)
    (hn : n ≤ query.length) : l.foldl min n ≤ query.length ∧
      (l.map query.byteOffset).foldl min (query.byteOffset n) =
        query.byteOffset (l.foldl min n) := by
  induction l generalizing n
  case nil => exact ⟨hn, rfl⟩
  case cons i l hi =>
    obtain ⟨hi', hl⟩ := List.forall_mem_cons.mp hl
    have hm : min (query.byteOffset n) (query.byteOffset i) = query.byteOffset (min n i) := by
      obtain h | h := Nat.le_total n i
      case inl => rw [Nat.min_eq_left h, Nat.min_eq_left (Text.byteOffset_le h hi')]
      case inr => rw [Nat.min_eq_right h, Nat.min_eq_right (Text.byteOffset_le h hn)]
    rw [List.map_cons, List.foldl_cons, List.foldl_cons, hm]
    exact hi hl (Nat.le_trans (Nat.min_le_left n i) hn)

theorem min?_byteOffset {l : List Nat} (hl : ∀ i ∈ l, i ≤ query.length) :
    (l.map query.byteOffset).min?.getD query.byteSize =
      query.byteOffset (l.foldl min query.length) := by
  cases l
  case nil => simp
  case cons i l =>
    obtain ⟨hi, hl⟩ := List.forall_mem_cons.mp hl
    have hm : min query.length i = i := Nat.min_eq_right hi
    rw [List.map_cons, List.min?_cons', Option.getD_some, List.foldl_cons, hm]
    exact (foldl_min_byteOffset query hl hi).right

theorem groupFields_eq : groupFields query = some (Clause.groupFields query) := by
  have hs : ([Keyword.having, .orderBy].filterMap fun k => (k.ranges query).head?.map (·.start)) =
      ([Keyword.having, .orderBy].filterMap fun k => (k.first? query).map (·.start)).map
        query.byteOffset := by
    rw [List.map_filterMap]
    refine List.filterMap_congr fun k _ => ?_
    rw [Keyword.head?_ranges, Option.map_map, Option.map_map]
    rfl
  have hl : ∀ i ∈ [Keyword.having, .orderBy].filterMap fun k => (k.first? query).map (·.start),
      i ≤ query.length := fun i hi => by
    obtain ⟨k, -, hk⟩ := List.mem_filterMap.mp hi
    obtain ⟨s, hs, rfl⟩ := Option.map_eq_some_iff.mp hk
    exact Keyword.start_le_length (Keyword.mem_of_first? hs)
  have hn := (foldl_min_byteOffset query hl (Nat.le_refl _)).left
  simp only [groupFields, Clause.groupFields, hs, min?_byteOffset query hl, Text.cut?_take hn,
    Option.bind_eq_bind, Option.bind_some]
  split <;> rfl

theorem groupBy_eq : groupBy query = some (Clause.groupBy query) := by
  rw [groupBy, tail_eq]
  refine andThen_eq fun text => fieldsOfTail_eq text fun text => ?_
  rw [groupFields_eq]
  rfl

theorem aggregates_eq : aggregates query = some (Clause.aggregates query) := by
  rw [aggregates, base_eq]
  refine andThen_eq fun text => ?_
  have hm : (Pattern.aggregateCalls.ranges text).mapM text.cut? =
      some ((Pattern.aggregateCalls.spans text).map text.slice) :=
    mapM_map_eq_some fun s hs => Pattern.cut?_of_mem_spans hs
  rw [hm]
  cases (Pattern.aggregateCalls.spans text).map text.slice <;> rfl

theorem ofSound_eq {f : Text → Option (Clause α)} {g : Text → Clause α} (raw : Text)
    (h : ∀ query, f query = some (g query)) : ofSound f raw = some (Clause.ofSound g raw) := by
  have hc : (check raw.trim).run = some (Outline.check raw) := by
    have ht : raw.trim.trim = raw.trim := Text.strip_strip
    rw [runs_check raw.trim, Outline.check, Outline.check, ht]
  rw [ofSound, hc, Clause.ofSound, Outline.isSound, h]
  cases Outline.check raw <;> rfl

end Clauses
end Bytewise
end FlatQuery
