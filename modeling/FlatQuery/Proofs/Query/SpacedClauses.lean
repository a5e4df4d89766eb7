import FlatQuery.Proofs.Query.Connectives
import FlatQuery.Proofs.Query.SpacedConditions
import FlatQuery.Proofs.Query.SpacedOutline

namespace FlatQuery

open Spaced

variable {s s' : Side} {q t : Spaced}

namespace Clause

theorem exists_bind {c : Clause Spaced} {x : Side → Clause Text} {f : Text → Clause β}
    {g : Side → γ → β} (hx : ∀ s, x s = c.map (on s))
    (hf : ∀ t, c = .present t → ∃ d : Clause γ, ∀ s, f (on s t) = d.map (g s)) :
    ∃ d : Clause γ, ∀ s, (x s).bind f = d.map (g s) := by
  cases c
  case absent why => exact ⟨.absent why, fun s => by rw [hx]; rfl⟩
  case malformed => exact ⟨.malformed, fun s => by rw [hx]; rfl⟩
  case present t =>
    obtain ⟨d, hd⟩ := hf t rfl
    exact ⟨d, fun s => by rw [hx]; exact hd s⟩

theorem source_on (settings : Settings) (s s' : Side) (q : Spaced) :
    source settings (on s q) = source settings (on s' q) := by
  rw [source, words_on s s', source]

section Base

theorem exists_baseEnd (h : Keeps q) : ∃ e : Option Nat, (∀ i ∈ e, Keeps (q.take i)) ∧
    ∀ s, baseEnd? (on s q) = e.map (place s q) := by
  obtain ⟨w, hw, hw'⟩ := Keyword.filter.exists_last_on (.inr h)
  obtain ⟨g, hg, hg'⟩ := Keyword.groupBy.exists_last_on (.inr h)
  obtain ⟨o, ho, ho'⟩ := Keyword.orderBy.exists_last_on (.inr h)
  refine ⟨(w.or (g.or o)).map (·.start), fun i hi => ?_, fun s => ?_⟩
  case refine_1 =>
    obtain ⟨x, hx, rfl⟩ := Option.map_eq_some_iff.mp hi
    have hx : Parts q x := by
      obtain hx | ⟨-, hx⟩ := Option.or_eq_some_iff.mp hx
      case inl => exact hw x hx
      obtain hx | ⟨-, hx⟩ := Option.or_eq_some_iff.mp hx
      case inl => exact hg x hx
      case inr => exact ho x hx
    exact hx.keeps_take h
  case refine_2 =>
    rw [baseEnd?, hw', hg', ho', ← Option.map_or, ← Option.map_or, Option.map_map, Option.map_map]
    rfl

theorem exists_base (h : Keeps q) : ∃ c : Clause Spaced, ∀ s, base (on s q) = c.map (on s) := by
  obtain ⟨e, he, hb⟩ := exists_baseEnd h
  cases e
  case none => exact ⟨.present q, fun s => by rw [base, hb]; rfl⟩
  case some i =>
    have hk := (he i rfl).trim
    generalize ht : Spaced.trim (q.take i) = t at hk
    have ht (s) : Text.trim ((on s q).take (place s q i)) = on s t := by
      rw [take_place, trim_on, ht]
    have hf (s) : ([Keyword.filter, .orderBy, .groupBy].any (·.occursIn (on s t)) &&
        !(on s t).contains '(' && !(on s t).contains ')') =
        ([Keyword.filter, .orderBy, .groupBy].any (·.occursIn (on .before t)) &&
          !(on .before t).contains '(' && !(on .before t).contains ')') := by
      rw [contains_on (by decide) s .before, contains_on (by decide) s .before]
      simp only [Keyword.occursIn_on (.inr hk) s .before]
    simp only [base, hb, Option.map_some, ht, hf]
    split
    case isTrue => exact ⟨.malformed, fun _ => rfl⟩
    case isFalse => exact ⟨.present t, fun _ => rfl⟩

theorem aggregates_on (h : Keeps q) (s s' : Side) : aggregates (on s q) = aggregates (on s' q) := by
  obtain ⟨c, hc⟩ := exists_base h
  have hf (t : Spaced) : Pattern.aggregateCalls.found (on s t) =
      Pattern.aggregateCalls.found (on s' t) :=
    (Pattern.blind_calls t).found_on (fun _ _ _ => Pattern.no_blank_of_takes_calls) s s'
  simp only [aggregates, hc]
  cases c
  case present t => simp only [map, bind, ← Pattern.found.eq_1, hf t]
  all_goals rfl

end Base

section Select

theorem isBalanced_on (s s' : Side) (q : Spaced) : isBalanced (on s q) = isBalanced (on s' q) := by
  rw [isBalanced, Keyword.count_on (.inl (by decide)) s s',
    Keyword.count_on (.inl (by decide)) s s', isBalanced]

theorem exists_selectSpan (q : Spaced) : ∃ x : Option Span, ∀ s,
    selectSpan? (on s q) = x.map (spanOn s q) := by
  obtain ⟨x, hx, hf⟩ := Keyword.select.exists_first_on (q := q) (.inl (by decide))
  obtain ⟨stops, -, hs⟩ := Keyword.source.exists_starts_on (q := q) (.inl (by decide))
  cases x
  case none => exact ⟨none, fun s => by rw [selectSpan?, hf]; rfl⟩
  case some x =>
    have hx := hx x rfl
    have h₀ (s) : (spanOn s q x).start = 0 ↔ x.start = 0 :=
      place_eq_iff (hx.start_lt.le.trans hx.stop_le) (Nat.zero_le _)
    have hp (s) (i : Nat) : (decide ((spanOn s q x).stop ≤ place s q i) &&
        isBalanced ((on s q).slice ⟨(spanOn s q x).stop, place s q i⟩)) =
          (decide (x.stop ≤ i) && isBalanced (on .before (stretch q ⟨x.stop, i⟩))) := by
      rw [spanOn_stop, slice_place, isBalanced_on s .before,
        decide_eq_decide.mpr (place_le_iff hx.stop_le)]
    refine ⟨if x.start = 0 then (stops.find? fun i => decide (x.stop ≤ i) &&
      isBalanced (on .before (stretch q ⟨x.stop, i⟩))).map (⟨x.stop, ·⟩) else none, fun s => ?_⟩
    simp only [selectSpan?, hf, Option.map_some, h₀, hs, List.find?_map, Function.comp_def, hp]
    split
    case isTrue => rw [Option.map_map, Option.map_map]; rfl
    case isFalse => rfl

theorem exists_selectList (q : Spaced) : ∃ c : Clause (List Spaced), ∀ s,
    selectList (on s q) = c.map (·.map (on s)) := by
  obtain ⟨x, hx⟩ := exists_selectSpan q
  cases x
  case none => exact ⟨.malformed, fun s => by rw [selectList, hx]; rfl⟩
  case some x =>
    obtain ⟨ps, hp⟩ := exists_pieces (p := (· == ',')) (not_beq_of_isBlank (by decide)) (stretch q x)
    have he (s) (r : Spaced) : isSelectEntry (on s r) =
        (!r.isEmpty && (!r.any (·.isGap) || (on .before r).contains '=')) := by
      rw [isSelectEntry, any_isBlank_on, contains_on (by decide) s .before, isEmpty_on]
    refine ⟨if (ps.map trim).all fun r => !r.isEmpty && (!r.any (·.isGap) ||
      (on .before r).contains '=') then .present (ps.map trim) else .malformed, fun s => ?_⟩
    simp only [selectList, hx, Option.map_some, slice_spanOn, hp, map_trim_on, all_map_on (he s)]
    split <;> rfl

end Select

section Filter

-- What the last `where` leads, up to where the filter is cut off.
def filterText (query : Text) (w : Span) : Text :=
  Text.trim (query.slice ⟨w.stop, filterStop query w.stop⟩)

-- White space around the operator needs room of its own.
def leastFilter (text : Text) : Nat :=
  if text.any isBlank then 5 else 3

theorem filterOfText_eq_malformed_iff {text : Text} :
    filterOfText text = .malformed ↔ text.length < leastFilter text := by
  rw [filterOfText, leastFilter]
  split <;> simp_all

variable {order group : Option Nat}

theorem ordersBeforeGroups_on (hg : ∀ j ∈ group, j ≤ q.length) (s s' : Side) :
    ordersBeforeGroups (on s q) (order.map (place s q)) (group.map (place s q)) =
      ordersBeforeGroups (on s' q) (order.map (place s' q)) (group.map (place s' q)) := by
  cases order
  case none => rfl
  case some i =>
    cases group
    case none => rfl
    case some j =>
      simp only [ordersBeforeGroups, Option.map_some, slice_place, closesSubquery_on s s',
        place_lt_iff (hg j rfl)]

-- The length of a filter is looked at last.
theorem exists_unmeasured (b₁ b₂ : Prop) [Decidable b₁] [Decidable b₂] (f : Spaced) :
    ∃ c : Clause Spaced, (∀ f', c = .present f' → f' = f) ∧
      ∀ s, (if b₁ then .malformed else if b₂ then .absent .onlyInSubquery
        else filterOfText (on s f)) = (c.map (on s)).bind filterOfText := by
  split
  case isTrue => exact ⟨.malformed, by simp, fun _ => rfl⟩
  case isFalse =>
    split
    case isTrue => exact ⟨.absent .onlyInSubquery, by simp, fun _ => rfl⟩
    case isFalse => exact ⟨.present f, fun _ hf => (Clause.present.inj hf).symm, fun _ => rfl⟩

theorem exists_lastFilter (q : Spaced) (start : Nat) (stop : Option Nat) : ∃ c : Clause Spaced,
    (∀ f, c = .present f → f = trim (q.drop start)) ∧
      ∀ s, lastFilter (on s q) (place s q start) (stop.map (place s q)) =
        (c.map (on s)).bind filterOfText := by
  have hn (s) (r : Spaced) : Keyword.select.count (on s r) = Keyword.select.count (on .before r) :=
    Keyword.count_on (.inl (by decide)) s .before
  cases stop
  all_goals
    simp only [lastFilter, Option.map_some, Option.map_none, Option.isSome_some, take_place, hn,
      drop_place, trim_on, isEmpty_on, closesSubquery_on _ .before]
    apply exists_unmeasured

-- The filter that begins at `start`, with the place where another clause begins.
def filterUpTo (query : Text) (start : Nat) : Option Nat → Clause Text
  | some stop =>
    if start < stop then
      let text := Text.trim (query.slice ⟨start, stop⟩)
      if text.isEmpty then malformed
      else if text.closesSubquery then absent .onlyInSubquery
      else filterOfText text
    else
      lastFilter query start (some stop)
  | none => lastFilter query start none

-- Where it ends in a text of the given length.
def filterEnd (start length : Nat) : Option Nat → Nat
  | some stop => if start < stop then stop else length
  | none => length

theorem filter_of_last {query : Text} {w : Span} (hw : Keyword.filter.last? query = some w)
    (hl : Outline.minLength < w.stop) : filter query =
      if ordersBeforeGroups query ((Keyword.orderBy.last? query).map (·.start))
        ((Keyword.groupBy.last? query).map (·.start)) then malformed
      else filterUpTo query w.stop ((afterFilter? query).map (·.start)) := by
  simp only [filter, hw, Nat.not_le.mpr hl, decide_false, Bool.false_or, afterFilter?_eq]
  cases afterFilter? query <;> rfl

theorem filterText_eq {query : Text} {w : Span} : filterText query w = Text.trim (query.slice
    ⟨w.stop, filterEnd w.stop query.length ((afterFilter? query).map (·.start))⟩) := by
  rw [filterText, filterStop]
  cases afterFilter? query <;> rfl

section UpTo

variable (start : Nat) {stop : Option Nat} (hs : ∀ i ∈ stop, i ≤ q.length)
include hs

theorem filterEnd_place : filterEnd (place s q start) (on s q).length (stop.map (place s q)) =
    place s q (filterEnd start q.length stop) := by
  cases stop
  case none => exact place_length.symm
  case some i =>
    simp only [Option.map_some, filterEnd, place_lt_iff (hs i rfl)]
    split
    case isTrue => rfl
    case isFalse => exact place_length.symm

theorem exists_filterUpTo : ∃ c : Clause Spaced,
    (∀ f, c = .present f → f = trim (stretch q ⟨start, filterEnd start q.length stop⟩)) ∧
      ∀ s, filterUpTo (on s q) (place s q start) (stop.map (place s q)) =
        (c.map (on s)).bind filterOfText := by
  have hd : q.drop start = stretch q ⟨start, q.length⟩ := by
    rw [stretch, List.take_of_length_le (by simp)]
  cases stop
  case none =>
    rw [filterEnd, ← hd]
    exact exists_lastFilter q start none
  case some i =>
    simp only [Option.map_some, filterUpTo, filterEnd, place_lt_iff (hs i rfl), slice_place,
      trim_on, isEmpty_on, closesSubquery_on _ .before]
    split
    case isTrue =>
      generalize trim (stretch q ⟨start, i⟩) = f
      exact exists_unmeasured f.isEmpty (on .before f).closesSubquery f
    case isFalse =>
      rw [← hd]
      exact exists_lastFilter q start (some i)

end UpTo

-- Both filters are the same stretch of marks, before its length is looked at.
theorem exists_filter (h : Keeps q)
    (hs : ∀ s w, Keyword.filter.last? (on s q) = some w → Outline.minLength < w.stop) :
    ∃ c : Clause Spaced,
      (∀ f, c = .present f → ∀ s, ∃ w, Keyword.filter.last? (on s q) = some w ∧
        on s f = filterText (on s q) w) ∧
      ∀ s, filter (on s q) = (c.map (on s)).bind filterOfText := by
  obtain ⟨w, hw, hw'⟩ := Keyword.filter.exists_last_on (.inr h)
  obtain ⟨g, hg, hg'⟩ := Keyword.groupBy.exists_last_on (.inr h)
  obtain ⟨o, ho, ho'⟩ := Keyword.orderBy.exists_last_on (.inr h)
  have hstart (x : Option Span) (s) : (x.map (spanOn s q)).map Span.start =
      (x.map Span.start).map (place s q) := by
    rw [Option.map_map, Option.map_map]
    rfl
  have hle (x : Option Span) (hx : ∀ y ∈ x, Parts q y) : ∀ i ∈ x.map Span.start, i ≤ q.length := by
    intro i hi
    obtain ⟨y, hy, rfl⟩ := Option.map_eq_some_iff.mp hi
    exact (hx y hy).start_lt.le.trans (hx y hy).stop_le
  have hn (s) : (afterFilter? (on s q)).map Span.start =
      ((g.or o).map Span.start).map (place s q) := by
    rw [afterFilter?, hg', ho', ← Option.map_or, hstart]
  have hgo : ∀ y ∈ g.or o, Parts q y := fun y hy => by
    obtain hy | ⟨-, hy⟩ := Option.or_eq_some_iff.mp hy
    case inl => exact hg y hy
    case inr => exact ho y hy
  -- The last `where` is the same mark on both sides, or missing on both.
  cases w
  case none => exact ⟨.absent .notInQuery, by simp, fun s => by rw [filter, hw']; rfl⟩
  case some w =>
    have hf (s) := filter_of_last (hw' s) (hs s _ (hw' s))
    simp only [ho', hg', hstart, hn, ordersBeforeGroups_on (hle g hg) _ .before] at hf
    simp only [hf]
    split
    case isTrue => exact ⟨.malformed, by simp, fun _ => rfl⟩
    case isFalse =>
      obtain ⟨c, hc, hf⟩ := exists_filterUpTo w.stop (hle _ hgo)
      refine ⟨c, fun f hcf s => ⟨_, hw' s, ?_⟩, hf⟩
      rw [hc f hcf, ← trim_on, filterText_eq, hn, spanOn_stop, filterEnd_place w.stop (hle _ hgo),
        slice_place]

end Filter

section Conditions

theorem exists_conditions {f : Spaced} (hf : ∀ s, filter (on s q) = .present (on s f)) :
    ∃ c : Clause (List Spaced), ∀ s, conditions (on s q) = c.map (·.map (on s)) := by
  obtain ⟨ts, ht⟩ := Pattern.exists_texts blind_joiners f
  cases ts
  case none => exact ⟨.malformed, fun s => by simp only [conditions, hf, bind, ht]; rfl⟩
  case some ps =>
    have hc (s) (r : Spaced) : (Condition.ofText? (on s r).stripNot.2).isSome =
        (Condition.ofText? (on .before r).stripNot.2).isSome := by
      obtain ⟨_, r, hr⟩ := exists_stripNot r
      rw [hr, hr]
      obtain h | ⟨_, _, _, h⟩ := Condition.exists_ofText? r
      all_goals simp only [h, Option.isSome_none, Option.isSome_some]
    refine ⟨if ps.all fun r => (Condition.ofText? (on .before r).stripNot.2).isSome then
      .present ps else .malformed, fun s => ?_⟩
    simp only [conditions, hf, bind, ht, Option.map_some,
      all_map_on (f := fun t => (Condition.ofText? t.stripNot.2).isSome) (hc s)]
    split <;> rfl

theorem filterOfText_eq {text : Text} (h : filterOfText text ≠ .malformed) :
    filterOfText text = .present text := by
  rw [Ne, filterOfText_eq_malformed_iff, leastFilter] at h
  exact if_neg h

section Long

variable {c : Clause Spaced} (hc : ∀ s, filter (on s q) = (c.map (on s)).bind filterOfText)
include hc

-- The conditions of filters that are long enough.
theorem exists_conditions_of_filter (hf : ∀ s, filter (on s q) ≠ .malformed) :
    ∃ d : Clause (List Spaced), ∀ s, conditions (on s q) = d.map (·.map (on s)) := by
  cases c
  case malformed => exact absurd (hc .before) (hf .before)
  case absent why => exact ⟨.absent why, fun s => by rw [conditions, hc]; rfl⟩
  case present f =>
    refine exists_conditions (f := f) fun s => ?_
    have hf := hf s
    rw [hc] at hf ⊢
    exact filterOfText_eq hf

-- Between the conditions stand the same connectives.
theorem connectives_on {d : Clause (List Spaced)}
    (hd : ∀ s, conditions (on s q) = d.map (·.map (on s))) (hn : d ≠ .malformed) (s : Side) :
    connectives (on s q) ≠ .malformed ∧
      (connectives (on s q)).texts = (connectives (on .before q)).texts := by
  cases d
  case malformed => contradiction
  case absent why =>
    rw [connectives_of_absent (hd s), connectives_of_absent (hd .before)]
    exact ⟨by simp, rfl⟩
  case present ps =>
    have ht (s) : ∃ text, filter (on s q) = .present text ∧ Joined text (ps.map (on s)) := by
      obtain ⟨text, ht, hj, -⟩ := joined_of_conditions (hd s)
      exact ⟨text, ht, hj⟩
    cases c
    case malformed => obtain ⟨_, h, -⟩ := ht s; rw [hc] at h; contradiction
    case absent why => obtain ⟨_, h, -⟩ := ht s; rw [hc] at h; contradiction
    case present f =>
      have hw (s) : connectives (on s q) ≠ .malformed ∧ (connectives (on s q)).texts =
          (Pattern.connectives.found (on s f)).map Text.lowerAscii := by
        obtain ⟨text, ht, hj⟩ := ht s
        have he := hc s
        rw [ht] at he
        obtain rfl := eq_text_of_filterOfText he.symm
        exact connectives_of_whole ht hj.whole
      refine ⟨(hw s).left, ?_⟩
      rw [(hw s).right, (hw .before).right, found_connectives_on s .before]

end Long

end Conditions

section Fields

theorem exists_fieldList (limit : Option Nat) (t : Spaced) : ∃ c : Clause (List Spaced), ∀ s,
    fieldList limit (on s t) = c.map (·.map (on s)) := by
  obtain ⟨ps, hp⟩ := exists_pieces (not_beq_of_isBlank (c := ',') (by decide)) t
  have hw (s) (r : Spaced) : (!(on s r).words.isEmpty && limit.all ((on s r).words.length ≤ ·)) =
      (!(on .before r).words.isEmpty && limit.all ((on .before r).words.length ≤ ·)) := by
    rw [words_on s .before]
  refine ⟨if (ps.map trim).all fun r => !(on .before r).words.isEmpty &&
    limit.all ((on .before r).words.length ≤ ·) then .present (ps.map trim) else .malformed,
    fun s => ?_⟩
  simp only [fieldList, hp, map_trim_on, all_map_on (f := fun t => !t.words.isEmpty &&
    limit.all (t.words.length ≤ ·)) (hw s)]
  split <;> rfl

theorem exists_fieldsOfTail {others : List Keyword} {read : Text → Clause (List Text)}
    (hk : Keeps t) (hr : ∃ c : Clause (List Spaced), ∀ s, read (on s t) = c.map (·.map (on s))) :
    ∃ c : Clause (List Spaced), ∀ s,
      fieldsOfTail others read (on s t) = c.map (·.map (on s)) := by
  obtain ⟨c, hc⟩ := hr
  have ho (s) : others.any (·.occursIn (on s t)) = others.any (·.occursIn (on .before t)) := by
    simp only [Keyword.occursIn_on (.inr hk) s .before]
  have hs (s) := closesSubquery_on s .before t
  have hp (s) := contains_on (c := '(') (by decide) s .before t
  simp only [fieldsOfTail, ho, hs, hp, hc]
  split
  case isTrue =>
    split
    case isTrue => exact ⟨.absent .onlyInSubquery, fun _ => rfl⟩
    case isFalse => exact ⟨.malformed, fun _ => rfl⟩
  case isFalse =>
    split
    case isTrue => exact ⟨.absent .onlyInSubquery, fun _ => rfl⟩
    case isFalse => exact ⟨c, fun _ => rfl⟩

theorem exists_tail (k : Keyword) (h : Keeps q) : ∃ c : Clause Spaced,
    (∀ t, c = .present t → Keeps t) ∧ ∀ s, tail k (on s q) = c.map (on s) := by
  obtain ⟨x, hx, hl⟩ := k.exists_last_on (.inr h)
  cases x
  case none => exact ⟨.absent .notInQuery, by simp, fun s => by rw [tail, hl]; rfl⟩
  case some x =>
    have hk := ((hx x rfl).keeps_drop h).trim
    have hd (s) : Text.trim ((on s q).drop (spanOn s q x).stop) = on s (trim (q.drop x.stop)) := by
      rw [spanOn, drop_place, trim_on]
    generalize trim (q.drop x.stop) = t at hk hd
    simp only [tail, hl, Option.map_some, hd, isEmpty_on]
    split
    case isTrue => exact ⟨.malformed, by simp, fun _ => rfl⟩
    case isFalse => exact ⟨.present t, fun _ ht => Clause.present.inj ht ▸ hk, fun _ => rfl⟩

theorem exists_orderBy (h : Keeps q) : ∃ c : Clause (List Spaced), ∀ s,
    orderBy (on s q) = c.map (·.map (on s)) := by
  obtain ⟨c, hk, hc⟩ := exists_tail .orderBy h
  exact exists_bind hc fun t ht => exists_fieldsOfTail (hk t ht) (exists_fieldList _ t)

theorem exists_groupFields (h : Keeps t) : ∃ r : Spaced, ∀ s, groupFields (on s t) = on s r := by
  obtain ⟨a, -, ha⟩ := Keyword.having.exists_first_on (q := t) (.inl (by decide))
  obtain ⟨o, -, ho⟩ := Keyword.orderBy.exists_first_on (.inr h)
  -- The first of the keywords is the same on both sides, since places keep their order.
  have hs (s) : ([Keyword.having, .orderBy].filterMap fun k => (k.first? (on s t)).map (·.start)) =
      ((a.toList ++ o.toList).map (·.start)).map (place s t) := by
    cases a <;> cases o <;> simp [ha, ho, spanOn]
  have hm (s) : ([Keyword.having, .orderBy].filterMap fun k =>
      (k.first? (on s t)).map (·.start)).foldl min (on s t).length =
        place s t (((a.toList ++ o.toList).map (·.start)).foldl min t.length) := by
    rw [hs, List.foldl_map, ← place_length]
    exact List.foldl_hom (place s t) fun _ _ => place_min
  have ht (s) : Text.trim ((on s t).take (([Keyword.having, .orderBy].filterMap fun k =>
      (k.first? (on s t)).map (·.start)).foldl min (on s t).length)) =
        on s (trim (t.take (((a.toList ++ o.toList).map (·.start)).foldl min t.length))) := by
    rw [hm, take_place, trim_on]
  generalize trim (t.take _) = r at ht
  simp only [groupFields, ht]
  by_cases hl : (on .before r).getLast? = some ')'
  case pos =>
    refine ⟨r.strip (· == ')'), fun s => ?_⟩
    rw [if_pos ((getLast?_on (by decide) s .before r).mpr hl), strip_on (uniform_beq (by decide))]
  case neg =>
    exact ⟨r, fun s => if_neg fun h => hl ((getLast?_on (by decide) s .before r).mp h)⟩

theorem exists_groupBy (h : Keeps q) : ∃ c : Clause (List Spaced), ∀ s,
    groupBy (on s q) = c.map (·.map (on s)) := by
  obtain ⟨c, hk, hc⟩ := exists_tail .groupBy h
  refine exists_bind hc fun t ht => exists_fieldsOfTail (hk t ht) ?_
  obtain ⟨r, hr⟩ := exists_groupFields (hk t ht)
  simp only [hr]
  exact exists_fieldList none r

end Fields

end Clause
end FlatQuery
