import FlatQuery.Proofs.Pattern.Keywords
import FlatQuery.Query.Clause

namespace FlatQuery
namespace Clause

variable {k : Keyword} {q r s t u v : Text} {ts : List Text} {start stop : Nat}

section Sources

theorem not_isSourceName_of_no_dot (h : '.' ∉ t) : Settings.isSourceName {} t = false := by
  simp [Settings.isSourceName, Text.cutAtLast_eq_none h]

-- No word before the name of the source has a dot.
theorem source_eq (hu : '.' ∉ u) (hs : ∀ c ∈ s, isBlank c = false) (hn : Settings.isSourceName {} s)
    (hv : ∀ c ∈ v.head?, isBlank c) : source {} (u ++ ' ' :: (s ++ v)) = .present s := by
  have he : s ≠ [] := by
    rintro rfl
    exact absurd hn (by decide)
  have hf : (Text.words u).find? (Settings.isSourceName {}) = none :=
    List.find?_eq_none.mpr fun w hm => by
      rw [not_isSourceName_of_no_dot fun hc => hu (Text.mem_of_mem_words hm hc)]
      exact Bool.false_ne_true
  rw [source, Text.words_append_cons isBlank_space, Text.words_append (.inr hv),
    Text.words_eq_singleton hs he, List.find?_append, hf, List.singleton_append,
    List.find?_cons_of_pos hn]
  rfl

end Sources

section Bases

-- Other clause keywords may stand in the base if a parenthesis does.
theorem base_eq (hb : baseEnd? q = some stop) (ht : Text.trim (q.take stop) = t)
    (h : '(' ∈ t ∨ ∀ k ∈ [Keyword.filter, .orderBy, .groupBy], k.spans t = []) :
    base q = .present t := by
  have hn : ([Keyword.filter, .orderBy, .groupBy].any (·.occursIn t) && !t.contains '('
      && !t.contains ')') = false := by
    obtain h | h := h
    case inl => simp [h]
    case inr =>
      have ha : [Keyword.filter, .orderBy, .groupBy].any (·.occursIn t) = false := by
        simpa [Keyword.occursIn_eq] using h
      simp only [ha, Bool.false_and]
  simp only [base, hb, ht, hn]
  rfl

end Bases

section Lists

variable {n m : Nat} {l : List Nat} {span : Span}

-- The list stands between its `select` and a `from`.
theorem selectSpan?_spec (h : selectSpan? q = some span) :
    startsWord (q.drop span.start) = false ∧ span.start ≤ span.stop ∧
      span.stop ∈ Keyword.source.starts q := by
  rw [selectSpan?] at h
  split at h
  case h_1 => contradiction
  case h_2 select hs =>
    split at h
    case isFalse => contradiction
    case isTrue =>
      obtain ⟨stop, hf, rfl⟩ := Option.map_eq_some_iff.mp h
      have hb := List.find?_some hf
      rw [Bool.and_eq_true] at hb
      refine ⟨?_, by simpa using hb.left, List.mem_of_find?_eq_some hf⟩
      obtain ⟨u, m, v, rfl, -, -, hv, rfl⟩ := Keyword.exists_of_mem_spans (List.mem_of_head? hs)
      simpa [← List.drop_drop] using hv

-- The first `from` ends the list, since no sub-query is in it.
theorem selectList_eq (hs : Keyword.select.first? q = some ⟨0, n⟩)
    (ho : Keyword.source.starts q = m :: l) (hl : n ≤ m) (hq : q.slice ⟨n, m⟩ = [' '] ++ t ++ [' '])
    (ht : t.Tight) (hc : ∀ k ∈ [Keyword.select, .source], k.spans t = [])
    (hp : (Text.pieces (· == ',') ([' '] ++ t ++ [' '])).map Text.trim = ts)
    (he : ∀ t ∈ ts, t ≠ [] ∧ ∀ c ∈ t, isBlank c = false) : selectList q = .present ts := by
  have hb : isBalanced ([' '] ++ t ++ [' ']) := by
    rw [isBalanced, ← Keyword.count_trim .select, ← Keyword.count_trim .source,
      ht.trim_padded rfl rfl, Keyword.count_eq, Keyword.count_eq, hc .select (by simp),
      hc .source (by simp)]
    rfl
  have hs : selectSpan? q = some ⟨n, m⟩ := by
    simp only [selectSpan?, hs, ho, List.find?_cons, hl, hq, hb]
    rfl
  have he : ts.all isSelectEntry := by
    refine List.all_eq_true.mpr fun t hm => ?_
    have hb : t.any isBlank = false := by simpa using (he t hm).right
    simp [isSelectEntry, hb, (he t hm).left]
  simp only [selectList, hs, hq, hp, he, if_true]

theorem fieldList_eq {limit : Option Nat} (hp : (t.pieces (· == ',')).map Text.trim = ts)
    (ht : ∀ t ∈ ts, t.Tight) (hl : ∀ t ∈ ts, limit.all (t.words.length ≤ ·)) :
    fieldList limit t = .present ts := by
  have hw : ts.all fun f => !f.words.isEmpty && limit.all (f.words.length ≤ ·) := by
    refine List.all_eq_true.mpr fun t hm => ?_
    simp [(ht t hm).words_ne_nil, hl t hm]
  simp only [fieldList, hp, hw]
  rfl

theorem fieldList_join {limit : Option Nat} (ht : ∀ t ∈ ts, t.Tight ∧ ',' ∉ t) (hn : ts ≠ [])
    (hl : ∀ t ∈ ts, limit.all (t.words.length ≤ ·)) :
    fieldList limit (Text.join ", ".toList ts) = .present ts := by
  have hp := Text.pieces_join (u := []) (v := []) ht hn rfl rfl
  rw [List.append_nil, List.nil_append] at hp
  exact fieldList_eq hp (fun t hm => (ht t hm).left) hl

end Lists

section Filters

-- The last `where` begins the filter, and the clause that follows it or the end of the query ends
-- it. No clause stands ahead of it, and no parenthesis is in it, unless no sub-query and no other
-- clause is there to be taken for.
theorem filter_eq {next : Option Nat} (hl : Keyword.filter.last? q = some ⟨start, stop⟩)
    (hm : Outline.minLength < stop)
    (hb : ordersBeforeGroups q ((Keyword.orderBy.last? q).map (·.start))
      ((Keyword.groupBy.last? q).map (·.start)) = false)
    (hn : ((Keyword.groupBy.last? q).map (·.start)).or ((Keyword.orderBy.last? q).map (·.start)) =
      next)
    (hs : ∀ n ∈ next, stop < n) (ht : Text.trim (q.slice ⟨stop, next.getD q.length⟩) = t)
    (he : t ≠ []) (hc : ')' ∉ t ∨ next = none ∧ Keyword.select.count q ≤ 1) :
    filter q = filterOfText t := by
  have hm : ¬stop ≤ Outline.minLength := Nat.not_le.mpr hm
  simp only [filter, hl, hm, hb, hn]
  cases next
  case none =>
    have hd : q.slice ⟨stop, q.length⟩ = q.drop stop := by
      rw [Text.slice, List.take_of_length_le (by simp)]
    have hc : (decide (Keyword.select.count q > 1) && t.closesSubquery) = false := by
      obtain hc | ⟨-, hc⟩ := hc
      case inl => simp [Text.closesSubquery, hc]
      case inr => simp [Nat.not_lt.mpr hc]
    rw [Option.getD_none, hd] at ht
    simp only [lastFilter, ht, hc]
    simp [he]
  case some n =>
    have hc : t.closesSubquery = false := by simpa [Text.closesSubquery] using hc
    rw [Option.getD_some] at ht
    simp [hs n rfl, ht, he, hc]

end Filters

section Tails

theorem tail_of_none (h : k.spans t = []) : tail k t = .absent .notInQuery := by
  simp [tail, Keyword.last?_eq, h]

theorem tail_of_singleton (hs : k.spans t = [⟨start, stop⟩]) (hd : t.drop stop = [' '] ++ r)
    (hr : r.Tight) : tail k t = .present r := by
  have hl : k.last? t = some ⟨start, stop⟩ := by
    rw [Keyword.last?_eq, hs]
    rfl
  have ht : Text.trim ([' '] ++ r) = r := by
    simpa using hr.trim_padded (u := [' ']) (v := []) rfl rfl
  have hn : r.isEmpty = false := by simpa using hr.ne_nil
  simp only [tail, hl, hd, ht, hn]
  rfl

-- A tail without other clauses is read, if its parentheses are those of calls.
theorem fieldsOfTail_eq {others : List Keyword} {read : Text → Clause (List Text)}
    (ho : ∀ k ∈ others, k.spans t = []) (hp : ')' ∈ t → '(' ∈ t) :
    fieldsOfTail others read t = read t := by
  have ha : others.any (·.occursIn t) = false := by
    simpa [Keyword.occursIn_eq] using ho
  have hc : (t.closesSubquery && !t.contains '(') = false := by
    simpa [Text.closesSubquery] using hp
  simp only [fieldsOfTail, ha, hc]
  rfl

theorem orderBy_of_none (h : Keyword.orderBy.spans q = []) : orderBy q = .absent .notInQuery := by
  simp [orderBy, tail_of_none h, bind]

theorem groupBy_of_none (h : Keyword.groupBy.spans q = []) : groupBy q = .absent .notInQuery := by
  simp [groupBy, tail_of_none h, bind]

-- The last clause: whatever follows `order by` are its entries.
theorem orderBy_eq (hs : Keyword.orderBy.spans q = [⟨start, stop⟩]) (hd : q.drop stop = [' '] ++ r)
    (hr : r.Tight) (ho : ∀ k ∈ [Keyword.filter, .groupBy], k.spans r = []) (hp : ')' ∈ r → '(' ∈ r) :
    orderBy q = fieldList (some 2) r := by
  rw [orderBy, tail_of_singleton hs hd hr, bind, fieldsOfTail_eq ho hp]

end Tails

end Clause
end FlatQuery
