import FlatQuery.Proofs.Query.SwallowedClauses
import FlatQuery.Proofs.Text.ByteRanges

namespace FlatQuery

namespace Keyword

variable {k k' : Keyword} {t : Text}

-- Wherever both keywords stand, the first one stands ahead, counted in bytes.
def Precedes (t : Text) (k k' : Keyword) : Prop :=
  ∀ i ∈ k.starts t, ∀ j ∈ k'.starts t, t.byteOffset i < t.byteOffset j

instance : Decidable (Precedes t k k') :=
  inferInstanceAs (Decidable (∀ i ∈ k.starts t, ∀ j ∈ k'.starts t, _))

theorem precedes_of_lt (h : ∀ i ∈ k.starts t, ∀ j ∈ k'.starts t, i < j) : Precedes t k k' := by
  intro i hi j hj
  refine Text.byteOffset_lt (h i hi j hj) ?_
  obtain ⟨s, hs, rfl⟩ := List.mem_map.mp hj
  exact (start_lt_stop hs).le.trans (stop_le_length hs)

theorem spans_of_mem_starts (hc : k.count t ≤ 1) (hi : i ∈ k.starts t) :
    ∃ s, k.spans t = [s] ∧ s.start = i := by
  obtain ⟨s, hs, rfl⟩ := List.mem_map.mp hi
  have := List.length_pos_of_mem hs
  obtain ⟨s', hs'⟩ : ∃ s', k.spans t = [s'] := by
    rw [← List.length_eq_one_iff, ← count_eq]
    rw [← count_eq] at this
    omega
  rw [hs', List.mem_singleton] at hs
  exact ⟨s', hs', by rw [hs]⟩

-- A keyword stands where its first letter does.
theorem head_of_mem_starts (hi : i ∈ k.starts t) :
    ∃ letter c, k.letters.head? = some letter ∧ t[i]? = some c ∧ foldsTo letter c := by
  obtain ⟨s, hs, rfl⟩ := List.mem_map.mp hi
  obtain ⟨u, m, v, rfl, hm, -, -, rfl⟩ := mem_spans_iff.mp hs
  obtain ⟨letter, word, hk⟩ := List.exists_cons_of_ne_nil k.letters_ne_nil
  rw [hk] at hm
  obtain ⟨c, m, hc, -, rfl⟩ := List.forall₂_cons_left_iff.mp hm
  exact ⟨letter, c, by simp [hk], by simp, hc⟩

theorem ne_of_mem_starts (hk : k.letters.head? ≠ k'.letters.head?) (hi : i ∈ k.starts t)
    (hj : j ∈ k'.starts t) : i ≠ j := by
  rintro rfl
  obtain ⟨x, c, hx, hc, hxc⟩ := head_of_mem_starts hi
  obtain ⟨y, d, hy, hd, hyd⟩ := head_of_mem_starts hj
  obtain rfl := Option.some.inj (hc.symm.trans hd)
  have hl := List.all_eq_true.mp k.all_isKeyLetter x (List.mem_of_head? hx)
  have hl' := List.all_eq_true.mp k'.all_isKeyLetter y (List.mem_of_head? hy)
  exact hk (by rw [hx, hy, foldsTo_inj hl hl' hxc hyd])

end Keyword

namespace Outline

-- The clauses of a query without a sub-query, as far as it has them, in their legal order.
structure Legal (query : Text) : Prop where
  opens        : Keyword.select.starts query = [0]
  single       : ∀ k ∈ [Keyword.source, .filter, .groupBy, .orderBy], k.count query ≤ 1
  selectSource : Keyword.Precedes query .select .source
  sourceFilter : Keyword.Precedes query .source .filter
  filterGroups : Keyword.Precedes query .filter .groupBy
  filterOrders : Keyword.Precedes query .filter .orderBy
  groupsOrders : Keyword.Precedes query .groupBy .orderBy

section Order

variable {q raw : Text}

theorem select_lt_source (h : checkSelectList q = .ok ()) (hs : Keyword.select.count q ≤ 1)
    (hf : Keyword.source.count q ≤ 1) (hi : i ∈ Keyword.select.starts q)
    (hj : j ∈ Keyword.source.starts q) : i < j := by
  obtain ⟨s, f, hs', hf', hle, -⟩ := checkSelectList_eq_ok_iff.mp h
  obtain ⟨s₁, hs₁, rfl⟩ := Keyword.spans_of_mem_starts hs hi
  obtain ⟨f₁, hf₁, rfl⟩ := Keyword.spans_of_mem_starts hf hj
  rw [Keyword.first?_eq, hs₁] at hs'
  rw [Keyword.first?_eq, hf₁] at hf'
  obtain rfl := Option.some.inj hs'
  obtain rfl := Option.some.inj hf'
  have : s₁.start < s₁.stop := Keyword.start_lt_stop (k := .select) (t := q) (by simp [hs₁])
  omega

theorem source_lt_filter (h : checkWheres q = .ok ()) (hf : Keyword.source.count q ≤ 1)
    (hw : Keyword.filter.count q ≤ 1) (hi : i ∈ Keyword.source.starts q)
    (hj : j ∈ Keyword.filter.starts q) : i < j := by
  obtain ⟨f, hf, rfl⟩ := Keyword.spans_of_mem_starts hf hi
  obtain ⟨w, hw, rfl⟩ := Keyword.spans_of_mem_starts hw hj
  have hgap := (checkWheres_eq_ok_iff.mp h).right (w.start, f.start) (by
    simp [Keyword.starts, hf, hw])
  simp only [minWhereGap] at hgap
  omega

-- An `order by` ahead of the `group by` would need a closing parenthesis.
theorem group_le_order (h : checkOrders q = .ok ()) (hc : ')' ∉ q)
    (hg : Keyword.groupBy.count q ≤ 1) (ho : Keyword.orderBy.count q ≤ 1)
    (hi : i ∈ Keyword.groupBy.starts q) (hj : j ∈ Keyword.orderBy.starts q) : i ≤ j := by
  obtain ⟨g, hg, rfl⟩ := Keyword.spans_of_mem_starts hg hi
  obtain ⟨o, ho, rfl⟩ := Keyword.spans_of_mem_starts ho hj
  have h := checkOrders_eq_ok_iff.mp h (o.start, g.start) (by simp [Keyword.starts, hg, ho])
  by_contra! hlt
  rw [if_pos hlt] at h
  have hm : ')' ∈ q.slice ⟨o.start, g.start⟩ := by simpa [Text.closesSubquery] using h
  exact hc (List.mem_of_mem_drop (List.mem_of_mem_take hm))

section Filter

variable (h : Clause.filter q ≠ .malformed) (hs : Keyword.select.count q ≤ 1)
  (hw : Keyword.filter.count q ≤ 1)
include h hs hw

theorem filter_lt_next (hn : Clause.afterFilter? q = some n) (hi : i ∈ Keyword.filter.starts q) :
    i < n.start := by
  obtain ⟨w, hw, rfl⟩ := Keyword.spans_of_mem_starts hw hi
  have hl : Keyword.filter.last? q = some w := by simp [Keyword.last?_eq, hw]
  have := (Clause.filter_spec hs hl h).left n hn
  have := Keyword.start_le_stop hl
  omega

theorem filter_lt_group (hg : Keyword.groupBy.count q ≤ 1) (hi : i ∈ Keyword.filter.starts q)
    (hj : j ∈ Keyword.groupBy.starts q) : i < j := by
  obtain ⟨g, hg, rfl⟩ := Keyword.spans_of_mem_starts hg hj
  have hn : Clause.afterFilter? q = some g := by
    simp [Clause.afterFilter?, Keyword.last?_eq, hg]
  exact filter_lt_next h hs hw hn hi

-- The filter ends at the `order by` only where there is no `group by`.
theorem filter_lt_order (hc : checkOrders q = .ok ()) (hb : ')' ∉ q)
    (hg : Keyword.groupBy.count q ≤ 1) (ho : Keyword.orderBy.count q ≤ 1)
    (hi : i ∈ Keyword.filter.starts q) (hj : j ∈ Keyword.orderBy.starts q) : i < j := by
  cases hl : Keyword.groupBy.last? q
  case none =>
    obtain ⟨o, ho, rfl⟩ := Keyword.spans_of_mem_starts ho hj
    have hn : Clause.afterFilter? q = some o := by
      simp [Clause.afterFilter?, hl, Keyword.last?_eq, ho]
    exact filter_lt_next h hs hw hn hi
  case some g =>
    have hm : g.start ∈ Keyword.groupBy.starts q := List.mem_map_of_mem (Keyword.mem_of_last? hl)
    have := filter_lt_group h hs hw hg hi hm
    have := group_le_order hc hb hg ho hm hj
    omega

end Filter

end Order

end Outline

namespace Plan

variable {settings : Settings} {raw : Text} {plan : Plan}

theorem starts_select (h : Clause.selectList q = .present entries)
    (hs : Keyword.select.count q = 1) : Keyword.select.starts q = [0] := by
  obtain ⟨s, hs⟩ := List.length_eq_one_iff.mp hs
  have hs : Keyword.select.spans q = [s] := hs
  have hf : Keyword.select.first? q = some s := by simp [Keyword.first?_eq, hs]
  by_contra hn
  have hn : s.start ≠ 0 := by simpa [Keyword.starts, hs] using hn
  simp [Clause.selectList, Clause.selectSpan?, hf, hn] at h

-- Only legal orders of clauses have a plan. A `from` is held against its `where` alone.
theorem parse_legal (h : parse settings raw = .ok plan) (hs : Keyword.select.count raw = 1)
    (hc : ')' ∉ raw) : Outline.Legal raw.trim := by
  have h := parse_eq_ok_iff.mp h
  obtain ⟨entries, he, -⟩ := h.selectList
  obtain ⟨-, hl, hn, hw, ho⟩ := Outline.check_eq_ok_iff.mp h.outline
  obtain ⟨hf, hk⟩ := Outline.checkCounts_eq_ok_iff.mp hn
  have hs : Keyword.select.count raw.trim = 1 := by rw [Keyword.count_trim, hs]
  rw [hs] at hf hk
  have hc : ')' ∉ raw.trim := by
    have ht := Text.closesSubquery_trim (t := raw)
    simpa [Text.closesSubquery, hc] using ht
  have hw₁ := hk .filter (by decide)
  have hg₁ := hk .groupBy (by decide)
  have ho₁ := hk .orderBy (by decide)
  exact {
    opens := starts_select he hs
    single := by simpa using ⟨hf.le, hw₁, hg₁, ho₁⟩
    selectSource := Keyword.precedes_of_lt fun i hi j hj =>
      Outline.select_lt_source hl hs.le hf.le hi hj
    sourceFilter := Keyword.precedes_of_lt fun i hi j hj =>
      Outline.source_lt_filter hw hf.le hw₁ hi hj
    filterGroups := Keyword.precedes_of_lt fun i hi j hj =>
      Outline.filter_lt_group h.filter hs.le hw₁ hg₁ hi hj
    filterOrders := Keyword.precedes_of_lt fun i hi j hj =>
      Outline.filter_lt_order h.filter hs.le hw₁ ho hc hg₁ ho₁ hi hj
    groupsOrders := Keyword.precedes_of_lt fun i hi j hj =>
      lt_of_le_of_ne (Outline.group_le_order ho hc hg₁ ho₁ hi hj)
        (Keyword.ne_of_mem_starts (by decide) hi hj)
  }

theorem parse_legal_plainQuery :
    (parse {} plainQuery).isOk ∧ Keyword.select.count plainQuery = 1 ∧ ')' ∉ plainQuery ∧
      Keyword.Precedes plainQuery.trim .filter .orderBy := by
  have hp : (parse {} plainQuery).isOk := by decide +kernel
  have hs : Keyword.select.count plainQuery = 1 := by decide +kernel
  have hc : ')' ∉ plainQuery := by decide +kernel
  obtain ⟨plan, h⟩ := exists_of_isOk hp
  exact ⟨hp, hs, hc, (parse_legal h hs hc).filterOrders⟩

-- Without a `where`, an entry of the select list may still hold a clause of its own.
example :
    let query : Text := "select a=group by from t.csv".toList
    (parse {} query).isOk ∧ Keyword.Precedes query .groupBy .source := by
  decide +kernel

end Plan
end FlatQuery
