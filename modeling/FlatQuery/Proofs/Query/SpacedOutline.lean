import FlatQuery.Proofs.Pattern.Occurrences
import FlatQuery.Proofs.Pattern.Spacing
import FlatQuery.Proofs.Query.SwallowedClauses

namespace FlatQuery

open Spaced

variable {s s' : Side} {q : Spaced} {query raw : Text} {w y : Span} {k : Keyword}

theorem closesSubquery_on (s s' : Side) (q : Spaced) :
    (on s q).closesSubquery = (on s' q).closesSubquery :=
  contains_on (by decide) s s' q

namespace Outline

-- The lengths that are counted are reached.
structure Roomy (query : Text) : Prop where
  length : minLength ≤ query.length
  wheres : ∀ x ∈ (Keyword.filter.starts query).zip (Keyword.source.starts query),
    minWhereGap ≤ x.1 - x.2

section Sides

theorem checkSelectList_on (s s' : Side) (q : Spaced) :
    checkSelectList (on s q) = checkSelectList (on s' q) := by
  obtain ⟨x, hx, hx'⟩ := Keyword.select.exists_first_on (q := q) (.inl (by decide))
  obtain ⟨y, hy, hy'⟩ := Keyword.source.exists_first_on (q := q) (.inl (by decide))
  simp only [checkSelectList, hx', hy']
  cases x
  case none => rfl
  case some x =>
    cases y
    case none => rfl
    case some y =>
      simp only [Option.map_some, spanOn_start, spanOn_stop, place_lt_iff (hx x rfl).stop_le,
        slice_place, allBlank_on]

theorem checkCounts_on (h : Keeps q) (s s' : Side) :
    checkCounts (on s q) = checkCounts (on s' q) := by
  have hn (k : Keyword) : k.count (on s q) = k.count (on s' q) := Keyword.count_on (.inr h) s s'
  simp only [checkCounts, hn]

theorem andIsExplained_on (s s' : Side) (q : Spaced) :
    andIsExplained (on s q) = andIsExplained (on s' q) := by
  obtain ⟨x, hx, hx'⟩ := Keyword.and.exists_first_on (q := q) (.inl (by decide))
  obtain ⟨y, hy, hy'⟩ := Keyword.having.exists_first_on (q := q) (.inl (by decide))
  simp only [andIsExplained, hx', hy']
  cases x
  case none => rfl
  case some x =>
    cases y
    case none => rfl
    case some y =>
      have hl := (hy y rfl).start_lt.le.trans (hy y rfl).stop_le
      simp only [Option.map_some, spanOn_start, place_le_iff hl, slice_place,
        closesSubquery_on s s']

theorem checkWheres_on (s s' : Side) (q : Spaced) :
    (Keyword.filter.starts (on s q) = [] ∨
      (Keyword.filter.starts (on s q)).length = (Keyword.source.starts (on s q)).length) ↔
    (Keyword.filter.starts (on s' q) = [] ∨
      (Keyword.filter.starts (on s' q)).length = (Keyword.source.starts (on s' q)).length) := by
  obtain ⟨ws, -, hw⟩ := Keyword.filter.exists_starts_on (q := q) (.inl (by decide))
  obtain ⟨fs, -, hf⟩ := Keyword.source.exists_starts_on (q := q) (.inl (by decide))
  simp only [hw, hf, List.map_eq_nil_iff, List.length_map]

-- Whether an `order by` may stand where it stands is a matter of order.
theorem checkOrders_on (h : Keeps q) (s s' : Side) :
    checkOrders (on s q) = .ok () ↔ checkOrders (on s' q) = .ok () := by
  obtain ⟨os, -, ho⟩ := Keyword.orderBy.exists_starts_on (.inr h)
  obtain ⟨gs, hg, hg'⟩ := Keyword.groupBy.exists_starts_on (.inr h)
  simp only [checkOrders_eq_ok_iff, ho, hg', List.zip_map, List.forall_mem_map, Prod.map_fst,
    Prod.map_snd, slice_place]
  refine forall₂_congr fun x hx => ?_
  have hl := hg _ (List.of_mem_zip hx).right
  rw [closesSubquery_on s s', andIsExplained_on s s']
  simp only [place_lt_iff hl]

-- A sound outline stays sound as long as its lengths are reached.
theorem check_on_iff (h : Keeps q) (hs : check (on s q) = .ok ()) :
    check (on s' q) = .ok () ↔ Roomy (on s' q).trim := by
  rw [check_eq_ok_iff, checkWheres_eq_ok_iff, trim_on] at hs ⊢
  obtain ⟨-, hl, hc, hw, ho⟩ := hs
  rw [checkSelectList_on s' s, checkCounts_on h.trim s' s, checkOrders_on h.trim s' s,
    checkWheres_on s' s]
  constructor
  case mp =>
    rintro ⟨hm, -, -, hw, -⟩
    exact ⟨hm, hw.right⟩
  case mpr => exact fun hr => ⟨hr.length, hl, hc, ⟨hw.left, hr.wheres⟩, ho⟩

end Sides

section Places

theorem exists_mem_zip {xs : List α} {ys : List β} (hn : xs.length = ys.length) (h : b ∈ ys) :
    ∃ a, (a, b) ∈ xs.zip ys := by
  obtain ⟨i, hi, rfl⟩ := List.getElem_of_mem h
  have hz : i < (xs.zip ys).length := by
    rw [List.length_zip, hn, Nat.min_self]
    exact hi
  refine ⟨xs[i], ?_⟩
  rw [← List.getElem_zip (h := hz)]
  exact List.getElem_mem hz

-- Each `from` has a `where` of its own, so that none stands behind the last one.
theorem source_le_filter (h : check raw = .ok ()) (hw : Keyword.filter.last? raw.trim = some w)
    (hi : i ∈ Keyword.source.starts raw.trim) : i + minWhereGap ≤ w.start := by
  obtain ⟨-, -, -, hs, -⟩ := check_eq_ok_iff.mp h
  obtain ⟨hn, hg⟩ := checkWheres_eq_ok_iff.mp hs
  have hm : w.start ∈ Keyword.filter.starts raw.trim :=
    List.mem_map_of_mem (Keyword.mem_of_last? hw)
  obtain ⟨j, hj⟩ := exists_mem_zip (hn.resolve_left (List.ne_nil_of_mem hm)) hi
  have hle := Keyword.start_le_of_last? hw (List.of_mem_zip hj).left
  have hg := hg _ hj
  simp only [minWhereGap] at hg ⊢
  omega

-- A `where` that is kept away from its `from` is far away from the beginning.
theorem minLength_lt_of_check (h : check raw = .ok ())
    (hw : Keyword.filter.last? raw.trim = some w) : minLength < w.stop := by
  obtain ⟨-, hl, -⟩ := check_eq_ok_iff.mp h
  obtain ⟨x, y, hx, hy, hle, hb⟩ := checkSelectList_eq_ok_iff.mp hl
  have hgap := source_le_filter h hw (List.mem_map_of_mem (List.mem_of_head? hy))
  -- Something is selected after the six letters of `select`.
  have hxy : x.stop ≠ y.start := by
    intro he
    simp [he, Text.slice, Text.allBlank] at hb
  have hx := Keyword.stop_eq (List.mem_of_head? hx)
  have hw := Keyword.stop_eq (Keyword.mem_of_last? hw)
  have hs : Keyword.select.letters.length = 6 := rfl
  have hf : Keyword.filter.letters.length = 5 := rfl
  rw [hs] at hx
  rw [hf] at hw
  simp only [minWhereGap] at hgap
  rw [minLength]
  omega

end Places

end Outline
end FlatQuery
