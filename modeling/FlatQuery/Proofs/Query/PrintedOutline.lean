import FlatQuery.Proofs.Fallible
import FlatQuery.Proofs.Query.Printing

namespace FlatQuery
namespace Dialect
namespace Query

variable (q : Query)

section Lengths

theorem selectEnd_eq : q.selectEnd = q.select.text.length + q.selection.text.length + 2 := by
  simp [selectEnd, Passage.lead, Passage.text, selectPassage]
  omega

theorem originEnd_eq :
    q.originEnd = q.selectEnd + q.origin.text.length + q.source.text.length + 2 := by
  simp [originEnd, selectEnd, Passage.lead, Passage.text, selectPassage, originPassage]
  omega

theorem length_select : q.select.text.length = 6 :=
  q.select.spells.length_eq.symm

theorem length_origin : q.origin.text.length = 4 :=
  q.origin.spells.length_eq.symm

theorem length_selection : 0 < q.selection.text.length :=
  List.length_pos_iff.mpr q.selection.tight.ne_nil

theorem originEnd_le : q.originEnd ≤ q.print.length + 1 := by
  rw [print_eq_origin, originEnd_eq]
  simp only [List.length_append, Passage.text, originPassage, List.length_cons, ← selectEnd.eq_def]
  omega

-- The base alone is as long as a query has to be.
theorem minLength_lt : Outline.minLength < q.originEnd := by
  have := q.length_select
  have := q.length_selection
  have := q.length_origin
  have := q.source.length_text
  have := q.selectEnd_eq
  have := q.originEnd_eq
  rw [Outline.minLength]
  omega

end Lengths

-- What stands between `select` and `from`.
theorem slice_selection :
    q.print.slice ⟨q.select.text.length, q.selectEnd⟩ = [' '] ++ q.selection.text ++ [' '] := by
  have hp : q.print = q.select.text ++ ([' '] ++ q.selection.text ++ [' ']) ++
      (q.originPassage.text ++
        Passage.trail (q.filterPassages ++ q.groupPassages ++ q.orderPassages)) := by
    rw [print_eq_origin]
    simp [Passage.lead, Passage.text, selectPassage]
  have he : q.selectEnd = q.select.text.length + ([' '] ++ q.selection.text ++ [' ']).length := by
    simp [selectEnd_eq]
    omega
  rw [hp, he, Text.slice_append]

-- The select list lies between the first two keywords, and is not blank.
theorem checkSelectList_print : Outline.checkSelectList q.print = .ok () := by
  have hs : Keyword.select.first? q.print = some ⟨0, q.select.text.length⟩ := by
    rw [Keyword.first?_eq, spans_select]
    rfl
  have ho : Keyword.source.first? q.print =
      some ⟨q.selectEnd, q.selectEnd + q.origin.text.length⟩ := by
    rw [Keyword.first?_eq, spans_origin]
    rfl
  have hl : ¬q.selectEnd < q.select.text.length := by
    rw [selectEnd_eq]
    omega
  have hb := q.selection.tight.not_allBlank [' '] [' ']
  simp only [Outline.checkSelectList, hs, ho, hl, slice_selection, hb]
  rfl

section Counts

theorem count_select : Keyword.select.count q.print = 1 := by
  rw [Keyword.count_eq, spans_select]
  rfl

theorem count_origin : Keyword.source.count q.print = 1 := by
  rw [Keyword.count_eq, spans_origin]
  rfl

theorem checkCounts_print : Outline.checkCounts q.print = .ok () := by
  have hl : ∀ k ∈ [Keyword.filter, .orderBy, .groupBy], ¬k.count q.print > 1 := by
    simp [Keyword.count_eq, spans_filter, spans_orders, spans_groups, filterPassages, orderPassages,
      groupPassages]
  simp only [Outline.checkCounts, count_select, count_origin]
  exact forM_eq_ok fun k hk => if_neg (hl k hk)

end Counts

-- The name of the source keeps `where` away from `from`.
theorem checkWheres_print : Outline.checkWheres q.print = .ok () := by
  have hs : Keyword.source.starts q.print = [q.selectEnd] := by
    simp [Keyword.starts, spans_origin]
  have h₁ : ¬q.originEnd < q.selectEnd := by
    have := q.originEnd_eq
    omega
  have h₂ : ¬q.originEnd - q.selectEnd < Outline.minWhereGap := by
    have := q.length_origin
    have := q.source.length_text
    have := q.originEnd_eq
    rw [Outline.minWhereGap]
    omega
  rw [Outline.checkWheres, hs, starts_filter, filterPassages]
  cases q.filter
  case none => rfl
  case some =>
    refine forM_eq_ok fun _ h => ?_
    obtain rfl := List.mem_singleton.mp h
    simp [h₁, h₂]

-- No connective stands between a `group by` and what follows.
theorem andIsExplained_groups (k : Spelling Keyword.groupBy.letters) (g : Listing Word) :
    Outline.andIsExplained ((groupPassage k g).text ++ [' ']) := by
  have hk : Keyword.and.spans k.text = [] := Keyword.spans_spelled_of_ne k.spells (by decide)
  have hg : Keyword.and.spans (groupPassage k g).body = [] :=
    Keyword.spans_eq_nil_iff.mpr (freeOf_words g _ (by decide))
  have ht : Keyword.and.spans (groupPassage k g).text = [] := by
    rw [Passage.text, Keyword.spans_append_of_solid (by decide) (.inr (by simp)),
      Keyword.spans_space, hg]
    simp [groupPassage, hk]
  have hb : Keyword.and.spans [' '] = [] := Keyword.spans_space .and []
  have h : Keyword.and.spans ((groupPassage k g).text ++ [' ']) = [] := by
    rw [Keyword.spans_append_of_solid (by decide) (.inr (by simp)), ht, hb]
    rfl
  simp [Outline.andIsExplained, Keyword.first?_eq, h]

theorem slice_groups (h : q.orders = some (k, o)) :
    q.print.slice ⟨q.filterEnd, q.groupEnd⟩ = Passage.lead q.groupPassages := by
  rw [print_eq_orders q h, groupEnd, filterEnd, Passage.lead_append, List.length_append,
    Text.slice_append]

-- The `order by` follows the `group by`, with nothing but fields between them.
theorem checkOrders_print : Outline.checkOrders q.print = .ok () := by
  rw [Outline.checkOrders, starts_orders, starts_groups]
  refine forM_eq_ok fun (order, group) h => ?_
  obtain ⟨ho, hg⟩ := List.of_mem_zip h
  obtain ⟨p, hp, rfl⟩ := List.mem_map.mp ho
  obtain ⟨_, hp', rfl⟩ := List.mem_map.mp hg
  obtain ⟨⟨k, g⟩, hkg, rfl⟩ := List.mem_map.mp hp'
  obtain ⟨_, hko, rfl⟩ := List.mem_map.mp hp
  have hs := q.slice_groups (Option.mem_toList.mp hko)
  have hl : ¬q.groupEnd < q.filterEnd := Nat.not_lt_of_le q.filterEnd_le
  rw [groupPassages, Option.mem_toList.mp hkg] at hs
  have ha := andIsExplained_groups k g
  simp only [hl, hs]
  simp [Passage.lead, ha]

theorem check_print : Outline.check q.print = .ok () := by
  have hl : ¬q.print.length < Outline.minLength := by
    have := q.minLength_lt
    have := q.originEnd_le
    omega
  simp only [Outline.check, q.tight_print.trim_eq, hl, checkSelectList_print, checkCounts_print,
    checkWheres_print, checkOrders_print]
  rfl

end Query
end Dialect
end FlatQuery
