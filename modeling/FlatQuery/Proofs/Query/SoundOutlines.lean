import FlatQuery.Proofs.Fallible
import FlatQuery.Query.Outline

namespace FlatQuery
namespace Outline

variable {query raw : Text} {k : Keyword}

theorem check_eq_ok_iff : check raw = .ok () ↔ minLength ≤ raw.trim.length ∧
    checkSelectList raw.trim = .ok () ∧ checkCounts raw.trim = .ok () ∧
    checkWheres raw.trim = .ok () ∧ checkOrders raw.trim = .ok () := by
  by_cases h : raw.trim.length < minLength
  case pos =>
    simp [check, h, Nat.not_le.mpr h, throw, throwThe, MonadExceptOf.throw, bind, Except.bind]
  case neg =>
    simp only [check, h, if_false, unit_bind_eq_ok]
    simp [Nat.not_lt.mp h]

theorem checkSelectList_eq_ok_iff : checkSelectList query = .ok () ↔
    ∃ select source, Keyword.select.first? query = some select ∧
      Keyword.source.first? query = some source ∧ select.stop ≤ source.start ∧
      (query.slice ⟨select.stop, source.start⟩).allBlank = false := by
  rw [checkSelectList]
  split
  case h_1 select source hs hf =>
    simp only [hs, hf, Option.some.injEq]
    split
    case isTrue hlt => simp [Nat.not_le.mpr hlt]
    case isFalse hlt => split <;> simp_all
  case h_2 h =>
    constructor
    case mp => exact nofun
    case mpr =>
      rintro ⟨select, source, hs, hf, -⟩
      exact absurd hf (h select source hs)

theorem checkCounts_eq_ok_iff : checkCounts query = .ok () ↔
    Keyword.source.count query = Keyword.select.count query ∧
    ∀ k ∈ [Keyword.filter, .orderBy, .groupBy], k.count query ≤ Keyword.select.count query := by
  rw [checkCounts]
  split
  case isTrue hn => simp [Ne.symm hn]
  case isFalse hn =>
    rw [forM_eq_ok_iff, and_iff_right (Decidable.not_not.mp hn).symm]
    refine forall₂_congr fun k _ => ?_
    split <;> simp <;> omega

theorem checkWheres_eq_ok_iff : checkWheres query = .ok () ↔
    (Keyword.filter.starts query = [] ∨
      (Keyword.filter.starts query).length = (Keyword.source.starts query).length) ∧
    ∀ x ∈ (Keyword.filter.starts query).zip (Keyword.source.starts query),
      minWhereGap ≤ x.1 - x.2 := by
  rw [checkWheres]
  by_cases hw : Keyword.filter.starts query = []
  case pos => simp [hw]
  case neg =>
    simp only [hw, if_false, false_or]
    split
    case isTrue hn => simp [hn]
    case isFalse hn =>
      rw [forM_eq_ok_iff, and_iff_right (Decidable.not_not.mp hn)]
      refine forall₂_congr fun (place, source) _ => ?_
      dsimp only
      split
      case isTrue hlt =>
        have : ¬minWhereGap ≤ place - source := by
          rw [minWhereGap]
          omega
        simp [this]
      case isFalse => split <;> simp <;> omega

theorem checkOrders_eq_ok_iff : checkOrders query = .ok () ↔
    ∀ x ∈ (Keyword.orderBy.starts query).zip (Keyword.groupBy.starts query),
      if x.1 < x.2 then (query.slice ⟨x.1, x.2⟩).closesSubquery
      else andIsExplained (query.slice ⟨x.2, x.1⟩) := by
  rw [checkOrders, forM_eq_ok_iff]
  refine forall₂_congr fun (order, group) _ => ?_
  dsimp only
  split
  all_goals split <;> simp_all

theorem count_le_select (h : check raw = .ok ())
    (hk : k ∈ [Keyword.filter, .orderBy, .groupBy]) :
    k.count raw.trim ≤ Keyword.select.count raw.trim := by
  obtain ⟨-, -, hc, -⟩ := check_eq_ok_iff.mp h
  exact (checkCounts_eq_ok_iff.mp hc).right k hk

end Outline
end FlatQuery
