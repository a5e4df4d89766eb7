import FlatQuery.Proofs.Query.PrintedBase
import FlatQuery.Proofs.Query.PrintedClauses
import FlatQuery.Proofs.Query.Reading

namespace FlatQuery
namespace Dialect
namespace Query

variable (q : Query)

section Filter

theorem texts_conditions :
    (Clause.conditions q.print).texts.mapM Predicate.parse = .ok q.plan.predicates := by
  rw [conditions_print, plan]
  cases q.filter
  case none => rfl
  case some kf =>
    have hp := kf.2.criteria.parse_texts
    rwa [Filter.predicates_criteria] at hp

theorem reads_connectives : Clause.connectives q.print ≠ .malformed ∧
    (Clause.connectives q.print).texts.mapM Connective.parse = .ok q.plan.connectives := by
  rw [plan]
  cases hq : q.filter
  case none =>
    rw [Clause.connectives, filter_print, hq]
    exact ⟨by simp [Clause.bind], rfl⟩
  case some kf =>
    have hr := kf.2.criteria.reads_connectives (q.filter_criteria hq)
    rwa [Filter.connectives_criteria] at hr

theorem checkBalance_plan : Plan.checkBalance q.plan.predicates q.plan.connectives = .ok () := by
  rw [plan]
  cases q.filter
  case none => rfl
  case some kf =>
    have hb := kf.2.criteria.balance
    rwa [Filter.predicates_criteria, Filter.connectives_criteria] at hb

end Filter

section Lists

theorem texts_groupBy : (Clause.groupBy q.print).texts = q.groupFields := by
  rw [groupBy_print, groupFields]
  cases q.groups <;> rfl

theorem texts_orderBy : (Clause.orderBy q.print).texts = q.ordered.map Ordered.text := by
  rw [orderBy_print, ordered]
  cases q.orders <;> rfl

theorem texts_aggregates : (Clause.aggregates q.print).texts = q.calls := by
  rw [aggregates_print]
  split
  case isTrue h => rw [h]; rfl
  case isFalse => rfl

theorem aggregates_ne_malformed : Clause.aggregates q.print ≠ .malformed := by
  rw [aggregates_print]
  split <;> simp

theorem sortKeys_plan : q.plan.sortKeys = .ok (q.ordered.map Ordered.sortKey) :=
  mapM_map_eq_ok fun o _ => o.parse_text

end Lists

-- An optional clause is absent or present.
theorem elim_ne_malformed {o : Option α} {f : α → β} :
    o.elim (.absent .notInQuery) (fun a => .present (f a)) ≠ Clause.malformed := by
  cases o <;> simp

-- A clause that was printed has entries, so the lists tell which clauses there are.
theorem kind_plan : q.plan.kind = .classify (!q.plan.groupBy.isEmpty) (!q.plan.orderBy.isEmpty)
    (!q.plan.aggregates.isEmpty) := by
  have hg : (!q.groupFields.isEmpty) = q.groups.isSome := by
    rw [groupFields]
    cases q.groups <;> simp [Listing.all]
  have ho : (!(q.ordered.map Ordered.text).isEmpty) = q.orders.isSome := by
    rw [ordered]
    cases q.orders <;> simp [Listing.all]
  have ha : (!(q.selection.listed.filterMap Entry.call?).isEmpty) =
      q.selection.listed.any (·.call?.isSome) := by
    rw [Bool.eq_iff_iff]
    simp [Option.isSome_iff_ne_none]
  simp only [plan, hg, ho, ha]

-- Each part is read from the clause that it was printed in.
theorem reads_plan : Plan.Reads {} q.print q.plan := by
  have ht := q.tight_print.trim_eq
  constructor
  case outline => exact q.check_print
  case rawText => rfl
  case balance => exact q.checkBalance_plan
  case kind => exact q.kind_plan
  case sortKeys => exact ⟨_, q.sortKeys_plan⟩
  all_goals rw [ht]
  case source => exact q.source_print
  case base => exact q.base_print
  case selectList => exact ⟨_, q.selectList_print, q.selection.ofEntries_columns.symm⟩
  case filter => rw [filter_print]; exact elim_ne_malformed
  case conditions => rw [conditions_print]; exact elim_ne_malformed
  case predicates => exact q.texts_conditions
  case tokens => exact q.reads_connectives.left
  case connectives => exact q.reads_connectives.right
  case groups => rw [groupBy_print]; exact elim_ne_malformed
  case groupBy => exact q.texts_groupBy.symm
  case orders => rw [orderBy_print]; exact elim_ne_malformed
  case orderBy => exact q.texts_orderBy.symm
  case calls => exact q.aggregates_ne_malformed
  case aggregates => rw [texts_aggregates]; exact q.parse_calls

-- A printed query is parsed to its own plan, with its sort keys understood.
theorem parse_print :
    Plan.parse {} q.print = .ok q.plan ∧ q.plan.sortKeys = .ok (q.ordered.map Ordered.sortKey) :=
  ⟨Plan.parse_eq_ok_iff.mpr q.reads_plan, q.sortKeys_plan⟩

-- What a query with a negation is printed as.
example : print {
    select    := ⟨"Select".toList, by decide⟩
    selection := .entries ⟨.word ⟨"id".toList, by decide, by decide, by decide⟩, []⟩
    origin    := ⟨"from".toList, by decide⟩
    source    := ⟨⟨['t'], by decide, by decide, by decide⟩, []⟩
    filter    := some (⟨"where".toList, by decide⟩, {
      first := {
        negation := some ⟨"NOT".toList, by decide⟩
        field    := ⟨"id".toList, by decide, by decide, by decide⟩
        operator := .ne
        literal  := ⟨[], by decide, by decide⟩
      }
      rest := []
    })
    groups    := none
    orders    := none
  } = "Select id from t.csv where NOT id != \x27\x27".toList := by
  decide

end Query
end Dialect
end FlatQuery
