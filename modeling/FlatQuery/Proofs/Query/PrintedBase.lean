import FlatQuery.Proofs.Query.Calls
import FlatQuery.Proofs.Query.PresentClauses
import FlatQuery.Proofs.Query.PrintedOutline

namespace FlatQuery
namespace Dialect
namespace Query

variable (q : Query)

section Source

theorem isSourceName_text (s : Source) : Settings.isSourceName {} s.text := by
  have hc : Text.cutAtLast '.' s.text =
      some (Text.join ['/'] (s.path.all.map Word.text), "csv".toList) :=
    Text.cutAtLast_append (by decide)
  simp [Settings.isSourceName, hc, s.stem_ne_nil, Text.eqIgnoringCase]

theorem source_print : Clause.source {} q.print = .present q.source.text := by
  have hp : q.print = q.select.text ++ ' ' :: q.selection.text ++ ' ' :: q.origin.text ++
      ' ' :: (q.source.text ++
        Passage.trail (q.filterPassages ++ q.groupPassages ++ q.orderPassages)) := by
    rw [print_eq_origin]
    simp [Passage.lead, Passage.text, selectPassage, originPassage]
  have hs : '.' ∉ q.select.text := fun hc => absurd (q.select.toLower_mem hc) (by decide)
  have ho : '.' ∉ q.origin.text := fun hc => absurd (q.origin.toLower_mem hc) (by decide)
  have hd : '.' ∉ q.select.text ++ ' ' :: q.selection.text ++ ' ' :: q.origin.text := by
    simp [hs, q.selection.no_dot, ho]
  rw [hp]
  exact Clause.source_eq hd (fun _ => q.source.no_blank) (isSourceName_text q.source)
    Passage.isBlank_of_trail

end Source

section Base

theorem lead_eq : Passage.lead [q.selectPassage, q.originPassage] = q.base ++ [' '] := by
  simp [base_eq, Passage.lead, Passage.trail]

-- The first clause after the base, if there is one, ends it.
theorem baseEnd?_print : Clause.baseEnd? q.print =
    (q.filterPassages ++ q.groupPassages ++ q.orderPassages).head?.map fun _ => q.originEnd := by
  simp only [Clause.baseEnd?, Keyword.last?_eq, spans_filter, spans_groups, spans_orders]
  cases hqf : q.filter
  case some => simp [filterPassages, hqf]
  case none =>
    cases hqg : q.groups
    case some => simp [filterPassages, groupPassages, hqf, hqg, q.filterEnd_of_none hqf]
    case none =>
      cases hqo : q.orders
      case some =>
        simp [filterPassages, groupPassages, orderPassages, hqf, hqg, hqo,
          q.filterEnd_of_none hqf, q.groupEnd_of_none hqg]
      case none => simp [filterPassages, groupPassages, orderPassages, hqf, hqg, hqo]

theorem tight_base : q.base.Tight := by
  rw [base_eq]
  exact Passage.tight_append_trail q.selectPassage.tight_text

theorem spans_base (hk : k ∈ [Keyword.filter, .orderBy, .groupBy]) : k.spans q.base = [] := by
  have hc : k ∈ Keyword.clauses ∧ k ≠ .select ∧ k ≠ .source := by
    revert k
    decide
  obtain ⟨hc, hs, ho⟩ := hc
  have hq : ∀ p ∈ [q.originPassage], p.keyword ≠ k := by simpa [originPassage] using ho.symm
  rw [base_eq]
  exact Passage.spans_eq_nil hc hs.symm hq

theorem take_originEnd (h : q.filterPassages ++ q.groupPassages ++ q.orderPassages = p :: ps) :
    q.print.take q.originEnd = q.base ++ [' '] := by
  rw [print_eq_join, List.append_assoc, List.append_assoc, ← List.append_assoc q.filterPassages, h,
    Passage.join_append, originEnd, lead_eq, List.take_left]

theorem base_print : Clause.base q.print = .present q.base := by
  cases hr : q.filterPassages ++ q.groupPassages ++ q.orderPassages
  case nil =>
    have hp : q.print = q.base := by rw [print_eq_select, base_eq, hr]
    rw [Clause.base, baseEnd?_print, hr, hp]
    rfl
  case cons p ps =>
    have ht : Text.trim (q.print.take q.originEnd) = q.base := by
      rw [q.take_originEnd hr]
      exact q.tight_base.trim_padded (u := []) rfl rfl
    exact Clause.base_eq (by rw [baseEnd?_print, hr]; rfl) ht (.inr fun _ => q.spans_base)

end Base

section SelectList

-- The list comes apart at its commas, and no entry has one.
theorem selectList_print : Clause.selectList q.print = .present q.selection.columns := by
  have hs : Keyword.select.first? q.print = some ⟨0, q.select.text.length⟩ := by
    rw [Keyword.first?_eq, spans_select]
    rfl
  have ho : Keyword.source.starts q.print = [q.selectEnd] := by
    simp [Keyword.starts, spans_origin]
  have hl : q.select.text.length ≤ q.selectEnd := by
    rw [selectEnd_eq]
    omega
  have hc : ∀ k ∈ [Keyword.select, .source], k.spans q.selection.text = [] := by
    intro k hk
    have hk : k ∈ Keyword.clauses := by
      revert k
      decide
    exact q.selectPassage.spans_body hk
  have hp : (Text.pieces (· == ',') ([' '] ++ q.selection.text ++ [' '])).map Text.trim =
      q.selection.columns := by
    rw [Selection.text_eq]
    exact Text.pieces_join (fun _ ht => ⟨q.selection.tight_column ht, q.selection.no_comma ht⟩)
      q.selection.columns_ne_nil rfl rfl
  exact Clause.selectList_eq hs ho hl q.slice_selection q.selection.tight hc hp fun _ ht =>
    ⟨(q.selection.tight_column ht).ne_nil, q.selection.no_blank ht⟩

end SelectList

section Aggregates

-- The calls of the select list as they are printed.
def calls : List Text :=
  (q.selection.listed.filter (·.call?.isSome)).map Entry.text

theorem found_selection : Pattern.aggregateCalls.found q.selection.text = q.calls := by
  have he (es : List Entry) : (es.map Entry.text).flatMap Pattern.aggregateCalls.found =
      (es.filter (·.call?.isSome)).map Entry.text := by
    induction es
    case nil => rfl
    case cons e es hi =>
      rw [List.map_cons, List.flatMap_cons, hi, e.found_text]
      cases hc : e.call? <;> simp [hc]
  rw [calls]
  cases q.selection
  case all => exact Pattern.found_calls_of_not_mem (by decide)
  case entries es => rw [Selection.text, Pattern.found_calls_join, he, Selection.listed]

-- Keywords and the name of the source have no parentheses.
theorem found_base : Pattern.aggregateCalls.found q.base = q.calls := by
  have hb : q.base = q.select.text ++ ' ' :: (q.selection.text ++ ' ' :: (q.origin.text ++
      ' ' :: q.source.text)) := by
    simp [base, clause, Text.join]
  have hs : '(' ∉ q.select.text := fun hc => absurd (q.select.toLower_mem hc) (by decide)
  have ho : '(' ∉ q.origin.text := fun hc => absurd (q.origin.toLower_mem hc) (by decide)
  rw [hb, Pattern.found_calls_space, Pattern.found_calls_space, Pattern.found_calls_space,
    found_selection, Pattern.found_calls_of_not_mem hs, Pattern.found_calls_of_not_mem ho,
    Pattern.found_calls_of_not_mem q.source.no_open]
  simp

theorem aggregates_print : Clause.aggregates q.print =
    if q.calls = [] then .absent .notInQuery else .present q.calls := by
  have hf : (Pattern.aggregateCalls.spans q.base).map q.base.slice = q.calls := q.found_base
  rw [Clause.aggregates, base_print, Clause.bind, hf]
  cases q.calls <;> rfl

theorem parse_calls :
    q.calls.mapM AggregateCall.parse = .ok (q.selection.listed.filterMap Entry.call?) := by
  rw [calls]
  induction q.selection.listed
  case nil => rfl
  case cons e es hi =>
    cases he : e.call?
    case none => simpa [he] using hi
    case some a =>
      simp only [he, List.filter_cons, Option.isSome_some, if_true, List.map_cons,
        List.filterMap_cons]
      exact mapM_cons_eq_ok.mpr ⟨_, _, e.parse_text he, hi, rfl⟩

end Aggregates

end Query
end Dialect
end FlatQuery
