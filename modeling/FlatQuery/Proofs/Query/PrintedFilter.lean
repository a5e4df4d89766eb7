import FlatQuery.Proofs.Query.Criteria

namespace FlatQuery

namespace Dialect

section Literals

theorem isValueChar_of_isLiteralChar {c : Char} (h : isLiteralChar c) : isValueChar c := by
  cases hv : isValueChar c
  case true => rfl
  case false =>
    have hc : Text.isQuote c ∨ c ∈ ['(', ')', '=', '<', '>'] := by
      simpa [isValueChar, imp_iff_or_not, or_comm] using hv
    obtain hc | hc := hc
    case inl => obtain rfl | rfl := quote_cases hc <;> contradiction
    case inr =>
      simp only [List.mem_cons, List.not_mem_nil, or_false] at hc
      obtain rfl | rfl | rfl | rfl | rfl := hc <;> contradiction

def Literal.value (l : Literal) : Value where
  text  := l.text
  plain := List.all_eq_true.mpr fun c hc =>
    isValueChar_of_isLiteralChar (List.all_eq_true.mp l.plain c hc)
  free  := l.free

def Gap.space : Gap :=
  ⟨[' '], rfl⟩

end Literals

namespace Restriction

variable (r : Restriction)

def criterion : Criterion where
  negation := r.negation
  field    := r.field
  before   := .space
  operator := r.operator
  after    := .space
  quote    := '\x27'
  quotes   := rfl
  value    := r.literal.value

theorem condition_criterion : r.criterion.condition = r.condition := by
  simp [criterion, Criterion.condition, Criterion.quoted, condition, Gap.space, Literal.value]

theorem text_criterion : r.criterion.text = r.text := by
  rw [Criterion.text, text, condition_criterion]
  rfl

end Restriction

namespace Filter

variable (f : Filter)

def criteria : Criteria :=
  ⟨f.first.criterion, f.rest.map fun (k, r) => (k, r.criterion)⟩

theorem text_criteria : f.criteria.text = f.text := by
  simp [criteria, Criteria.text, text, Restriction.text_criterion, List.flatMap_map]

theorem predicates_criteria : f.criteria.predicates = f.predicates := by
  rw [Criteria.predicates, predicates, criteria, List.map_map]
  rfl

theorem connectives_criteria : f.criteria.connectives = f.connectives := by
  rw [Criteria.connectives, connectives, criteria, List.flatMap_map]
  rfl

theorem tight_text : f.text.Tight :=
  f.text_criteria ▸ f.criteria.tight_text

theorem no_closing : ')' ∉ f.text :=
  f.text_criteria ▸ f.criteria.no_parenthesis.right

theorem filterOfText_text : Clause.filterOfText f.text = .present f.text :=
  f.text_criteria ▸ f.criteria.filterOfText_text

end Filter

end Dialect
end FlatQuery
