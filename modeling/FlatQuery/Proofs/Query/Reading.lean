import FlatQuery.Proofs.Fallible
import FlatQuery.Query.Plan

namespace FlatQuery

namespace Clause

def map (f : α → β) : Clause α → Clause β
  | absent why => absent why
  | malformed => malformed
  | present a => present (f a)

theorem map_eq_present_iff {f : α → β} {c : Clause α} :
    c.map f = .present b ↔ ∃ a, c = .present a ∧ f a = b := by
  cases c <;> simp [map]

-- A clause that is mapped is read on from as the clause itself, if the reading goes along.
theorem bind_map {f : α → α'} {g : β → β'} {c : Clause α} {k : α → Clause β}
    {k' : α' → Clause β'} (h : ∀ a, k' (f a) = (k a).map g) :
    (c.map f).bind k' = (c.bind k).map g := by
  cases c
  case present a => exact h a
  all_goals rfl

theorem require_eq_some_iff {c : Clause α} : c.require part = .ok (some a) ↔ c = .present a := by
  cases c <;> simp [require]

theorem ne_malformed_of_require {c : Clause α} (h : c.require part = .ok x) : c ≠ .malformed := by
  rintro rfl
  contradiction

theorem exists_require (part : Part) {c : Clause α} (h : c ≠ .malformed) :
    ∃ x, c.require part = .ok x := by
  cases c <;> simp_all [require]

-- The texts of a list clause; an absent clause has none.
def texts : Clause (List Text) → List Text
  | present ts => ts
  | _ => []

theorem requireList_eq_ok_iff {c : Clause (List Text)} :
    c.requireList part = .ok ts ↔ c ≠ .malformed ∧ ts = c.texts := by
  cases c <;> simp [requireList, require, Except.map, texts, eq_comm]

theorem base_ne_absent {query : Text} : base query ≠ .absent why := by
  unfold base
  split
  case h_1 => simp
  case h_2 => dsimp only; split <;> simp

theorem eq_of_base {query base : Text} (h : Clause.base query = .present base) :
    base = query ∨ ∃ stop, baseEnd? query = some stop ∧ base = Text.trim (query.take stop) := by
  rw [Clause.base] at h
  split at h
  case h_1 => exact .inl (Clause.present.inj h).symm
  case h_2 stop hb =>
    dsimp only at h
    split at h
    case isTrue => contradiction
    case isFalse => exact .inr ⟨stop, hb, (Clause.present.inj h).symm⟩

theorem present_of_require_base {query : Text} (h : (base query).require .base = .ok x) :
    base query = .present (x.getD []) := by
  cases hb : base query
  case absent => exact absurd hb base_ne_absent
  case malformed => rw [hb] at h; contradiction
  case present b =>
    rw [hb] at h
    rw [← Except.ok.inj h]
    rfl

end Clause

namespace Plan

variable {settings : Settings} {raw : Text} {plan : Plan}

-- The parts of a plan, clause by clause.
structure Reads (settings : Settings) (raw : Text) (plan : Plan) : Prop where
  outline    : Outline.check raw = .ok ()
  rawText    : plan.rawText = raw
  source     : Clause.source settings raw.trim = .present plan.source
  base       : Clause.base raw.trim = .present plan.baseQuery
  selectList : ∃ entries, Clause.selectList raw.trim = .present entries ∧
                 plan.projection = .ofEntries entries
  filter     : Clause.filter raw.trim ≠ .malformed
  conditions : Clause.conditions raw.trim ≠ .malformed
  predicates : (Clause.conditions raw.trim).texts.mapM Predicate.parse = .ok plan.predicates
  tokens     : Clause.connectives raw.trim ≠ .malformed
  connectives : (Clause.connectives raw.trim).texts.mapM Connective.parse = .ok plan.connectives
  balance    : checkBalance plan.predicates plan.connectives = .ok ()
  groups     : Clause.groupBy raw.trim ≠ .malformed
  groupBy    : plan.groupBy = (Clause.groupBy raw.trim).texts
  orders     : Clause.orderBy raw.trim ≠ .malformed
  orderBy    : plan.orderBy = (Clause.orderBy raw.trim).texts
  calls      : Clause.aggregates raw.trim ≠ .malformed
  aggregates : (Clause.aggregates raw.trim).texts.mapM AggregateCall.parse = .ok plan.aggregates
  kind       : plan.kind = .classify (!plan.groupBy.isEmpty) (!plan.orderBy.isEmpty)
                 (!plan.aggregates.isEmpty)
  sortKeys   : ∃ keys, plan.sortKeys = .ok keys

-- Every step of the reading succeeds, each with what the plan has of it.
theorem reads_of_parse (h : parse settings raw = .ok plan) : Reads settings raw plan := by
  rw [parse] at h
  split at h
  case h_1 => contradiction
  case h_2 outline =>
    rw [ofClauses] at h
    obtain ⟨source, hs, h⟩ := except_bind_eq_ok.mp h
    split at h
    case h_2 => contradiction
    case h_1 source =>
      obtain ⟨base, hb, h⟩ := except_bind_eq_ok.mp h
      obtain ⟨entries, he, h⟩ := except_bind_eq_ok.mp h
      split at h
      case h_2 => contradiction
      case h_1 entries =>
        obtain ⟨_, hf, h⟩ := except_bind_eq_ok.mp h
        obtain ⟨_, hc, h⟩ := except_bind_eq_ok.mp h
        obtain ⟨_, hp, h⟩ := except_bind_eq_ok.mp h
        obtain ⟨_, ht, h⟩ := except_bind_eq_ok.mp h
        obtain ⟨_, hn, h⟩ := except_bind_eq_ok.mp h
        obtain ⟨_, hbal, h⟩ := except_bind_eq_ok.mp h
        obtain ⟨_, hg, h⟩ := except_bind_eq_ok.mp h
        obtain ⟨_, ho, h⟩ := except_bind_eq_ok.mp h
        obtain ⟨_, ha, h⟩ := except_bind_eq_ok.mp h
        obtain ⟨_, hm, h⟩ := except_bind_eq_ok.mp h
        obtain ⟨keys, hk, h⟩ := except_bind_eq_ok.mp h
        obtain rfl := Except.ok.inj h
        obtain ⟨hc', rfl⟩ := Clause.requireList_eq_ok_iff.mp hc
        obtain ⟨ht', rfl⟩ := Clause.requireList_eq_ok_iff.mp ht
        obtain ⟨hg', rfl⟩ := Clause.requireList_eq_ok_iff.mp hg
        obtain ⟨ho', rfl⟩ := Clause.requireList_eq_ok_iff.mp ho
        obtain ⟨ha', rfl⟩ := Clause.requireList_eq_ok_iff.mp ha
        exact {
          outline, rawText := rfl
          source := Clause.require_eq_some_iff.mp hs
          base := Clause.present_of_require_base hb
          selectList := ⟨entries, Clause.require_eq_some_iff.mp he, rfl⟩
          filter := Clause.ne_malformed_of_require hf
          conditions := hc', predicates := hp, tokens := ht', connectives := hn, balance := hbal
          groups := hg', groupBy := rfl, orders := ho', orderBy := rfl
          calls := ha', aggregates := hm, kind := rfl, sortKeys := ⟨keys, hk⟩
        }

-- The steps follow one another in the order of the clauses.
theorem parse_of_reads (h : Reads settings raw plan) : parse settings raw = .ok plan := by
  obtain ⟨entries, he, hp⟩ := h.selectList
  obtain ⟨keys, hk⟩ := h.sortKeys
  obtain ⟨_, hf⟩ := Clause.exists_require .filter h.filter
  rw [parse, h.outline]
  refine except_bind_eq_ok.mpr ⟨_, Clause.require_eq_some_iff.mpr h.source, ?_⟩
  refine except_bind_eq_ok.mpr ⟨_, Clause.require_eq_some_iff.mpr h.base, ?_⟩
  refine except_bind_eq_ok.mpr ⟨_, Clause.require_eq_some_iff.mpr he, ?_⟩
  refine except_bind_eq_ok.mpr ⟨_, hf, ?_⟩
  refine except_bind_eq_ok.mpr ⟨_, Clause.requireList_eq_ok_iff.mpr ⟨h.conditions, rfl⟩, ?_⟩
  refine except_bind_eq_ok.mpr ⟨_, h.predicates, ?_⟩
  refine except_bind_eq_ok.mpr ⟨_, Clause.requireList_eq_ok_iff.mpr ⟨h.tokens, rfl⟩, ?_⟩
  refine except_bind_eq_ok.mpr ⟨_, h.connectives, ?_⟩
  refine except_bind_eq_ok.mpr ⟨_, h.balance, ?_⟩
  refine except_bind_eq_ok.mpr ⟨_, Clause.requireList_eq_ok_iff.mpr ⟨h.groups, rfl⟩, ?_⟩
  refine except_bind_eq_ok.mpr ⟨_, Clause.requireList_eq_ok_iff.mpr ⟨h.orders, rfl⟩, ?_⟩
  refine except_bind_eq_ok.mpr ⟨_, Clause.requireList_eq_ok_iff.mpr ⟨h.calls, rfl⟩, ?_⟩
  refine except_bind_eq_ok.mpr ⟨_, h.aggregates, ?_⟩
  refine except_bind_eq_ok.mpr ⟨keys, ?_, ?_⟩
  · rw [← hk, sortKeys, sortKeys, h.orderBy]
  · have := h.rawText
    have := h.groupBy
    have := h.orderBy
    have := h.kind
    cases plan
    simp_all [pure, Except.pure]

theorem parse_eq_ok_iff : parse settings raw = .ok plan ↔ Reads settings raw plan :=
  ⟨reads_of_parse, parse_of_reads⟩

end Plan
end FlatQuery
