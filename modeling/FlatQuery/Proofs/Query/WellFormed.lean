import FlatQuery.Proofs.Query.Refusals

namespace FlatQuery

variable {query : Text}

namespace Clause

theorem mem_words_of_source {settings : Settings} (h : source settings query = .present word) :
    word ∈ query.words ∧ settings.isSourceName word := by
  rw [source] at h
  split at h
  case h_2 => contradiction
  case h_1 w hw =>
    obtain rfl := Clause.present.inj h
    exact ⟨List.mem_of_find?_eq_some hw, List.find?_some hw⟩

theorem tight_of_selectList {entries : List Text} (h : selectList query = .present entries) :
    entries ≠ [] ∧ ∀ entry ∈ entries, entry.Tight := by
  rw [selectList] at h
  split at h
  case h_1 => contradiction
  case h_2 span _ =>
    dsimp only at h
    split at h
    case isFalse => contradiction
    case isTrue hs =>
      obtain rfl := Clause.present.inj h
      refine ⟨by simp [Text.pieces_ne_nil], fun entry hm => ?_⟩
      have hs := List.all_eq_true.mp hs entry hm
      simp only [isSelectEntry, Bool.and_eq_true, Bool.not_eq_true',
        List.isEmpty_eq_false_iff] at hs
      obtain ⟨piece, -, rfl⟩ := List.mem_map.mp hm
      exact Text.tight_of_trim_ne_nil hs.left

section Fields

variable {c : Clause α} {f : α → Clause (List Text)} {read : Text → Clause (List Text)}
  {text entry : Text}

theorem exists_of_mem_texts_bind (h : entry ∈ (c.bind f).texts) : ∃ a, entry ∈ (f a).texts := by
  cases c
  case present a => exact ⟨a, h⟩
  all_goals contradiction

theorem tight_of_mem_fieldList (h : entry ∈ (fieldList limit text).texts) : entry.Tight := by
  rw [fieldList] at h
  split at h
  case isFalse => contradiction
  case isTrue hf =>
    have hf := List.all_eq_true.mp hf entry h
    rw [Bool.and_eq_true] at hf
    obtain ⟨piece, -, rfl⟩ := List.mem_map.mp h
    refine Text.tight_of_trim_ne_nil fun hn => ?_
    rw [hn] at hf
    exact absurd hf.left (by decide)

theorem mem_of_mem_fieldsOfTail (h : entry ∈ (fieldsOfTail others read text).texts) :
    entry ∈ (read text).texts := by
  rw [fieldsOfTail] at h
  split at h
  case isTrue => split at h <;> contradiction
  case isFalse =>
    split at h
    case isTrue => contradiction
    case isFalse => exact h

theorem tight_of_mem_orderBy (h : entry ∈ (orderBy query).texts) : entry.Tight := by
  rw [orderBy] at h
  obtain ⟨text, h⟩ := exists_of_mem_texts_bind h
  have h := mem_of_mem_fieldsOfTail h
  exact tight_of_mem_fieldList h

theorem tight_of_mem_groupBy (h : entry ∈ (groupBy query).texts) : entry.Tight := by
  rw [groupBy] at h
  obtain ⟨text, h⟩ := exists_of_mem_texts_bind h
  have h := mem_of_mem_fieldsOfTail h
  exact tight_of_mem_fieldList h

end Fields
end Clause

theorem Kind.classify_eq_simple_iff {groups orders aggregates : Bool} :
    classify groups orders aggregates = simple ↔
      groups = false ∧ orders = false ∧ aggregates = false := by
  cases groups <;> cases orders <;> cases aggregates <;> decide

namespace Plan

variable {settings : Settings} {raw : Text} {plan : Plan}

-- The plan can be run as it is, and names what is in its text.
structure WellFormed (settings : Settings) (raw : Text) (plan : Plan) : Prop where
  balance    : plan.predicates = [] ∨ plan.predicates.length = plan.joiners.length + 1
  predicates : ∀ p ∈ plan.predicates, p.Sound
  selected   : ∀ names, plan.projection = .fields names →
                 names ≠ [] ∧ ∀ name ∈ names, name.Tight
  groups     : ∀ field ∈ plan.groupBy, field.Tight
  orders     : ∀ entry ∈ plan.orderBy, entry.Tight
  sortKeys   : ∃ keys, plan.sortKeys = .ok keys
  source     : plan.source ∈ raw.words
  sourceName : settings.isSourceName plan.source
  kind       : plan.kind = .simple ↔ plan.groupBy = [] ∧ plan.orderBy = [] ∧ plan.aggregates = []

theorem Reads.wellFormed (h : Reads settings raw plan) : WellFormed settings raw plan where
  balance := checkBalance_eq_ok_iff.mp h.balance
  predicates p hp := by
    obtain ⟨piece, -, hp⟩ := exists_of_mem_mapM h.predicates hp
    exact Predicate.sound_of_parse hp
  selected names hn := by
    obtain ⟨entries, he, hp⟩ := h.selectList
    rw [hp, Projection.ofEntries] at hn
    split at hn
    case isTrue => contradiction
    case isFalse =>
      obtain rfl := Projection.fields.inj hn
      exact Clause.tight_of_selectList he
  groups field hf := Clause.tight_of_mem_groupBy (h.groupBy ▸ hf)
  orders entry he := Clause.tight_of_mem_orderBy (h.orderBy ▸ he)
  sortKeys := h.sortKeys
  source := Text.words_trim (t := raw) ▸ (Clause.mem_words_of_source h.source).left
  sourceName := (Clause.mem_words_of_source h.source).right
  kind := by
    rw [h.kind, Kind.classify_eq_simple_iff]
    simp

end Plan
end FlatQuery
