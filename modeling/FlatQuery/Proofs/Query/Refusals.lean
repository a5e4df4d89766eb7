import FlatQuery.Proofs.Query.ConditionParts
import FlatQuery.Proofs.Query.Connectives

namespace FlatQuery

variable {query : Text} {e : ParseError}

namespace Clause

-- A clause is read before what follows it.
theorem require_bind_eq_error {c : Clause α} {f : Option α → Except ParseError β} :
    (c.require part >>= f) = .error e ↔
      c = .malformed ∧ e = .malformed part ∨ ∃ a, c.require part = .ok a ∧ f a = .error e := by
  have hc : c.require part = .error e ↔ c = .malformed ∧ e = .malformed part := by
    cases c <;> simp [require, eq_comm]
  rw [except_bind_eq_error, hc]

theorem requireList_bind_eq_error {c : Clause (List Text)} {f : List Text → Except ParseError β} :
    (c.requireList part >>= f) = .error e ↔
      c = .malformed ∧ e = .malformed part ∨ c ≠ .malformed ∧ f c.texts = .error e := by
  have hc : c.requireList part = .error e ↔ c = .malformed ∧ e = .malformed part := by
    cases c <;> simp [requireList, require, Except.map, eq_comm]
  simp only [except_bind_eq_error, hc, requireList_eq_ok_iff, and_assoc, exists_and_left,
    exists_eq_left]

theorem source_ne_malformed {settings : Settings} : source settings query ≠ .malformed := by
  rw [source]
  split <;> simp

theorem selectList_ne_absent : selectList query ≠ .absent why := by
  rw [selectList]
  split
  case h_1 => simp
  case h_2 => dsimp only; split <;> simp

-- The calls are looked for in the base query.
theorem aggregates_ne_malformed_of_base (h : base query ≠ .malformed) :
    aggregates query ≠ .malformed := by
  rw [aggregates]
  cases hb : base query
  case absent => simp [bind]
  case malformed => contradiction
  case present =>
    simp only [bind]
    split <;> simp

-- What is left of a filter between its joiners is read as predicates.
theorem exists_predicates (h : conditions query ≠ .malformed) :
    ∃ predicates, (conditions query).texts.mapM Predicate.parse = .ok predicates := by
  cases hc : conditions query
  case absent => exact ⟨[], rfl⟩
  case malformed => contradiction
  case present pieces =>
    obtain ⟨-, -, -, hp⟩ := joined_of_conditions hc
    exact exists_mapM_eq_ok fun piece hm => Predicate.exists_parse (hp piece hm)

end Clause

theorem AggregateCall.eq_of_parse_eq_error (h : parse t = .error e) :
    e = .malformed .aggregate := by
  rw [parse] at h
  split at h
  case h_1 => exact (Except.error.inj h).symm
  case h_2 name field _ =>
    obtain h | ⟨_, -, h⟩ := except_bind_eq_error.mp h
    case inr => contradiction
    case inl =>
      rw [AggregateFunction.parse] at h
      split at h
      case h_1 => contradiction
      case h_2 => exact (Except.error.inj h).symm

theorem SortKey.eq_of_parse_eq_error (h : parse t = .error e) : e = .malformed .orderBy := by
  rw [parse] at h
  split at h
  case h_1 => contradiction
  case h_2 =>
    split at h
    case h_1 => contradiction
    case h_2 => exact (Except.error.inj h).symm
  case h_3 => exact (Except.error.inj h).symm

namespace Plan

variable {settings : Settings} {raw : Text} {predicates : List Predicate} {cs : List Connective}

theorem checkBalance_eq_ok_iff : checkBalance predicates cs = .ok () ↔
    predicates = [] ∨ predicates.length = (cs.filter (·.isBinary)).length + 1 := by
  rw [checkBalance]
  split
  case isTrue h => simpa using h
  case isFalse h =>
    simp only [true_iff]
    tauto

-- What can be wrong with the clauses of a query, and the error that tells it.
inductive Flawed (settings : Settings) (query : Text) : ParseError → Prop
  | source (h : (query.words.find? settings.isSourceName) = none) :
    Flawed settings query .missingSource
  | base (h : Clause.base query = .malformed) : Flawed settings query (.malformed .base)
  | selectList (h : Clause.selectList query = .malformed) :
    Flawed settings query (.malformed .selectList)
  | filter (h : Clause.filter query = .malformed) : Flawed settings query (.malformed .filter)
  | conditions (h : Clause.conditions query = .malformed) :
    Flawed settings query (.malformed .condition)
  | groupBy (h : Clause.groupBy query = .malformed) : Flawed settings query (.malformed .groupBy)
  | orderBy (h : Clause.orderBy query = .malformed) : Flawed settings query (.malformed .orderBy)
  | call (hm : call ∈ (Clause.aggregates query).texts)
    (h : AggregateCall.parse call = .error (.malformed .aggregate)) :
    Flawed settings query (.malformed .aggregate)
  | sortKey (hm : entry ∈ (Clause.orderBy query).texts)
    (h : SortKey.parse entry = .error (.malformed .orderBy)) :
    Flawed settings query (.malformed .orderBy)

-- Step by step, what the reading stops at is one of the flaws.
theorem flawed_of_ofClauses (h : ofClauses settings raw query = .error e) :
    Flawed settings query e := by
  rw [ofClauses] at h
  obtain ⟨hs, -⟩ | ⟨source, hs, h⟩ := Clause.require_bind_eq_error.mp h
  case inl => exact absurd hs Clause.source_ne_malformed
  split at h
  case h_2 hn =>
    obtain rfl := Except.error.inj h
    refine .source ?_
    cases hf : query.words.find? settings.isSourceName
    case none => rfl
    case some word =>
      simp only [Clause.source, hf, Clause.require, Except.ok.injEq] at hs
      exact absurd hs.symm (hn word)
  obtain ⟨hb, rfl⟩ | ⟨_, hb, h⟩ := Clause.require_bind_eq_error.mp h
  case inl => exact .base hb
  obtain ⟨he, rfl⟩ | ⟨_, he, h⟩ := Clause.require_bind_eq_error.mp h
  case inl => exact .selectList he
  split at h
  case h_2 hn =>
    cases hs : Clause.selectList query
    case absent => exact absurd hs Clause.selectList_ne_absent
    case malformed => rw [hs] at he; contradiction
    case present entries => rw [hs] at he; exact absurd (Except.ok.inj he).symm (hn entries)
  obtain ⟨hf, rfl⟩ | ⟨_, -, h⟩ := Clause.require_bind_eq_error.mp h
  case inl => exact .filter hf
  obtain ⟨hc, rfl⟩ | ⟨hc, h⟩ := Clause.requireList_bind_eq_error.mp h
  case inl => exact .conditions hc
  -- From here on nothing about the filter can fail.
  obtain ⟨predicates, hp⟩ := Clause.exists_predicates hc
  obtain ⟨ht, cs, hn, hl⟩ := Clause.connectives_of_conditions hc
  have hbal : checkBalance predicates cs = .ok () := by
    rw [checkBalance_eq_ok_iff, length_of_mapM_eq_ok hp]
    refine hl.imp_left fun hl => ?_
    rw [hl] at hp
    exact (Except.ok.inj hp).symm
  rw [hp] at h
  obtain ⟨ht', -⟩ | ⟨-, h⟩ := Clause.requireList_bind_eq_error.mp h
  case inl => exact absurd ht' ht
  rw [hn] at h
  obtain h | ⟨_, -, h⟩ := except_bind_eq_error (x := checkBalance predicates cs).mp h
  case inl => rw [hbal] at h; contradiction
  obtain ⟨hg, rfl⟩ | ⟨-, h⟩ := Clause.requireList_bind_eq_error.mp h
  case inl => exact .groupBy hg
  obtain ⟨ho, rfl⟩ | ⟨-, h⟩ := Clause.requireList_bind_eq_error.mp h
  case inl => exact .orderBy ho
  obtain ⟨ha, -⟩ | ⟨-, h⟩ := Clause.requireList_bind_eq_error.mp h
  case inl =>
    have hb := Clause.ne_malformed_of_require hb
    exact absurd ha (Clause.aggregates_ne_malformed_of_base hb)
  obtain h | ⟨calls, -, h⟩ := except_bind_eq_error.mp h
  case inl =>
    obtain ⟨call, hm, h⟩ := exists_of_mapM_eq_error h
    obtain rfl := AggregateCall.eq_of_parse_eq_error h
    exact .call hm h
  obtain h | ⟨_, -, h⟩ := except_bind_eq_error.mp h
  case inr => contradiction
  obtain ⟨entry, hm, h⟩ := exists_of_mapM_eq_error h
  obtain rfl := SortKey.eq_of_parse_eq_error h
  exact .sortKey hm h

-- A text is refused for its outline or for one of its clauses.
theorem exists_of_parse_eq_error (h : parse settings raw = .error e) :
    (∃ fault, Outline.check raw = .error fault ∧ e = .outline fault) ∨
      Outline.check raw = .ok () ∧ Flawed settings raw.trim e := by
  rw [parse] at h
  split at h
  case h_1 fault hf => exact .inl ⟨fault, hf, (Except.error.inj h).symm⟩
  case h_2 hf => exact .inr ⟨hf, flawed_of_ofClauses h⟩

-- Where the conditions can be read, the connectives fit between them; so the reading never stops
-- at a connective, at a comparison or at their number.
theorem splits_agree (settings : Settings) (raw : Text) :
    (∀ predicates operators, parse settings raw ≠ .error (.unbalanced predicates operators)) ∧
    parse settings raw ≠ .error (.malformed .connective) ∧
    (∀ symbol, parse settings raw ≠ .error (.unknownComparison symbol)) ∧
    ∀ pieces, Clause.ofSound Clause.conditions raw = .present pieces →
      Clause.ofSound Clause.connectives raw ≠ .malformed ∧
      ((Clause.ofSound Clause.connectives raw).texts.filter
        [Keyword.and.letters, Keyword.or.letters].contains).length + 1 = pieces.length ∧
      ∃ predicates, pieces.mapM Predicate.parse = .ok predicates := by
  have hn (e : ParseError) (he : ∀ fault, e ≠ .outline fault) (hf : ¬Flawed settings raw.trim e) :
      parse settings raw ≠ .error e := fun h => by
    obtain ⟨fault, -, rfl⟩ | ⟨-, h⟩ := exists_of_parse_eq_error h
    case inl => exact he fault rfl
    case inr => exact hf h
  refine ⟨fun _ _ => hn _ nofun nofun, hn _ nofun nofun, fun _ => hn _ nofun nofun, ?_⟩
  intro pieces h
  rw [Clause.ofSound] at h ⊢
  split at h
  case isFalse => contradiction
  case isTrue hs =>
    rw [if_pos hs]
    obtain ⟨text, hf, hj, hp⟩ := Clause.joined_of_conditions h
    obtain ⟨hm, ht⟩ := Clause.connectives_of_whole hf hj.whole
    refine ⟨hm, ?_, exists_mapM_eq_ok fun piece hm => Predicate.exists_parse (hp piece hm)⟩
    rw [ht, Pattern.length_joiners, hj.length]

def negatedQuery : Text :=
  "select * from t.csv where not a=1 AND NOT b>2 or c<3".toList

theorem splits_agree_negatedQuery :
    Clause.ofSound Clause.conditions negatedQuery = .present
      ["not a=1".toList, "NOT b>2".toList, "c<3".toList] ∧
    ((Clause.ofSound Clause.connectives negatedQuery).texts.filter
      [Keyword.and.letters, Keyword.or.letters].contains).length = 2 ∧
    (Clause.ofSound Clause.connectives negatedQuery).texts.length = 4 := by
  have hc : Clause.ofSound Clause.conditions negatedQuery = .present
      ["not a=1".toList, "NOT b>2".toList, "c<3".toList] := by decide +kernel
  have hl := ((splits_agree {} negatedQuery).right.right.right _ hc).right.left
  exact ⟨hc, Nat.succ.inj hl, by decide +kernel⟩

end Plan
end FlatQuery
