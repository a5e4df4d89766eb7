import FlatQuery.Proofs.Query.BytewiseClauses
import FlatQuery.Query.Plan

namespace FlatQuery
namespace Bytewise

def parsePredicate (t : Text) : ExceptT ParseError Option Predicate := do
  let (negated, condition) := t.stripNot
  match ← ofText? condition with
  | none => throw (.malformed .condition)
  | some c => do
    let operator ← liftM (Comparison.parse c.operator)
    return ⟨c.field, operator, c.literal.stripQuotes, negated⟩

-- Every clause is read from the raw text, as if it were the only one.
def ofClauses (settings : Settings) (raw : Text) : ExceptT ParseError Option Plan := do
  let source ← ofSound (fun query => some (Clause.source settings query)) raw
  let some source ← liftM (source.require .source) | throw .missingSource
  let base ← ofSound base raw
  let base ← liftM (base.require .base)
  let entries ← ofSound selectList raw
  let some entries ← liftM (entries.require .selectList) | throw (.malformed .selectList)
  let filter ← ofSound filter raw
  let _ ← liftM (filter.require .filter)
  let conditions ← ofSound conditions raw
  let predicates ← (← liftM (conditions.requireList .condition)).mapM parsePredicate
  let tokens ← ofSound connectives raw
  let tokens ← liftM (tokens.requireList .connective)
  let connectives ← liftM (tokens.mapM Connective.parse)
  liftM (Plan.checkBalance predicates connectives)
  let groupBy ← ofSound groupBy raw
  let groupBy ← liftM (groupBy.requireList .groupBy)
  let orderBy ← ofSound orderBy raw
  let orderBy ← liftM (orderBy.requireList .orderBy)
  let calls ← ofSound aggregates raw
  let calls ← liftM (calls.requireList .aggregate)
  let aggregates ← liftM (calls.mapM AggregateCall.parse)
  let plan : Plan := {
    rawText := raw
    source := source
    baseQuery := base.getD []
    projection := .ofEntries entries
    predicates := predicates
    connectives := connectives
    aggregates := aggregates
    groupBy := groupBy
    orderBy := orderBy
    kind := .classify (!groupBy.isEmpty) (!orderBy.isEmpty) (!aggregates.isEmpty) }
  let _ ← liftM plan.sortKeys
  return plan

def parse (settings : Settings) (raw : Text) : ExceptT ParseError Option Plan := do
  match ← (check raw).run with
  | .error fault => throw (.outline fault)
  | .ok () => ofClauses settings raw

theorem runs_parsePredicate (t : Text) : Runs (parsePredicate t) (Predicate.parse t) := by
  rw [parsePredicate, Predicate.parse]
  obtain ⟨negated, condition⟩ := t.stripNot
  refine .lift (ofText?_eq condition) ?_
  dsimp only
  cases Condition.ofText? condition
  case none => exact .throw _
  case some c => exact .bind rfl fun _ _ => .pure _

section Parse

variable {settings : Settings} {raw : Text}

-- Of a sound text, the clauses are those of the trimmed text.
theorem ofSound_of_sound {f : Text → Option (Clause α)} {g : Text → Clause α}
    (hs : Outline.check raw = .ok ()) (h : ∀ query, f query = some (g query)) :
    ofSound f raw = some (g raw.trim) := by
  rw [ofSound_eq raw h, Clause.ofSound, Outline.isSound, hs]
  rfl

theorem runs_ofClauses (hs : Outline.check raw = .ok ()) :
    Runs (ofClauses settings raw) (Plan.ofClauses settings raw raw.trim) := by
  refine .lift (ofSound_of_sound hs fun _ => rfl) ?_
  refine .bind rfl fun source _ => ?_
  cases source
  case none => exact .throw _
  case some source =>
    refine .lift (ofSound_of_sound hs base_eq) ?_
    refine .bind rfl fun base _ => ?_
    refine .lift (ofSound_of_sound hs selectList_eq) ?_
    refine .bind rfl fun entries _ => ?_
    cases entries
    case none => exact .throw _
    case some entries =>
      refine .lift (ofSound_of_sound hs filter_eq) ?_
      refine .bind rfl fun _ _ => ?_
      refine .lift (ofSound_of_sound hs conditions_eq) ?_
      refine .bind rfl fun pieces _ => ?_
      refine .bind (.mapM fun piece _ => runs_parsePredicate piece) fun predicates _ => ?_
      refine .lift (ofSound_of_sound hs connectives_eq) ?_
      refine .bind rfl fun tokens _ => ?_
      refine .bind rfl fun connectives _ => ?_
      refine .bind rfl fun _ _ => ?_
      refine .lift (ofSound_of_sound hs groupBy_eq) ?_
      refine .bind rfl fun groups _ => ?_
      refine .lift (ofSound_of_sound hs orderBy_eq) ?_
      refine .bind rfl fun orders _ => ?_
      refine .lift (ofSound_of_sound hs aggregates_eq) ?_
      refine .bind rfl fun calls _ => ?_
      refine .bind rfl fun aggregates _ => ?_
      exact .bind rfl fun _ _ => .pure _

theorem runs_parse (settings : Settings) (raw : Text) :
    Runs (parse settings raw) (Plan.parse settings raw) := by
  rw [parse, Plan.parse]
  refine .lift (runs_check raw) ?_
  cases hs : Outline.check raw
  case error => exact .throw _
  case ok => exact runs_ofClauses hs

end Parse

-- No range that is cut out of a text while it is read fails to fit, wherever its keywords stand
-- and however many bytes they take.
theorem reads_every_text (settings : Settings) (raw : Text) :
    (check raw).run = some (Outline.check raw) ∧
    ofSound (fun query => some (Clause.source settings query)) raw =
      some (Clause.ofSound (Clause.source settings) raw) ∧
    ofSound base raw = some (Clause.ofSound Clause.base raw) ∧
    ofSound selectList raw = some (Clause.ofSound Clause.selectList raw) ∧
    ofSound filter raw = some (Clause.ofSound Clause.filter raw) ∧
    ofSound conditions raw = some (Clause.ofSound Clause.conditions raw) ∧
    ofSound connectives raw = some (Clause.ofSound Clause.connectives raw) ∧
    ofSound orderBy raw = some (Clause.ofSound Clause.orderBy raw) ∧
    ofSound groupBy raw = some (Clause.ofSound Clause.groupBy raw) ∧
    ofSound aggregates raw = some (Clause.ofSound Clause.aggregates raw) ∧
    (parse settings raw).run = some (Plan.parse settings raw) ∧
    (∀ (t : Text) (r : ByteRange), (t.cut? r).isSome ↔ r.Fits t) ∧
    (∀ (t u : Text) (r : ByteRange), t.cut? r = some u →
      Utf8.encode u = ((Utf8.encode t).drop r.start).take (r.stop - r.start)) ∧
    (∀ (k : Keyword) (t : Text), ∀ r ∈ k.ranges t, ∃ m, t.cut? r = some m ∧ Spells k.letters m) ∧
    ∃ (k : Keyword) (t : Text), ∃ r ∈ k.ranges t, k.letters.byteSize < r.stop - r.start := by
  refine ⟨runs_check raw, ofSound_eq raw fun _ => rfl, ofSound_eq raw base_eq,
    ofSound_eq raw selectList_eq, ofSound_eq raw filter_eq, ofSound_eq raw conditions_eq,
    ofSound_eq raw connectives_eq, ofSound_eq raw orderBy_eq, ofSound_eq raw groupBy_eq,
    ofSound_eq raw aggregates_eq, runs_parse settings raw, ?_, ?_, ?_, ?_⟩
  case refine_1 => exact fun _ _ => Text.isSome_cut?_iff
  case refine_2 => exact fun _ _ _ => Text.encode_of_cut?
  case refine_3 => exact fun _ _ _ => Keyword.exists_cut?_of_mem_ranges
  case refine_4 => exact Keyword.exists_longer_range

end Bytewise
end FlatQuery
