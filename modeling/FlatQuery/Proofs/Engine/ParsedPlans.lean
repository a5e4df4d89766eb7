import FlatQuery.Engine.Session
import FlatQuery.Proofs.Query.WellFormed

namespace FlatQuery

-- The steps that fail, if at all, for something else than the text of the query.
def ParseFree (x : Except QueryError α) : Prop :=
  ∀ e, x ≠ .error (.parse e)

namespace ParseFree

variable {x : Except QueryError α} {f : α → Except QueryError β}

theorem ok (a : α) : ParseFree (.ok a) :=
  nofun

theorem source (x : Except SourceError α) : ParseFree (x.mapError .source) := by
  cases x <;> exact nofun

theorem bind (hx : ParseFree x) (hf : ∀ a, x = .ok a → ParseFree (f a)) : ParseFree (x >>= f) := by
  intro e h
  obtain h | ⟨a, ha, h⟩ := except_bind_eq_error.mp h
  case inl => exact hx e h
  case inr => exact hf a ha e h

theorem mapM {xs : List α} (hf : ∀ a, ParseFree (f a)) : ParseFree (xs.mapM f) := by
  intro e h
  obtain ⟨a, -, h⟩ := exists_of_mapM_eq_error h
  exact hf a e h

end ParseFree

section Steps

variable {p : Plan} {s : Schema} {f : Filter} {rows : List Row}

theorem Schema.parseFree_resolve (s : Schema) (field : Text) : ParseFree (s.resolve field) := by
  rw [resolve]
  split <;> exact nofun

theorem Filter.parseFree_bind (p : Plan) (s : Schema) : ParseFree (Filter.bind p s) := by
  refine .bind (.mapM fun q => ?_) fun _ _ => .ok _
  exact .bind (s.parseFree_resolve q.field) fun _ _ => .ok _

theorem parseFree_admittedRows (p : Plan) (f : Filter) (source : Source) :
    ParseFree (admittedRows p f source) :=
  .bind (.source _) fun _ _ => .bind (.source _) fun _ _ => .ok _

theorem Plan.parseFree_projected (p : Plan) (s : Schema) : ParseFree (p.projected s) := by
  rw [projected]
  split
  case h_1 => exact .ok _
  case h_2 => exact .bind (.mapM s.parseFree_resolve) fun _ _ => .ok _

theorem BoundSortKey.parseFree_bind (s : Schema) (k : SortKey) : ParseFree (bind s k) :=
  .bind (s.parseFree_resolve k.field) fun _ _ => .ok _

theorem GroupColumn.parseFree_ofEntry (groupBy : List Text) (s : Schema) (entry : Text) :
    ParseFree (ofEntry groupBy s entry) := by
  rw [ofEntry]
  split
  case h_1 => exact .ok _
  case h_2 =>
    split
    case h_1 call _ => exact .bind (s.parseFree_resolve call.field) fun _ _ => .ok _
    case h_2 => exact nofun

theorem GroupColumn.parseFree_ofSortKey (names : List Text) (k : SortKey) :
    ParseFree (ofSortKey names k) := by
  rw [ofSortKey]
  split <;> exact nofun

-- The entries of the `order by` are all that is still read at this point.
variable (hk : p.sortKeys = .ok keys)
include hk

theorem Plan.parseFree_resolvedSortKeys : ParseFree p.resolvedSortKeys := by
  rw [resolvedSortKeys, hk]
  exact .ok keys

theorem parseFree_executeGrouped : ParseFree (executeGrouped p s rows) := by
  refine .bind (.mapM s.parseFree_resolve) fun _ _ => ?_
  refine .bind (.mapM (GroupColumn.parseFree_ofEntry p.groupBy s)) fun _ _ => ?_
  refine .bind (Plan.parseFree_resolvedSortKeys hk) fun _ _ => ?_
  exact .bind (.mapM (GroupColumn.parseFree_ofSortKey p.groupedEntries)) fun _ _ => .ok _

theorem parseFree_executeSorted {source : Source} : ParseFree (executeSorted p s f source) := by
  refine .bind (p.parseFree_projected s) fun _ _ => ?_
  refine .bind (Plan.parseFree_resolvedSortKeys hk) fun _ _ => ?_
  refine .bind (.mapM (BoundSortKey.parseFree_bind s)) fun _ _ => ?_
  exact .bind (parseFree_admittedRows p f source) fun _ _ => .ok _

theorem parseFree_executeWith {source : Source} : ParseFree (executeWith p s source) := by
  refine .bind (Filter.parseFree_bind p s) fun f _ => ?_
  split
  case isTrue =>
    exact .bind (parseFree_admittedRows p f source) fun _ _ => parseFree_executeGrouped hk
  case isFalse =>
    split
    case isTrue => exact parseFree_executeSorted hk
    case isFalse =>
      refine .bind (p.parseFree_projected s) fun _ _ => ?_
      exact .bind (parseFree_admittedRows p f source) fun _ _ => .ok _

theorem Session.parseFree_executePlan (session : Session) (source : Source) :
    ParseFree (session.executePlan p source).1 := by
  rw [executePlan]
  split
  case isFalse => exact nofun
  case isTrue =>
    split
    case h_1 => exact nofun
    case h_2 => exact parseFree_executeWith hk

end Steps

namespace Plan

variable {settings : Settings} {raw : Text} {plan : Plan}

-- A text that has a plan has one that fits together, and that never again fails as a text.
theorem parse_wellFormed (h : parse settings raw = .ok plan) :
    WellFormed settings raw plan ∧
      ∀ (session : Session) (source : Source) e,
        (session.executePlan plan source).1 ≠ .error (.parse e) := by
  have hw := (parse_eq_ok_iff.mp h).wellFormed
  obtain ⟨keys, hk⟩ := hw.sortKeys
  exact ⟨hw, fun session source => session.parseFree_executePlan hk source⟩

theorem parse_wellFormed_plainQuery :
    ∃ plan, parse {} plainQuery = .ok plan ∧ plan.predicates.length = plan.joiners.length + 1 ∧
      plan.source ∈ plainQuery.words ∧
      ∀ (session : Session) (source : Source) e,
        (session.executePlan plan source).1 ≠ .error (.parse e) := by
  have hp : (parse {} plainQuery).toOption.map (·.predicates.length) = some 1 := by decide +kernel
  obtain ⟨plan, h, hl⟩ := Option.map_eq_some_iff.mp hp
  cases he : parse {} plainQuery
  case error => rw [he] at h; contradiction
  case ok plan' =>
    rw [he] at h
    obtain rfl := Option.some.inj h
    obtain ⟨hw, hs⟩ := parse_wellFormed he
    refine ⟨_, rfl, hw.balance.resolve_left fun hn => ?_, hw.source, hs⟩
    rw [hn] at hl
    contradiction

end Plan
end FlatQuery
