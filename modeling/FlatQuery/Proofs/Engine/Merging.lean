import FlatQuery.Engine.Filter

namespace FlatQuery

-- The outcomes after the first one come with the joiner that stands in front of them.
def runs (first : Bool) : List (Connective × Bool) → List (List Bool)
  | [] => [[first]]
  | (.or, next) :: rest => [first] :: runs next rest
  | (_, next) :: rest =>
    match runs next rest with
    | [] => [[first]]
    | run :: later => (first :: run) :: later

def anyRun (first : Bool) (rest : List (Connective × Bool)) : Bool :=
  (runs first rest).any (·.all id)

-- Only the head of the first run depends on the first outcome.
theorem runs_cons (rest : List (Connective × Bool)) :
    ∃ run later, ∀ first, runs first rest = (first :: run) :: later := by
  induction rest
  case nil => exact ⟨[], [], fun _ => rfl⟩
  case cons head rest hi =>
    obtain ⟨joiner, next⟩ := head
    have ⟨run, later, h⟩ := hi
    cases joiner
    case or => exact ⟨[], runs next rest, fun _ => rfl⟩
    all_goals exact ⟨next :: run, later, fun _ => by simp [runs, h]⟩

-- A run counts only through the conjunction of its outcomes.
theorem runs_merge (h : joiner ≠ .or) :
    (runs a ((joiner, b) :: rest)).map (·.all id) = (runs (a && b) rest).map (·.all id) := by
  have ⟨run, later, hr⟩ := runs_cons rest
  cases joiner
  case or => contradiction
  all_goals simp [runs, hr, Bool.and_assoc]

theorem runs_or : runs a ((.or, b) :: rest) = [a] :: runs b rest :=
  rfl

section Passes

variable {op : Connective} {values : List Bool} {joiners : List Connective}

theorem mergeWith_same :
    mergeWith op (a :: b :: values) (op :: joiners) = mergeWith op (op.apply a b :: values) joiners := by
  simp [mergeWith]

theorem mergeWith_other (h : joiner ≠ op) :
    mergeWith op (a :: b :: values) (joiner :: joiners) =
      (a :: (mergeWith op (b :: values) joiners).1, joiner :: (mergeWith op (b :: values) joiners).2) := by
  simp [mergeWith, h]

-- What is taken from the values is taken from the joiners as well.
theorem mergeWith_balance (op : Connective) (values : List Bool) (joiners : List Connective) :
    (mergeWith op values joiners).1.length + joiners.length =
      values.length + (mergeWith op values joiners).2.length := by
  fun_induction mergeWith op values joiners
  case case1 hi => simp only [List.length_cons] at hi ⊢; omega
  case case2 hm hi => simp only [hm, List.length_cons] at hi ⊢; omega
  case case3 => rfl

-- With too few joiners the last value has no joiner in front of it, so no pass reaches it.
theorem mergeWith_getLast (h : joiners.length + 1 < values.length) :
    (mergeWith op values joiners).1.getLast? = values.getLast? := by
  fun_induction mergeWith op values joiners
  case case1 a b values joiners hi =>
    cases values
    case nil => simp only [List.length_cons, List.length_nil] at h; omega
    case cons => simpa [List.getLast?_cons] using hi (by simpa using h)
  case case2 hm hi =>
    simp [hm] at hi h
    simp [List.getLast?_cons, hi h]
  case case3 => rfl

-- After the pass for `and`, each run has become its conjunction and only `or` separates the runs.
theorem mergeWith_and (hb : ∀ joiner ∈ joiners, joiner.isBinary) (h : rest.length ≤ joiners.length) :
    mergeWith .and (a :: rest) joiners =
      ((runs a (joiners.zip rest)).map (·.all id),
        List.replicate ((runs a (joiners.zip rest)).length - 1) .or ++ joiners.drop rest.length) := by
  induction joiners generalizing a rest
  case nil => simp_all [mergeWith, runs]
  case cons joiner joiners hi =>
    cases rest
    case nil => simp [mergeWith, runs]
    case cons b rest =>
      have hb' : ∀ joiner ∈ joiners, joiner.isBinary := fun j hj => hb j (.tail _ hj)
      have h' : rest.length ≤ joiners.length := by simpa using h
      have hm : (runs a ((.and, b) :: joiners.zip rest)).map (·.all id) =
          (runs (a && b) (joiners.zip rest)).map (·.all id) := runs_merge nofun
      have hl := congrArg List.length hm
      simp only [List.length_map] at hl
      cases joiner
      case and => simp [mergeWith_same, hi hb' h', Connective.apply, runs_merge, hl]
      case or =>
        have ⟨run, later, hr⟩ := runs_cons (joiners.zip rest)
        simp [mergeWith_other, hi hb' h', runs_or, hr, List.replicate_succ]
      case not => simp [Connective.isBinary] at hb

-- The pass for `or` folds what the pass for `and` has left; joiners beyond that stay unused.
theorem mergeWith_or (h : n = rest.length) :
    mergeWith .or (a :: rest) (List.replicate n .or ++ extra) = ([(a :: rest).any id], extra) := by
  subst h
  induction rest generalizing a
  case nil => cases extra <;> simp [mergeWith]
  case cons b rest hi =>
    simp [List.replicate_succ, mergeWith_same, hi, Connective.apply, Bool.or_assoc]

end Passes

-- A pass as it goes along both lists in place: a merged value and its joiner are removed, and the
-- place moves on only past a joiner that stays.
structure Sweep where
  values : List Bool
  joiners : List Connective
  place : Nat
  deriving DecidableEq

namespace Sweep

def next? (op : Connective) (s : Sweep) : Option Sweep :=
  match s.joiners[s.place]?, s.values[s.place]?, s.values[s.place + 1]? with
  | some joiner, some a, some b =>
    if joiner = op then
      some { s with
        values := (s.values.set s.place (op.apply a b)).eraseIdx (s.place + 1)
        joiners := s.joiners.eraseIdx s.place }
    else
      some { s with place := s.place + 1 }
  | _, _, _ => none

-- The sweep stops in `t` after as many turns.
inductive Ends (op : Connective) : Nat → Sweep → Sweep → Prop
  | stop : s.next? op = none → Ends op 0 s s
  | turn : s.next? op = some s' → Ends op turns s' t → Ends op (turns + 1) s t

variable {op : Connective} {values front : List Bool} {joiners passed : List Connective}

theorem next?_same (h : front.length = passed.length) :
    next? op ⟨front ++ a :: b :: values, passed ++ op :: joiners, front.length⟩ =
      some ⟨front ++ op.apply a b :: values, passed ++ joiners, front.length⟩ := by
  simp [next?, h, List.eraseIdx_append_of_length_le, List.set_append_right]

theorem next?_other (h : front.length = passed.length) (hn : joiner ≠ op) :
    next? op ⟨front ++ a :: b :: values, passed ++ joiner :: joiners, front.length⟩ =
      some ⟨front ++ a :: b :: values, passed ++ joiner :: joiners, front.length + 1⟩ := by
  simp [next?, h, hn]

-- What lies ahead of the place is merged as `mergeWith` does it; what lies behind is left alone.
theorem ends (h : front.length = passed.length) :
    ∃ turns place, turns ≤ joiners.length ∧
      Ends op turns ⟨front ++ values, passed ++ joiners, front.length⟩
        ⟨front ++ (mergeWith op values joiners).1, passed ++ (mergeWith op values joiners).2, place⟩ := by
  fun_induction mergeWith op values joiners generalizing front passed
  case case1 a b values joiners hi =>
    have ⟨turns, place, hl, e⟩ := hi h
    exact ⟨turns + 1, place, by simpa using hl, .turn (next?_same h) e⟩
  case case2 a b values joiner joiners hn _ _ hm hi =>
    have ⟨turns, place, hl, e⟩ := @hi (front ++ [a]) (passed ++ [joiner]) (by simp [h])
    refine ⟨turns + 1, place, by simpa using hl, .turn (next?_other h hn) ?_⟩
    simpa [hm] using e
  case case3 values joiners hn =>
    refine ⟨0, front.length, by simp, .stop ?_⟩
    match values, joiners with
    | [], _ | [_], _ | _, [] => simp [next?, h]
    | _ :: _ :: _, _ :: _ => exact absurd rfl (hn _ _ _ _ _ rfl)

theorem exists_ends (op : Connective) (values : List Bool) (joiners : List Connective) :
    ∃ turns place, turns ≤ joiners.length ∧ Ends op turns ⟨values, joiners, 0⟩
      ⟨(mergeWith op values joiners).1, (mergeWith op values joiners).2, place⟩ :=
  @ends op values [] joiners [] rfl

end Sweep

theorem combine_eq_any_run {a : Bool} {rest : List Bool} {connectives : List Connective}
    (h : rest.length ≤ (connectives.filter (·.isBinary)).length) :
    combine (a :: rest) connectives =
      anyRun a ((connectives.filter (·.isBinary)).zip rest) := by
  have hb : ∀ joiner ∈ connectives.filter (·.isBinary), joiner.isBinary := by simp
  have ⟨run, later, hr⟩ := runs_cons ((connectives.filter (·.isBinary)).zip rest)
  simp [combine, mergeWith_and hb h, hr, mergeWith_or, anyRun]

theorem combine_eq_last {results : List Bool} {connectives : List Connective}
    (h : (connectives.filter (·.isBinary)).length + 1 < results.length) :
    combine results connectives = results.getLast?.getD true := by
  have hl := mergeWith_balance .and results (connectives.filter (·.isBinary))
  simp only [combine]
  rw [mergeWith_getLast (by omega), mergeWith_getLast h]

theorem combine_eq_sweeps (results : List Bool) (connectives : List Connective) :
    ∃ n m s t,
      Sweep.Ends .and n ⟨results, connectives.filter (·.isBinary), 0⟩ s ∧
      Sweep.Ends .or m ⟨s.values, s.joiners, 0⟩ t ∧
      n ≤ (connectives.filter (·.isBinary)).length ∧ m ≤ s.joiners.length ∧
      combine results connectives = t.values.getLast?.getD true := by
  have ⟨n, _, hn, e₁⟩ := Sweep.exists_ends .and results (connectives.filter (·.isBinary))
  have ⟨m, _, hm, e₂⟩ := Sweep.exists_ends .or
    (mergeWith .and results (connectives.filter (·.isBinary))).1
    (mergeWith .and results (connectives.filter (·.isBinary))).2
  exact ⟨n, m, _, _, e₁, e₂, hn, hm, rfl⟩

-- Runs of `and` are merged first, then what is left is merged by `or`; each sweep comes to an end.
theorem combine_meaning (results : List Bool) (connectives : List Connective) :
    let joiners := connectives.filter (·.isBinary)
    (combine results connectives =
      match results with
      | [] => true
      | a :: rest =>
        if rest.length ≤ joiners.length then anyRun a (joiners.zip rest)
        else (a :: rest).getLast (by simp)) ∧
    ∃ n m s t,
      Sweep.Ends .and n ⟨results, joiners, 0⟩ s ∧ Sweep.Ends .or m ⟨s.values, s.joiners, 0⟩ t ∧
      n ≤ joiners.length ∧ m ≤ s.joiners.length ∧
      combine results connectives = t.values.getLast?.getD true := by
  refine ⟨?meaning, combine_eq_sweeps results connectives⟩
  cases results
  case nil => simp [combine, mergeWith]
  case cons a rest =>
    dsimp only
    split
    case isTrue h => exact combine_eq_any_run h
    case isFalse h =>
      have hl : (connectives.filter (·.isBinary)).length + 1 < (a :: rest).length := by
        simp only [List.length_cons]
        omega
      rw [combine_eq_last hl, List.getLast?_eq_some_getLast (by simp), Option.getD_some]

end FlatQuery
