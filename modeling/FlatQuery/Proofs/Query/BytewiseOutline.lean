import FlatQuery.Proofs.Fallible
import FlatQuery.Proofs.Pattern.ByteCuts
import FlatQuery.Query.Outline

namespace FlatQuery

section Steps

-- Steps over cuts, none of which may be missing, come to the same as steps over stretches.
def Runs (x : ExceptT ε Option α) (y : Except ε α) : Prop :=
  x.run = some y

namespace Runs

variable {x : ExceptT ε Option α} {y : Except ε α}

theorem pure (a : α) : Runs (Pure.pure a : ExceptT ε Option α) (.ok a) :=
  rfl

theorem throw (e : ε) : Runs (throwThe ε e : ExceptT ε Option α) (.error e) :=
  rfl

theorem bind {f : α → ExceptT ε Option β} {g : α → Except ε β} (hx : Runs x y)
    (hf : ∀ a, y = .ok a → Runs (f a) (g a)) : Runs (x >>= f) (y >>= g) := by
  have hx : x = some y := hx
  subst hx
  cases y
  case error => rfl
  case ok a => exact hf a rfl

theorem lift {z : Option α} {f : α → ExceptT ε Option β} {y : Except ε β} (hz : z = some a)
    (hf : Runs (f a) y) : Runs (liftM z >>= f) y := by
  subst hz
  exact hf

theorem forM_map {f : β → ExceptT ε Option Unit} {g : α → Except ε Unit} {xs : List α}
    (p : α → β) (h : ∀ a ∈ xs, Runs (f (p a)) (g a)) : Runs ((xs.map p).forM f) (xs.forM g) := by
  induction xs
  case nil => rfl
  case cons a xs hi =>
    obtain ⟨ha, hxs⟩ := List.forall_mem_cons.mp h
    exact bind ha fun _ _ => hi hxs

theorem mapM {f : α → ExceptT ε Option β} {g : α → Except ε β} {xs : List α}
    (h : ∀ a ∈ xs, Runs (f a) (g a)) : Runs (xs.mapM f) (xs.mapM g) := by
  induction xs
  case nil => rfl
  case cons a xs hi =>
    obtain ⟨ha, hxs⟩ := List.forall_mem_cons.mp h
    rw [List.mapM_cons, List.mapM_cons]
    exact bind ha fun _ _ => bind (hi hxs) fun _ _ => rfl

end Runs
end Steps

-- Reading a query by byte offsets: every stretch is cut out of the text by a byte range, and a range
-- that does not fit would leave the reading without an answer.
namespace Bytewise

def starts (k : Keyword) (t : Text) : List Nat :=
  (k.ranges t).map (·.start)

def checkSelectList (query : Text) : ExceptT OutlineFault Option Unit :=
  match (Keyword.select.ranges query).head?, (Keyword.source.ranges query).head? with
  | some select, some source =>
    if source.start < select.stop then throw .fromBeforeSelect
    else do
      let list ← query.cut? ⟨select.stop, source.start⟩
      if list.allBlank then throw .emptySelectList
  | _, _ => throw .missingSelectOrFrom

def checkWheres (query : Text) : ExceptT OutlineFault Option Unit :=
  let wheres := starts .filter query
  let froms := starts .source query
  if wheres = [] then
    pure ()
  else if wheres.length ≠ froms.length then
    throw (.whereFromMismatch wheres.length froms.length)
  else
    (wheres.zip froms).forM fun (offset, source) => do
      if offset < source then throw (.whereBeforeFrom offset)
      else
        let gap ← query.cut? ⟨source, offset⟩
        if gap.length < Outline.minWhereGap then throw (.whereAbutsFrom offset)

def andIsExplained? (between : Text) : Option Bool :=
  match (Keyword.and.ranges between).head? with
  | none => some true
  | some and =>
    match (Keyword.having.ranges between).head? with
    | none => some false
    | some having =>
      if having.start ≤ and.start then some true
      else (between.cut? ⟨and.start, having.start⟩).map Text.closesSubquery

def checkOrders (query : Text) : ExceptT OutlineFault Option Unit :=
  ((starts .orderBy query).zip (starts .groupBy query)).forM fun (order, group) => do
    if order < group then
      let between ← query.cut? ⟨order, group⟩
      if !between.closesSubquery then throw (.orderByBeforeGroupBy order)
    else
      let between ← query.cut? ⟨group, order⟩
      let explained ← andIsExplained? between
      if !explained then throw .andOutsideHaving

def check (raw : Text) : ExceptT OutlineFault Option Unit := do
  let query := raw.trim
  if query.length < Outline.minLength then
    throw (.tooShort query.length Outline.minLength)
  checkSelectList query
  liftM (Outline.checkCounts query)
  checkWheres query
  checkOrders query

section Outline

variable (query : Text)

theorem starts_eq (k : Keyword) : starts k query = (k.starts query).map query.byteOffset := by
  simp [starts, Keyword.ranges, Pattern.ranges, Keyword.starts, Keyword.spans, Span.bytes]

theorem runs_checkSelectList : Runs (checkSelectList query) (Outline.checkSelectList query) := by
  rw [checkSelectList, Outline.checkSelectList, Keyword.head?_ranges, Keyword.head?_ranges]
  cases hs : Keyword.select.first? query
  case none => exact .throw _
  case some select =>
    cases hf : Keyword.source.first? query
    case none => exact .throw _
    case some source =>
      have hs := Keyword.stop_le_length (Keyword.mem_of_first? hs)
      have hf := Keyword.start_le_length (Keyword.mem_of_first? hf)
      simp only [Option.map_some, Span.bytes, Text.byteOffset_lt_iff hf hs]
      split
      case isTrue => exact .throw _
      case isFalse h =>
        refine .lift (Text.cut?_bytes (Nat.le_of_not_lt h) hf) ?_
        split <;> rfl

theorem andIsExplained?_eq : andIsExplained? query = some (Outline.andIsExplained query) := by
  rw [andIsExplained?, Outline.andIsExplained, Keyword.head?_ranges, Keyword.head?_ranges]
  cases ha : Keyword.and.first? query
  case none => rfl
  case some and =>
    cases hh : Keyword.having.first? query
    case none => rfl
    case some having =>
      have ha := Keyword.start_le_length (Keyword.mem_of_first? ha)
      have hh := Keyword.start_le_length (Keyword.mem_of_first? hh)
      simp only [Option.map_some, Span.bytes, Text.byteOffset_le_iff hh ha]
      split
      case isTrue h => simp [h]
      case isFalse h =>
        rw [Text.cut?_bytes (Nat.le_of_not_le h) hh]
        simp [h]

variable {query}

theorem runs_forM_zip {k k' : Keyword} {f : Nat × Nat → ExceptT ε Option Unit}
    {g : Nat × Nat → Except ε Unit}
    (h : ∀ i ≤ query.length, ∀ j ≤ query.length,
      Runs (f (query.byteOffset i, query.byteOffset j)) (g (i, j))) :
    Runs (((starts k query).zip (starts k' query)).forM f)
      (((k.starts query).zip (k'.starts query)).forM g) := by
  rw [starts_eq, starts_eq, List.zip_map]
  refine .forM_map _ fun (i, j) hm => ?_
  obtain ⟨hi, hj⟩ := List.of_mem_zip hm
  exact h i (Keyword.le_length_of_mem_starts hi) j (Keyword.le_length_of_mem_starts hj)

variable (query)

theorem runs_checkWheres : Runs (checkWheres query) (Outline.checkWheres query) := by
  have hn (k : Keyword) : (starts k query).length = (k.starts query).length := by simp [starts_eq]
  have h₀ : starts .filter query = [] ↔ Keyword.filter.starts query = [] := by simp [starts_eq]
  simp only [checkWheres, Outline.checkWheres, hn, h₀]
  split
  case isTrue => exact .pure ()
  case isFalse =>
    split
    case isTrue => exact .throw _
    case isFalse =>
      refine runs_forM_zip fun place hp source hs => ?_
      simp only [Text.byteOffset_lt_iff hp hs]
      split
      case isTrue => exact .throw _
      case isFalse h =>
        refine .lift (Text.cut?_bytes (Nat.le_of_not_lt h) hp) ?_
        have hl : (query.slice ⟨source, place⟩).length = place - source := by
          simp only [Text.slice, List.length_take, List.length_drop]
          omega
        rw [hl]
        split <;> rfl

theorem runs_checkOrders : Runs (checkOrders query) (Outline.checkOrders query) := by
  refine runs_forM_zip fun order ho group hg => ?_
  simp only [Text.byteOffset_lt_iff ho hg]
  split
  case isTrue h =>
    refine .lift (Text.cut?_bytes (Nat.le_of_lt h) hg) ?_
    cases Text.closesSubquery (query.slice ⟨order, group⟩) <;> rfl
  case isFalse h =>
    refine .lift (Text.cut?_bytes (Nat.le_of_not_lt h) ho) ?_
    refine .lift (andIsExplained?_eq _) ?_
    cases Outline.andIsExplained (query.slice ⟨group, order⟩) <;> rfl

theorem runs_check (raw : Text) : Runs (check raw) (Outline.check raw) := by
  rw [check, Outline.check]
  split
  case isTrue => exact .throw _
  case isFalse =>
    refine .bind (runs_checkSelectList raw.trim) fun _ _ => ?_
    refine .bind rfl fun _ _ => ?_
    exact .bind (runs_checkWheres raw.trim) fun _ _ => runs_checkOrders raw.trim

end Outline
end Bytewise
end FlatQuery
