import FlatQuery.Proofs.Query.DerivedTables
import FlatQuery.Proofs.Query.PrintedBase
import FlatQuery.Proofs.Query.Reading
import FlatQuery.Proofs.Query.SoundOutlines

namespace FlatQuery
namespace Dialect

namespace Level

variable (l : Level)

-- The level up to what it selects from.
def head : Text :=
  Query.clause l.select.text (l.columns.text Word.text) ++ ' ' :: l.origin.text

theorem text_eq_head {b : Text} : l.text b =
    l.head ++ ' ' :: (b ++ ' ' :: Query.clause l.filter.text l.criteria.text) := by
  simp [text, base, head, Query.clause]

-- Column words, keywords and white space: neither a dot nor a parenthesis.
theorem mem_head {c : Char} (h : c ∈ l.head) : isAsciiWordChar c ∨ isBlank c ∨ c = ',' := by
  have hs {w : Text} (s : Spelling w) (hw : w.all Char.isLower) (h : c ∈ s.text) :
      isAsciiWordChar c :=
    List.all_eq_true.mp (s.all_isAsciiWordChar hw) c h
  obtain h | rfl | h | rfl | h : c ∈ l.select.text ∨ c = ' ' ∨ c ∈ l.columns.text Word.text ∨
      c = ' ' ∨ c ∈ l.origin.text := by simpa [head, Query.clause] using h
  case inl => exact .inl (hs l.select (by decide) h)
  case inr.inl => exact .inr (.inl isBlank_space)
  case inr.inr.inl =>
    obtain h | h | ⟨w, -, h⟩ := l.columns.mem_text h
    case inl => exact .inr (.inl h)
    case inr.inl => exact .inr (.inr h)
    case inr.inr => exact .inl (w.isAsciiWordChar h)
  case inr.inr.inr.inl => exact .inr (.inl isBlank_space)
  case inr.inr.inr.inr => exact .inl (hs l.origin (by decide) h)

theorem no_dot : '.' ∉ l.head := fun h => by
  obtain h | h | h := l.mem_head h <;> contradiction

theorem no_open : '(' ∉ l.head := fun h => by
  obtain h | h | h := l.mem_head h <;> contradiction

-- The name of the source stands in the innermost level, and no dot in front of it.
theorem exists_source (r : Relation) : ∃ u v, l.text r.text =
    u ++ ' ' :: (r.source.text ++ ' ' :: v) ∧ '.' ∉ u := by
  induction r generalizing l
  case table s => exact ⟨l.head, _, l.text_eq_head, l.no_dot⟩
  case derived l' inner hi =>
    obtain ⟨u, v, he, hu⟩ := hi l'
    refine ⟨l.head ++ ' ' :: '(' :: u,
      v ++ ')' :: ' ' :: Query.clause l.filter.text l.criteria.text, ?_, ?_⟩
    case refine_1 => simp [text_eq_head (l := l), Relation.text, Relation.source, he]
    case refine_2 => simp [l.no_dot, hu]

section Calls

variable {b v : Text}

theorem found_calls_base (hb : Pattern.aggregateCalls.found b = []) :
    Pattern.aggregateCalls.found (l.base b) = [] := by
  have hl : l.base b = l.head ++ ' ' :: b := by simp [base, head, Query.clause]
  rw [hl, Pattern.found_calls_space, Pattern.found_calls_of_not_mem l.no_open, hb, List.append_nil]

theorem found_calls_text (hb : Pattern.aggregateCalls.found b = []) (hv : '(' ∉ v) :
    Pattern.aggregateCalls.found (l.text b ++ v) = [] := by
  have hf : '(' ∉ l.filter.text := fun hc => absurd (l.filter.toLower_mem hc) (by decide)
  have hn : '(' ∉ Query.clause l.filter.text l.criteria.text ++ v := by
    simp [Query.clause, hf, l.criteria.no_parenthesis, hv]
  rw [text, List.append_assoc, List.cons_append, Pattern.found_calls_space, l.found_calls_base hb,
    Pattern.found_calls_of_not_mem hn, List.append_nil]

end Calls

end Level

-- The parentheses of a derived table follow a space, so that they belong to no call.
theorem Relation.found_calls (r : Relation) : Pattern.aggregateCalls.found r.text = [] := by
  induction r
  case table s => exact Pattern.found_calls_of_not_mem s.no_open
  case derived l inner hi =>
    have hp : Pattern.aggregateCalls.Parted ['('] (l.text inner.text ++ [')']) :=
      Pattern.parted_calls_of_none (none_of_all (by decide))
    have hs : Pattern.aggregateCalls.found ['('] = [] := by decide
    rw [text, ← List.singleton_append, hp.found_append, hs, List.nil_append]
    exact l.found_calls_text hi (by decide)

theorem Relation.tight (r : Relation) : r.text.Tight := by
  cases r
  case table s => exact s.tight
  case derived l inner =>
    constructor
    case head => simp only [text, List.head?_cons]; decide
    case last => rw [text, ← List.cons_append, List.getLast?_concat]; decide

namespace Nested

variable (q : Nested)

-- The outermost level without its sort keys.
def level : Text :=
  q.outer.text q.relation.text

def orderPassage (k : Spelling Keyword.orderBy.letters) (o : Series Ordered) : Passage :=
  k.passage (plain_of_freeOf (o.freeOf solid_reservedWords Ordered.freeOf)) (o.tight Ordered.tight)

def orderPassages : List Passage :=
  q.orders.toList.map fun (k, o) => orderPassage k o

theorem print_eq : q.print = q.level ++ Passage.trail q.orderPassages := by
  rw [print, orderPassages]
  cases q.orders <;>
    simp [Passage.trail, Passage.text, orderPassage, Spelling.passage, Query.clause, level]

theorem level_eq : q.level = q.base ++ ' ' :: q.outer.filterPassage.text :=
  rfl

section Tight

theorem tight_base : q.base.Tight := by
  have ht := q.outer.selectPassage.tight_text.append q.relation.tight
    (' ' :: q.outer.origin.text ++ [' '])
  simpa [base, Level.base_eq] using ht

theorem tight_print : q.print.Tight := by
  have ht := q.tight_base.append q.outer.filterPassage.tight_text [' ']
  rw [print_eq, level_eq]
  exact Passage.tight_append_trail (by simpa using ht)

end Tight

section Places

variable {k : Keyword}

theorem freeOf_level : FreeOf lateWords q.level :=
  q.outer.freeOf_text q.relation.freeOf

theorem placed_level : Placed q.level :=
  q.relation.placed.level q.relation.freeOf q.outer

theorem spans_print (hk : k ∈ Keyword.clauses) (hn : k ≠ .orderBy) :
    k.spans q.print = k.spans q.level := by
  have hx (u) : Clear k.letters q.level (' ' :: u) := clear_of_freeOf q.freeOf_level hk
  rw [print_eq, orderPassages]
  cases q.orders
  case none => simp
  case some ko =>
    have hs : k.spans ko.1.text = [] := Keyword.spans_spelled_of_ne ko.1.spells hn
    simp only [Option.toList_some, List.map_cons, List.map_nil]
    rw [Passage.spans_append_trail hk hx (by simp)]
    simp [orderPassage, Spelling.passage, hs]

theorem starts_print (hk : k ∈ Keyword.clauses) (hn : k ≠ .orderBy) :
    k.starts q.print = k.starts q.level := by
  rw [Keyword.starts, q.spans_print hk hn, Keyword.starts]

-- Only the outermost level is sorted, and none is grouped.
theorem spans_late (hk : k ∈ [Keyword.groupBy, .orderBy]) : k.spans q.level = [] := by
  have ho : k.opening ∈ lateWords := by
    revert k
    decide
  exact Keyword.spans_eq_nil_iff.mpr fun hm => q.freeOf_level _ ho (Keyword.mentions_opening hm)

theorem spans_groups : Keyword.groupBy.spans q.print = [] := by
  rw [q.spans_print (by decide) (by decide), q.spans_late (by simp)]

theorem spans_orders : Keyword.orderBy.spans q.print =
    q.orderPassages.map fun p => ⟨q.level.length + 1, q.level.length + 1 + p.spelled.length⟩ := by
  have hx (u) : Clear Keyword.orderBy.letters q.level (' ' :: u) :=
    clear_of_freeOf q.freeOf_level (by decide)
  rw [print_eq, orderPassages]
  cases q.orders
  case none => simpa using q.spans_late (k := .orderBy) (by simp)
  case some ko =>
    have hs : Keyword.orderBy.spans ko.1.text = [⟨0, ko.1.text.length⟩] :=
      Keyword.spans_spelled ko.1.spells
    simp only [Option.toList_some, List.map_cons, List.map_nil]
    rw [Passage.spans_append_trail (by decide) hx (by simp), q.spans_late (by simp)]
    simp [orderPassage, Spelling.passage, hs, Span.shift]

theorem first_select :
    Keyword.select.first? q.print = some ⟨0, q.outer.select.text.length⟩ := by
  have hs : Keyword.select.spans q.outer.select.text = [⟨0, q.outer.select.text.length⟩] :=
    Keyword.spans_spelled q.outer.select.spells
  rw [Keyword.first?_eq, q.spans_print (by decide) (by decide), level,
    q.outer.spans_text q.relation.freeOf (by decide), q.outer.spans_base (by decide), hs]
  rfl

theorem first_origin : Keyword.source.first? q.print = some ⟨q.outer.originStart,
    q.outer.originStart + q.outer.origin.text.length⟩ := by
  have hs : Keyword.source.spans q.outer.select.text = [] :=
    Keyword.spans_spelled_of_ne q.outer.select.spells (by decide)
  have ho : Keyword.source.spans q.outer.origin.text = [⟨0, q.outer.origin.text.length⟩] :=
    Keyword.spans_spelled q.outer.origin.spells
  rw [Keyword.first?_eq, q.spans_print (by decide) (by decide), level,
    q.outer.spans_text q.relation.freeOf (by decide), q.outer.spans_base (by decide), hs, ho]
  rfl

-- The last `where` is that of the outermost level.
theorem last_filter : Keyword.filter.last? q.print = some ⟨q.base.length + 1,
    q.base.length + 1 + q.outer.filter.text.length⟩ := by
  have hf : Keyword.filter.spans q.outer.filter.text = [⟨0, q.outer.filter.text.length⟩] :=
    Keyword.spans_spelled q.outer.filter.spells
  rw [Keyword.last?_eq, q.spans_print (by decide) (by decide), level,
    q.outer.spans_text q.relation.freeOf (by decide), hf, ← q.outer.length_base]
  simp [Span.shift, base]

end Places

section Outline

-- What stands between the first `select` and its `from`.
theorem slice_columns : q.print.slice ⟨q.outer.select.text.length, q.outer.originStart⟩ =
    [' '] ++ q.outer.columns.text Word.text ++ [' '] := by
  have hp : q.print = q.outer.select.text ++ ([' '] ++ q.outer.columns.text Word.text ++ [' ']) ++
      (Query.clause q.outer.origin.text q.relation.text ++ ' ' :: q.outer.filterPassage.text ++
        Passage.trail q.orderPassages) := by
    simp [print_eq, level_eq, base, Level.base, Query.clause]
  have he : q.outer.originStart = q.outer.select.text.length +
      ([' '] ++ q.outer.columns.text Word.text ++ [' ']).length := by
    simp [Level.originStart]
    omega
  rw [hp, he, Text.slice_append]

theorem originStart_ge : 9 ≤ q.outer.originStart := by
  have : q.outer.select.text.length = 6 := q.outer.select.spells.length_eq.symm
  have := List.length_pos_iff.mpr q.outer.tight_columns.ne_nil
  rw [Level.originStart]
  omega

theorem checkSelectList_print : Outline.checkSelectList q.print = .ok () := by
  refine Outline.checkSelectList_eq_ok_iff.mpr ⟨_, _, q.first_select, q.first_origin, ?_, ?_⟩
  case refine_1 =>
    simp only [Level.originStart]
    omega
  case refine_2 =>
    rw [slice_columns]
    exact q.outer.tight_columns.not_allBlank [' '] [' ']

theorem checkCounts_print : Outline.checkCounts q.print = .ok () := by
  have hc (k : Keyword) : k.count q.print = (k.starts q.print).length := by
    simp [Keyword.count_eq, Keyword.starts]
  have hs := q.starts_print (k := .select) (by decide) (by decide)
  have hf := q.starts_print (k := .source) (by decide) (by decide)
  have hw := q.starts_print (k := .filter) (by decide) (by decide)
  have hp := q.placed_level
  have ho : (Keyword.orderBy.starts q.print).length ≤ 1 := by
    rw [Keyword.starts, spans_orders, orderPassages]
    cases q.orders <;> simp
  have h₁ : 1 ≤ (Keyword.select.starts q.level).length := by
    rw [level, q.outer.starts_select q.relation.freeOf]
    simp
  have hg : Keyword.groupBy.starts q.print = [] := by simp [Keyword.starts, spans_groups]
  rw [Outline.checkCounts_eq_ok_iff]
  simp only [hc, List.forall_mem_cons, hs, hf, hw, hg, hp.selects, hp.filters]
  have := hp.selects
  simp
  omega

theorem checkWheres_print : Outline.checkWheres q.print = .ok () := by
  have hf := q.starts_print (k := .source) (by decide) (by decide)
  have hw := q.starts_print (k := .filter) (by decide) (by decide)
  have hp := q.placed_level
  rw [Outline.checkWheres_eq_ok_iff, hf, hw]
  refine ⟨.inr hp.filters, fun (j, i) hx => ?_⟩
  have := hp.apart i (List.of_mem_zip hx).right j (List.of_mem_zip hx).left
  dsimp only
  omega

theorem checkOrders_print : Outline.checkOrders q.print = .ok () := by
  have hg : Keyword.groupBy.starts q.print = [] := by simp [Keyword.starts, spans_groups]
  rw [Outline.checkOrders_eq_ok_iff, hg, List.zip_nil_right]
  simp

theorem check_print : Outline.check q.print = .ok () := by
  rw [Outline.check_eq_ok_iff, q.tight_print.trim_eq]
  refine ⟨?_, q.checkSelectList_print, q.checkCounts_print, q.checkWheres_print,
    q.checkOrders_print⟩
  have hr := q.placed_level.room q.outer.originStart
  rw [level, q.outer.starts_origin q.relation.freeOf, ← level] at hr
  have hr := hr (by simp)
  have := q.originStart_ge
  rw [Outline.minWhereGap] at hr
  rw [print_eq, List.length_append, Outline.minLength]
  omega

end Outline

section Base

theorem source_print : Clause.source {} q.print = .present q.relation.source.text := by
  obtain ⟨u, v, he, hu⟩ := q.outer.exists_source q.relation
  have hp : q.print = u ++ ' ' :: (q.relation.source.text ++
      (' ' :: v ++ Passage.trail q.orderPassages)) := by
    simp [print_eq, level, he]
  rw [hp]
  exact Clause.source_eq hu (fun _ => q.relation.source.no_blank)
    (Query.isSourceName_text q.relation.source) (by simp)

-- Inner levels have keywords of their own, but also a parenthesis.
theorem base_print : Clause.base q.print = .present q.base := by
  have hb : Clause.baseEnd? q.print = some (q.base.length + 1) := by
    rw [Clause.baseEnd?, last_filter]
    rfl
  have ht : Text.trim (q.print.take (q.base.length + 1)) = q.base := by
    have hp : q.print = (q.base ++ [' ']) ++
        (q.outer.filterPassage.text ++ Passage.trail q.orderPassages) := by
      simp [print_eq, level_eq]
    rw [hp, List.take_left' (by simp)]
    exact q.tight_base.trim_padded (u := []) rfl rfl
  refine Clause.base_eq hb ht ?_
  cases hr : q.relation
  case derived l inner => exact .inl (by simp [base, hr, Level.base, Query.clause, Relation.text])
  case table s =>
    refine .inr fun k hk => ?_
    have hc : k ∈ Keyword.clauses ∧ k ≠ .select ∧ k ≠ .source := by
      revert k
      decide
    rw [base, hr, q.outer.spans_base hc.left, Relation.text, spans_of_freeOf s.freeOf hc.left,
      Keyword.spans_spelled_of_ne q.outer.select.spells hc.right.left,
      Keyword.spans_spelled_of_ne q.outer.origin.spells hc.right.right]
    rfl

theorem selectList_print :
    Clause.selectList q.print = .present (q.outer.columns.all.map Word.text) := by
  obtain ⟨l, ho⟩ : ∃ l, Keyword.source.starts q.print = q.outer.originStart :: l := by
    rw [q.starts_print (by decide) (by decide), level, q.outer.starts_origin q.relation.freeOf]
    exact ⟨_, rfl⟩
  have hl : q.outer.select.text.length ≤ q.outer.originStart := by
    rw [Level.originStart]
    omega
  have hc : ∀ k ∈ [Keyword.select, .source], k.spans (q.outer.columns.text Word.text) = [] := by
    intro k hk
    have hk : k ∈ Keyword.clauses := by
      revert k
      decide
    exact spans_of_freeOf q.outer.freeOf_columns hk
  have hw (w : Word) : w.text.Tight ∧ ',' ∉ w.text :=
    ⟨w.tight, fun h => absurd (w.isAsciiWordChar h) (by decide)⟩
  have hp := q.outer.columns.pieces_text (u := [' ']) (v := [' ']) hw rfl rfl
  refine Clause.selectList_eq q.first_select ho hl q.slice_columns q.outer.tight_columns hc hp ?_
  intro t ht
  obtain ⟨w, -, rfl⟩ := List.mem_map.mp ht
  exact ⟨w.nonempty, fun c hc => not_isBlank_of_isAsciiWordChar (w.isAsciiWordChar hc)⟩

theorem ofEntries_columns : .ofEntries (q.outer.columns.all.map Word.text) = q.plan.projection := by
  have hn : q.outer.columns.all.map Word.text ≠ [['*']] := by
    intro he
    obtain ⟨w, -, hw⟩ := List.mem_map.mp (he ▸ List.mem_singleton_self ['*'])
    exact absurd (w.isAsciiWordChar (c := '*') (by simp [hw])) (by decide)
  simp [Projection.ofEntries, hn, plan]

theorem aggregates_print : Clause.aggregates q.print = .absent .notInQuery := by
  have hf : (Pattern.aggregateCalls.spans q.base).map q.base.slice = [] :=
    q.outer.found_calls_base q.relation.found_calls
  rw [Clause.aggregates, base_print, Clause.bind, hf]

end Base

section Filter

-- What stands after the last `where`, up to the sort keys or the end of the query.
theorem trim_filter : Text.trim (q.print.slice
    ⟨q.base.length + 1 + q.outer.filter.text.length,
      (q.orderPassages.head?.map fun _ => q.level.length + 1).getD q.print.length⟩) =
    q.outer.criteria.text := by
  have hl : q.level = (q.base ++ ' ' :: q.outer.filter.text) ++ ([' '] ++ q.outer.criteria.text) := by
    simp [level_eq, Passage.text, Level.filterPassage, Spelling.passage]
  -- White space is all that may follow.
  have ht {v r : Text} {stop : Nat} (hv : v.all isBlank) (hp : q.print = q.level ++ v ++ r)
      (hs : stop = q.level.length + v.length) : Text.trim (q.print.slice
        ⟨q.base.length + 1 + q.outer.filter.text.length, stop⟩) = q.outer.criteria.text := by
    have hp : q.print = (q.base ++ ' ' :: q.outer.filter.text) ++
        ([' '] ++ q.outer.criteria.text ++ v) ++ r := by
      rw [hp, hl]
      simp
    have h₁ : q.base.length + 1 + q.outer.filter.text.length =
        (q.base ++ ' ' :: q.outer.filter.text).length := by
      simp
      omega
    have h₂ : stop = (q.base ++ ' ' :: q.outer.filter.text).length +
        ([' '] ++ q.outer.criteria.text ++ v).length := by
      rw [hs, hl]
      simp
      omega
    rw [hp, h₁, h₂, Text.slice_append]
    exact q.outer.criteria.tight_text.trim_padded rfl hv
  have hp := q.print_eq
  cases hq : q.orderPassages
  case nil => exact ht (v := []) (r := []) rfl (by simp [hp, hq]) (by simp [hp, hq])
  case cons p ps =>
    refine ht (v := [' ']) (r := p.text ++ Passage.trail ps) rfl ?_ rfl
    rw [hp, hq, Passage.trail_cons]
    simp

theorem filter_print : Clause.filter q.print = .present q.outer.criteria.text := by
  have hg : Keyword.groupBy.last? q.print = none := by
    rw [Keyword.last?_eq, spans_groups]
    rfl
  have ho : (Keyword.orderBy.last? q.print).map (·.start) =
      q.orderPassages.head?.map fun _ => q.level.length + 1 := by
    rw [Keyword.last?_eq, spans_orders, orderPassages]
    cases q.orders <;> rfl
  have hm : Outline.minLength < q.base.length + 1 + q.outer.filter.text.length := by
    have := q.originStart_ge
    have : q.outer.origin.text.length = 4 := q.outer.origin.spells.length_eq.symm
    have : q.outer.filter.text.length = 5 := q.outer.filter.spells.length_eq.symm
    rw [base, Level.length_base, Level.relationStart, Outline.minLength]
    omega
  have hb : Clause.ordersBeforeGroups q.print ((Keyword.orderBy.last? q.print).map (·.start))
      ((Keyword.groupBy.last? q.print).map (·.start)) = false := by
    rw [hg]
    cases (Keyword.orderBy.last? q.print).map (·.start) <;> rfl
  have hn : ((Keyword.groupBy.last? q.print).map (·.start)).or
      ((Keyword.orderBy.last? q.print).map (·.start)) =
        q.orderPassages.head?.map fun _ => q.level.length + 1 := by
    rw [hg, ho]
    rfl
  -- The sort keys, where there are any, come after the `where`.
  have hs : ∀ n ∈ q.orderPassages.head?.map fun _ => q.level.length + 1,
      q.base.length + 1 + q.outer.filter.text.length < n := by
    intro n hn
    obtain ⟨_, -, rfl⟩ := Option.map_eq_some_iff.mp hn
    simp [level_eq, Passage.text, Level.filterPassage, Spelling.passage]
    omega
  rw [Clause.filter_eq q.last_filter hm hb hn hs q.trim_filter q.outer.criteria.tight_text.ne_nil
    (.inl q.outer.criteria.no_parenthesis.right), q.outer.criteria.filterOfText_text]

end Filter

section Orders

theorem opens_orders (o : Series Ordered) (h : ')' ∈ o.text Ordered.text) :
    '(' ∈ o.text Ordered.text := by
  obtain h | h | ⟨e, he, h⟩ := o.mem_text h
  case inl => contradiction
  case inr.inl => contradiction
  case inr.inr => exact o.mem_text_of_mem he (e.opens h)

theorem orderBy_print : Clause.orderBy q.print ≠ .malformed ∧
    (Clause.orderBy q.print).texts = q.ordered.map Ordered.text := by
  cases hq : q.orders
  case none =>
    rw [Clause.orderBy_of_none (by simp [spans_orders, orderPassages, hq]), ordered, hq]
    exact ⟨by simp, rfl⟩
  case some ko =>
    obtain ⟨k, o⟩ := ko
    have hs : Keyword.orderBy.spans q.print =
        [⟨q.level.length + 1, q.level.length + 1 + k.text.length⟩] := by
      simp [spans_orders, orderPassages, hq, orderPassage, Spelling.passage]
    have hd : q.print.drop (q.level.length + 1 + k.text.length) = [' '] ++ o.text Ordered.text := by
      have hp : q.print = (q.level ++ ' ' :: k.text) ++ ([' '] ++ o.text Ordered.text) := by
        simp [print, hq, Query.clause, level]
      rw [hp, List.drop_left' (by simp; omega)]
    have hk : ∀ k' ∈ [Keyword.filter, .groupBy], k'.spans (orderPassage k o).body = [] := by
      intro k' hk
      have hc : k' ∈ Keyword.clauses := by
        revert k'
        decide
      exact (orderPassage k o).spans_body hc
    have hp := o.pieces_text (u := []) (v := []) (fun e => ⟨e.tight, e.no_comma⟩) rfl rfl
    rw [List.append_nil, List.nil_append] at hp
    have hf : Clause.fieldList (some 2) (o.text Ordered.text) = .present (o.all.map Ordered.text) := by
      refine Clause.fieldList_eq hp (fun t ht => ?_) fun t ht => ?_
      all_goals obtain ⟨e, -, rfl⟩ := List.mem_map.mp ht
      case refine_1 => exact e.tight
      case refine_2 => exact e.length_words
    rw [Clause.orderBy_eq hs hd (o.tight Ordered.tight) hk (opens_orders o), hf, ordered, hq]
    exact ⟨by simp, rfl⟩

end Orders

theorem sortKeys_plan : q.plan.sortKeys = .ok (q.ordered.map Ordered.sortKey) :=
  mapM_map_eq_ok fun o _ => o.parse_text

theorem kind_plan : q.plan.kind = .classify (!q.plan.groupBy.isEmpty) (!q.plan.orderBy.isEmpty)
    (!q.plan.aggregates.isEmpty) := by
  have ho : (!(q.ordered.map Ordered.text).isEmpty) = q.orders.isSome := by
    rw [ordered]
    cases q.orders <;> simp [Series.all]
  simp only [plan, ho]
  rfl

theorem reads_plan : Plan.Reads {} q.print q.plan := by
  have ht := q.tight_print.trim_eq
  have hf := q.filter_print
  have hg := Clause.groupBy_of_none q.spans_groups
  constructor
  case outline => exact q.check_print
  case rawText => rfl
  case balance => exact q.outer.criteria.balance
  case kind => exact q.kind_plan
  case sortKeys => exact ⟨_, q.sortKeys_plan⟩
  all_goals rw [ht]
  case source => exact q.source_print
  case base => exact q.base_print
  case selectList => exact ⟨_, q.selectList_print, q.ofEntries_columns.symm⟩
  case filter => rw [hf]; simp
  case conditions => rw [q.outer.criteria.conditions_eq hf]; simp
  case predicates => rw [q.outer.criteria.conditions_eq hf]; exact q.outer.criteria.parse_texts
  case tokens => exact (q.outer.criteria.reads_connectives hf).left
  case connectives => exact (q.outer.criteria.reads_connectives hf).right
  case groups => rw [hg]; simp
  case groupBy => rw [hg]; rfl
  case orders => exact q.orderBy_print.left
  case orderBy => exact q.orderBy_print.right.symm
  case calls => rw [aggregates_print]; simp
  case aggregates => rw [aggregates_print]; rfl

-- A nested query has the plan of its outermost level, over the source of the innermost one.
theorem parse_nested :
    Plan.parse {} q.print = .ok q.plan ∧ q.plan.sortKeys = .ok (q.ordered.map Ordered.sortKey) :=
  ⟨Plan.parse_eq_ok_iff.mpr q.reads_plan, q.sortKeys_plan⟩

-- What a query in a query is printed as.
example : print {
    outer := {
      select   := ⟨"select".toList, by decide⟩
      columns  := ⟨⟨['a'], by decide, by decide, by decide⟩, []⟩
      origin   := ⟨"from".toList, by decide⟩
      filter   := ⟨"where".toList, by decide⟩
      criteria := ⟨⟨none, ⟨['d'], by decide, by decide, by decide⟩, ⟨[], by decide⟩, .eq,
        ⟨[], by decide⟩, '\x27', by decide, ⟨['2'], by decide, by decide⟩⟩, []⟩
    }
    relation := .derived {
      select   := ⟨"select".toList, by decide⟩
      columns  := ⟨⟨['b'], by decide, by decide, by decide⟩, []⟩
      origin   := ⟨"from".toList, by decide⟩
      filter   := ⟨"where".toList, by decide⟩
      criteria := ⟨⟨none, ⟨['c'], by decide, by decide, by decide⟩, ⟨[], by decide⟩, .eq,
        ⟨[], by decide⟩, '\x27', by decide, ⟨['1'], by decide, by decide⟩⟩, []⟩
    } (.table ⟨⟨⟨['t'], by decide, by decide, by decide⟩, []⟩⟩)
    orders := none
  } = "select a from (select b from t.csv where c=\x271\x27) where d=\x272\x27".toList := by
  decide

end Nested

end Dialect
end FlatQuery
