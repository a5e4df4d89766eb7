import FlatQuery.Proofs.Query.PresentClauses
import FlatQuery.Proofs.Query.PrintedOutline

namespace FlatQuery
namespace Dialect
namespace Query

variable (q : Query)

section Filter

theorem start_groups :
    (Keyword.groupBy.last? q.print).map (·.start) = q.groups.map fun _ => q.filterEnd := by
  rw [Keyword.last?_eq, spans_groups, groupPassages]
  cases q.groups <;> rfl

theorem start_orders :
    (Keyword.orderBy.last? q.print).map (·.start) = q.orders.map fun _ => q.groupEnd := by
  rw [Keyword.last?_eq, spans_orders, orderPassages]
  cases q.orders <;> rfl

-- The first clause after the filter, if there is one, ends it.
theorem filterStop_print :
    (q.groups.map fun _ => q.filterEnd).or (q.orders.map fun _ => q.groupEnd) =
      (q.groupPassages ++ q.orderPassages).head?.map fun _ => q.filterEnd := by
  cases hg : q.groups
  case some => simp [groupPassages, hg]
  case none =>
    have he := q.groupEnd_of_none hg
    cases ho : q.orders <;> simp [groupPassages, orderPassages, hg, ho, he]

theorem not_ordersBeforeGroups_print : Clause.ordersBeforeGroups q.print
    (q.orders.map fun _ => q.groupEnd) (q.groups.map fun _ => q.filterEnd) = false := by
  have := q.filterEnd_le
  cases q.groups <;> cases q.orders <;> simp [Clause.ordersBeforeGroups]
  omega

variable {k : Spelling Keyword.filter.letters} {f : Filter}

theorem filterEnd_eq (h : q.filter = some (k, f)) :
    q.filterEnd = q.originEnd + k.text.length + f.text.length + 2 := by
  rw [filterEnd, Passage.lead_append, List.length_append, ← originEnd]
  simp [filterPassages, h, Passage.lead, Passage.text, filterPassage]
  omega

-- What stands between `where` and the next clause.
theorem slice_filter (h : q.filter = some (k, f))
    (hr : q.groupPassages ++ q.orderPassages = p :: ps) :
    q.print.slice ⟨q.originEnd + k.text.length, q.filterEnd⟩ = [' '] ++ f.text ++ [' '] := by
  have hp : q.print = Passage.lead [q.selectPassage, q.originPassage] ++ k.text ++
      ([' '] ++ f.text ++ [' ']) ++ (p.text ++ Passage.trail ps) := by
    rw [print_eq_join, List.append_assoc, hr, Passage.join_append, Passage.lead_append]
    simp [filterPassages, h, Passage.lead, Passage.text, filterPassage]
  have hs : q.originEnd + k.text.length =
      (Passage.lead [q.selectPassage, q.originPassage] ++ k.text).length := by
    rw [List.length_append, originEnd]
  have he : q.filterEnd = (Passage.lead [q.selectPassage, q.originPassage] ++ k.text).length +
      ([' '] ++ f.text ++ [' ']).length := by
    rw [q.filterEnd_eq h, hs]
    simp
    omega
  rw [hp, hs, he, Text.slice_append]

-- What stands after `where`, up to the next clause or the end of the query.
theorem trim_filter (h : q.filter = some (k, f)) : Text.trim (q.print.slice
    ⟨q.originEnd + k.text.length, ((q.groupPassages ++ q.orderPassages).head?.map
      fun _ => q.filterEnd).getD q.print.length⟩) = f.text := by
  cases hr : q.groupPassages ++ q.orderPassages
  case cons p ps =>
    simp only [List.head?_cons, Option.map_some, Option.getD_some]
    rw [q.slice_filter h hr]
    exact f.tight_text.trim_padded rfl rfl
  case nil =>
    have hp := q.print_eq_filter h
    rw [hr] at hp
    have hd : q.print.drop (q.originEnd + k.text.length) = [' '] ++ f.text := by
      rw [hp, originEnd]
      exact (Passage.drop_lead (p := filterPassage k f)).trans (by simp [filterPassage])
    simp only [List.head?_nil, Option.map_none, Option.getD_none]
    rw [Text.slice, hd, List.take_of_length_le (by simp [← hd])]
    simpa using f.tight_text.trim_padded (u := [' ']) (v := []) rfl rfl

-- The filter goes on to the end of the query, or up to the clause that follows.
theorem filter_print : Clause.filter q.print =
    q.filter.elim (.absent .notInQuery) fun (_, f) => .present f.text := by
  cases hq : q.filter
  case none =>
    have hl : Keyword.filter.last? q.print = none := by
      simp [Keyword.last?_eq, spans_filter, filterPassages, hq]
    simp [Clause.filter, hl]
  case some kf =>
    obtain ⟨k, f⟩ := kf
    have hl : Keyword.filter.last? q.print = some ⟨q.originEnd, q.originEnd + k.text.length⟩ := by
      simp [Keyword.last?_eq, spans_filter, filterPassages, hq, filterPassage]
    have hm : Outline.minLength < q.originEnd + k.text.length := by
      have := q.minLength_lt
      omega
    have hb : Clause.ordersBeforeGroups q.print ((Keyword.orderBy.last? q.print).map (·.start))
        ((Keyword.groupBy.last? q.print).map (·.start)) = false := by
      rw [start_orders, start_groups, not_ordersBeforeGroups_print]
    have hn : ((Keyword.groupBy.last? q.print).map (·.start)).or
        ((Keyword.orderBy.last? q.print).map (·.start)) =
          (q.groupPassages ++ q.orderPassages).head?.map fun _ => q.filterEnd := by
      rw [start_orders, start_groups, filterStop_print]
    have hs : ∀ n ∈ (q.groupPassages ++ q.orderPassages).head?.map fun _ => q.filterEnd,
        q.originEnd + k.text.length < n := by
      intro n hn
      obtain ⟨_, -, rfl⟩ := Option.map_eq_some_iff.mp hn
      rw [q.filterEnd_eq hq]
      omega
    have ht := q.trim_filter hq
    rw [Clause.filter_eq hl hm hb hn hs ht f.tight_text.ne_nil (.inl f.no_closing),
      f.filterOfText_text]
    rfl

section Predicates

theorem filter_criteria (h : q.filter = some (k, f)) :
    Clause.filter q.print = .present f.criteria.text := by
  rw [filter_print, h, f.text_criteria]
  rfl

theorem conditions_print : Clause.conditions q.print = q.filter.elim (.absent .notInQuery)
    fun (_, f) => .present f.criteria.texts := by
  cases hq : q.filter
  case none =>
    rw [Clause.conditions, filter_print, hq]
    rfl
  case some kf => exact kf.2.criteria.conditions_eq (q.filter_criteria hq)

end Predicates
end Filter

section Orders

theorem opens_orders (o : Listing Ordered)
    (h : ')' ∈ Text.join ", ".toList (o.all.map Ordered.text)) :
    '(' ∈ Text.join ", ".toList (o.all.map Ordered.text) := by
  obtain h | ⟨t, ht, h⟩ := Text.mem_join h
  case inl => contradiction
  case inr =>
    obtain ⟨e, -, rfl⟩ := List.mem_map.mp ht
    exact Text.mem_join_of_mem ht (e.opens h)

theorem orderBy_print : Clause.orderBy q.print =
    q.orders.elim (.absent .notInQuery) fun (_, o) => .present (o.all.map Ordered.text) := by
  cases hq : q.orders
  case none =>
    exact Clause.orderBy_of_none (by simp [spans_orders, orderPassages, hq])
  case some ko =>
    obtain ⟨k, o⟩ := ko
    have hs : Keyword.orderBy.spans q.print = [⟨q.groupEnd, q.groupEnd + k.text.length⟩] := by
      simp [spans_orders, orderPassages, hq, orderPassage]
    have hd : q.print.drop (q.groupEnd + k.text.length) = [' '] ++ (orderPassage k o).body := by
      rw [print_eq_orders q hq, groupEnd]
      exact (Passage.drop_lead (p := orderPassage k o)).trans (by simp)
    have ho : ∀ k' ∈ [Keyword.filter, .groupBy], k'.spans (orderPassage k o).body = [] := by
      intro k' hk
      have hc : k' ∈ Keyword.clauses := by
        revert k'
        decide
      exact (orderPassage k o).spans_body hc
    have hl : ∀ t ∈ o.all.map Ordered.text, (some 2).all (t.words.length ≤ ·) := by
      intro t ht
      obtain ⟨e, -, rfl⟩ := List.mem_map.mp ht
      exact e.length_words
    have ht : ∀ t ∈ o.all.map Ordered.text, t.Tight ∧ ',' ∉ t := by
      intro t ht
      obtain ⟨e, -, rfl⟩ := List.mem_map.mp ht
      exact ⟨e.tight, e.no_comma⟩
    rw [Clause.orderBy_eq hs hd (orderPassage k o).tight ho (opens_orders o)]
    exact Clause.fieldList_join ht (by simp [Listing.all]) hl

end Orders

section Groups

theorem tail_groups (h : q.groups = some (k, g)) : Clause.tail .groupBy q.print =
    .present ((groupPassage k g).body ++ Passage.trail q.orderPassages) := by
  have hs : Keyword.groupBy.spans q.print = [⟨q.filterEnd, q.filterEnd + k.text.length⟩] := by
    simp [spans_groups, groupPassages, h, groupPassage]
  refine Clause.tail_of_singleton hs ?_ (Passage.tight_append_trail (groupPassage k g).tight)
  rw [print_eq_groups q h, filterEnd]
  exact Passage.drop_lead (p := groupPassage k g)

-- Group fields are words with commas between them.
theorem mem_groupPassage (h : c ∈ (groupPassage k g).body) :
    isAsciiWordChar c ∨ c = ',' ∨ c = ' ' := by
  obtain h | ⟨t, ht, h⟩ := Text.mem_join h
  case inl => exact .inr (by simpa using h)
  case inr =>
    obtain ⟨w, -, rfl⟩ := List.mem_map.mp ht
    exact .inl (w.isAsciiWordChar h)

theorem opens_trail (h : ')' ∈ Passage.trail q.orderPassages) :
    '(' ∈ Passage.trail q.orderPassages := by
  obtain ⟨p, hp, h⟩ := List.mem_flatMap.mp h
  refine List.mem_flatMap.mpr ⟨p, hp, ?_⟩
  obtain ⟨⟨k, o⟩, -, rfl⟩ := List.mem_map.mp hp
  have hk : ')' ∉ k.text := fun hc => absurd (k.toLower_mem hc) (by decide)
  have hb : ')' ∈ (orderPassage k o).body := by simpa [Passage.text, orderPassage, hk] using h
  have ho : '(' ∈ (orderPassage k o).body := opens_orders o hb
  simp [Passage.text, ho]

theorem last_groupPassage : (groupPassage k g).body.getLast? ≠ some ')' := by
  intro h
  obtain h | h | h := mem_groupPassage (List.mem_of_getLast? h) <;> contradiction

theorem groupFields_alone (k : Spelling Keyword.groupBy.letters) (g : Listing Word) :
    Clause.groupFields (groupPassage k g).body = (groupPassage k g).body := by
  have hh : Keyword.having.first? (groupPassage k g).body = none := by
    rw [Keyword.first?_eq, Passage.spans_body (by decide)]
    rfl
  have ho : Keyword.orderBy.first? (groupPassage k g).body = none := by
    rw [Keyword.first?_eq, Passage.spans_body (by decide)]
    rfl
  simp [Clause.groupFields, hh, ho, (groupPassage k g).tight.trim_eq, last_groupPassage]

-- The fields end where the sort keys begin.
theorem groupFields_append (k : Spelling Keyword.groupBy.letters) (g : Listing Word)
    {p : Passage} (hp : p.keyword = .orderBy) :
    Clause.groupFields ((groupPassage k g).body ++ ' ' :: p.text) = (groupPassage k g).body := by
  have hh : Keyword.having.first? ((groupPassage k g).body ++ ' ' :: p.text) = none := by
    have hn : ∀ q ∈ [p], q.keyword ≠ .having := by simp [hp]
    have hs := Passage.spans_body_trail (p := groupPassage k g) (by decide) hn
    simp only [Passage.trail_cons, Passage.trail_nil, List.append_nil] at hs
    rw [Keyword.first?_eq, hs]
    rfl
  have ho : Keyword.orderBy.first? ((groupPassage k g).body ++ ' ' :: p.text) =
      some ⟨(groupPassage k g).body.length + 1,
        (groupPassage k g).body.length + 1 + p.spelled.length⟩ := by
    have hs : Keyword.orderBy.spans p.spelled = [⟨0, p.spelled.length⟩] :=
      Keyword.spans_spelled (hp ▸ p.spells)
    rw [Keyword.first?_eq, Passage.spans_body_append (by decide), Passage.spans_text (by decide),
      hs]
    rfl
  have ht : ((groupPassage k g).body ++ ' ' :: p.text).take ((groupPassage k g).body.length + 1) =
      (groupPassage k g).body ++ [' '] := by
    rw [List.append_cons, List.take_left' (by simp)]
  have hr : Text.trim ((groupPassage k g).body ++ [' ']) = (groupPassage k g).body :=
    (groupPassage k g).tight.trim_padded (u := []) rfl rfl
  simp [Clause.groupFields, hh, ho, ht, hr, last_groupPassage]

theorem groupFields_print (k : Spelling Keyword.groupBy.letters) (g : Listing Word) :
    Clause.groupFields ((groupPassage k g).body ++ Passage.trail q.orderPassages) =
      (groupPassage k g).body := by
  rw [orderPassages]
  cases q.orders
  case none => simpa using groupFields_alone k g
  case some ko => simpa [Passage.trail_cons] using groupFields_append k g rfl

-- Sort keys may follow the fields; the `order by` in front of them ends the list.
theorem groupBy_print : Clause.groupBy q.print =
    q.groups.elim (.absent .notInQuery) fun (_, g) => .present (g.all.map Word.text) := by
  cases hq : q.groups
  case none =>
    exact Clause.groupBy_of_none (by simp [spans_groups, groupPassages, hq])
  case some kg =>
    obtain ⟨k, g⟩ := kg
    have ho : ∀ k' ∈ [Keyword.filter],
        k'.spans ((groupPassage k g).body ++ Passage.trail q.orderPassages) = [] := by
      intro k' hk
      obtain rfl := List.mem_singleton.mp hk
      exact Passage.spans_body_trail (by decide) (q.orderPassages_ne (by decide))
    have hp (h : ')' ∈ (groupPassage k g).body ++ Passage.trail q.orderPassages) :
        '(' ∈ (groupPassage k g).body ++ Passage.trail q.orderPassages := by
      obtain h | h := List.mem_append.mp h
      case inl => obtain h | h | h := mem_groupPassage h <;> contradiction
      case inr => exact List.mem_append_right _ (q.opens_trail h)
    have ht : ∀ t ∈ g.all.map Word.text, t.Tight ∧ ',' ∉ t := by
      intro t ht
      obtain ⟨w, -, rfl⟩ := List.mem_map.mp ht
      exact ⟨w.tight, fun hc => absurd (w.isAsciiWordChar hc) (by decide)⟩
    rw [Clause.groupBy, tail_groups q hq, Clause.bind, Clause.fieldsOfTail_eq ho hp,
      groupFields_print]
    exact Clause.fieldList_join ht (by simp [Listing.all]) (by simp)

end Groups

end Query
end Dialect
end FlatQuery
