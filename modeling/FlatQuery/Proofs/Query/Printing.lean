import FlatQuery.Proofs.Query.Passages
import FlatQuery.Proofs.Query.PrintedFilter

namespace FlatQuery
namespace Dialect

theorem plain_of_freeOf {t : Text} (h : FreeOf reservedWords t) :
    ∀ k ∈ Keyword.clauses, ¬Mentions k.opening t := by
  have hm : ∀ k ∈ Keyword.clauses, k.opening ∈ reservedWords := by decide
  exact fun k hk => h _ (hm k hk)

theorem spans_of_freeOf {k : Keyword} {t : Text} (h : FreeOf reservedWords t)
    (hk : k ∈ Keyword.clauses) : k.spans t = [] :=
  Keyword.spans_eq_nil_iff.mpr fun hm => plain_of_freeOf h k hk (Keyword.mentions_opening hm)

-- A keyword as it is written has no other keyword in it.
theorem Spelling.starts {k k' : Keyword} (s : Spelling k'.letters) :
    k.starts s.text = if k = k' then [0] else [] := by
  split
  case isTrue h =>
    subst h
    rw [Keyword.starts, Keyword.spans_spelled s.spells]
    rfl
  case isFalse h =>
    rw [Keyword.starts, Keyword.spans_spelled_of_ne s.spells h]
    rfl

-- The first words of the clauses that only the outermost level may have.
def lateWords : List Text :=
  [Keyword.groupBy.opening, Keyword.orderBy.opening]

theorem solid_lateWords : Solid lateWords := by
  unfold Solid
  decide

theorem lateWords_subset : lateWords ⊆ reservedWords := by
  decide

-- No clause keyword begins in a text without the late words and goes on after it.
theorem clear_of_freeOf {k : Keyword} {t u : Text} (h : FreeOf lateWords t)
    (hk : k ∈ Keyword.clauses) : Clear k.letters t (' ' :: u) := by
  by_cases hl : k.opening ∈ lateWords
  case pos => exact Keyword.clear_of_not_mentions (h _ hl)
  case neg =>
    refine clear_of_all ?_ (.inr rfl)
    revert k
    decide

theorem freeOf_words (g : Listing Word) :
    FreeOf reservedWords (Text.join ", ".toList (g.all.map Word.text)) :=
  freeOf_commas fun t ht => by
    obtain ⟨w, -, rfl⟩ := List.mem_map.mp ht
    exact w.freeOf

theorem freeOf_ordered (o : Listing Ordered) :
    FreeOf reservedWords (Text.join ", ".toList (o.all.map Ordered.text)) :=
  freeOf_commas fun t ht => by
    obtain ⟨e, -, rfl⟩ := List.mem_map.mp ht
    exact e.freeOf

-- Connectives are the only reserved words in criteria.
theorem Criteria.plain (f : Criteria) : ∀ k ∈ Keyword.clauses, ¬Mentions k.opening f.text := by
  have hs : Solid (Keyword.clauses.map Keyword.opening) := by
    unfold Solid
    decide
  have hf := f.freeOf_text hs (by decide) (by decide)
  exact fun k hk => hf _ (List.mem_map_of_mem hk)

theorem Filter.plain (f : Filter) : ∀ k ∈ Keyword.clauses, ¬Mentions k.opening f.text :=
  f.text_criteria ▸ f.criteria.plain

namespace Query

variable (q : Query)

section Passages

def selectPassage : Passage :=
  ⟨.select, q.select.text, q.selection.text, q.select.spells, plain_of_freeOf q.selection.freeOf,
    q.selection.tight⟩

def originPassage : Passage :=
  ⟨.source, q.origin.text, q.source.text, q.origin.spells, plain_of_freeOf q.source.freeOf,
    q.source.tight⟩

def filterPassage (k : Spelling Keyword.filter.letters) (f : Filter) : Passage :=
  ⟨.filter, k.text, f.text, k.spells, f.plain, f.tight_text⟩

def groupPassage (k : Spelling Keyword.groupBy.letters) (g : Listing Word) : Passage where
  keyword := .groupBy
  spelled := k.text
  body    := Text.join ", ".toList (g.all.map Word.text)
  spells  := k.spells
  plain   := plain_of_freeOf (freeOf_words g)
  tight   := Text.tight_join (by simpa using fun w _ => w.tight) (by simp [Listing.all])

def orderPassage (k : Spelling Keyword.orderBy.letters) (o : Listing Ordered) : Passage where
  keyword := .orderBy
  spelled := k.text
  body    := Text.join ", ".toList (o.all.map Ordered.text)
  spells  := k.spells
  plain   := plain_of_freeOf (freeOf_ordered o)
  tight   := Text.tight_join (by simpa using fun o _ => o.tight) (by simp [Listing.all])

def filterPassages : List Passage :=
  q.filter.toList.map fun (k, f) => filterPassage k f

def groupPassages : List Passage :=
  q.groups.toList.map fun (k, g) => groupPassage k g

def orderPassages : List Passage :=
  q.orders.toList.map fun (k, o) => orderPassage k o

theorem print_eq_join : q.print = Text.join [' '] (([q.selectPassage, q.originPassage] ++
    q.filterPassages ++ q.groupPassages ++ q.orderPassages).map Passage.text) := by
  simp only [print, List.map_append, filterPassages, groupPassages, orderPassages, List.map_map]
  rfl

-- The printed query around each of its passages.
theorem print_eq_select : q.print = q.selectPassage.text ++
    Passage.trail (q.originPassage :: (q.filterPassages ++ q.groupPassages ++ q.orderPassages)) := by
  rw [print_eq_join, ← Passage.join_cons]
  simp

theorem print_eq_origin : q.print = Passage.lead [q.selectPassage] ++ (q.originPassage.text ++
    Passage.trail (q.filterPassages ++ q.groupPassages ++ q.orderPassages)) := by
  rw [print_eq_join, ← Passage.join_append]
  simp

theorem print_eq_filter (h : q.filter = some (k, f)) :
    q.print = Passage.lead [q.selectPassage, q.originPassage] ++
      ((filterPassage k f).text ++ Passage.trail (q.groupPassages ++ q.orderPassages)) := by
  rw [print_eq_join, ← Passage.join_append]
  simp [filterPassages, h]

theorem print_eq_groups (h : q.groups = some (k, g)) :
    q.print = Passage.lead ([q.selectPassage, q.originPassage] ++ q.filterPassages) ++
      ((groupPassage k g).text ++ Passage.trail q.orderPassages) := by
  rw [print_eq_join, ← Passage.join_append]
  simp [groupPassages, h]

theorem print_eq_orders (h : q.orders = some (k, o)) :
    q.print = Passage.lead ([q.selectPassage, q.originPassage] ++ q.filterPassages ++
      q.groupPassages) ++ ((orderPassage k o).text ++ Passage.trail []) := by
  rw [print_eq_join, ← Passage.join_append]
  simp [orderPassages, h]

theorem tight_print : q.print.Tight := by
  rw [print_eq_select]
  exact Passage.tight_append_trail q.selectPassage.tight_text

theorem base_eq : q.base = q.selectPassage.text ++ Passage.trail [q.originPassage] := by
  rw [← Passage.join_cons]
  rfl

end Passages

section Places

variable {k : Keyword} {p : Passage}

theorem keyword_filterPassages (h : p ∈ q.filterPassages) : p.keyword = .filter := by
  obtain ⟨_, _, rfl⟩ := List.mem_map.mp h
  rfl

theorem keyword_groupPassages (h : p ∈ q.groupPassages) : p.keyword = .groupBy := by
  obtain ⟨_, _, rfl⟩ := List.mem_map.mp h
  rfl

theorem keyword_orderPassages (h : p ∈ q.orderPassages) : p.keyword = .orderBy := by
  obtain ⟨_, _, rfl⟩ := List.mem_map.mp h
  rfl

theorem filterPassages_ne (h : k ≠ .filter) : ∀ p ∈ q.filterPassages, p.keyword ≠ k :=
  fun _ hp he => h (he ▸ q.keyword_filterPassages hp)

theorem groupPassages_ne (h : k ≠ .groupBy) : ∀ p ∈ q.groupPassages, p.keyword ≠ k :=
  fun _ hp he => h (he ▸ q.keyword_groupPassages hp)

theorem orderPassages_ne (h : k ≠ .orderBy) : ∀ p ∈ q.orderPassages, p.keyword ≠ k :=
  fun _ hp he => h (he ▸ q.keyword_orderPassages hp)

-- No clause after the base begins with `select` or `from`.
theorem rest_ne (h : k ≠ .filter ∧ k ≠ .groupBy ∧ k ≠ .orderBy) :
    ∀ p ∈ q.filterPassages ++ q.groupPassages ++ q.orderPassages, p.keyword ≠ k := by
  simp only [List.forall_mem_append]
  exact ⟨⟨q.filterPassages_ne h.left, q.groupPassages_ne h.right.left⟩,
    q.orderPassages_ne h.right.right⟩

theorem base_ne (h : k ≠ .select ∧ k ≠ .source) :
    ∀ p ∈ [q.selectPassage, q.originPassage], p.keyword ≠ k := by
  simpa [selectPassage, originPassage, eq_comm] using h

-- How far the text goes that stands before a clause.
def selectEnd : Nat :=
  (Passage.lead [q.selectPassage]).length

def originEnd : Nat :=
  (Passage.lead [q.selectPassage, q.originPassage]).length

def filterEnd : Nat :=
  (Passage.lead ([q.selectPassage, q.originPassage] ++ q.filterPassages)).length

def groupEnd : Nat :=
  (Passage.lead ([q.selectPassage, q.originPassage] ++ q.filterPassages ++ q.groupPassages)).length

-- A clause that is not there takes no room.
theorem filterEnd_of_none (h : q.filter = none) : q.filterEnd = q.originEnd := by
  simp [filterEnd, originEnd, filterPassages, h]

theorem groupEnd_of_none (h : q.groups = none) : q.groupEnd = q.filterEnd := by
  simp [groupEnd, filterEnd, groupPassages, h]

theorem filterEnd_le : q.filterEnd ≤ q.groupEnd := by
  rw [groupEnd, Passage.lead_append, List.length_append]
  exact Nat.le_add_right _ _

theorem spans_select : Keyword.select.spans q.print = [⟨0, q.select.text.length⟩] := by
  have hn : ∀ p ∈ q.originPassage :: (q.filterPassages ++ q.groupPassages ++ q.orderPassages),
      p.keyword ≠ .select :=
    List.forall_mem_cons.mpr ⟨by simp [originPassage], q.rest_ne (by decide)⟩
  rw [print_eq_select, Passage.spans_trail (by decide) hn]
  exact Keyword.spans_spelled q.select.spells

theorem spans_origin :
    Keyword.source.spans q.print = [⟨q.selectEnd, q.selectEnd + q.origin.text.length⟩] := by
  have hp : [q.selectPassage, q.originPassage] ++ q.filterPassages ++ q.groupPassages ++
      q.orderPassages = [q.selectPassage] ++ [q.originPassage] ++
        (q.filterPassages ++ q.groupPassages ++ q.orderPassages) := by
    simp
  have hm : ∀ p ∈ [q.originPassage], p.keyword = .source := by simp [originPassage]
  have hs : ∀ p ∈ [q.selectPassage], p.keyword ≠ .source := by simp [selectPassage]
  rw [print_eq_join, hp,
    Passage.spans_join (by decide) (by simp) (by simp) hm hs (q.rest_ne (by decide))]
  rfl

theorem spans_filter : Keyword.filter.spans q.print =
    q.filterPassages.map fun p => ⟨q.originEnd, q.originEnd + p.spelled.length⟩ := by
  have hr : ∀ p ∈ q.groupPassages ++ q.orderPassages, p.keyword ≠ .filter :=
    List.forall_mem_append.mpr ⟨q.groupPassages_ne (by decide), q.orderPassages_ne (by decide)⟩
  rw [print_eq_join, List.append_assoc]
  exact Passage.spans_join (by decide) (by simp) (by simp [filterPassages])
    (fun _ => q.keyword_filterPassages) (q.base_ne (by simp)) hr

theorem spans_groups : Keyword.groupBy.spans q.print =
    q.groupPassages.map fun p => ⟨q.filterEnd, q.filterEnd + p.spelled.length⟩ := by
  have hl : ∀ p ∈ [q.selectPassage, q.originPassage] ++ q.filterPassages, p.keyword ≠ .groupBy :=
    List.forall_mem_append.mpr ⟨q.base_ne (by simp), q.filterPassages_ne (by decide)⟩
  rw [print_eq_join]
  exact Passage.spans_join (by decide) (by simp) (by simp [groupPassages])
    (fun _ => q.keyword_groupPassages) hl (q.orderPassages_ne (by decide))

theorem spans_orders : Keyword.orderBy.spans q.print =
    q.orderPassages.map fun p => ⟨q.groupEnd, q.groupEnd + p.spelled.length⟩ := by
  have hl : ∀ p ∈ [q.selectPassage, q.originPassage] ++ q.filterPassages ++ q.groupPassages,
      p.keyword ≠ .orderBy := by
    simp only [List.forall_mem_append]
    exact ⟨⟨q.base_ne (by simp), q.filterPassages_ne (by decide)⟩, q.groupPassages_ne (by decide)⟩
  rw [print_eq_join, ← List.append_nil (_ ++ q.orderPassages)]
  exact Passage.spans_join (by decide) (by simp) (by simp [orderPassages])
    (fun _ => q.keyword_orderPassages) hl (by simp)

theorem starts_filter :
    Keyword.filter.starts q.print = q.filterPassages.map fun _ => q.originEnd := by
  rw [Keyword.starts, spans_filter, List.map_map]
  rfl

theorem starts_groups :
    Keyword.groupBy.starts q.print = q.groupPassages.map fun _ => q.filterEnd := by
  rw [Keyword.starts, spans_groups, List.map_map]
  rfl

theorem starts_orders :
    Keyword.orderBy.starts q.print = q.orderPassages.map fun _ => q.groupEnd := by
  rw [Keyword.starts, spans_orders, List.map_map]
  rfl

end Places

end Query
end Dialect
end FlatQuery
