import FlatQuery.Proofs.Query.Printing

namespace FlatQuery
namespace Dialect

-- Values between commas, with any white space around each comma.
structure Series (α : Type) where
  first : α
  rest  : List (Gap × Gap × α)

namespace Series

variable {α : Type} (s : Series α) (f : α → Text)

def all : List α :=
  s.first :: s.rest.map (·.2.2)

def text : Text :=
  f s.first ++ s.rest.flatMap fun x => x.1.text ++ ',' :: (x.2.1.text ++ f x.2.2)

end Series

structure Level where
  select   : Spelling Keyword.select.letters
  columns  : Series Word
  origin   : Spelling Keyword.source.letters
  filter   : Spelling Keyword.filter.letters
  criteria : Criteria

namespace Level

variable (l : Level) (relation : Text)

def base : Text :=
  Query.clause l.select.text (l.columns.text Word.text) ++ ' ' :: Query.clause l.origin.text relation

def text : Text :=
  l.base relation ++ ' ' :: Query.clause l.filter.text l.criteria.text

end Level

-- What a level selects from.
inductive Relation
  | table (s : Source)
  | derived (l : Level) (inner : Relation)

namespace Relation

def text : Relation → Text
  | table s => s.text
  | derived l inner => '(' :: (l.text inner.text ++ [')'])

-- The source of the innermost level.
def source : Relation → Source
  | table s => s
  | derived _ inner => inner.source

end Relation

-- A query that selects from other queries in parentheses, to any depth. Each level has a select list
-- and a filter of its own, and only the outermost one may be sorted. All keywords of the inner levels
-- stand in the text of the outer one.
structure Nested where
  outer    : Level
  relation : Relation
  orders   : Option (Spelling Keyword.orderBy.letters × Series Ordered)

namespace Nested

variable (q : Nested)

def ordered : List Ordered :=
  q.orders.elim [] (·.2.all)

def base : Text :=
  q.outer.base q.relation.text

def print : Text :=
  q.outer.text q.relation.text ++
    q.orders.elim [] fun (k, o) => ' ' :: Query.clause k.text (o.text Ordered.text)

-- All clauses are those of the outermost level; only the source is that of the innermost.
def plan : Plan where
  rawText     := q.print
  source      := q.relation.source.text
  baseQuery   := q.base
  projection  := .fields (q.outer.columns.all.map Word.text)
  predicates  := q.outer.criteria.predicates
  connectives := q.outer.criteria.connectives
  aggregates  := []
  groupBy     := []
  orderBy     := q.ordered.map Ordered.text
  kind        := .classify false q.orders.isSome false

end Nested

namespace Series

variable {α : Type} (s : Series α) {f : α → Text} {u v : Text}

theorem mem_text (h : c ∈ s.text f) : isBlank c ∨ c = ',' ∨ ∃ a ∈ s.all, c ∈ f a := by
  obtain h | h := List.mem_append.mp h
  case inl => exact .inr (.inr ⟨_, .head _, h⟩)
  case inr =>
    obtain ⟨x, hx, h⟩ := List.mem_flatMap.mp h
    obtain h | rfl | h | h : c ∈ x.1.text ∨ c = ',' ∨ c ∈ x.2.1.text ∨ c ∈ f x.2.2 := by
      simpa using h
    case inl => exact .inl (List.all_eq_true.mp x.1.blank c h)
    case inr.inl => exact .inr (.inl rfl)
    case inr.inr.inl => exact .inl (List.all_eq_true.mp x.2.1.blank c h)
    case inr.inr.inr => exact .inr (.inr ⟨_, .tail _ (List.mem_map_of_mem hx), h⟩)

theorem mem_text_of_mem (ha : a ∈ s.all) (hc : c ∈ f a) : c ∈ s.text f := by
  obtain _ | ⟨_, ha⟩ := ha
  case head => exact List.mem_append_left _ hc
  case tail =>
    obtain ⟨x, hx, rfl⟩ := List.mem_map.mp ha
    exact List.mem_append_right _ (List.mem_flatMap.mpr ⟨x, hx, by simp [hc]⟩)

theorem tight (h : ∀ a, (f a).Tight) : (s.text f).Tight := by
  obtain ⟨a, l⟩ := s
  induction l generalizing a
  case nil => simpa [text] using h a
  case cons x l hi =>
    have ht := (h a).append (hi x.2.2) (x.1.text ++ ',' :: x.2.1.text)
    simpa [text] using ht

theorem freeOf (hs : Solid words) (h : ∀ a, FreeOf words (f a)) : FreeOf words (s.text f) := by
  obtain ⟨a, l⟩ := s
  induction l generalizing a
  case nil => simpa [text] using h a
  case cons x l hi =>
    have hg := none_of_blank x.1.blank
    have hh := none_of_blank x.2.1.blank
    have ht : text ⟨a, x :: l⟩ f =
        (f a ++ x.1.text) ++ ',' :: (x.2.1.text ++ text ⟨x.2.2, l⟩ f) := by
      simp [text]
    rw [ht, hs.freeOf_append_cons (by decide), hs.freeOf_append (.inr (startsWord_of_none hg)),
      hs.freeOf_append (.inl (endsWord_of_none hh))]
    exact ⟨⟨h a, hs.freeOf_of_none hg⟩, hs.freeOf_of_none hh, hi _⟩

theorem pieces_text (h : ∀ a, (f a).Tight ∧ ',' ∉ f a) (hu : u.all isBlank) (hv : v.all isBlank) :
    (Text.pieces (· == ',') (u ++ s.text f ++ v)).map Text.trim = s.all.map f := by
  have hx : ∀ x ∈ s.rest.map fun x => (x.1.text, x.2.1.text, f x.2.2),
      x.1.all isBlank ∧ x.2.1.all isBlank ∧ x.2.2.Tight ∧ ',' ∉ x.2.2 := by
    intro _ hx
    obtain ⟨x, -, rfl⟩ := List.mem_map.mp hx
    exact ⟨x.1.blank, x.2.1.blank, h _⟩
  have hp := Text.pieces_commas (h s.first) hx hu hv
  simpa [text, all, List.flatMap_map, Function.comp_def] using hp

end Series

-- A keyword, with a text after it that no clause is found in.
def Spelling.passage {k : Keyword} {t : Text} (s : Spelling k.letters)
    (hp : ∀ k ∈ Keyword.clauses, ¬Mentions k.opening t) (ht : t.Tight) : Passage :=
  ⟨k, s.text, t, s.spells, hp, ht⟩

namespace Level

variable (l : Level) {k : Keyword} {b : Text}

theorem freeOf_columns : FreeOf reservedWords (l.columns.text Word.text) :=
  l.columns.freeOf solid_reservedWords Word.freeOf

theorem tight_columns : (l.columns.text Word.text).Tight :=
  l.columns.tight Word.tight

def selectPassage : Passage :=
  l.select.passage (plain_of_freeOf l.freeOf_columns) l.tight_columns

def filterPassage : Passage :=
  l.filter.passage l.criteria.plain l.criteria.tight_text

theorem base_eq : l.base b = l.selectPassage.text ++ ' ' :: (l.origin.text ++ ' ' :: b) :=
  rfl

theorem text_eq : l.text b = l.base b ++ Passage.trail [l.filterPassage] := by
  simp [text, Passage.trail, Passage.text, filterPassage, Spelling.passage, Query.clause]

section FreeOf

variable (hb : FreeOf lateWords b)
include hb

theorem freeOf_base : FreeOf lateWords (l.base b) := by
  have hs := solid_lateWords
  rw [base_eq, hs.freeOf_append_cons not_isWordChar_space, hs.freeOf_append_cons not_isWordChar_space,
    Passage.text, hs.freeOf_append_cons not_isWordChar_space]
  exact ⟨⟨l.select.freeOf (by decide) (by decide), l.freeOf_columns.subset lateWords_subset⟩,
    l.origin.freeOf (by decide) (by decide), hb⟩

theorem freeOf_text : FreeOf lateWords (l.text b) := by
  have hs := solid_lateWords
  rw [text, Query.clause, hs.freeOf_append_cons not_isWordChar_space,
    hs.freeOf_append_cons not_isWordChar_space]
  exact ⟨l.freeOf_base hb, l.filter.freeOf (by decide) (by decide),
    l.criteria.freeOf_text hs lateWords_subset (by decide)⟩

end FreeOf

-- Where the `from` of the level stands, and what it selects from.
def originStart : Nat :=
  l.select.text.length + (l.columns.text Word.text).length + 2

def relationStart : Nat :=
  l.originStart + l.origin.text.length + 1

theorem length_base : (l.base b).length = l.relationStart + b.length := by
  simp [base, Query.clause, relationStart, originStart]
  omega

theorem spans_base (hk : k ∈ Keyword.clauses) : k.spans (l.base b) = k.spans l.select.text ++
    ((k.spans l.origin.text).map (·.shift l.originStart) ++
      (k.spans b).map (·.shift l.relationStart)) := by
  rw [base_eq, Passage.spans_text_append hk,
    Keyword.spans_append_space (Keyword.clear_of_spells l.origin.spells), List.map_append,
    List.map_map, Span.shift_shift]
  have hs : l.selectPassage.text.length + 1 = l.originStart := by
    simp [Passage.text, selectPassage, Spelling.passage, originStart]
    omega
  rw [hs]
  rfl

section Starts

variable (hb : FreeOf lateWords b)
include hb

theorem spans_text (hk : k ∈ Keyword.clauses) : k.spans (l.text b) = k.spans (l.base b) ++
    (k.spans l.filter.text).map (·.shift (l.relationStart + b.length + 1)) := by
  have hx (u) : Clear k.letters (l.base b) (' ' :: u) := clear_of_freeOf (l.freeOf_base hb) hk
  rw [text_eq, Passage.spans_append_trail hk hx (by simp), length_base]
  rfl

theorem starts_text (hk : k ∈ Keyword.clauses) : k.starts (l.text b) = k.starts l.select.text ++
    (k.starts l.origin.text).map (l.originStart + ·) ++ (k.starts b).map (l.relationStart + ·) ++
      (k.starts l.filter.text).map (l.relationStart + b.length + 1 + ·) := by
  rw [Keyword.starts, l.spans_text hb hk, l.spans_base hk]
  simp [Keyword.starts, Span.shift, Function.comp_def]

theorem starts_select : Keyword.select.starts (l.text b) =
    0 :: (Keyword.select.starts b).map (l.relationStart + ·) := by
  simp [l.starts_text hb (k := .select) (by decide), Spelling.starts]

theorem starts_origin : Keyword.source.starts (l.text b) =
    l.originStart :: (Keyword.source.starts b).map (l.relationStart + ·) := by
  simp [l.starts_text hb (k := .source) (by decide), Spelling.starts]

theorem starts_filter : Keyword.filter.starts (l.text b) =
    (Keyword.filter.starts b).map (l.relationStart + ·) ++ [l.relationStart + b.length + 1] := by
  simp [l.starts_text hb (k := .filter) (by decide), Spelling.starts]

end Starts

end Level

-- Where the keywords of the levels stand in a text. There are as many of each, no `where` is at the
-- beginning, and between any `from` and any `where` there is room for a source.
structure Placed (t : Text) : Prop where
  selects : (Keyword.select.starts t).length = (Keyword.source.starts t).length
  filters : (Keyword.filter.starts t).length = (Keyword.source.starts t).length
  length  : 2 ≤ t.length
  late    : ∀ j ∈ Keyword.filter.starts t, 2 ≤ j
  room    : ∀ i ∈ Keyword.source.starts t, i + Outline.minWhereGap ≤ t.length
  apart   : ∀ i ∈ Keyword.source.starts t, ∀ j ∈ Keyword.filter.starts t,
              i + Outline.minWhereGap ≤ j

namespace Placed

variable {b t : Text}

-- Around what it selects from a level puts one of each keyword, the `where` last of all.
theorem level (hb : FreeOf lateWords b) (h : Placed b) (l : Level) : Placed (l.text b) := by
  have hs : 0 < l.select.text.length := List.length_pos_iff.mpr (l.select.ne_nil (by decide))
  have ho : l.origin.text.length = 4 := l.origin.spells.length_eq.symm
  have hr : l.relationStart = l.originStart + 5 := by rw [Level.relationStart, ho]
  have hl : l.relationStart + b.length + 2 ≤ (l.text b).length := by
    have hf : l.filter.text.length = 5 := l.filter.spells.length_eq.symm
    rw [Level.text, List.length_append, l.length_base, Query.clause, List.length_cons,
      List.length_append, hf]
    omega
  have hg : Outline.minWhereGap = 7 := rfl
  have hlen := h.length
  have hlate := h.late
  have hroom := h.room
  have hapart := h.apart
  rw [hg] at hroom hapart
  constructor
  case selects => simp [l.starts_select hb, l.starts_origin hb, h.selects]
  case filters => simp [l.starts_filter hb, l.starts_origin hb, h.filters]
  case length => omega
  case late =>
    simp only [l.starts_filter hb, List.forall_mem_append, List.forall_mem_map,
      List.forall_mem_singleton]
    exact ⟨fun j hj => by omega, by omega⟩
  case room =>
    simp only [l.starts_origin hb, List.forall_mem_cons, List.forall_mem_map, hg]
    exact ⟨by omega, fun i hi => by have := hroom i hi; omega⟩
  case apart =>
    intro i hi j hj
    rw [l.starts_origin hb, List.mem_cons, List.mem_map] at hi
    rw [l.starts_filter hb, List.mem_append, List.mem_map, List.mem_singleton] at hj
    -- Each of the two is a place of this level or one of the levels below.
    obtain rfl | ⟨i, hi, rfl⟩ := hi <;> obtain ⟨j, hj, rfl⟩ | rfl := hj
    case inl.inl =>
      have := hlate j hj
      omega
    case inl.inr => omega
    case inr.inl =>
      have := hapart i hi j hj
      omega
    case inr.inr =>
      have := hroom i hi
      omega

theorem starts_parentheses {k : Keyword} (hk : k.letters.all Char.isLower) :
    k.starts ('(' :: (t ++ [')'])) = (k.starts t).map (1 + ·) := by
  have hn (c : Char) (hc : isWordChar c = false) : k.spans [c] = [] :=
    Keyword.spans_eq_nil_iff.mpr (not_mentions_of_none k.framed (by simpa using hc))
  rw [← List.singleton_append, Keyword.starts, Keyword.spans_append_of_solid hk (.inl rfl),
    Keyword.spans_append_of_solid hk (.inr rfl), hn '(' (by decide), hn ')' (by decide)]
  simp [Keyword.starts, Span.shift, Function.comp_def]

theorem parentheses (h : Placed t) : Placed ('(' :: (t ++ [')'])) := by
  have hs := starts_parentheses (t := t) (k := .select) (by decide)
  have ho := starts_parentheses (t := t) (k := .source) (by decide)
  have hf := starts_parentheses (t := t) (k := .filter) (by decide)
  constructor
  case selects => simpa [hs, ho] using h.selects
  case filters => simpa [hf, ho] using h.filters
  case length => simp
  case late =>
    simp only [hf, List.forall_mem_map]
    exact fun j hj => by have := h.late j hj; omega
  case room =>
    simp only [ho, List.forall_mem_map, List.length_cons, List.length_append, List.length_nil]
    exact fun i hi => by have := h.room i hi; omega
  case apart =>
    simp only [ho, hf, List.forall_mem_map]
    exact fun i hi j hj => by have := h.apart i hi j hj; omega

theorem source (s : Source) : Placed s.text := by
  have hn (k : Keyword) (hk : k ∈ Keyword.clauses) : k.starts s.text = [] := by
    simp [Keyword.starts, spans_of_freeOf s.freeOf hk]
  have hs := hn .select (by decide)
  have ho := hn .source (by decide)
  have hf := hn .filter (by decide)
  have := s.length_text
  constructor
  case length => omega
  all_goals simp [hs, ho, hf]

end Placed

namespace Relation

variable (r : Relation)

theorem freeOf : FreeOf lateWords r.text := by
  have hs := solid_lateWords
  induction r
  case table s => exact s.freeOf.subset lateWords_subset
  case derived l inner hi =>
    rw [text, hs.freeOf_cons (by decide), hs.freeOf_append_cons (by decide)]
    exact ⟨l.freeOf_text hi, hs.freeOf_nil⟩

-- The induction is on the depth; each level adds its own keywords to those of the one inside.
theorem placed : Placed r.text := by
  induction r
  case table s => exact .source s
  case derived l inner hi => exact (hi.level inner.freeOf l).parentheses

end Relation

end Dialect
end FlatQuery
