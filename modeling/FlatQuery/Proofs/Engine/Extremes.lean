import FlatQuery.Proofs.Engine.Accumulators
import FlatQuery.Proofs.Table.CellComparisons

namespace FlatQuery

-- The side of the best cell so far on which a function looks for a better one.
inductive Seeks : AggregateFunction → Ordering → Prop
  | min : Seeks .min .lt
  | max : Seeks .max .gt

namespace ColumnType

variable {type : ColumnType} {wanted : Ordering} {a b c d : Text} {cells cells' : List Text}

-- Blank cells do not take part, nor do cells that cannot be read.
def isCandidate (type : ColumnType) (cell : Text) : Bool :=
  !cell.allBlank && type.isComparable cell

theorem isCandidate_iff :
    type.isCandidate a ↔ a.allBlank = false ∧ type.isComparable a := by
  simp [isCandidate]

theorem trim_ne_nil_of_isCandidate (h : type.isCandidate a) : a.trim ≠ [] :=
  Text.trim_ne_nil_iff.mpr (isCandidate_iff.mp h).left

-- What beats a candidate also beats every candidate that does no better than that one.
theorem sortOrder_of_unbeaten (hs : Seeks f wanted)
    (hn : ∀ x ∈ [a, b, d], type.isCandidate x ∧ ¬type.isNan x) (h : type.sortOrder a b = wanted)
    (hd : type.sortOrder d b ≠ wanted) : type.sortOrder a d = wanted := by
  have hr : ∀ x ∈ [a, b, d], ∀ y ∈ [a, b, d],
      type.sortOrder x y = compare (type.rank x) (type.rank y) := by
    intro x hx y hy
    have ⟨hcx, hnx⟩ := hn x hx
    have ⟨hcy, hny⟩ := hn y hy
    have hc := (isCandidate_iff.mp hcx).right.trans (isCandidate_iff.mp hcy).right.symm
    exact sortOrder_eq (by simpa [isNan] using hnx) (by simpa [isNan] using hny)
      (isSome_read_of_isComparable hc)
  rw [hr a (by simp) b (by simp)] at h
  rw [hr d (by simp) b (by simp)] at hd
  rw [hr a (by simp) d (by simp)]
  cases hs
  case min =>
    have hb : (compare (type.rank b) (type.rank d)).isLE := by
      rw [Std.OrientedOrd.eq_swap (a := type.rank b), Ordering.isLE_swap]
      exact Ordering.ne_lt_iff_isGE.mp hd
    exact Std.TransCmp.lt_of_lt_of_isLE h hb
  case max =>
    have hb : (compare (type.rank b) (type.rank d)).isGE := by
      rw [Std.OrientedOrd.eq_swap (a := type.rank b), Ordering.isGE_swap]
      exact Ordering.ne_gt_iff_isLE.mp hd
    exact Std.TransCmp.gt_of_gt_of_isGE h hb

structure Unbeaten (type : ColumnType) (wanted : Ordering) (cells : List Text) (c : Text) : Prop where
  candidate : type.isCandidate c
  unbeaten  : ∀ d ∈ cells, type.isCandidate d → type.sortOrder d c ≠ wanted

-- The earliest of the cells that no other beats.
def IsFirstUnbeaten (type : ColumnType) (wanted : Ordering) (cells : List Text) (c : Text) : Prop :=
  ∃ front back, cells = front ++ c :: back ∧ Unbeaten type wanted cells c ∧
    ∀ d ∈ front, ¬Unbeaten type wanted cells d

theorem Unbeaten.tied (hs : Seeks f wanted) (h : Unbeaten type wanted cells c)
    (h' : Unbeaten type wanted cells' c') (hc : c ∈ cells') (hc' : c' ∈ cells) :
    type.sortOrder c' c = .eq := by
  have hl := h.unbeaten c' hc' h'.candidate
  have hr := h'.unbeaten c hc h.candidate
  rw [type.sortOrder_swap c' c] at hr
  cases hs <;> cases ho : type.sortOrder c' c <;> simp [ho] at hl hr ⊢

-- A candidate with the cells in front of it, which it beats, and those behind, which do not beat it.
structure Leads (type : ColumnType) (wanted : Ordering) (front : List Text) (c : Text)
    (back : List Text) : Prop where
  candidate : type.isCandidate c
  beats     : ∀ d ∈ front, type.isCandidate d → type.sortOrder c d = wanted
  unbeaten  : ∀ d ∈ back, type.isCandidate d → type.sortOrder d c ≠ wanted

theorem sortOrder_asymm (hs : Seeks f wanted) (h : type.sortOrder a b = wanted) :
    type.sortOrder b a ≠ wanted := by
  rw [type.sortOrder_swap a b, h]
  cases hs <;> simp

theorem Leads.isUnbeaten (hs : Seeks f wanted) (h : Leads type wanted front c back) :
    Unbeaten type wanted (front ++ c :: back) c := by
  refine ⟨h.candidate, fun d hd hc => ?_⟩
  obtain hd | rfl | hd := by simpa using hd
  · exact sortOrder_asymm hs (h.beats d hd hc)
  · rw [sortOrder_self]
    cases hs <;> simp
  · exact h.unbeaten d hd hc

theorem Leads.isFirstUnbeaten (hs : Seeks f wanted) (h : Leads type wanted front c back) :
    IsFirstUnbeaten type wanted (front ++ c :: back) c :=
  ⟨front, back, rfl, h.isUnbeaten hs, fun d hd hu =>
    hu.unbeaten c (by simp) h.candidate (h.beats d hd hu.candidate)⟩

theorem Leads.keeps (h : Leads type wanted front c back)
    (hd : type.isCandidate d → type.sortOrder d c ≠ wanted) :
    Leads type wanted front c (back ++ [d]) where
  candidate := h.candidate
  beats     := h.beats
  unbeaten  := by
    intro x hx hc
    obtain hx | rfl := by simpa using hx
    · exact h.unbeaten x hx hc
    · exact hd hc

-- A cell that beats the leading one beats all that the leading one beats or is not beaten by.
theorem Leads.overtaken (hs : Seeks f wanted) (h : Leads type wanted front c back)
    (hd : type.isCandidate d) (ho : type.sortOrder d c = wanted)
    (hn : ∀ x ∈ front ++ c :: back ++ [d], ¬type.isNan x) :
    Leads type wanted (front ++ c :: back) d [] where
  candidate := hd
  beats     := by
    intro x hx hc
    have hu : type.sortOrder x c ≠ wanted := (h.isUnbeaten hs).unbeaten x hx hc
    refine sortOrder_of_unbeaten hs (fun y hy => ?_) ho hu
    obtain rfl | rfl | rfl := by simpa using hy
    · exact ⟨hd, hn y (by simp)⟩
    · exact ⟨h.candidate, hn y (by simp)⟩
    · exact ⟨hc, hn y (List.mem_append_left _ hx)⟩
  unbeaten  := fun _ hx => nomatch hx

-- The best cell of those seen so far, as an accumulator keeps it.
inductive IsBest (type : ColumnType) (wanted : Ordering) : List Text → Option Text → Prop
  | none (h : ∀ d ∈ seen, ¬type.isCandidate d) : IsBest type wanted seen none
  | some (h : Leads type wanted front best back) :
      IsBest type wanted (front ++ best :: back) (some best.trim)

end ColumnType

namespace Accumulator

variable {a : Accumulator} {type : ColumnType} {wanted : Ordering} {cells cells' : List Text}
  {cell : Text}

open ColumnType (isCandidate isCandidate_iff IsFirstUnbeaten IsBest)

theorem best_update (hs : Seeks a.function wanted) (cell : Text) :
    (a.update cell).best =
      if a.type.isCandidate cell && a.best.all fun best => a.type.sortOrder cell best == wanted then
        some cell.trim
      else
        a.best := by
  cases hb : cell.allBlank
  case true => simp [update_of_blank hb, isCandidate, hb]
  case false =>
    have ht : cell.trim ≠ [] := Text.trim_ne_nil_iff.mpr hb
    have ho (best : Text) : a.type.sortOrder cell.trim best = a.type.sortOrder cell best :=
      ColumnType.sortOrder_congr Text.trim_trim rfl
    have hk : a.update cell = keepExtreme { a with count := a.count + 1 } wanted cell.trim := by
      generalize hf : a.function = f at hs
      cases hs <;> simp [update, ht, hf]
    rw [hk, keepExtreme]
    simp only [isCandidate, hb, ho, ColumnType.isComparable_congr Text.trim_trim]
    split <;> simp [*]

-- Only a strictly better cell takes the place of the best, so of tied cells the first one stays.
theorem isBest_update (hs : Seeks a.function wanted) (ht : a.type = type)
    (h : IsBest type wanted seen a.best) (hn : ∀ d ∈ seen ++ [cell], ¬type.isNan d) :
    IsBest type wanted (seen ++ [cell]) (a.update cell).best := by
  subst ht
  rw [best_update hs]
  generalize a.best = best at h ⊢
  cases h
  case none h =>
    cases hc : a.type.isCandidate cell
    case false =>
      have hs : ∀ d ∈ seen ++ [cell], ¬a.type.isCandidate d := by simpa [or_imp, forall_and, hc] using h
      exact .none hs
    case true =>
      have hl : a.type.Leads wanted seen cell [] :=
        ⟨hc, fun d hd hc => absurd hc (h d hd), fun _ hd => nomatch hd⟩
      exact .some hl
  case some front best back h =>
    have ho : a.type.sortOrder cell best.trim = a.type.sortOrder cell best :=
      ColumnType.sortOrder_congr rfl Text.trim_trim
    rw [Option.all_some, ho]
    split
    case isTrue hb =>
      obtain ⟨hc, ho⟩ := by simpa using hb
      exact .some (h.overtaken hs hc ho hn)
    case isFalse hb =>
      rw [List.append_assoc]
      exact .some (h.keeps fun hc ho => hb (by simp [hc, ho]))

theorem isBest_feed (hs : Seeks f wanted) (cells : List Text) :
    (∀ d ∈ cells, ¬type.isNan d) → IsBest type wanted cells ((fresh f type).feed cells).best := by
  refine feed_induction (fun _ => .none fun _ hd => nomatch hd) (fun seen cell hi hn => ?_) cells
  have ⟨hf, ht⟩ := feed_eq (fresh f type) seen
  have hs : Seeks ((fresh f type).feed seen).function wanted := hf ▸ hs
  exact isBest_update hs ht (hi fun d hd => hn d (List.mem_append_left _ hd)) hn

theorem valueOf_eq_best (hs : Seeks f wanted) :
    valueOf f type cells = ((fresh f type).feed cells).best.getD [] := by
  have hf : ((fresh f type).feed cells).function = f := (feed_eq _ cells).left
  cases hs <;> simp [valueOf, finish, hf]

theorem valueOf_cases (hs : Seeks f wanted) (hn : ∀ d ∈ cells, ¬type.isNan d) :
    (valueOf f type cells = [] ∧ ∀ d ∈ cells, ¬type.isCandidate d) ∨
      ∃ c, valueOf f type cells = c.trim ∧ IsFirstUnbeaten type wanted cells c := by
  rw [valueOf_eq_best hs]
  generalize hb : ((fresh f type).feed cells).best = best
  have h := hb ▸ isBest_feed hs cells hn
  cases h
  case none h => exact .inl ⟨rfl, h⟩
  case some front best back h => exact .inr ⟨best, rfl, h.isFirstUnbeaten hs⟩

-- Which of the tied cells is shown depends on the order of the cells, but nothing else does.
theorem sortOrder_valueOf_perm (hs : Seeks f wanted) (hn : ∀ d ∈ cells, ¬type.isNan d)
    (hp : cells'.Perm cells) :
    type.sortOrder (valueOf f type cells') (valueOf f type cells) = .eq := by
  have hn' : ∀ d ∈ cells', ¬type.isNan d := fun d hd => hn d (hp.mem_iff.mp hd)
  obtain ⟨hv, hc⟩ | ⟨c, hv, front, back, he, hu, -⟩ := valueOf_cases hs hn <;>
  obtain ⟨hv', hc'⟩ | ⟨c', hv', front', back', he', hu', -⟩ := valueOf_cases hs hn'
  case inl.inl => rw [hv, hv', ColumnType.sortOrder_self]
  case inl.inr => exact absurd hu'.candidate (hc c' (hp.mem_iff.mp (by simp [he'])))
  case inr.inl => exact absurd hu.candidate (hc' c (hp.mem_iff.mpr (by simp [he])))
  case inr.inr =>
    rw [hv, hv', ColumnType.sortOrder_congr Text.trim_trim Text.trim_trim]
    exact hu.tied hs hu' (hp.mem_iff.mpr (by simp [he])) (hp.mem_iff.mp (by simp [he']))

theorem valueOf_isExtreme (hs : Seeks f wanted) (hn : ∀ d ∈ cells, ¬type.isNan d) :
    (valueOf f type cells = [] ↔ ∀ d ∈ cells, ¬type.isCandidate d) ∧
    (valueOf f type cells ≠ [] →
      ∃ c, valueOf f type cells = c.trim ∧ IsFirstUnbeaten type wanted cells c) ∧
    ∀ cells', cells'.Perm cells →
      type.sortOrder (valueOf f type cells') (valueOf f type cells) = .eq := by
  refine ⟨⟨fun hv => ?blank, fun hc => ?none⟩, fun hv => ?some, fun _ => sortOrder_valueOf_perm hs hn⟩
  case blank =>
    obtain ⟨-, hc⟩ | ⟨c, hv', -, -, -, hu, -⟩ := valueOf_cases hs hn
    · exact hc
    · exact absurd (hv'.symm.trans hv) (ColumnType.trim_ne_nil_of_isCandidate hu.candidate)
  case none =>
    obtain ⟨hv, -⟩ | ⟨c, -, front, back, he, hu, -⟩ := valueOf_cases hs hn
    · exact hv
    · exact absurd hu.candidate (hc c (by simp [he]))
  case some =>
    obtain ⟨hv', -⟩ | h := valueOf_cases hs hn
    · exact absurd hv' hv
    · exact h

-- A blank cell, a cell that is no number, and two cells for each of the extremes.
def tiedCells : List Text :=
  [" ".toList, "n/a".toList, " 9".toList, "10".toList, "09 ".toList, "+10".toList]

theorem valueOf_isExtreme_tiedCells :
    (∀ d ∈ tiedCells, ¬ColumnType.integer.isNan d) ∧
    valueOf .min .integer tiedCells = "9".toList ∧
    (∃ c, "9".toList = c.trim ∧ IsFirstUnbeaten .integer .lt tiedCells c) ∧
    valueOf .max .integer tiedCells.reverse = "+10".toList ∧
    ColumnType.integer.sortOrder "+10".toList (valueOf .max .integer tiedCells) = .eq ∧
    valueOf .min .integer (tiedCells.take 2) = [] := by
  have hn : ∀ d ∈ tiedCells, ¬ColumnType.integer.isNan d := by decide +kernel
  have hv : valueOf .min .integer tiedCells = "9".toList := by decide +kernel
  have hr : valueOf .max .integer tiedCells.reverse = "+10".toList := by decide +kernel
  obtain ⟨-, hmin, -⟩ := valueOf_isExtreme .min hn
  obtain ⟨-, -, hmax⟩ := valueOf_isExtreme .max hn
  obtain ⟨hnone, -, -⟩ := valueOf_isExtreme .min fun d hd => hn d (List.mem_of_mem_take hd)
  have hmin := hmin (by simp [hv])
  have hmax := hmax _ (List.reverse_perm _)
  rw [hv] at hmin
  rw [hr] at hmax
  exact ⟨hn, hv, hmin, hr, hmax, hnone.mpr (by decide +kernel)⟩

end Accumulator
end FlatQuery
