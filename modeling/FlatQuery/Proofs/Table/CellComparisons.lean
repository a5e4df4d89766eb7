import FlatQuery.Proofs.Table.CellOrder
import FlatQuery.Proofs.Text.Words

namespace FlatQuery

section Swap

theorem Text.order_swap (a b : Text) : b.order a = (a.order b).swap := by
  rw [order_eq, order_eq]
  exact Std.OrientedOrd.eq_swap

theorem Text.order_eq_eq_iff {a b : Text} : a.order b = .eq ↔ a = b := by
  fun_induction Text.order a b
  case case1 => simp
  case case2 | case3 => simp
  case case4 c s d t hi =>
    rw [Ordering.then_eq_eq, hi, Std.LawfulEqOrd.compare_eq_iff_eq, Char.toNat_inj, List.cons.injEq]

theorem Binary64.compare?_swap (x y : Binary64) :
    y.compare? x = (x.compare? y).map Ordering.swap := by
  by_cases hx : x = nan
  case pos => subst hx; cases y <;> rfl
  case neg =>
    by_cases hy : y = nan
    case pos => subst hy; cases x <;> rfl
    case neg =>
      rw [compare?_eq hx hy, compare?_eq hy hx, Option.map_some, ← Std.OrientedOrd.eq_swap]

theorem Stamp.order_swap (s t : Stamp) : t.order s = (s.order t).swap := by
  rw [order_eq, order_eq]
  exact Std.OrientedOrd.eq_swap

theorem CellValue.compare?_swap (l r : CellValue) :
    r.compare? l = (l.compare? r).map Ordering.swap := by
  cases l <;> cases r
  case integer.integer m n => exact congrArg some Std.OrientedOrd.eq_swap
  case float.float x y => exact x.compare?_swap y
  case dateTime.dateTime s t => exact congrArg some (s.order_swap t)
  all_goals rfl

end Swap

namespace ColumnType

variable {type : ColumnType} {a b : Text} {o : Ordering} {op : Comparison}

theorem order?_swap (type : ColumnType) (a b : Text) :
    type.order? b a = (type.order? a b).map Ordering.swap := by
  cases hl : type.read? a <;> cases hr : type.read? b <;> simp [order?, hl, hr]
  exact CellValue.compare?_swap ..

-- Also with `nan`, which is tied with every value.
theorem sortOrder_swap (type : ColumnType) (a b : Text) :
    type.sortOrder b a = (type.sortOrder a b).swap := by
  cases hl : type.read? a <;> cases hr : type.read? b <;> simp only [sortOrder, hl, hr]
  case none.none =>
    split
    case isTrue => exact Text.order_swap ..
    case isFalse => rfl
  case some.some l r =>
    rw [l.compare?_swap r]
    cases l.compare? r <;> rfl
  all_goals rfl

theorem sortOrder_self : type.sortOrder a a = .eq := by
  have h := type.sortOrder_swap a a
  cases ho : type.sortOrder a a <;> simp [ho] at h ⊢

theorem sortOrder_of_order? (h : type.order? a b = some o) : type.sortOrder a b = o := by
  cases hl : type.read? a <;> cases hr : type.read? b <;> simp [order?, hl, hr] at h
  simp [sortOrder, hl, hr, h]

theorem satisfies_eq (h : type.isTextual = false) :
    type.satisfies op a b = (type.order? a b).any op.accepts := by
  cases type <;> first | contradiction | rfl

section Ends

variable {a' b' : Text}

theorem read?_congr (h : a'.trim = a.trim) : type.read? a' = type.read? a := by
  cases type <;> simp only [read?, h]

theorem isComparable_congr (h : a'.trim = a.trim) : type.isComparable a' = type.isComparable a := by
  cases type <;> simp only [isComparable, read?_congr h]

theorem foldText_congr (h : a'.trim = a.trim) : foldText a' = foldText a := by
  rw [foldText, h, foldText]

theorem order?_congr (ha : a'.trim = a.trim) (hb : b'.trim = b.trim) :
    type.order? a' b' = type.order? a b := by
  rw [order?, read?_congr ha, read?_congr hb, order?]

theorem satisfies_congr (ha : a'.trim = a.trim) (hb : b'.trim = b.trim) :
    type.satisfies op a' b' = type.satisfies op a b := by
  cases type <;> simp only [satisfies, foldText_congr ha, foldText_congr hb, order?_congr ha hb]

theorem sortOrder_congr (ha : a'.trim = a.trim) (hb : b'.trim = b.trim) :
    type.sortOrder a' b' = type.sortOrder a b := by
  simp only [sortOrder, read?_congr ha, read?_congr hb, foldText_congr ha, foldText_congr hb]

end Ends

-- What the operators and a sort make of a cell and a literal whose order is known.
structure Decided (type : ColumnType) (a b : Text) (o : Ordering) : Prop where
  one  : ∃! op, op ∈ [Comparison.eq, .lt, .gt] ∧ type.satisfies op a b
  eq   : type.satisfies .eq a b ↔ o = .eq
  lt   : type.satisfies .lt a b ↔ o = .lt
  gt   : type.satisfies .gt a b ↔ o = .gt
  ne   : type.satisfies .ne a b = !type.satisfies .eq a b
  le   : type.satisfies .le a b = (type.satisfies .lt a b || type.satisfies .eq a b)
  ge   : type.satisfies .ge a b = (type.satisfies .gt a b || type.satisfies .eq a b)
  sort : type.sortOrder a b = o
  back : type.order? b a = some o.swap

theorem decided_of_order? (ht : type.isTextual = false) (h : type.order? a b = some o) :
    Decided type a b o := by
  have hs (op : Comparison) : type.satisfies op a b = op.accepts o := by
    rw [satisfies_eq ht, h, Option.any_some]
  have hb : type.order? b a = some o.swap := by rw [order?_swap, h, Option.map_some]
  constructor
  case one => cases o <;> simp [hs, ExistsUnique, Comparison.accepts]
  case sort => exact sortOrder_of_order? h
  case back => exact hb
  all_goals cases o <;> simp [hs, Comparison.accepts]

theorem satisfies_of_no_order (ht : type.isTextual = false) (h : type.order? a b = none) :
    type.satisfies op a b = false := by
  rw [satisfies_eq ht, h, Option.any_none]

theorem satisfies_string_eq_iff : string.satisfies .eq a b ↔ string.sortOrder a b = .eq := by
  have hs : string.sortOrder a b = (foldText a).order (foldText b) := rfl
  rw [hs, Text.order_eq_eq_iff]
  simp [satisfies, Comparison.isEquality]

-- One story for filters and sorts, whatever can be read of the two texts.
theorem comparisons_agree (type : ColumnType) (a b : Text) :
    (type ∈ [integer, float, dateTime] →
      match type.order? a b with
      | none => ∀ op, type.satisfies op a b = false
      | some o => Decided type a b o) ∧
    (type = string →
      (∀ op ∈ [Comparison.lt, .le, .gt, .ge], type.satisfies op a b = false) ∧
      type.satisfies .ne a b = (!type.satisfies .eq a b) ∧
      (type.satisfies .eq a b ↔ type.sortOrder a b = .eq)) ∧
    (type = empty → ∀ op, type.satisfies op a b = false) ∧
    ∀ u v u' v' : Text, u.allBlank → v.allBlank → u'.allBlank → v'.allBlank →
      (∀ op, type.satisfies op (u ++ a ++ v) (u' ++ b ++ v') = type.satisfies op a b) ∧
      type.order? (u ++ a ++ v) (u' ++ b ++ v') = type.order? a b ∧
      type.sortOrder (u ++ a ++ v) (u' ++ b ++ v') = type.sortOrder a b := by
  refine ⟨?values, ?texts, ?empty, ?ends⟩
  case values =>
    intro hm
    have ht : type.isTextual = false := by
      revert type
      decide
    split
    case h_1 h => exact fun op => satisfies_of_no_order ht h
    case h_2 o h => exact decided_of_order? ht h
  case texts =>
    rintro rfl
    have hn : (Comparison.ne == Comparison.eq) = false := rfl
    exact ⟨by simp [satisfies, Comparison.isEquality], by simp [satisfies, Comparison.isEquality, hn],
      satisfies_string_eq_iff⟩
  case empty =>
    rintro rfl op
    rfl
  case ends =>
    intro u v u' v' hu hv hu' hv'
    have ha : (u ++ a ++ v).trim = a.trim := Text.trim_append_blanks hu hv
    have hb : (u' ++ b ++ v').trim = b.trim := Text.trim_append_blanks hu' hv'
    exact ⟨fun op => satisfies_congr ha hb, order?_congr ha hb, sortOrder_congr ha hb⟩

theorem comparisons_agree_ten :
    integer ∈ [integer, float, dateTime] ∧ Decided integer "10".toList "9".toList .gt ∧
    (∀ op, float.satisfies op "nan".toList "1".toList = false) ∧
    (string.satisfies .eq "Pu".toList "pU".toList ↔ string.sortOrder "Pu".toList "pU".toList = .eq) ∧
    Text.allBlank " \t".toList ∧
      integer.sortOrder " \t10".toList "9 \t".toList = integer.sortOrder "10".toList "9".toList := by
  have hb : Text.allBlank " \t".toList := rfl
  have ho : integer.order? "10".toList "9".toList = some .gt := by decide
  have hn : float.order? "nan".toList "1".toList = none := by decide +kernel
  obtain ⟨hv, -, -, he⟩ := comparisons_agree integer "10".toList "9".toList
  have hf := (comparisons_agree float "nan".toList "1".toList).left (by decide)
  have hs := (comparisons_agree string "Pu".toList "pU".toList).right.left rfl
  have hv := hv (by decide)
  rw [ho] at hv
  rw [hn] at hf
  exact ⟨by decide, hv, hf, hs.right.right, hb, (he _ [] [] _ hb rfl rfl hb).right.right⟩

end ColumnType
end FlatQuery
