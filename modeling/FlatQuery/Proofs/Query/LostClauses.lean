import FlatQuery.Proofs.Pattern.Keywords
import FlatQuery.Proofs.Pattern.Splits
import FlatQuery.Proofs.Query.Reading

namespace FlatQuery

variable {q : Text} {w g o n s : Span} {k : Keyword}

namespace Keyword

variable {t : Text}

theorem exists_last (h : k.occursIn t) : ∃ s, k.last? t = some s := by
  cases hs : k.spans t
  case nil => simp [occursIn, Pattern.occursIn, show k.pattern.spans t = [] from hs] at h
  case cons s l => exact ⟨_, List.getLast?_eq_some_getLast (l := k.spans t) (by simp [hs])⟩

-- The text cut at the last place of the keyword.
theorem exists_of_last (h : k.last? t = some s) :
    ∃ u m v, t = u ++ m ++ v ∧ Spells k.letters m ∧ endsWord u = false ∧ startsWord v = false ∧
      s = ⟨u.length, u.length + m.length⟩ :=
  exists_of_mem_spans (List.mem_of_getLast? h)

-- What a keyword of one word is found in after another keyword, it is last found in there.
theorem start_of_occursIn_drop {k' : Keyword} (hk : k.letters.all Char.isLower)
    (hs : k'.last? t = some s) (ho : k.occursIn (t.drop s.stop)) :
    ∃ s', k.last? t = some s' ∧ s.stop ≤ s'.start := by
  obtain ⟨u, m, v, rfl, -, -, hv, rfl⟩ := exists_of_last hs
  have hd : (u ++ m ++ v).drop (u.length + m.length) = v := by simp
  rw [hd] at ho
  obtain ⟨s', h'⟩ := exists_last ho
  refine ⟨s'.shift (u ++ m).length, ?_, by simp [Span.shift]⟩
  have h' : (k.spans v).getLast? = some s' := h'
  have ha := spans_append_of_solid (a := u ++ m) hk (.inr hv)
  have hl : k.last? (u ++ m ++ v) = (k.spans (u ++ m ++ v)).getLast? := rfl
  rw [hl, ha, List.getLast?_append, List.getLast?_map, h']
  rfl

theorem count_take_le {k' : Keyword} (hk : k.letters.all Char.isLower) (hs : k'.last? t = some s) :
    k.count (t.take s.start) ≤ k.count t := by
  obtain ⟨u, m, v, rfl, -, hu, -, rfl⟩ := exists_of_last hs
  have ha := congrArg List.length (spans_append_of_solid (a := u) (b := m ++ v) hk (.inl hu))
  have ht : (u ++ m ++ v).take u.length = u := by simp
  rw [← List.append_assoc, List.length_append] at ha
  rw [ht]
  exact Nat.le.intro ha.symm

theorem start_le_stop (h : k.last? t = some s) : s.start ≤ s.stop :=
  Pattern.start_le_stop (List.mem_of_getLast? h)

theorem occursIn_drop (h : k.last? t = some s) (hi : i ≤ s.start) : k.occursIn (t.drop i) := by
  obtain ⟨u, m, v, rfl, hm, hu, hv, rfl⟩ := exists_of_last h
  rw [occursIn_iff, List.append_assoc, List.drop_append_of_le_length hi, ← List.append_assoc]
  exact .suffix (a := u.take i) hm (by rwa [List.take_append_drop]) hv

end Keyword

theorem Text.closesSubquery_trim {t : Text} : t.trim.closesSubquery = t.closesSubquery :=
  Text.contains_strip (by decide)

namespace Clause

-- The clause that ends the filter: the `group by`, or the `order by` of a query without groups.
def afterFilter? (query : Text) : Option Span :=
  (Keyword.groupBy.last? query).or (Keyword.orderBy.last? query)

-- A parenthesis is closed between the `where` and the clause after it.
def losesFilter (query : Text) : Bool :=
  match Keyword.filter.last? query, afterFilter? query with
  | some filter, some next =>
    filter.stop < next.start && (query.slice ⟨filter.stop, next.start⟩).closesSubquery
  | _, _ => false

-- A parenthesis is closed after the `group by`, and none is opened.
def losesGroups (query : Text) : Bool :=
  (Keyword.groupBy.last? query).any fun group =>
    Text.closesSubquery (query.drop group.stop) && !(query.drop group.stop).contains '('

-- A parenthesis is closed after the `order by`, and none is opened, or a `group by` follows.
def losesOrders (query : Text) : Bool :=
  (Keyword.orderBy.last? query).any fun order =>
    Text.closesSubquery (query.drop order.stop) &&
      (!(query.drop order.stop).contains '(' || Keyword.groupBy.occursIn (query.drop order.stop))

section Filter

theorem filterOfText_ne_absent {text : Text} : filterOfText text ≠ .absent why := by
  simp only [filterOfText]
  generalize (if text.any isBlank then 5 else 3) = least
  split
  case isTrue => simp
  case isFalse => simp

-- Without a sub-query, no clause may stand ahead of the filter.
theorem lastFilter_some (hs : Keyword.select.count q ≤ 1) (hn : afterFilter? q = some n) :
    lastFilter q start (some n.start) = .malformed := by
  have hc : Keyword.select.count (q.take n.start) ≤ 1 := by
    obtain h | ⟨-, h⟩ := Option.or_eq_some_iff.mp hn
    case inl => exact (Keyword.count_take_le (by decide) h).trans hs
    case inr => exact (Keyword.count_take_le (by decide) h).trans hs
  simp [lastFilter, Nat.not_lt.mpr hc]

theorem lastFilter_ne_absent (hs : Keyword.select.count q ≤ 1) :
    lastFilter q start none ≠ .absent why := by
  simp only [lastFilter, Nat.not_lt.mpr hs]
  split
  case isTrue => simp
  case isFalse => exact filterOfText_ne_absent

-- With one `select` at most, a filter that is read ends before the next clause, and is lost only to
-- a closing parenthesis.
theorem filter_spec (hs : Keyword.select.count q ≤ 1) (hw : Keyword.filter.last? q = some w)
    (hm : filter q ≠ .malformed) :
    (∀ n, afterFilter? q = some n → w.stop < n.start) ∧
      ((∃ why, filter q = .absent why) ↔ losesFilter q) := by
  have ha : ((Keyword.groupBy.last? q).map Span.start).or ((Keyword.orderBy.last? q).map Span.start) =
      (afterFilter? q).map Span.start := by
    rw [afterFilter?, Option.map_or]
  simp only [filter, hw, ha] at hm ⊢
  split at hm
  case isTrue => contradiction
  case isFalse hmin =>
    rw [if_neg hmin]
    cases hn : afterFilter? q
    case none => simp [losesFilter, hw, hn, lastFilter_ne_absent hs]
    case some n =>
      simp only [hn, Option.map_some] at hm ⊢
      split at hm
      case isFalse => exact absurd (lastFilter_some hs hn) hm
      case isTrue hlt =>
        -- A clause follows the filter, so that only what is between them decides.
        have hl : losesFilter q = Text.closesSubquery (q.slice ⟨w.stop, n.start⟩).trim := by
          simp [losesFilter, hw, hn, hlt, Text.closesSubquery_trim]
        rw [if_pos hlt, hl]
        refine ⟨fun n' hn' => Option.some.inj hn' ▸ hlt, ?_⟩
        split at hm
        case isTrue => contradiction
        case isFalse he =>
          rw [if_neg he]
          split
          case isTrue hc => simp [hc]
          case isFalse hc => simp [hc, filterOfText_ne_absent]

-- No `where` stands after the clause that ends the filter.
theorem filter_not_in_tail (hs : Keyword.select.count q ≤ 1) (hm : filter q ≠ .malformed)
    (hn : afterFilter? q = some n) (hk : k.last? q = some n) :
    Keyword.filter.occursIn (q.drop n.stop) = false := by
  refine Bool.eq_false_iff.mpr fun ho => ?_
  have ⟨w, hw, hle⟩ := Keyword.start_of_occursIn_drop (by decide) hk ho
  have hlt := (filter_spec hs hw hm).left n hn
  have := Keyword.start_le_stop hk
  have := Keyword.start_le_stop hw
  omega

-- A `where` after the `order by` has a `group by` after it.
theorem groups_after_filter (hs : Keyword.select.count q ≤ 1) (hm : filter q ≠ .malformed)
    (hl : Keyword.orderBy.last? q = some o) (ho : Keyword.filter.occursIn (q.drop o.stop)) :
    Keyword.groupBy.occursIn (q.drop o.stop) := by
  cases hg : Keyword.groupBy.last? q
  case none =>
    have ha : afterFilter? q = some o := by simp [afterFilter?, hg, hl]
    simp [filter_not_in_tail hs hm ha hl] at ho
  case some g =>
    have ha : afterFilter? q = some g := by simp [afterFilter?, hg]
    have ⟨w, hw, hle⟩ := Keyword.start_of_occursIn_drop (by decide) hl ho
    have hlt := (filter_spec hs hw hm).left g ha
    have := Keyword.start_le_stop hw
    exact Keyword.occursIn_drop hg (by omega)

-- A filter that is there has a condition.
theorem texts_conditions_eq_nil_iff (hf : filter q ≠ .malformed) (hc : conditions q ≠ .malformed) :
    (conditions q).texts = [] ↔ ∃ why, filter q = .absent why := by
  rw [conditions] at hc ⊢
  cases h : filter q
  case absent => simp [bind, texts]
  case malformed => contradiction
  case present text =>
    simp only [h, bind] at hc ⊢
    split at hc
    case h_1 => contradiction
    case h_2 pieces hp =>
      split at hc
      case isFalse => contradiction
      case isTrue ha =>
        have hn : pieces ≠ [] := by
          rintro rfl
          exact Pattern.texts?_joiners_ne_nil hp
        simp [ha, texts, hn]

end Filter

section Tail

variable {t : Text} {others : List Keyword} {read : Text → Clause (List Text)}

theorem texts_fieldList_ne_nil {text : Text} (hm : fieldList limit text ≠ .malformed) :
    (fieldList limit text).texts ≠ [] := by
  simp only [fieldList] at hm ⊢
  split at hm
  case isFalse => contradiction
  case isTrue h =>
    rw [if_pos h]
    simp [texts, Text.pieces_ne_nil]

-- A list of fields is empty only where its clause counts as part of a sub-query.
theorem texts_fieldsOfTail_eq_nil_iff (hr : ∀ text, read text ≠ .malformed → (read text).texts ≠ [])
    (hm : fieldsOfTail others read t ≠ .malformed) :
    (fieldsOfTail others read t).texts = [] ↔
      t.closesSubquery ∧ (!t.contains '(' || others.any (·.occursIn t)) := by
  simp only [fieldsOfTail] at hm ⊢
  split at hm
  case isTrue ho =>
    rw [if_pos ho]
    split at hm
    case isFalse => contradiction
    case isTrue hc => simp [texts, ho, hc]
  case isFalse ho =>
    rw [if_neg ho]
    split at hm
    case isTrue hc =>
      rw [if_pos hc]
      simp_all [texts]
    case isFalse hc =>
      rw [if_neg hc]
      have := hr t hm
      simp_all

theorem texts_tail_eq_nil_iff (hl : k.last? q = some n)
    (hr : ∀ text, read text ≠ .malformed → (read text).texts ≠ [])
    (hm : (tail k q).bind (fieldsOfTail others read) ≠ .malformed) :
    ((tail k q).bind (fieldsOfTail others read)).texts = [] ↔
      Text.closesSubquery (q.drop n.stop) ∧
        (!(q.drop n.stop).contains '(' || others.any (·.occursIn (q.drop n.stop))) := by
  have ho : others.any (·.occursIn (q.drop n.stop)) =
      others.any (·.occursIn (Text.trim (q.drop n.stop))) := by
    simp only [Keyword.occursIn_trim]
  have hp : (q.drop n.stop).contains '(' = (Text.trim (q.drop n.stop)).contains '(' :=
    (Text.contains_strip (by decide)).symm
  rw [ho, hp, ← Text.closesSubquery_trim]
  simp only [tail, hl] at hm ⊢
  split at hm
  case isTrue => contradiction
  case isFalse he =>
    rw [if_neg he]
    exact texts_fieldsOfTail_eq_nil_iff hr hm

end Tail

end Clause

namespace Plan

variable {settings : Settings} {raw : Text} {plan : Plan}

-- Without a sub-query, exactly the clauses with these closing parentheses are dropped.
theorem lost_iff (h : parse settings raw = .ok plan) (hs : Keyword.select.count raw = 1) :
    (Keyword.filter.occursIn raw → (plan.predicates = [] ↔ Clause.losesFilter raw.trim)) ∧
    (Keyword.groupBy.occursIn raw → (plan.groupBy = [] ↔ Clause.losesGroups raw.trim)) ∧
    (Keyword.orderBy.occursIn raw → (plan.orderBy = [] ↔ Clause.losesOrders raw.trim)) := by
  have h := parse_eq_ok_iff.mp h
  have hs : Keyword.select.count raw.trim ≤ 1 := by rw [Keyword.count_trim, hs]
  refine ⟨fun ho => ?_, fun ho => ?_, fun ho => ?_⟩
  all_goals
    rw [← Keyword.occursIn_trim] at ho
    obtain ⟨s, hl⟩ := Keyword.exists_last ho
  case refine_1 =>
    rw [← (Clause.filter_spec hs hl h.filter).right,
      ← Clause.texts_conditions_eq_nil_iff h.filter h.conditions, ← List.length_eq_zero_iff,
      length_of_mapM_eq_ok h.predicates, List.length_eq_zero_iff]
  case refine_2 =>
    have ha : Clause.afterFilter? raw.trim = some s := by simp [Clause.afterFilter?, hl]
    have hf := Clause.filter_not_in_tail hs h.filter ha hl
    rw [h.groupBy, Clause.groupBy,
      Clause.texts_tail_eq_nil_iff hl (fun _ => Clause.texts_fieldList_ne_nil) h.groups]
    simp [Clause.losesGroups, hl, hf]
  case refine_3 =>
    rw [h.orderBy, Clause.orderBy,
      Clause.texts_tail_eq_nil_iff hl (fun _ => Clause.texts_fieldList_ne_nil) h.orders]
    have hg := Clause.groups_after_filter hs h.filter hl
    have ha : [Keyword.filter, .groupBy].any (·.occursIn (raw.trim.drop s.stop)) =
        Keyword.groupBy.occursIn (raw.trim.drop s.stop) := by
      simpa using hg
    simp [Clause.losesOrders, hl, ha]

def plainQuery : Text :=
  "select a from t.csv where b = 1 group by a order by a".toList

theorem lost_iff_plainQuery :
    ∃ plan, parse {} plainQuery = .ok plan ∧
      plan.predicates ≠ [] ∧ plan.groupBy ≠ [] ∧ plan.orderBy ≠ [] := by
  have hk : Keyword.filter.occursIn plainQuery ∧ Keyword.groupBy.occursIn plainQuery ∧
      Keyword.orderBy.occursIn plainQuery := by decide +kernel
  have hl : Clause.losesFilter plainQuery.trim = false ∧ Clause.losesGroups plainQuery.trim = false ∧
      Clause.losesOrders plainQuery.trim = false := by decide +kernel
  have hp : (parse {} plainQuery).isOk := by decide +kernel
  cases h : parse {} plainQuery
  case error => rw [h] at hp; contradiction
  case ok plan =>
    obtain ⟨hf, hg, ho⟩ := lost_iff h (by decide +kernel)
    have hf := hf hk.left
    have hg := hg hk.right.left
    have ho := ho hk.right.right
    simp only [hl.left] at hf
    simp only [hl.right.left] at hg
    simp only [hl.right.right] at ho
    exact ⟨plan, rfl, by simpa using hf, by simpa using hg, by simpa using ho⟩

def bracketedQuery : Text :=
  "select * from t.csv where (a = 1 or b = 2) order by a".toList

-- The parenthesis around the conditions takes the whole filter away.
theorem filter_lost_bracketedQuery :
    ∃ plan, parse {} bracketedQuery = .ok plan ∧ Keyword.select.count bracketedQuery = 1 ∧
      Keyword.filter.occursIn bracketedQuery ∧ plan.predicates = [] := by
  have hp : (parse {} bracketedQuery).toOption.map Plan.predicates = some [] := by decide +kernel
  obtain ⟨plan, h, hn⟩ := Option.map_eq_some_iff.mp hp
  cases he : parse {} bracketedQuery
  case error => rw [he] at h; contradiction
  case ok plan' =>
    rw [he] at h
    obtain rfl := Option.some.inj h
    exact ⟨_, rfl, by decide +kernel, by decide +kernel, hn⟩

end Plan
end FlatQuery
