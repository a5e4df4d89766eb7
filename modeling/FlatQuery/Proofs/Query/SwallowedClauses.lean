import FlatQuery.Proofs.Pattern.Occurrences
import FlatQuery.Proofs.Query.LostClauses
import FlatQuery.Proofs.Query.SoundOutlines

namespace FlatQuery

variable {q raw text : Text} {w s : Span} {k : Keyword}

namespace Clause

-- Where the filter that begins at `start` is cut off.
def filterStop (query : Text) (start : Nat) : Nat :=
  match afterFilter? query with
  | some next => if start < next.start then next.start else query.length
  | none => query.length

-- The keyword stands between the last `where` and the place where the filter is cut off.
def swallows (query : Text) (k : Keyword) : Bool :=
  (Keyword.filter.last? query).any fun w =>
    (k.spans query).any fun s => w.stop ≤ s.start && s.stop ≤ filterStop query w.stop

theorem swallows_iff (hw : Keyword.filter.last? q = some w) :
    swallows q k ↔ ∃ s ∈ k.spans q, w.stop ≤ s.start ∧ s.stop ≤ filterStop q w.stop := by
  simp [swallows, hw]

theorem afterFilter?_eq : ((Keyword.groupBy.last? q).map Span.start).or
    ((Keyword.orderBy.last? q).map Span.start) = (afterFilter? q).map Span.start := by
  rw [afterFilter?, Option.map_or]

-- A clause keyword, so the filter is not cut within a word.
theorem exists_last_of_afterFilter (h : afterFilter? q = some s) :
    ∃ k ∈ [Keyword.groupBy, .orderBy], k.last? q = some s := by
  obtain h | ⟨-, h⟩ := Option.or_eq_some_iff.mp h
  case inl => exact ⟨_, by simp, h⟩
  case inr => exact ⟨_, by simp, h⟩

theorem eq_text_of_filterOfText (h : filterOfText t = .present text) : text = t := by
  simp only [filterOfText] at h
  generalize (if t.any isBlank then 5 else 3) = least at h
  split at h
  case isTrue => contradiction
  case isFalse => injection h with h; exact h.symm

theorem eq_text_of_lastFilter (h : lastFilter q start clause = .present text) :
    text = Text.trim (q.drop start) := by
  cases clause
  all_goals
    simp only [lastFilter] at h
    split at h
    case isTrue => contradiction
    case isFalse =>
      split at h
      case isTrue => contradiction
      case isFalse => exact eq_text_of_filterOfText h

theorem not_ordersBeforeGroups (h : filter q = .present text) :
    ordersBeforeGroups q ((Keyword.orderBy.last? q).map Span.start)
      ((Keyword.groupBy.last? q).map Span.start) = false := by
  simp only [filter] at h
  split at h
  case h_1 => contradiction
  case h_2 =>
    split at h
    case isTrue => contradiction
    case isFalse hn => simp_all

theorem filter_eq_present (h : filter q = .present text) :
    ∃ w, Keyword.filter.last? q = some w ∧
      text = Text.trim (q.slice ⟨w.stop, filterStop q w.stop⟩) := by
  simp only [filter, afterFilter?_eq] at h
  split at h
  case h_1 => contradiction
  case h_2 w hw =>
    refine ⟨w, hw, ?_⟩
    have hd : q.slice ⟨w.stop, q.length⟩ = q.drop w.stop := by
      rw [Text.slice, List.take_of_length_le (by simp)]
    split at h
    case isTrue => contradiction
    case isFalse =>
      rw [filterStop]
      cases hn : afterFilter? q
      case none =>
        rw [hn] at h
        rw [hd]
        exact eq_text_of_lastFilter h
      case some n =>
        rw [hn] at h
        simp only [Option.map_some] at h ⊢
        split at h
        case isFalse hlt =>
          rw [if_neg hlt, hd]
          exact eq_text_of_lastFilter h
        case isTrue hlt =>
          rw [if_pos hlt]
          split at h
          case isTrue => contradiction
          case isFalse =>
            split at h
            case isTrue => contradiction
            case isFalse => exact eq_text_of_filterOfText h

-- Both ends of the filter lie between words of the query.
theorem filterStop_spec (hw : Keyword.filter.last? q = some w) :
    w.stop ≤ filterStop q w.stop ∧ filterStop q w.stop ≤ q.length ∧
      startsWord (q.drop w.stop) = false ∧
      (endsWord (q.take (filterStop q w.stop)) = false ∨
        startsWord (q.drop (filterStop q w.stop)) = false) := by
  have hl := Keyword.stop_le_length (Keyword.mem_of_last? hw)
  have hv : startsWord (q.drop w.stop) = false := by
    obtain ⟨u, m, v, rfl, -, -, hv, rfl⟩ := Keyword.exists_of_last hw
    simpa using hv
  rw [filterStop]
  split
  case h_2 => exact ⟨hl, le_rfl, hv, .inr (by rw [List.drop_length]; rfl)⟩
  case h_1 n hn =>
    split
    case isFalse => exact ⟨hl, le_rfl, hv, .inr (by rw [List.drop_length]; rfl)⟩
    case isTrue hlt =>
      obtain ⟨k, -, hk⟩ := exists_last_of_afterFilter hn
      have hs := Keyword.start_lt_stop (Keyword.mem_of_last? hk)
      have hn := Keyword.stop_le_length (Keyword.mem_of_last? hk)
      have hu : endsWord (q.take n.start) = false := by
        obtain ⟨u, m, v, rfl, -, hu, -, rfl⟩ := Keyword.exists_of_last hk
        simpa using hu
      exact ⟨by omega, by omega, hv, .inl hu⟩

-- What the filter mentions stands in the query, between the two places where it is cut.
theorem occursIn_filter_iff (h : filter q = .present text) (k : Keyword) :
    k.occursIn text ↔ swallows q k := by
  obtain ⟨w, hw, rfl⟩ := filter_eq_present h
  obtain ⟨hle, hl, hv, hr⟩ := filterStop_spec hw
  rw [swallows_iff hw, Keyword.occursIn_trim, Keyword.occursIn_slice_iff hle hl hv hr]

theorem not_swallows_filter : swallows q .filter = false := by
  refine Bool.eq_false_iff.mpr fun h => ?_
  cases hw : Keyword.filter.last? q
  case none => simp [swallows, hw] at h
  case some w =>
    obtain ⟨s, hs, hle, -⟩ := (swallows_iff hw).mp h
    have := Keyword.start_lt_stop hs
    have := Keyword.start_lt_stop (Keyword.mem_of_last? hw)
    obtain rfl | _ := Keyword.eq_or_stop_le_of_last? hw hs <;> omega

section Single

variable (hs : Keyword.select.count q ≤ 1) (hf : filter q = .present text)
include hs hf

-- Without a sub-query, the clause that ends the filter comes after it.
theorem filterStop_eq (hw : Keyword.filter.last? q = some w) (hn : afterFilter? q = some n) :
    filterStop q w.stop = n.start := by
  have hm : filter q ≠ .malformed := by rw [hf]; simp
  rw [filterStop, hn]
  exact if_pos ((filter_spec hs hw hm).left n hn)

-- An `order by` between the filter and its `group by` would need a closing parenthesis, and lose
-- the filter by it.
theorem not_order_before_group (hw : Keyword.filter.last? q = some w)
    (hg : Keyword.groupBy.last? q = some g) (ho : Keyword.orderBy.last? q = some o)
    (hle : w.stop ≤ o.start) : g.start ≤ o.start := by
  by_contra! hlt
  have hn : afterFilter? q = some g := by simp [afterFilter?, hg]
  have hm : filter q ≠ .malformed := by rw [hf]; simp
  have hb := not_ordersBeforeGroups hf
  simp only [hg, ho, Option.map_some, ordersBeforeGroups, hlt, decide_true, Bool.true_and,
    Bool.not_eq_false'] at hb
  have hl : losesFilter q = false := by
    refine Bool.eq_false_iff.mpr fun hl => ?_
    obtain ⟨why, h⟩ := (filter_spec hs hw hm).right.mpr hl
    rw [hf] at h
    contradiction
  have hwg : w.stop < g.start := (filter_spec hs hw hm).left g hn
  simp only [losesFilter, hw, hn, hwg, decide_true, Bool.true_and] at hl
  have hsub : ')' ∈ q.slice ⟨w.stop, g.start⟩ := by
    have hb : ')' ∈ (q.take g.start).drop o.start := by
      rw [List.drop_take]
      simpa [Text.closesSubquery, Text.slice] using hb
    have := (List.drop_sublist_drop_left (q.take g.start) hle).mem hb
    rwa [List.drop_take] at this
  simp [Text.closesSubquery, hsub] at hl

theorem not_swallows_of_single (hk : k = .groupBy ∨ k = .orderBy) (hc : k.count q ≤ 1) :
    swallows q k = false := by
  refine Bool.eq_false_iff.mpr fun h => ?_
  obtain ⟨w, hw, -⟩ := filter_eq_present hf
  obtain ⟨s, hsp, hle, hst⟩ := (swallows_iff hw).mp h
  have hlt := Keyword.start_lt_stop hsp
  have hlast : k.last? q = some s := by
    have hc : (k.spans q).length ≤ 1 := hc
    have := List.length_pos_of_mem hsp
    obtain ⟨s', hs'⟩ : ∃ s', k.spans q = [s'] := List.length_eq_one_iff.mp (by omega)
    rw [hs', List.mem_singleton] at hsp
    rw [Keyword.last?_eq, hs', hsp]
    rfl
  -- The only place of the keyword would have to end the filter, and lie within it.
  cases hg : Keyword.groupBy.last? q
  case none =>
    obtain rfl | rfl := hk
    case inl => rw [hg] at hlast; contradiction
    case inr =>
      rw [filterStop_eq hs hf hw (n := s) (by simp [afterFilter?, hg, hlast])] at hst
      omega
  case some g =>
    rw [filterStop_eq hs hf hw (n := g) (by simp [afterFilter?, hg])] at hst
    obtain rfl | rfl := hk
    case inl =>
      obtain rfl := Option.some.inj (hg.symm.trans hlast)
      omega
    case inr =>
      have := not_order_before_group hs hf hw hg hlast hle
      omega

end Single

-- A filter has the clauses that it swallows, and never a second `where`; a query without a
-- sub-query has none to swallow.
theorem filter_swallows_iff (h : ofSound filter raw = .present text) :
    Keyword.filter.occursIn text = false ∧
    (∀ k, k.occursIn text ↔ swallows raw.trim k) ∧
    (Keyword.select.count raw = 1 →
      Keyword.groupBy.occursIn text = false ∧ Keyword.orderBy.occursIn text = false) := by
  simp only [ofSound] at h
  split at h
  case isFalse => contradiction
  case isTrue hsound =>
    have ho := occursIn_filter_iff h
    have hc : Outline.check raw = .ok () := by
      simp only [Outline.isSound] at hsound
      cases hc : Outline.check raw
      case error => rw [hc] at hsound; contradiction
      case ok => rfl
    refine ⟨?filter, ho, fun hs => ?single⟩
    case filter => rw [Bool.eq_iff_iff, ho, not_swallows_filter]
    case single =>
      have hs : Keyword.select.count raw.trim ≤ 1 := by rw [Keyword.count_trim, hs]
      have hk (k : Keyword) (hk : k = .groupBy ∨ k = .orderBy) : k.occursIn text = false := by
        have hle := Outline.count_le_select (k := k) hc (by obtain rfl | rfl := hk <;> simp)
        rw [Bool.eq_iff_iff, ho, not_swallows_of_single hs h hk (by omega)]
      exact ⟨hk _ (.inl rfl), hk _ (.inr rfl)⟩

theorem filter_swallows_iff_plainQuery :
    ofSound filter Plan.plainQuery = .present "b = 1".toList ∧
      Keyword.select.count Plan.plainQuery = 1 ∧
      swallows Plan.plainQuery.trim .orderBy = false ∧
      Keyword.orderBy.occursIn "b = 1".toList = false := by
  have h : ofSound filter Plan.plainQuery = .present "b = 1".toList := by decide +kernel
  have hs : Keyword.select.count Plan.plainQuery = 1 := by decide +kernel
  obtain ⟨-, hk, hn⟩ := filter_swallows_iff h
  have ho := (hn hs).right
  exact ⟨h, hs, by rw [Bool.eq_iff_iff, ← hk, ho], ho⟩

def groupedBelow : Text :=
  "select a from (select b from u.csv where b>1 group by b) where a>1 order by a".toList

-- The `group by` of the sub-query is taken for the end of the filter; it lies too far ahead, and so
-- the filter goes on through the `order by`.
theorem filter_swallows_order_groupedBelow :
    ofSound filter groupedBelow = .present "a>1 order by a".toList ∧
      Keyword.orderBy.occursIn "a>1 order by a".toList := by
  decide +kernel

end Clause
end FlatQuery
