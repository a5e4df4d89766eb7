import FlatQuery.Proofs.Query.Refusals
import FlatQuery.Proofs.Query.SpacedClauses

namespace FlatQuery

open Spaced

-- The texts differ only in the length of their white space.
def SameInk (t t' : Text) : Prop :=
  ∃ q : Spaced, on .before q = t ∧ on .after q = t'

structure Predicate.SameInk (p p' : Predicate) : Prop where
  field    : FlatQuery.SameInk p.field p'.field
  operator : p'.operator = p.operator
  literal  : FlatQuery.SameInk p.literal p'.literal
  negated  : p'.negated = p.negated

inductive Projection.SameInk : Projection → Projection → Prop
  | all : SameInk .all .all
  | fields (h : List.Forall₂ FlatQuery.SameInk names names') :
    SameInk (.fields names) (.fields names')

-- The same plan up to white space. The raw text is not compared.
structure Plan.SameInk (p p' : Plan) : Prop where
  source      : p'.source = p.source
  baseQuery   : FlatQuery.SameInk p.baseQuery p'.baseQuery
  projection  : p.projection.SameInk p'.projection
  predicates  : List.Forall₂ Predicate.SameInk p.predicates p'.predicates
  connectives : p'.connectives = p.connectives
  aggregates  : p'.aggregates = p.aggregates
  groupBy     : List.Forall₂ FlatQuery.SameInk p.groupBy p'.groupBy
  orderBy     : List.Forall₂ FlatQuery.SameInk p.orderBy p'.orderBy
  kind        : p'.kind = p.kind
  sortKeys    : p'.sortKeys = p.sortKeys

section Parts

variable {t t' : Text} {ts ts' : List Text}

theorem sameInk_map (qs : List Spaced) :
    List.Forall₂ SameInk (qs.map (on .before)) (qs.map (on .after)) :=
  List.forall₂_map_left_iff.mpr <| List.forall₂_map_right_iff.mpr <|
    List.forall₂_same.mpr fun q _ => ⟨q, rfl, rfl⟩

theorem SameInk.eq_of_no_blank (h : SameInk t t')
    (hn : t.any isBlank = false ∨ t'.any isBlank = false) : t' = t := by
  obtain ⟨q, rfl, rfl⟩ := h
  cases hn
  case inl hn => exact on_eq_of_no_blank hn .after
  case inr hn => exact (on_eq_of_no_blank hn .before).symm

theorem Projection.sameInk_ofEntries (h : List.Forall₂ FlatQuery.SameInk ts ts') :
    (ofEntries ts).SameInk (ofEntries ts') := by
  have hstar : ts = [['*']] ↔ ts' = [['*']] := by
    constructor
    case mp =>
      rintro rfl
      obtain ⟨t', ts', ht, hn, rfl⟩ := List.forall₂_cons_left_iff.mp h
      rw [List.forall₂_nil_left_iff.mp hn, ht.eq_of_no_blank (.inl (by decide))]
    case mpr =>
      rintro rfl
      obtain ⟨t, ts, ht, hn, rfl⟩ := List.forall₂_cons_right_iff.mp h
      rw [List.forall₂_nil_right_iff.mp hn, ← ht.eq_of_no_blank (.inr (by decide))]
  by_cases hs : ts = [['*']]
  case pos =>
    rw [ofEntries, ofEntries, if_pos hs, if_pos (hstar.mp hs)]
    exact .all
  case neg =>
    rw [ofEntries, ofEntries, if_neg hs, if_neg (mt hstar.mpr hs)]
    exact .fields h

theorem exists_predicates_sameInk {ps : List Predicate} (h : List.Forall₂ SameInk ts ts')
    (hp : ts.mapM Predicate.parse = .ok ps) :
    ∃ ps', ts'.mapM Predicate.parse = .ok ps' ∧ List.Forall₂ Predicate.SameInk ps ps' := by
  induction h generalizing ps
  case nil =>
    obtain rfl := Except.ok.inj hp
    exact ⟨[], rfl, .nil⟩
  case cons h _ hi =>
    obtain ⟨p, ps, hp', hps, rfl⟩ := mapM_cons_eq_ok.mp hp
    obtain ⟨ps', hps', hr⟩ := hi hps
    obtain ⟨q, rfl, rfl⟩ := h
    obtain ⟨e, he⟩ | ⟨field, op, literal, negated, hq⟩ := Predicate.exists_parse_on q
    case inl =>
      rw [he] at hp'
      contradiction
    case inr =>
      rw [hq] at hp'
      obtain rfl := Except.ok.inj hp'
      exact ⟨_, mapM_cons_eq_ok.mpr ⟨_, _, hq .after, hps', rfl⟩,
        .cons ⟨⟨field, rfl, rfl⟩, rfl, ⟨literal, rfl, rfl⟩, rfl⟩ hr⟩

-- A sort key is read word by word.
theorem sortKeys_of_sameInk (h : List.Forall₂ SameInk ts ts') :
    ts'.mapM SortKey.parse = ts.mapM SortKey.parse := by
  induction h
  case nil => rfl
  case cons h _ hi =>
    obtain ⟨q, rfl, rfl⟩ := h
    have hq : SortKey.parse (on .after q) = SortKey.parse (on .before q) := by
      rw [SortKey.parse, words_on .after .before, SortKey.parse]
    rw [List.mapM_cons, List.mapM_cons, hq, hi]

-- The texts of a clause that is made of the same marks on both sides.
theorem Clause.texts_after {c : Clause (List Spaced)} {x : Side → Clause (List Text)}
    (hx : ∀ s, x s = c.map (·.map (on s))) (hn : x .before ≠ .malformed) :
    x .after ≠ .malformed ∧ List.Forall₂ SameInk (x .before).texts (x .after).texts := by
  rw [hx] at hn
  rw [hx, hx]
  cases c
  case absent => exact ⟨by simp [map], .nil⟩
  case malformed => contradiction
  case present qs => exact ⟨by simp [map], sameInk_map qs⟩

end Parts

namespace Plan

variable {settings : Settings} {q : Spaced} {plan : Plan}

section After

variable (hk : Keeps q) (h : Reads settings (on .before q) plan)
include hk h

theorem exists_base_after : ∃ base, Clause.base (on .after q).trim = .present base ∧
    FlatQuery.SameInk plan.baseQuery base := by
  obtain ⟨c, hc⟩ := Clause.exists_base hk.trim
  have hb := h.base
  rw [trim_on, hc] at hb
  obtain ⟨b, rfl, hb'⟩ := Clause.map_eq_present_iff.mp hb
  exact ⟨on .after b, by rw [trim_on, hc]; rfl, b, hb', rfl⟩

omit hk in
theorem exists_selectList_after : ∃ entries,
    Clause.selectList (on .after q).trim = .present entries ∧
      plan.projection.SameInk (.ofEntries entries) := by
  obtain ⟨c, hc⟩ := Clause.exists_selectList q.trim
  obtain ⟨entries, he, hp⟩ := h.selectList
  rw [trim_on, hc] at he
  obtain ⟨qs, rfl, rfl⟩ := Clause.map_eq_present_iff.mp he
  rw [hp]
  exact ⟨qs.map (on .after), by rw [trim_on, hc]; rfl,
    Projection.sameInk_ofEntries (sameInk_map qs)⟩

theorem groupBy_after : Clause.groupBy (on .after q).trim ≠ .malformed ∧
    List.Forall₂ FlatQuery.SameInk plan.groupBy (Clause.groupBy (on .after q).trim).texts := by
  obtain ⟨c, hc⟩ := Clause.exists_groupBy hk.trim
  simp only [← trim_on] at hc
  rw [h.groupBy]
  exact Clause.texts_after hc h.groups

theorem orderBy_after : Clause.orderBy (on .after q).trim ≠ .malformed ∧
    List.Forall₂ FlatQuery.SameInk plan.orderBy (Clause.orderBy (on .after q).trim).texts := by
  obtain ⟨c, hc⟩ := Clause.exists_orderBy hk.trim
  simp only [← trim_on] at hc
  rw [h.orderBy]
  exact Clause.texts_after hc h.orders

section Outline

variable (hc : Outline.check (on .after q) = .ok ())
include hc

theorem exists_filter_sides : ∃ c : Clause Spaced,
    (∀ f, c = .present f → ∀ s, ∃ w, Keyword.filter.last? (on s q.trim) = some w ∧
      on s f = Clause.filterText (on s q.trim) w) ∧
    ∀ s, Clause.filter (on s q.trim) = (c.map (on s)).bind Clause.filterOfText := by
  refine Clause.exists_filter hk.trim fun s w hw => ?_
  rw [← trim_on] at hw
  cases s
  case before => exact Outline.minLength_lt_of_check h.outline hw
  case after => exact Outline.minLength_lt_of_check hc hw

theorem exists_conditions_after (hf : Clause.filter (on .after q).trim ≠ .malformed) :
    (Clause.conditions (on .after q).trim ≠ .malformed ∧ ∃ predicates,
      (Clause.conditions (on .after q).trim).texts.mapM Predicate.parse = .ok predicates ∧
        List.Forall₂ Predicate.SameInk plan.predicates predicates) ∧
    Clause.connectives (on .after q).trim ≠ .malformed ∧
      (Clause.connectives (on .after q).trim).texts =
        (Clause.connectives (on .before q).trim).texts := by
  obtain ⟨c, -, hfilter⟩ := exists_filter_sides hk h hc
  have hf' (s) : Clause.filter (on s q.trim) ≠ .malformed := by
    rw [← trim_on]
    cases s
    case before => exact h.filter
    case after => exact hf
  obtain ⟨d, hd⟩ := Clause.exists_conditions_of_filter hfilter hf'
  have hn : d ≠ .malformed := by
    rintro rfl
    have hd := hd .before
    rw [← trim_on] at hd
    exact h.conditions hd
  have ht := Clause.connectives_on hfilter hd hn .after
  simp only [← trim_on] at hd ht
  obtain ⟨hm, hs⟩ := Clause.texts_after hd h.conditions
  exact ⟨⟨hm, exists_predicates_sameInk hs h.predicates⟩, ht⟩

-- With a sound outline and a filter that is long enough, nothing is left that counts characters.
theorem exists_reads_after (hf : Clause.filter (on .after q).trim ≠ .malformed) :
    ∃ plan', Reads settings (on .after q) plan' ∧ plan.SameInk plan' := by
  obtain ⟨base, hb, hbs⟩ := exists_base_after hk h
  obtain ⟨entries, he, hes⟩ := exists_selectList_after h
  obtain ⟨⟨hcon, predicates, hp, hps⟩, htok, htoks⟩ := exists_conditions_after hk h hc hf
  obtain ⟨hg, hgs⟩ := groupBy_after hk h
  obtain ⟨ho, hos⟩ := orderBy_after hk h
  have hcalls : Clause.aggregates (on .after q).trim = Clause.aggregates (on .before q).trim := by
    rw [trim_on, trim_on, Clause.aggregates_on hk.trim .after .before]
  have hsrc : Clause.source settings (on .after q).trim = .present plan.source := by
    rw [trim_on, Clause.source_on settings .after .before, ← trim_on, h.source]
  have hempty {ts ts' : List Text} (h : List.Forall₂ FlatQuery.SameInk ts ts') :
      ts'.isEmpty = ts.isEmpty := by
    cases h <;> rfl
  -- The balance only counts the predicates, and there are as many as before.
  have hbal : checkBalance predicates plan.connectives = .ok () := by
    have hbal := checkBalance_eq_ok_iff.mp h.balance
    rw [← List.length_eq_zero_iff, hps.length_eq] at hbal
    rwa [checkBalance_eq_ok_iff, ← List.length_eq_zero_iff]
  have hsort := sortKeys_of_sameInk hos
  refine ⟨{ plan with
    rawText := on .after q
    baseQuery := base
    projection := .ofEntries entries
    predicates := predicates
    groupBy := (Clause.groupBy (on .after q).trim).texts
    orderBy := (Clause.orderBy (on .after q).trim).texts }, ?reads, ?same⟩
  case reads =>
    exact {
      outline := hc, rawText := rfl, source := hsrc, base := hb, selectList := ⟨entries, he, rfl⟩
      filter := hf, conditions := hcon, predicates := hp
      tokens := htok, connectives := htoks ▸ h.connectives, balance := hbal
      groups := hg, groupBy := rfl, orders := ho, orderBy := rfl
      calls := hcalls ▸ h.calls, aggregates := hcalls ▸ h.aggregates
      kind := by rw [h.kind, ← hempty hgs, ← hempty hos]
      sortKeys := h.sortKeys.imp fun _ hk => hsort.trans hk
    }
  case same =>
    exact {
      source := rfl, baseQuery := hbs, projection := hes, predicates := hps, connectives := rfl
      aggregates := rfl, groupBy := hgs, orderBy := hos, kind := rfl, sortKeys := hsort
    }

end Outline
end After

-- The lengths that a text with a plan has to have: those of its outline, and that of its filter, if
-- it has one.
structure Roomy (filtered : Bool) (query : Text) : Prop extends Outline.Roomy query where
  filter : filtered → ∀ w, Keyword.filter.last? query = some w →
    Clause.leastFilter (Clause.filterText query w) ≤ (Clause.filterText query w).length

theorem hasFilter_iff (h : Reads settings raw plan) :
    plan.hasFilter ↔ ¬∃ why, Clause.filter raw.trim = .absent why := by
  rw [← Clause.texts_conditions_eq_nil_iff h.filter h.conditions, ← List.length_eq_zero_iff,
    ← length_of_mapM_eq_ok h.predicates, List.length_eq_zero_iff, hasFilter]
  simp

-- A filter that is there before the change is there after it, if it is long enough.
theorem filter_after_iff (hk : Keeps q) (h : Reads settings (on .before q) plan)
    (hc : Outline.check (on .after q) = .ok ()) :
    Clause.filter (on .after q).trim ≠ .malformed ↔
      (plan.hasFilter → ∀ w, Keyword.filter.last? (on .after q).trim = some w →
        Clause.leastFilter (Clause.filterText (on .after q).trim w) ≤
          (Clause.filterText (on .after q).trim w).length) := by
  obtain ⟨c, hw, hfilter⟩ := exists_filter_sides hk h hc
  have hb := h.filter
  rw [hasFilter_iff h, trim_on, trim_on, hfilter, hfilter]
  rw [trim_on, hfilter] at hb
  cases c
  case malformed => contradiction
  case absent why => simp [Clause.map, Clause.bind]
  case present f =>
    obtain ⟨w, hw, hf⟩ := hw f rfl .after
    have hm : Clause.filterOfText (on .after f) ≠ .malformed ↔
        Clause.leastFilter (on .after f) ≤ (on .after f).length := by
      rw [Ne, Clause.filterOfText_eq_malformed_iff, Nat.not_lt]
    have hn : ¬∃ why, Clause.filterOfText (on .before f) = .absent why := by
      rintro ⟨why, ha⟩
      exact Clause.filterOfText_ne_absent ha
    refine hm.trans ?_
    simp only [hw, Option.some.injEq, forall_eq', ← hf]
    exact ⟨fun hl _ => hl, fun hl => hl hn⟩

-- White space may be replaced as long as the lengths that are counted are reached.
theorem parse_spaced (hk : Keeps q) (h : parse settings (on .before q) = .ok plan) :
    ((∃ plan', parse settings (on .after q) = .ok plan') ↔
      Roomy plan.hasFilter (on .after q).trim) ∧
    ∀ plan', parse settings (on .after q) = .ok plan' → plan.SameInk plan' := by
  have h := parse_eq_ok_iff.mp h
  have hiff (hc : Outline.check (on .after q) = .ok ()) := filter_after_iff hk h hc
  have hr : Roomy plan.hasFilter (on .after q).trim ↔
      Outline.check (on .after q) = .ok () ∧ Clause.filter (on .after q).trim ≠ .malformed := by
    rw [Outline.check_on_iff hk h.outline]
    constructor
    case mp =>
      intro hr
      have hc := (Outline.check_on_iff hk h.outline).mpr hr.toRoomy
      exact ⟨hr.toRoomy, (hiff hc).mpr hr.filter⟩
    case mpr =>
      rintro ⟨hr, hf⟩
      have hc := (Outline.check_on_iff hk h.outline).mpr hr
      exact ⟨hr, (hiff hc).mp hf⟩
  constructor
  case left =>
    rw [hr]
    constructor
    case mp =>
      rintro ⟨plan', h'⟩
      have h' := parse_eq_ok_iff.mp h'
      exact ⟨h'.outline, h'.filter⟩
    case mpr =>
      rintro ⟨hc, hf⟩
      obtain ⟨plan', h', -⟩ := exists_reads_after hk h hc hf
      exact ⟨plan', parse_eq_ok_iff.mpr h'⟩
  case right =>
    intro plan' h'
    have hread := parse_eq_ok_iff.mp h'
    obtain ⟨plan'', h'', hs⟩ := exists_reads_after hk h hread.outline hread.filter
    rw [parse_eq_ok_iff.mpr h''] at h'
    exact Except.ok.inj h' ▸ hs

section Run

variable {u v r r' : Text}

theorem parse_respaced (hr : r ≠ [] ∧ r.all isBlank) (hr' : r' ≠ [] ∧ r'.all isBlank)
    (hk : EndsIn "group".toList u ∨ EndsIn "order".toList u →
      BeginsWith "by".toList v → (r = [' '] ↔ r' = [' ']))
    (h : parse settings (u ++ (r ++ v)) = .ok plan) :
    ((∃ plan', parse settings (u ++ (r' ++ v)) = .ok plan') ↔
      Roomy plan.hasFilter (Text.trim (u ++ (r' ++ v)))) ∧
    ∀ plan', parse settings (u ++ (r' ++ v)) = .ok plan' → plan.SameInk plan' := by
  obtain ⟨q, hq, hb, ha⟩ := exists_replacement hr hr' hk
  rw [← hb] at h
  rw [← ha]
  exact parse_spaced hq h

def filterHead : Text :=
  "select * from t.csv where a".toList

-- A tab for two spaces.
theorem parse_respaced_tab : ∃ plan plan',
    parse {} (filterHead ++ ("  ".toList ++ "= 1".toList)) = .ok plan ∧
    parse {} (filterHead ++ ("\t".toList ++ "= 1".toList)) = .ok plan' ∧ plan.SameInk plan' := by
  have hb : (parse {} (filterHead ++ ("  ".toList ++ "= 1".toList))).isOk := by decide +kernel
  have ha : (parse {} (filterHead ++ ("\t".toList ++ "= 1".toList))).isOk := by decide +kernel
  obtain ⟨plan, h⟩ := exists_of_isOk hb
  obtain ⟨plan', h'⟩ := exists_of_isOk ha
  have ht : "\t".toList ≠ [] ∧ "\t".toList.all isBlank := by decide
  have hs := parse_respaced (by decide) ht (fun _ _ => by decide) h
  exact ⟨plan, plan', h, h', hs.right plan' h'⟩

def groupHead : Text :=
  "select * from t.csv group".toList

-- One space for two makes the filter too short, and two for one end the keyword.
theorem respaced_differs :
    ((parse {} (filterHead ++ "=  1".toList)).isOk ∧
      parse {} (filterHead ++ "= 1".toList) = .error (.malformed .filter)) ∧
    (parse {} (groupHead ++ " by a".toList)).toOption.map Plan.groupBy = some [['a']] ∧
    (parse {} (groupHead ++ "  by a".toList)).toOption.map Plan.groupBy = some [] := by
  decide +kernel

end Run

end Plan
end FlatQuery
