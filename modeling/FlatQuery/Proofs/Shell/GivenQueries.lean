import FlatQuery.Proofs.Query.Reading
import FlatQuery.Proofs.Text.Words
import FlatQuery.Shell.Program

namespace FlatQuery

open Text

variable {q t u v : Text} {settings : Settings}

namespace Plan

-- What a text is read as, apart from the text itself.
def meaning (settings : Settings) (raw : Text) : Except ParseError Plan :=
  (parse settings raw).map fun p => { p with rawText := [] }

-- The text is kept as it is, and nothing else is read from it untrimmed.
theorem ofClauses_eq_map (raw : Text) : ofClauses settings raw query =
    (ofClauses settings [] query).map fun p => { p with rawText := raw } := by
  refine except_bind_map_right fun source => ?_
  cases source
  case none => rfl
  case some source =>
    refine except_bind_map_right fun base => except_bind_map_right fun entries => ?_
    cases entries
    case none => rfl
    case some entries =>
      refine except_bind_map_right fun _ => except_bind_map_right fun conditions => ?_
      refine except_bind_map_right fun predicates => except_bind_map_right fun tokens => ?_
      refine except_bind_map_right fun connectives => except_bind_map_right fun _ => ?_
      refine except_bind_map_right fun groupBy => except_bind_map_right fun orderBy => ?_
      refine except_bind_map_right fun calls => except_bind_map_right fun aggregates => ?_
      exact except_bind_map_right fun _ => rfl

theorem meaning_eq_of_trim_eq (h : u.trim = v.trim) : meaning settings u = meaning settings v := by
  have hc : Outline.check u = Outline.check v := by rw [Outline.check, h, Outline.check]
  rw [meaning, meaning, parse, parse, hc, h]
  split
  case h_1 => rfl
  case h_2 =>
    rw [ofClauses_eq_map u, ofClauses_eq_map v]
    cases ofClauses settings [] v.trim <;> rfl

theorem meaning_trim : meaning settings t.trim = meaning settings t :=
  meaning_eq_of_trim_eq strip_strip

end Plan

section Bases

-- A base query is the query itself or the text before its first clause.
theorem length_base_le (h : Clause.base t = .present b) : b.length ≤ t.length := by
  obtain rfl | ⟨stop, -, rfl⟩ := Clause.eq_of_base h
  case inl => exact le_rfl
  case inr => exact length_strip_le.trans (List.length_take_le' ..)

-- Without a clause, all of the text is kept.
theorem Plan.meaning_ne (hb : Clause.baseEnd? u.trim = none) (hl : v.trim.length < u.trim.length)
    (h : Plan.parse settings u = .ok p) : Plan.meaning settings v ≠ Plan.meaning settings u := by
  intro hm
  rw [Plan.meaning, Plan.meaning, h] at hm
  obtain ⟨p', h', he⟩ := except_map_eq_ok.mp hm
  have hp := (Plan.reads_of_parse h).base
  have hp' := (Plan.reads_of_parse h').base
  have hbase : p'.baseQuery = p.baseQuery := by simpa using congrArg Plan.baseQuery he
  rw [Clause.base, hb] at hp
  have hle := length_base_le hp'
  rw [hbase, ← Clause.present.inj hp] at hle
  omega

end Bases

section Lines

theorem foldl_press {clusters : List Text} {s : Typed} (h : ∀ cl ∈ clusters, cl ≠ ['\x08']) :
    (clusters.foldl Typed.press s).text = clusters.flatten.reverse ++ s.text := by
  induction clusters generalizing s
  case nil => rfl
  case cons cl clusters hi =>
    obtain ⟨hc, h⟩ := List.forall_mem_cons.mp h
    rw [List.foldl_cons, hi h, Typed.press, if_neg hc]
    simp

theorem applyBackspaces_eq_self (h : '\x08' ∉ t) : applyBackspaces t = t := by
  have hc : ∀ cl ∈ t.clusters, cl ≠ ['\x08'] := by
    rintro cl hm rfl
    exact h (flatten_clusters t ▸ List.mem_flatten_of_mem hm (.head _))
  rw [applyBackspaces, foldl_press hc, flatten_clusters]
  simp

-- The line editor hands over a line whose brackets match as it was typed.
theorem Console.feed_eq_react {c : Console} {ending : Text} (hp : c.pending = [])
    (hk : Brackets.check t = .complete) (h : '\x08' ∉ t) : c.feed ⟨t, ending⟩ = c.react t := by
  have hc : { c with pending := [] } = c := by rw [← hp]
  rw [Console.feed, hp, List.nil_append, applyBackspaces_eq_self h]
  simp only [hk, hc]

end Lines

namespace Shell

-- One line with more than semicolons in it, and no backslash at the ends of what it says.
structure OneQuery (q : Text) : Prop where
  line  : '\n' ∉ q
  word  : ∃ c ∈ q, isBlank c = false ∧ c ≠ ';'
  first : q.trim.head? ≠ some '\\'
  last  : q.trim.getLast? ≠ some '\\'

-- `\plan` in front of a query.
def planCommand (q : Text) : Text :=
  "\\plan".toList ++ ' ' :: q

namespace OneQuery

variable (h : OneQuery q)
include h

theorem tight : Tight q.trim := by
  obtain ⟨c, hc, hb, -⟩ := h.word
  refine tight_trim (Bool.eq_false_iff.mpr fun ha => ?_)
  simp [List.all_eq_true.mp ha c hc] at hb

-- Something is left when the semicolons are gone.
theorem exists_mem_dropSemicolons : ∃ c ∈ dropSemicolons q.trim, isBlank c = false := by
  obtain ⟨c, hc, hb, hs⟩ := h.word
  have hq : c ∈ q.trim := by
    have := contains_strip (t := q) hb
    simpa [trim, hc] using this
  exact ⟨c, mem_dropEndWhile hq (by simpa using hs), hb⟩

theorem firstQuery_eq (hr : ∀ d ∈ rest.head?, d = '\n') :
    firstQuery (q ++ rest) = .ok (trimEnd (dropSemicolons q.trim)) := by
  have hl : (q ++ rest).takeWhile (· != '\n') = q := by
    have hq (d) (hd : d ∈ q) : (d != '\n') = true := bne_iff_ne.mpr fun he => h.line (he ▸ hd)
    rw [List.takeWhile_append_of_pos hq]
    cases rest
    case nil => simp
    case cons d rest => simp [hr d rfl]
  obtain ⟨c, hc, hb⟩ := h.exists_mem_dropSemicolons
  have hn : (trimEnd (dropSemicolons q.trim)).isEmpty = false := by
    rw [List.isEmpty_eq_false_iff]
    exact List.ne_nil_of_mem (mem_dropEndWhile hc hb)
  rw [firstQuery, hl]
  simp only [hn]
  rfl

section Console

variable {c : Console} (hb : c.buffer = [])
include hb

theorem react_line : c.react q = (c, .run (dropSemicolons q.trim)) := by
  obtain ⟨d, hd, -⟩ := h.exists_mem_dropSemicolons
  have ht : q.trim.isEmpty = false := List.isEmpty_eq_false_iff.mpr h.tight.ne_nil
  have hs : (dropSemicolons q.trim).isEmpty = false :=
    List.isEmpty_eq_false_iff.mpr (List.ne_nil_of_mem hd)
  simp [Console.react, ht, hb, h.first, h.last, Console.runQuery, hs]

omit hb in
-- What is shown is the plan of the trimmed text, or why it has none.
theorem showPlan_eq : c.showPlan q.trim =
    match Plan.parse c.shell.session.settings q.trim with
    | .ok p => .say (((Json.ofPlan p).pretty 0).toString ++ "\n")
    | .error e => .complain (Console.errorLine (ShellFailure.parse e).report) := by
  have he : q.trim.isEmpty = false := List.isEmpty_eq_false_iff.mpr h.tight.ne_nil
  rw [Console.showPlan, he, Shell.plan, Session.parse]
  cases Plan.parse c.shell.session.settings q.trim <;> rfl

-- The command is cut off at the first white space, and the query is trimmed on its own.
theorem react_planCommand : c.react (planCommand q) = (c, c.showPlan q.trim) := by
  obtain ⟨u, v, hq, hu, hv⟩ := exists_strip isBlank q
  have hq : q = u ++ q.trim ++ v := hq
  generalize hl : "\\plan".toList ++ ' ' :: u ++ q.trim = line
  have hn : Tight "\\plan".toList := ⟨rfl, rfl⟩
  have ht : Tight line := hl ▸ hn.append h.tight _
  have htrim : (planCommand q).trim = line := by
    have hp : planCommand (u ++ q.trim ++ v) = [] ++ line ++ v := by simp [planCommand, ← hl]
    rw [congrArg planCommand hq, hp, ht.trim_padded rfl hv]
  have hlast : line.getLast? ≠ some '\\' := by
    have hs : q.trim.getLast?.isSome := by simpa using h.tight.ne_nil
    rw [← hl, List.getLast?_append, Option.or_of_isSome hs]
    exact h.last
  have hname : line.takeWhile (!isBlank ·) = "\\plan".toList := by rw [← hl]; rfl
  have harg : Text.trim (line.dropWhile (!isBlank ·)) = q.trim := by
    have hd : line.dropWhile (!isBlank ·) = ' ' :: u ++ q.trim ++ [] := by rw [← hl]; simp; rfl
    have hu : List.all (' ' :: u) isBlank := by rw [List.all_cons, hu]; rfl
    rw [hd, h.tight.trim_padded hu rfl]
  have hhead : line.head? = some '\\' := by rw [← hl]; rfl
  have he : line.isEmpty = false := List.isEmpty_eq_false_iff.mpr ht.ne_nil
  have hc : c.react (planCommand q) = c.command line := by
    simp [Console.react, htrim, he, hlast, hb, hhead]
  rw [hc, Console.command]
  simp only [hname, harg]
  rfl

end Console

end OneQuery

section Ways

-- The four ways to give a query.
inductive Way
  | option
  | input
  | line
  | command
  deriving DecidableEq, Repr

-- The text that is read in the end.
def Way.text (q : Text) : Way → Text
  | option => q
  | input => trimEnd (dropSemicolons q.trim)
  | line => dropSemicolons q.trim
  | command => q.trim

-- The program comes to the text of each way. A line that is typed gets there if its brackets match
-- and nothing in it is taken back.
structure Reaches (o : Options) (c : Console) (q : Text) : Prop where
  option  : ∀ input, Program.givenQuery { o with query := some q } input = .ok (Way.option.text q)
  input   : ∀ rest : Text, (∀ d ∈ rest.head?, d = '\n') →
              Program.givenQuery { o with query := none } (q ++ rest) = .ok (Way.input.text q)
  line    : c.react q = (c, .run (Way.line.text q))
  command : c.react (planCommand q) =
              (c, match Plan.parse c.shell.session.settings (Way.command.text q) with
                | .ok p => .say (((Json.ofPlan p).pretty 0).toString ++ "\n")
                | .error e => .complain (Console.errorLine (ShellFailure.parse e).report))
  typed   : Brackets.check q = .complete → '\x08' ∉ q → ∀ ending,
              c.feed ⟨q, ending⟩ = c.react q ∧
                c.feed ⟨planCommand q, ending⟩ = c.react (planCommand q)

variable {c : Console}

theorem OneQuery.reaches (h : OneQuery q) (o : Options) (hb : c.buffer = []) (hp : c.pending = []) :
    Reaches o c q where
  option _ := rfl
  input _ hr := h.firstQuery_eq hr
  line := h.react_line hb
  command := (h.react_planCommand hb).trans (congrArg (c, ·) h.showPlan_eq)
  typed hk h8 _ := by
    have hk' : Brackets.check (planCommand q) = .complete := hk
    have h8' : '\x08' ∉ planCommand q := by simpa [planCommand] using h8
    exact ⟨Console.feed_eq_react hp hk h8, Console.feed_eq_react hp hk' h8'⟩

-- Every two ways come to the same plan, or to the same error.
def Agree (settings : Settings) (q : Text) : Prop :=
  ∀ way way' : Way, Plan.meaning settings (way.text q) = Plan.meaning settings (way'.text q)

theorem agree_iff : Agree settings q ↔
    Plan.meaning settings (dropSemicolons q.trim) = Plan.meaning settings q := by
  constructor
  case mp => exact fun h => h .line .option
  case mpr =>
    intro h
    have hi : Plan.meaning settings (Way.input.text q) = Plan.meaning settings q :=
      (Plan.meaning_eq_of_trim_eq strip_dropEndWhile).trans h
    have hw (way : Way) : Plan.meaning settings (way.text q) = Plan.meaning settings q := by
      cases way
      case option => rfl
      case input => exact hi
      case line => exact h
      case command => exact Plan.meaning_trim
    exact fun way way' => (hw way).trans (hw way').symm

theorem agree_of_getLast? (h : q.trim.getLast? ≠ some ';') : Agree settings q := by
  have hd : dropSemicolons q.trim = q.trim :=
    dropEndWhile_eq_self fun d hd => beq_false_of_ne fun he => h (he ▸ hd)
  rw [agree_iff, hd, Plan.meaning_trim]

theorem not_agree (h : q.trim.getLast? = some ';') (hn : Clause.baseEnd? q.trim = none)
    (hp : Plan.parse settings q = .ok p) : ¬Agree settings q := by
  obtain ⟨w, hw⟩ := List.getLast?_eq_some_iff.mp h
  have hl : (dropSemicolons q.trim).trim.length < q.trim.length := by
    have hs : dropSemicolons q.trim = dropEndWhile (· == ';') w := by
      rw [hw]
      exact dropEndWhile_append_all (by decide)
    have h₁ : (dropSemicolons q.trim).trim.length ≤ (dropSemicolons q.trim).length :=
      length_strip_le
    have h₂ : (dropSemicolons q.trim).length ≤ w.length := hs ▸ length_dropEndWhile_le
    have h₃ := congrArg List.length hw
    rw [List.length_append, List.length_singleton] at h₃
    omega
  rw [agree_iff]
  exact Plan.meaning_ne hn hl hp

-- Semicolons at the end are all that the ways can differ by, and they do differ by them wherever
-- the whole text is the base query.
theorem ways_agree_iff (h : OneQuery q) (settings : Settings) (o : Options) (hb : c.buffer = [])
    (hp : c.pending = []) :
    Reaches o c q ∧
    (Agree settings q ↔
      Plan.meaning settings (dropSemicolons q.trim) = Plan.meaning settings q) ∧
    (q.trim.getLast? ≠ some ';' → Agree settings q) ∧
    (q.trim.getLast? = some ';' → Clause.baseEnd? q.trim = none →
      ∀ p, Plan.parse settings q = .ok p → ¬Agree settings q) :=
  ⟨h.reaches o hb hp, agree_iff, agree_of_getLast?, fun hl hn _ => not_agree hl hn⟩

def cityQuery : Text :=
  "select city from t.csv".toList

theorem ways_agree_iff_cityQuery :
    Reaches {} { shell := {} } cityQuery ∧ Agree {} cityQuery ∧
    Reaches {} { shell := {} } (cityQuery ++ " ;".toList) ∧
    ¬Agree {} (cityQuery ++ " ;".toList) := by
  have hq : OneQuery cityQuery := ⟨by decide, ⟨'s', by decide⟩, by decide, by decide⟩
  have hs : OneQuery (cityQuery ++ " ;".toList) :=
    ⟨by decide, ⟨'s', by decide⟩, by decide, by decide⟩
  obtain ⟨hr, -, ha, -⟩ := ways_agree_iff hq {} {} (c := { shell := {} }) rfl rfl
  obtain ⟨hr', -, -, hn⟩ := ways_agree_iff hs {} {} (c := { shell := {} }) rfl rfl
  have hp : (Plan.parse {} (cityQuery ++ " ;".toList)).isOk := by decide +kernel
  obtain ⟨p, hp⟩ := exists_of_isOk hp
  exact ⟨hr, ha (by decide), hr', hn (by decide) (by decide +kernel) p hp⟩

-- As an option the query names no source, since `t.csv;` is none.
theorem option_keeps_semicolon :
    OneQuery (cityQuery ++ [';']) ∧ ¬Agree {} (cityQuery ++ [';']) ∧
    Plan.parse {} (Way.option.text (cityQuery ++ [';'])) = .error .missingSource ∧
    Plan.parse {} (Way.command.text (cityQuery ++ [';'])) = .error .missingSource ∧
    Way.input.text (cityQuery ++ [';']) = cityQuery ∧
    Way.line.text (cityQuery ++ [';']) = cityQuery ∧
    (Plan.parse {} cityQuery).toOption.map Plan.source = some "t.csv".toList := by
  have hp : Plan.parse {} (Way.option.text (cityQuery ++ [';'])) = .error .missingSource := by
    decide +kernel
  have hl : (Plan.parse {} (Way.line.text (cityQuery ++ [';']))).isOk := by decide +kernel
  refine ⟨⟨by decide, ⟨'s', by decide⟩, by decide, by decide⟩, fun ha => ?_, hp, ?_⟩
  case refine_1 =>
    obtain ⟨p, hl⟩ := exists_of_isOk hl
    have ha := ha .line .option
    rw [Plan.meaning, Plan.meaning, hp, hl] at ha
    simp [Except.map] at ha
  case refine_2 => decide +kernel

end Ways

end Shell
end FlatQuery
