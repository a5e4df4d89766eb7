import FlatQuery.Output.Format
import FlatQuery.Proofs.Csv.Views
import FlatQuery.Proofs.Text.Encoding

namespace FlatQuery

open Utf8

namespace Csv

def comma : UInt8 := 0x2C

variable {p : Pending} {mode : Mode} {t : Text} {u v : Bytes}

section Passages

-- Bytes that are read from one mode into another without ending the record.
def Passes (mode : Mode) (p : Pending) (u : Bytes) (mode' : Mode) (p' : Pending) : Prop :=
  ∀ place rest, recordsFrom comma mode p place (u ++ rest) =
    recordsFrom comma mode' p' (u.foldl Place.after place) rest

theorem Passes.nil : Passes mode p [] mode p :=
  fun _ _ => rfl

theorem Passes.cons (hs : step comma mode p b = .goOn mode' p') (h : Passes mode' p' u mode'' p'') :
    Passes mode p (b :: u) mode'' p'' := by
  intro place rest
  rw [List.cons_append, recordsFrom, hs, List.foldl_cons]
  exact h _ _

theorem Passes.append (h : Passes mode p u mode' p') (h' : Passes mode' p' v mode'' p'') :
    Passes mode p (u ++ v) mode'' p'' := by
  intro place rest
  rw [List.append_assoc, h, h', List.foldl_append]

-- The pending field with more bytes at its end.
def Pending.extend (p : Pending) (u : Bytes) : Pending :=
  { p with field := u.reverse ++ p.field }

theorem Pending.extend_push : (p.push b).extend u = p.extend (b :: u) := by
  simp [extend, push]

-- Bytes that neither end a field outside quotes nor open one.
def isPlain (b : UInt8) : Bool :=
  b != comma && b != quote && !isTerminator b

theorem passes_plain (h : u.all isPlain) : Passes .plain p u .plain (p.extend u) := by
  induction u generalizing p
  case nil => exact .nil
  case cons b u hi =>
    rw [List.all_cons, Bool.and_eq_true] at h
    have hs : step comma .plain p b = .goOn .plain (p.push b) := by
      simp_all [isPlain, step, plainStep]
    rw [← Pending.extend_push]
    exact .cons hs (hi h.right)

theorem passes_quoted (h : quote ∉ u) : Passes .quoted p u .quoted (p.extend u) := by
  induction u generalizing p
  case nil => exact .nil
  case cons b u hi =>
    have hs : step comma .quoted p b = .goOn .quoted (p.push b) := by
      rw [List.mem_cons, not_or] at h
      rw [step, if_neg (Ne.symm h.left)]
    rw [← Pending.extend_push]
    exact .cons hs (hi fun hm => h (.tail _ hm))

end Passages

section Fields

theorem passes_doubleQuotes :
    Passes .quoted p (encode (doubleQuotes t)) .quoted (p.extend (encode t)) := by
  induction t generalizing p
  case nil => exact .nil
  case cons c t hi =>
    have hd : doubleQuotes (c :: t) = (if c = '"' then ['"', '"'] else [c]) ++ doubleQuotes t := rfl
    have he : p.extend (encode (c :: t)) = (p.extend (encodeChar c)).extend (encode t) := by
      simp [Pending.extend, encode_cons]
    rw [hd, Text.encode_append, he]
    refine .append ?_ hi
    split
    case isTrue hc => subst hc; exact .cons rfl (.cons rfl .nil)
    case isFalse hc =>
      have hq : quote ∉ encode [c] :=
        not_mem_encode (c := '"') (by decide) fun hm => hc (List.mem_singleton.mp hm).symm
      have he : encode [c] = encodeChar c := List.append_nil _
      exact he ▸ passes_quoted hq

theorem isPlain_of_mem_encode (hn : needsQuotes t = false) (hb : b ∈ encode t) : isPlain b := by
  have hne {c : Char} (hc : c ∈ [',', '"', '\r', '\n']) (ha : c.toNat < 0x80) :
      b ≠ c.toNat.toUInt8 := by
    rintro rfl
    refine not_mem_encode ha (fun hm => ?_) hb
    rw [needsQuotes, List.any_eq_false] at hn
    exact hn c hm (by simpa using hc)
  have hc : b ≠ comma := hne (c := ',') (by decide) (by decide)
  have hq : b ≠ quote := hne (c := '"') (by decide) (by decide)
  have hl : b ≠ lineFeed := hne (c := '\n') (by decide) (by decide)
  have hr : b ≠ carriageReturn := hne (c := '\r') (by decide) (by decide)
  simp [isPlain, isTerminator, hc, hq, hl, hr]

-- The modes in which a field may begin.
def Mode.Opens (mode : Mode) : Prop :=
  mode = .recordStart ∨ mode = .fieldStart

theorem Mode.Opens.step_quote (h : mode.Opens) : step comma mode p quote = .goOn .quoted p := by
  obtain rfl | rfl := h <;> rfl

theorem Mode.Opens.step_plain (h : mode.Opens) (hb : isPlain b) :
    step comma mode p b = .goOn .plain (p.push b) := by
  obtain rfl | rfl := h <;> simp_all [isPlain, step, fieldStep, plainStep]

-- Outside quotes a byte means the same in every mode, but for the end of a line with nothing in it.
theorem step_eq_plainStep (hm : mode ≠ .quoted) (hb : b ≠ quote)
    (hr : mode = .recordStart → isTerminator b = false) :
    step comma mode p b = plainStep comma p b := by
  cases mode
  case quoted => contradiction
  case recordStart => simp [step, fieldStep, hb, hr]
  all_goals simp [step, fieldStep, hb]

theorem passes_fieldText (hm : mode.Opens) : ∃ mode' ≠ .quoted,
    Passes mode p (encode (fieldText t)) mode' (p.extend (encode t)) ∧
      (mode' = .recordStart → mode = .recordStart ∧ t = []) := by
  rw [fieldText]
  split
  case isTrue =>
    refine ⟨.quoteSeen, nofun, ?_, nofun⟩
    have hq : encodeChar '"' = [quote] := rfl
    have he : encode ['"'] = [quote] := rfl
    rw [List.cons_append, encode_cons, Text.encode_append, hq, he,
      List.singleton_append]
    exact .cons hm.step_quote (.append passes_doubleQuotes (.cons rfl .nil))
  case isFalse hn =>
    have hp {b} (hb : b ∈ encode t) := isPlain_of_mem_encode (Bool.eq_false_iff.mpr hn) hb
    by_cases ht : t = []
    case pos =>
      subst ht
      refine ⟨mode, ?_, .nil, fun h => ⟨h, rfl⟩⟩
      obtain rfl | rfl := hm <;> nofun
    case neg =>
      obtain ⟨b, u, he⟩ := List.exists_cons_of_ne_nil (encode_ne_nil ht)
      rw [he] at hp ⊢
      refine ⟨.plain, nofun, ?_, nofun⟩
      rw [← Pending.extend_push]
      exact .cons (hm.step_plain (hp (.head _)))
        (passes_plain (List.all_eq_true.mpr fun b hb => hp (.tail _ hb)))

end Fields

section Lines

variable {ts fields : List Text} {lines : List (List Text)}

theorem toRecord_extend (hp : p.field = []) :
    (p.extend u).toRecord = ⟨p.start, p.fields.reverse ++ [u]⟩ := by
  simp [Pending.toRecord, Pending.endField, Pending.extend, hp]

theorem fields_endField_extend (hp : p.field = []) :
    (p.extend u).endField.fields = u :: p.fields := by
  simp [Pending.endField, Pending.extend, hp]

-- An empty field that is a line of its own needs its quotes.
theorem recordsFrom_fields (hm : mode.Opens) (hp : p.field = [])
    (hn : mode = .recordStart → t :: ts ≠ [[]]) (place : Place) (rest : Bytes) : ∃ place',
    recordsFrom comma mode p place
      (encode (Text.join [','] ((t :: ts).map fieldText)) ++ lineFeed :: rest) =
    ⟨p.start, p.fields.reverse ++ (t :: ts).map encode⟩ ::
      recordsFrom comma .recordStart (.begin place') place' rest := by
  -- The last field is met by the line feed, and each one before it by a comma.
  induction ts generalizing t mode p place
  case nil =>
    obtain ⟨mode', hq, ht, he⟩ := passes_fieldText (t := t) (p := p) hm
    have hs : step comma mode' (p.extend (encode t)) lineFeed = .endRecord := by
      refine step_eq_plainStep hq (by decide) fun h => ?_
      obtain ⟨hr, rfl⟩ := he h
      exact absurd rfl (hn hr)
    refine ⟨((encode (fieldText t)).foldl Place.after place).after lineFeed, ?_⟩
    rw [List.map_singleton, Text.join_singleton, ht, recordsFrom, hs]
    simp only [toRecord_extend hp]
    rfl
  case cons t' ts hi =>
    obtain ⟨mode', hq, ht, -⟩ := passes_fieldText (t := t) (p := p) hm
    have hs : step comma mode' (p.extend (encode t)) comma =
        .goOn .fieldStart (p.extend (encode t)).endField :=
      step_eq_plainStep hq (by decide) fun _ => rfl
    have hc : encode [','] = [comma] := rfl
    obtain ⟨place', hr⟩ := hi (t := t') (p := (p.extend (encode t)).endField) (.inr rfl) rfl nofun
      (((encode (fieldText t)).foldl Place.after place).after comma)
    refine ⟨place', ?_⟩
    rw [fields_endField_extend hp, List.map_cons] at hr
    rw [List.map_cons, List.map_cons, Text.join_cons_cons, Text.encode_append, Text.encode_append,
      hc, List.append_assoc, List.append_assoc, ht, List.singleton_append, recordsFrom, hs]
    simp only [hr]
    simp [Pending.endField, Pending.extend]

theorem recordsFrom_lineText (hn : fields ≠ []) (start place : Place) (rest : Bytes) : ∃ place',
    recordsFrom comma .recordStart (.begin start) place (encode (lineText fields) ++ rest) =
    ⟨start, fields.map encode⟩ ::
      recordsFrom comma .recordStart (.begin place') place' rest := by
  rw [lineText]
  split
  case isTrue h =>
    obtain rfl := h.resolve_left hn
    exact ⟨_, rfl⟩
  case isFalse h =>
    obtain ⟨t, ts, rfl⟩ := List.exists_cons_of_ne_nil hn
    have hl : encode ['\n'] = [lineFeed] := rfl
    rw [Text.encode_append, hl, List.append_assoc, List.singleton_append]
    exact recordsFrom_fields (.inl rfl) rfl (fun _ he => h (.inr he)) place rest

theorem fields_recordsFrom (hn : ∀ fields ∈ lines, fields ≠ []) (start place : Place) :
    (recordsFrom comma .recordStart (.begin start) place (encode (lines.flatMap lineText))).map
      (·.fields) = lines.map (·.map encode) := by
  induction lines generalizing start place
  case nil => rfl
  case cons fields lines hi =>
    obtain ⟨hf, hn⟩ := List.forall_mem_cons.mp hn
    obtain ⟨place', hr⟩ := recordsFrom_lineText hf start place (encode (lines.flatMap lineText))
    rw [List.flatMap_cons, Text.encode_append, hr, List.map_cons, List.map_cons, hi hn]

end Lines

section Files

theorem head?_of_take_encode (h : (encode t).take 3 = byteOrderMark) : t.head? = some '\ufeff' := by
  cases t
  case nil => contradiction
  case cons c t =>
    have hb : encode (c :: t) = byteOrderMark ++ (encode (c :: t)).drop 3 := by
      rw [← h, List.take_append_drop]
    have hf := firstChar?_encodeChar c (encode t)
    rw [← encode_cons, hb] at hf
    have hm : firstChar? (byteOrderMark ++ (encode (c :: t)).drop 3) = some ('\ufeff', 2) := rfl
    rw [hm] at hf
    rw [List.head?_cons, (Prod.mk.inj (Option.some.inj hf)).left]

theorem rawRecords_eq (h : t.head? ≠ some '\ufeff') : rawRecords comma (encode t) =
    recordsFrom comma .recordStart (.begin ⟨0, 1⟩) ⟨0, 1⟩ (encode t) := by
  rw [rawRecords, if_neg (mt head?_of_take_encode h)]

-- A mark at the front of the first field is the only one that would be taken for that of the file.
theorem head?_fieldText (h : t.head? ≠ some '\ufeff') : (fieldText t).head? ≠ some '\ufeff' := by
  rw [fieldText]
  split
  case isTrue => simp
  case isFalse => exact h

theorem head?_append_ne {w : Text} (ht : t.head? ≠ some c) (hw : w.head? ≠ some c) :
    (t ++ w).head? ≠ some c := by
  cases t
  case nil => exact hw
  case cons => exact ht

theorem head?_lineText {ts : List Text} (h : t.head? ≠ some '\ufeff') :
    (lineText (t :: ts)).head? ≠ some '\ufeff' := by
  have hf := head?_fieldText h
  rw [lineText]
  split
  case isTrue => simp
  case isFalse =>
    refine head?_append_ne ?_ (by simp)
    cases ts
    case nil => rwa [List.map_singleton, Text.join_singleton]
    case cons =>
      rw [List.map_cons, List.map_cons, Text.join_cons_cons, List.append_assoc]
      exact head?_append_ne hf (by simp)

theorem isBlank_of_isAsciiBlank {b : UInt8} (hb : isAsciiBlank b) :
    b.toNat < 0x80 ∧ ∀ c : Char, b.toNat = c.toNat → isBlank c := by
  have hc {n : Nat} {c : Char} (h : n = c.toNat) : c = Char.ofNat n := (ofNat_eq h).symm
  simp only [isAsciiBlank, Bool.or_eq_true, beq_iff_eq] at hb
  obtain (((rfl | rfl) | rfl) | rfl) | rfl := hb
  all_goals exact ⟨by decide, fun c h => by rw [hc h]; decide⟩

theorem trimBytes_eq_self (hh : ∀ b ∈ u.head?, isAsciiBlank b = false)
    (hl : ∀ b ∈ u.getLast?, isAsciiBlank b = false) : trimBytes u = u := by
  have hd {w : Bytes} (h : ∀ b ∈ w.head?, isAsciiBlank b = false) :
      w.dropWhile isAsciiBlank = w := by
    cases w
    case nil => rfl
    case cons b w => simp [h b rfl]
  rw [trimBytes, hd hh, hd (by simpa using hl), List.reverse_reverse]

theorem trimBytes_encode (h : t.trim = t) : trimBytes (encode t) = encode t := by
  have hs := Text.strip_ends (p := isBlank) (t := t)
  rw [← Text.trim, h] at hs
  refine trimBytes_eq_self (fun b hb => ?head) fun b hb => ?last
  all_goals
    refine Bool.eq_false_iff.mpr fun hn => ?_
    obtain ⟨ha, hn⟩ := isBlank_of_isAsciiBlank hn
  case head =>
    obtain ⟨c, hc, he⟩ := head?_encode hb ha
    exact Bool.eq_false_iff.mp (hs.left c hc) (hn c he)
  case last =>
    obtain ⟨c, hc, he⟩ := getLast?_encode hb ha
    exact Bool.eq_false_iff.mp (hs.right c hc) (hn c he)

theorem decodeFields_encode {ts : List Text} (h : ∀ t ∈ ts, t.trim = t) :
    decodeFields (ts.map encode) = .ok ts := by
  induction ts
  case nil => rfl
  case cons t ts hi =>
    obtain ⟨ht, hts⟩ := List.forall_mem_cons.mp h
    rw [List.map_cons, decodeFields, trimBytes_encode ht, decode_encode, hi hts]
    simp only [ht]

theorem map_mapIdx_decode {raws : List RawRecord} {lines : List (List Text)}
    (hr : raws.map (·.fields) = lines.map (·.map encode))
    (ht : ∀ fields ∈ lines, ∀ t ∈ fields, t.trim = t) (f : Nat → Nat) :
    (raws.mapIdx fun i r => r.decode (f i)).map (·.map Record.fields) = lines.map .ok := by
  induction raws generalizing lines f
  case nil =>
    obtain rfl : lines = [] := by simpa using hr.symm
    rfl
  case cons r raws hi =>
    cases lines
    case nil => contradiction
    case cons fields lines =>
      obtain ⟨hf, hr⟩ := List.cons.inj hr
      have hf : r.fields = fields.map encode := hf
      obtain ⟨htf, ht⟩ := List.forall_mem_cons.mp ht
      rw [List.mapIdx_cons, List.map_cons, List.map_cons, hi hr ht (f <| · + 1), RawRecord.decode,
        hf, decodeFields_encode htf]
      rfl

-- The lines that were written are the records that are read.
theorem records_encode {lines : List (List Text)} (hn : ∀ fields ∈ lines, fields ≠ [])
    (ht : ∀ fields ∈ lines, ∀ t ∈ fields, t.trim = t)
    (hb : ∀ t ∈ lines.head?.bind List.head?, t.head? ≠ some '\ufeff') :
    (records comma (encode (lines.flatMap lineText))).map (·.map Record.fields) =
      lines.map .ok := by
  have hb : (lines.flatMap lineText).head? ≠ some '\ufeff' := by
    cases lines
    case nil => simp
    case cons fields lines =>
      obtain ⟨t, ts, rfl⟩ := List.exists_cons_of_ne_nil (hn fields (.head _))
      have hl : lineText (t :: ts) ≠ [] := by rw [lineText]; split <;> simp
      rw [List.flatMap_cons, List.head?_append_of_ne_nil _ hl]
      exact head?_lineText (hb t rfl)
  refine map_mapIdx_decode ?_ ht id
  rw [rawRecords_eq hb]
  exact fields_recordsFrom hn ⟨0, 1⟩ ⟨0, 1⟩

end Files

section Results

variable {r : ResultSet}

theorem renderCsv_eq (hw : ∀ row ∈ r.rows, row.length = r.columns.length) :
    OutputFormat.csv.render r = (r.columns :: r.rows).flatMap lineText := by
  have hf : r.rows.find? (fun row => row.length != r.columns.length) = none := by
    simpa using hw
  rw [OutputFormat.render, OutputFormat.renderCsv, write, hf]

end Results
end Csv

namespace CsvSetup

variable {c : CsvSetup} {opener : Opener} {name : Text} {r : ResultSet}

variable {records : List (Except EncodingFault Csv.Record)}

-- Records of the right width are rows as they are.
theorem map_toRow_of_fields {rows : List Row}
    (h : records.map (·.map Csv.Record.fields) = rows.map .ok)
    (hw : ∀ row ∈ rows, row.length = width) : records.map (toRow width) = rows.map .ok := by
  induction records generalizing rows
  case nil =>
    obtain rfl : rows = [] := by simpa using h.symm
    rfl
  case cons record records hi =>
    cases rows
    case nil => contradiction
    case cons row rows =>
      obtain ⟨hf, hrs⟩ := List.cons.inj h
      obtain ⟨hl, hws⟩ := List.forall_mem_cons.mp hw
      obtain ⟨record, rfl, rfl⟩ := except_map_eq_ok.mp hf
      rw [List.map_cons, List.map_cons, hi hrs hws, toRow, if_pos hl]

-- The types are those of the first row, if there is one.
theorem exists_head_of_open? {rows : List Row} (ho : c.open? opener name = .ok (header, records))
    (h : records.map (·.map Csv.Record.fields) = rows.map .ok) :
    ∃ types, c.head opener name = .ok (header, types) := by
  rw [head, ho]
  cases records
  case nil => exact ⟨_, rfl⟩
  case cons record records =>
    cases rows
    case nil => contradiction
    case cons row rows =>
      obtain ⟨sample, rfl, -⟩ := except_map_eq_ok.mp (List.cons.inj h).left
      exact ⟨_, rfl⟩

-- A result that is written and read back is the same table.
theorem source_renderCsv (hd : c.delimiter = Csv.comma)
    (ho : opener (c.resolve name) = .ok (encode (OutputFormat.csv.render r)))
    (hc : r.columns ≠ []) (hw : ∀ row ∈ r.rows, row.length = r.columns.length)
    (ht : ∀ fields ∈ r.columns :: r.rows, ∀ t ∈ fields, t.trim = t)
    (hb : ∀ t ∈ r.columns.head?, t.head? ≠ some '\ufeff') :
    (c.source opener).header name = .ok r.columns ∧
      (c.source opener).rows name = .ok (r.rows.map .ok) := by
  have hn : ∀ fields ∈ r.columns :: r.rows, fields ≠ [] := by
    refine List.forall_mem_cons.mpr ⟨hc, fun row hr he => ?_⟩
    have := hw row hr
    rw [he, eq_comm, List.length_nil, List.length_eq_zero_iff] at this
    exact hc this
  have hr := Csv.records_encode hn ht hb
  rw [← Csv.renderCsv_eq hw, ← hd] at hr
  cases hrs : Csv.records c.delimiter (encode (OutputFormat.csv.render r))
  case nil => rw [hrs] at hr; contradiction
  case cons first rest =>
    rw [hrs] at hr
    obtain ⟨hf, hrest⟩ := List.cons.inj hr
    obtain ⟨header, rfl, he⟩ := except_map_eq_ok.mp hf
    have ho := open?_eq_ok_iff.mpr ⟨_, header, ho, hrs, he⟩
    obtain ⟨types, hh⟩ := exists_head_of_open? ho hrest
    constructor
    case left => simp [source, hh, Except.map]
    case right =>
      have hm := map_toRow_of_fields hrest hw
      simp [source, ho, bind, Except.bind, pure, Except.pure, hm]

-- Commas, quotes and ends of lines, and rows of empty cells.
def notes : ResultSet :=
  ⟨["\"a,".toList, "b".toList],
    [[[], "x\r\ny".toList], ["\"\"".toList, "1,5".toList], [[], []]]⟩

-- A line with nothing in it would be no record.
def gaps : ResultSet :=
  ⟨["\u00e9".toList], [[[]], ["x\ry".toList], [[]]]⟩

def notesAndGaps (path : Text) : Except FileError Bytes :=
  if path = ['n'] then .ok (encode (OutputFormat.csv.render notes))
  else if path = ['g'] then .ok (encode (OutputFormat.csv.render gaps))
  else .error .notFound

theorem source_renderCsv_notes :
    (source {} notesAndGaps).header ['n'] = .ok notes.columns ∧
    (source {} notesAndGaps).rows ['n'] = .ok (notes.rows.map .ok) ∧
    (source {} notesAndGaps).header ['g'] = .ok gaps.columns ∧
    (source {} notesAndGaps).rows ['g'] = .ok (gaps.rows.map .ok) := by
  have hn : notesAndGaps (resolve {} ['n']) = .ok (encode (OutputFormat.csv.render notes)) := rfl
  have hg : notesAndGaps (resolve {} ['g']) = .ok (encode (OutputFormat.csv.render gaps)) := rfl
  obtain ⟨h₁, h₂⟩ := source_renderCsv rfl hn (by decide) (by decide) (by decide) (by decide)
  obtain ⟨h₃, h₄⟩ := source_renderCsv rfl hg (by decide) (by decide) (by decide) (by decide)
  exact ⟨h₁, h₂, h₃, h₄⟩

end CsvSetup
end FlatQuery
