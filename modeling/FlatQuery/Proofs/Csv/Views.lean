import FlatQuery.Csv.Source
import FlatQuery.Proofs.Fallible
import FlatQuery.Proofs.Text.Words
import Mathlib.Data.List.Forall2

namespace FlatQuery
namespace Csv

variable {fields : List Bytes} {texts : List Text} {bytes : Bytes} {delimiter : UInt8} {r : Record}

theorem trim_of_decodeFields (h : decodeFields fields = .ok texts) : ∀ t ∈ texts, t.trim = t := by
  induction fields generalizing texts
  case nil =>
    obtain rfl := Except.ok.inj h
    simp
  case cons field fields hi =>
    simp only [decodeFields] at h
    split at h
    case h_1 => contradiction
    case h_2 =>
      split at h
      case h_1 => contradiction
      case h_2 hd =>
        obtain rfl := Except.ok.inj h
        exact List.forall_mem_cons.mpr ⟨Text.strip_strip, hi hd⟩

theorem trim_of_mem_records (h : .ok r ∈ records delimiter bytes) : ∀ t ∈ r.fields, t.trim = t := by
  obtain ⟨i, hi, h⟩ := List.mem_mapIdx.mp h
  rw [RawRecord.decode] at h
  split at h
  case h_2 => contradiction
  case h_1 hd =>
    obtain rfl := Except.ok.inj h
    exact trim_of_decodeFields hd

end Csv

namespace CsvSetup

variable {c : CsvSetup} {opener : Opener} {name : Text}

-- What a record is as a row of a table of this width.
inductive RowOf (width : Nat) : Except EncodingFault Csv.Record → Except SourceError Row → Prop
  | cells (record) : record.fields.length = width → (∀ cell ∈ record.fields, cell.trim = cell) →
      RowOf width (.ok record) (.ok record.fields)
  | ragged (record) : record.fields.length ≠ width →
      RowOf width (.ok record)
        (.error (.rowArity record.start.line width record.fields.length))
  | fault (why) : RowOf width (.error why) (.error (.malformed why))

theorem length_sampleTypes : (sampleTypes width sample).length = width := by
  simp [sampleTypes]

theorem head_eq_ok (h : c.head opener name = .ok (header, types)) :
    types.length = header.length ∧ ∃ records, c.open? opener name = .ok (header, records) := by
  obtain ⟨⟨header', records⟩, ho, h⟩ := except_bind_eq_ok.mp h
  match records with
  | .error _ :: _ => contradiction
  | .ok _ :: _ =>
    obtain ⟨rfl, rfl⟩ := Prod.mk.inj (Except.ok.inj h)
    exact ⟨length_sampleTypes, _, ho⟩
  | [] =>
    obtain ⟨rfl, rfl⟩ := Prod.mk.inj (Except.ok.inj h)
    exact ⟨length_sampleTypes, _, ho⟩

-- What is wrong with a file is never that its header and its types do not fit.
theorem head_ne_mismatch : c.head opener name ≠ .error (.schemaMismatch headers types) := by
  intro h
  obtain h | ⟨⟨header, rest⟩, -, h⟩ := except_bind_eq_error.mp h
  case inr => split at h <;> cases h
  case inl =>
    obtain h | ⟨rs, -, h⟩ := except_bind_eq_error.mp h
    case inr => split at h <;> cases h
    case inl =>
      rw [records] at h
      split at h <;> cases h

theorem records_eq_ok_iff {rs : List (Except EncodingFault Csv.Record)} :
    c.records opener name = .ok rs ↔
      ∃ bytes, opener (c.resolve name) = .ok bytes ∧ Csv.records c.delimiter bytes = rs := by
  rw [records]
  split <;> simp_all

theorem open?_eq_ok_iff : c.open? opener name = .ok (header, rest) ↔
    ∃ bytes first, opener (c.resolve name) = .ok bytes ∧
      Csv.records c.delimiter bytes = .ok first :: rest ∧ first.fields = header := by
  rw [open?, except_bind_eq_ok]
  constructor
  case mp =>
    rintro ⟨rs, hr, h⟩
    obtain ⟨bytes, hb, rfl⟩ := records_eq_ok_iff.mp hr
    split at h
    case h_1 => contradiction
    case h_2 => contradiction
    case h_3 first rest' hrs =>
      obtain ⟨rfl, rfl⟩ := Prod.mk.inj (Except.ok.inj h)
      exact ⟨bytes, first, hb, hrs, rfl⟩
  case mpr =>
    rintro ⟨bytes, first, hb, hrs, rfl⟩
    exact ⟨_, records_eq_ok_iff.mpr ⟨bytes, hb, hrs⟩, rfl⟩

theorem rowOf_toRow (h : ∀ r, record = .ok r → ∀ cell ∈ r.fields, cell.trim = cell) :
    RowOf width record (toRow width record) := by
  cases record
  case error why => exact .fault why
  case ok r =>
    rw [toRow]
    split
    case isTrue hw => exact .cells r hw (h r rfl)
    case isFalse hw => exact .ragged r hw

theorem map_toRow (h : List.Forall₂ (RowOf width) rs rows) : rs.map (toRow width) = rows := by
  induction h
  case nil => rfl
  case cons hr _ hi =>
    rw [List.map_cons, hi]
    cases hr
    case cells r hw _ => simp [toRow, hw]
    case ragged r hw => simp [toRow, hw]
    case fault => rfl

-- A row for each record after the first, whatever the records before it are.
theorem rows_eq_ok_iff : (c.source opener).rows name = .ok rows ↔
    ∃ bytes first rest, opener (c.resolve name) = .ok bytes ∧
      Csv.records c.delimiter bytes = .ok first :: rest ∧
      List.Forall₂ (RowOf first.fields.length) rest rows := by
  have hs : (c.source opener).rows name = .ok rows ↔
      ∃ header rest, c.open? opener name = .ok (header, rest) ∧
        rest.map (toRow header.length) = rows := by
    simp [source, except_bind_eq_ok, pure, Except.pure]
  rw [hs]
  constructor
  case mp =>
    rintro ⟨header, rest, ho, rfl⟩
    obtain ⟨bytes, first, hb, hr, rfl⟩ := open?_eq_ok_iff.mp ho
    refine ⟨bytes, first, rest, hb, hr, List.forall₂_map_right_iff.mpr ?_⟩
    refine List.forall₂_same.mpr fun record hm => rowOf_toRow fun r he => ?_
    have hm : .ok r ∈ Csv.records c.delimiter bytes := by
      rw [hr, ← he]
      exact .tail _ hm
    exact Csv.trim_of_mem_records hm
  case mpr =>
    rintro ⟨bytes, first, rest, hb, hr, hw⟩
    exact ⟨_, rest, open?_eq_ok_iff.mpr ⟨bytes, first, hb, hr, rfl⟩, map_toRow hw⟩

theorem length_of_toRow (h : toRow width record = .ok cells) : cells.length = width := by
  cases record
  case error => contradiction
  case ok record =>
    rw [toRow] at h
    split at h
    case isFalse => contradiction
    case isTrue hw => exact Except.ok.inj h ▸ hw

section Answers

variable (c : CsvSetup) (opener : Opener) (name : Text)

-- Two records answer for header, types and schema alike.
theorem schema_eq_head : (c.source opener).schema name =
    (c.head opener name).map fun (header, types) => ⟨header, types⟩ := by
  cases h : c.head opener name
  case error => simp [source, h, bind, Except.bind, Except.map]
  case ok answer =>
    have hl := (head_eq_ok h).left
    simp [source, h, bind, Except.bind, Except.map, Schema.pair, hl]

theorem plain_schema_eq_head : (c.source opener).plain.schema name =
    (c.head opener name).map fun (header, types) => ⟨header, types⟩ := by
  cases h : c.head opener name
  case error => simp [source, Source.plain, h, bind, Except.bind, Except.map]
  case ok answer =>
    have hl := (head_eq_ok h).left
    simp [source, Source.plain, h, bind, Except.bind, Except.map, Schema.pair, hl]

-- Each question is put to the file on its own, and all of them see the same table.
theorem views_agree :
    let source := c.source opener
    (∀ e, source.header name = .error e ↔ source.types name = .error e) ∧
    (∀ e, source.header name = .error e ↔ source.schema name = .error e) ∧
    (∀ s, source.schema name = .ok s ↔
      source.header name = .ok s.headers ∧ source.types name = .ok s.types) ∧
    source.schema name = source.plain.schema name ∧
    (∀ headers types, source.schema name ≠ .error (.schemaMismatch headers types)) ∧
    (∀ header, source.header name = .ok header →
      ∃ rows, source.rows name = .ok rows ∧
        ∀ cells, .ok cells ∈ rows → cells.length = header.length) ∧
    ∀ rows, source.rows name = .ok rows ↔
      ∃ bytes first rest, opener (c.resolve name) = .ok bytes ∧
        Csv.records c.delimiter bytes = .ok first :: rest ∧
        List.Forall₂ (RowOf first.fields.length) rest rows := by
  have hh : (c.source opener).header name = (c.head opener name).map (·.1) := rfl
  have ht : (c.source opener).types name = (c.head opener name).map (·.2) := rfl
  dsimp only
  rw [plain_schema_eq_head, schema_eq_head, hh, ht]
  refine ⟨fun e => ?types, fun e => ?schema, fun s => ?pair, rfl, ?mismatch, ?rows,
    fun _ => rows_eq_ok_iff⟩
  case types => cases c.head opener name <;> simp [Except.map]
  case schema => cases c.head opener name <;> simp [Except.map]
  case pair =>
    cases c.head opener name
    case error => simp [Except.map]
    case ok answer => cases s; simp [Except.map]
  case mismatch =>
    intro headers types hm
    cases h : c.head opener name
    case error e =>
      rw [h] at hm
      injection hm with hm
      exact head_ne_mismatch (h.trans (congrArg _ hm))
    case ok => rw [h] at hm; contradiction
  case rows =>
    intro header hm
    obtain ⟨⟨header, types⟩, h, rfl⟩ := except_map_eq_ok.mp hm
    obtain ⟨-, rest, ho⟩ := head_eq_ok h
    obtain ⟨bytes, first, hb, hr, rfl⟩ := open?_eq_ok_iff.mp ho
    have hrows : (c.source opener).rows name = .ok (rest.map (toRow first.fields.length)) := by
      simp [source, ho, bind, Except.bind, pure, Except.pure]
    refine ⟨_, hrows, fun cells hc => ?_⟩
    obtain ⟨record, -, hc⟩ := List.mem_map.mp hc
    exact length_of_toRow hc

end Answers
end CsvSetup
end FlatQuery
