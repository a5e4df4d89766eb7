import FlatQuery.Text.Utf8
import FlatQuery.Table.SourceError

namespace FlatQuery
namespace Csv

def quote : UInt8 := 0x22
def lineFeed : UInt8 := 0x0A
def carriageReturn : UInt8 := 0x0D

def isTerminator (b : UInt8) : Bool :=
  b == lineFeed || b == carriageReturn

structure Place where
  byte : Nat
  line : Nat
  deriving DecidableEq, Repr

structure RawRecord where
  start : Place
  fields : List Bytes
  deriving DecidableEq, Repr

-- A quote opens a quoted field only as the first byte of it. Inside, two quotes stand for one, and
-- what follows the closing quote belongs to the field.
inductive Mode
  | recordStart
  | fieldStart
  | plain
  | quoted
  -- A quote stood inside a quoted field: the first of two, or the closing one.
  | quoteSeen
  deriving DecidableEq, Repr

structure Pending where
  start : Place
  -- The finished fields, the latest first.
  fields : List Bytes
  -- The bytes of the field so far, the latest first.
  field : Bytes
  deriving DecidableEq, Repr

namespace Pending

def begin (start : Place) : Pending :=
  ⟨start, [], []⟩

def push (p : Pending) (b : UInt8) : Pending :=
  { p with field := b :: p.field }

def endField (p : Pending) : Pending :=
  { p with fields := p.field.reverse :: p.fields, field := [] }

def toRecord (p : Pending) : RawRecord :=
  ⟨p.start, p.endField.fields.reverse⟩

end Pending

def Place.after (p : Place) (b : UInt8) : Place :=
  ⟨p.byte + 1, if b = lineFeed then p.line + 1 else p.line⟩

inductive Step
  | goOn (mode : Mode) (pending : Pending)
  | endRecord
  deriving DecidableEq, Repr

def plainStep (delimiter : UInt8) (p : Pending) (b : UInt8) : Step :=
  if b = delimiter then .goOn .fieldStart p.endField
  else if isTerminator b then .endRecord
  else .goOn .plain (p.push b)

def fieldStep (delimiter : UInt8) (p : Pending) (b : UInt8) : Step :=
  if b = quote then .goOn .quoted p else plainStep delimiter p b

def step (delimiter : UInt8) (mode : Mode) (p : Pending) (b : UInt8) : Step :=
  match mode with
  | .recordStart => if isTerminator b then .goOn .recordStart p else fieldStep delimiter p b
  | .fieldStart => fieldStep delimiter p b
  | .plain => plainStep delimiter p b
  | .quoted => if b = quote then .goOn .quoteSeen p else .goOn .quoted (p.push b)
  | .quoteSeen => if b = quote then .goOn .quoted (p.push b) else plainStep delimiter p b

-- The records in the bytes from a place on. The end of the bytes ends a record that has begun.
def recordsFrom (delimiter : UInt8) (mode : Mode) (p : Pending) (place : Place) :
    Bytes → List RawRecord
  | [] => if mode = .recordStart then [] else [p.toRecord]
  | b :: rest =>
    match step delimiter mode p b with
    | .goOn mode p => recordsFrom delimiter mode p (place.after b) rest
    | .endRecord =>
      p.toRecord :: recordsFrom delimiter .recordStart (.begin (place.after b)) (place.after b) rest

def byteOrderMark : Bytes :=
  [0xEF, 0xBB, 0xBF]

-- The records of a file, without a byte order mark at its front.
def rawRecords (delimiter : UInt8) (bytes : Bytes) : List RawRecord :=
  let start : Place := ⟨0, 1⟩
  if bytes.take 3 = byteOrderMark then
    recordsFrom delimiter .recordStart (.begin start) ⟨3, 1⟩ (bytes.drop 3)
  else
    recordsFrom delimiter .recordStart (.begin start) start bytes

def isAsciiBlank (b : UInt8) : Bool :=
  b == 0x20 || b == 0x09 || b == 0x0A || b == 0x0C || b == 0x0D

def trimBytes (bytes : Bytes) : Bytes :=
  ((bytes.dropWhile isAsciiBlank).reverse.dropWhile isAsciiBlank).reverse

structure Record where
  start : Place
  fields : List Text
  deriving DecidableEq, Repr

-- The fields as texts, or the first that is none, with its number and its good bytes.
def decodeFields : List Bytes → Except (Nat × Nat) (List Text)
  | [] => .ok []
  | field :: fields =>
    match Utf8.decode (trimBytes field) with
    | .error good => .error (0, good)
    | .ok text =>
      match decodeFields fields with
      | .error (i, good) => .error (i + 1, good)
      | .ok texts => .ok (text.trim :: texts)

def RawRecord.decode (r : RawRecord) (number : Nat) : Except EncodingFault Record :=
  match decodeFields r.fields with
  | .ok fields => .ok ⟨r.start, fields⟩
  | .error (field, good) => .error ⟨number, r.start.line, r.start.byte, field, good⟩

-- The records of a file in order; one that is no text stands as its fault.
def records (delimiter : UInt8) (bytes : Bytes) : List (Except EncodingFault Record) :=
  (rawRecords delimiter bytes).mapIdx fun i r => r.decode i

end Csv
end FlatQuery
