import FlatQuery.Text.Utf8

namespace FlatQuery

inductive EscapeState
  | ground
  | escape
  | escapeIntermediate
  | control
  -- The three parts of the head of a string for a device.
  | device
  | deviceParameter
  | deviceIntermediate
  -- A string for a device, or one without a meaning.
  | ignored
  -- A string for the system, which a bell ends.
  | command
  deriving DecidableEq, Repr

namespace EscapeState

def escapeChar : Char := '\x1b'

-- The byte that ends a string. It may also be a part of a character.
def stringEnd : UInt8 := 0x9C

def isIntermediate (c : Char) : Bool :=
  0x20 ≤ c.toNat && c.toNat ≤ 0x2F

def isParameter (c : Char) : Bool :=
  0x30 ≤ c.toNat && c.toNat ≤ 0x3F

def isFinal (c : Char) : Bool :=
  0x40 ≤ c.toNat && c.toNat ≤ 0x7E

def isAscii (c : Char) : Bool :=
  c.toNat < 0x80

def introduce (c : Char) : EscapeState :=
  if isIntermediate c then escapeIntermediate
  else if c = '[' then control
  else if c = ']' then command
  else if c = 'P' then device
  else if c = 'X' || c = '^' || c = '_' then ignored
  else if isParameter c || isFinal c then ground
  else escape

def next (s : EscapeState) (c : Char) : EscapeState :=
  if c = escapeChar then escape
  else if c = '\x18' || c = '\x1a' then ground
  else if !isAscii c then
    if s = ignored && (Utf8.encodeChar c).contains stringEnd then ground else s
  else match s with
    | ground => ground
    | escape => introduce c
    | escapeIntermediate => if isParameter c || isFinal c then ground else s
    | control => if isFinal c then ground else s
    | device =>
      if isIntermediate c then deviceIntermediate
      else if isParameter c then deviceParameter
      else if isFinal c then ignored
      else s
    | deviceParameter =>
      if isIntermediate c then deviceIntermediate
      else if ['<', '=', '>', '?'].contains c || isFinal c then ignored
      else s
    | deviceIntermediate => if isParameter c || isFinal c then ignored else s
    | ignored => s
    | command => if c = '\x07' then ground else s

-- Controls that are shown, in the middle of a control sequence too.
def isLayout (c : Char) : Bool :=
  c = '\t' || c = '\n' || c = '\x0c' || c = '\r'

def shows (s : EscapeState) (c : Char) : Bool :=
  match s with
  | ground => isLayout c || 0x20 ≤ c.toNat && c.toNat != 0x7F
  | escape | escapeIntermediate | control => isLayout c
  | _ => false

end EscapeState

-- A reader of texts with escapes. Once it shows a character, it goes on until one that is never
-- shown, and only then takes up the state again.
structure EscapeReader where
  state : EscapeState := .ground
  showing : Bool := false
  deriving DecidableEq, Repr

namespace EscapeReader

def shows (r : EscapeReader) (c : Char) : Bool :=
  (if r.showing then .ground else r.state).shows c

def read (r : EscapeReader) (c : Char) : EscapeReader :=
  if r.shows c then ⟨if EscapeState.isAscii c then r.state else .ground, true⟩
  else ⟨r.state.next c, false⟩

def shown (r : EscapeReader) : Text → Text
  | [] => []
  | c :: t => if r.shows c then c :: shown (r.read c) t else shown (r.read c) t

end EscapeReader

namespace Text

def withoutEscapes (t : Text) : Text :=
  EscapeReader.shown {} t

end Text

def emphasised (s : String) : String :=
  s!"\x1b[1m{s}\x1b[0m"

end FlatQuery
