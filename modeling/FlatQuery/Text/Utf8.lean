import FlatQuery.Text.Basic

namespace FlatQuery

abbrev Bytes := List UInt8

namespace Utf8

def encodeChar (c : Char) : Bytes :=
  let n := c.toNat
  if n < 0x80 then
    [n.toUInt8]
  else if n < 0x800 then
    [(0xC0 + n / 0x40).toUInt8, (0x80 + n % 0x40).toUInt8]
  else if n < 0x10000 then
    [(0xE0 + n / 0x1000).toUInt8, (0x80 + n / 0x40 % 0x40).toUInt8, (0x80 + n % 0x40).toUInt8]
  else
    [(0xF0 + n / 0x40000).toUInt8, (0x80 + n / 0x1000 % 0x40).toUInt8,
      (0x80 + n / 0x40 % 0x40).toUInt8, (0x80 + n % 0x40).toUInt8]

def encode (t : Text) : Bytes :=
  t.flatMap encodeChar

def isContinuation (b : UInt8) : Bool :=
  0x80 ≤ b.toNat && b.toNat < 0xC0

-- Overlong forms, surrogates and code points past the last one are refused. The number is that of
-- the bytes after the first.
def firstChar? : Bytes → Option (Char × Nat)
  | [] => none
  | a :: rest =>
    let lead := a.toNat
    if lead < 0x80 then
      some (Char.ofNat lead, 0)
    else if lead < 0xC2 then
      none
    else if lead < 0xE0 then
      match rest with
      | b :: _ =>
        if isContinuation b then
          some (Char.ofNat ((lead - 0xC0) * 0x40 + (b.toNat - 0x80)), 1)
        else none
      | [] => none
    else if lead < 0xF0 then
      match rest with
      | b :: c :: _ =>
        let n := (lead - 0xE0) * 0x1000 + (b.toNat - 0x80) * 0x40 + (c.toNat - 0x80)
        if isContinuation b && isContinuation c && 0x800 ≤ n && n.isValidChar then
          some (Char.ofNat n, 2)
        else none
      | _ => none
    else if lead < 0xF5 then
      match rest with
      | b :: c :: d :: _ =>
        let n := (lead - 0xF0) * 0x40000 + (b.toNat - 0x80) * 0x1000 + (c.toNat - 0x80) * 0x40
          + (d.toNat - 0x80)
        if isContinuation b && isContinuation c && isContinuation d && 0x10000 ≤ n
            && n.isValidChar then
          some (Char.ofNat n, 3)
        else none
      | _ => none
    else
      none

-- Decodes bytes of which `skip` still belong to the character before; `good` bytes were read.
def decodeFrom (good skip : Nat) : Bytes → Except Nat Text
  | [] => .ok []
  | b :: rest =>
    match skip with
    | n + 1 => decodeFrom (good + 1) n rest
    | 0 =>
      match firstChar? (b :: rest) with
      | none => .error good
      | some (c, more) => (decodeFrom (good + 1) more rest).map (c :: ·)

-- The text of the bytes, or the number of good bytes before the first fault.
def decode (bytes : Bytes) : Except Nat Text :=
  decodeFrom 0 0 bytes

end Utf8
end FlatQuery
