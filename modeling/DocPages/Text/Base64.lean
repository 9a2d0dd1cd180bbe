import DocPages.Text.Basic
/-!
# Base64

Lenient decoding of base64 text (RFC 4648): characters outside the alphabet are skipped, each
four characters of the alphabet give three bytes, and `=` pads a final group. Padding counts
only after the second character of a group, and a group completed by padding ends the data, so
anything after it is ignored. The data is refused when a group is left open at the end: one
character alone cannot encode a byte, and two or three need their padding.
-/

namespace DocPages.Base64

/-- The value of a character of the base64 alphabet. -/
def value? (c : Char) : Option Nat :=
  if 'A' ≤ c && c ≤ 'Z' then some (c.toNat - 'A'.toNat)
  else if 'a' ≤ c && c ≤ 'z' then some (c.toNat - 'a'.toNat + 26)
  else if '0' ≤ c && c ≤ '9' then some (c.toNat - '0'.toNat + 52)
  else if c == '+' then some 62
  else if c == '/' then some 63
  else none

/-- How far a group of four characters has been read. -/
structure Group where
  /-- How many characters of the group were read. -/
  pos : Nat := 0
  /-- The bits read and not yet written. -/
  bits : Nat := 0
  /-- How many pad characters follow the last character read. -/
  pads : Nat := 0
  deriving Repr, DecidableEq, Inhabited

/-- Why base64 text does not decode. -/
inductive DecodeError where
  /-- One character is left over past the last whole group. -/
  | length
  /-- A group of two or three characters lacks its padding. -/
  | padding
  deriving Repr, DecidableEq, Inhabited

/-- Reads one alphabet value into a group; gives the byte completed, if any. -/
def Group.push (g : Group) (v : Nat) : Group × Option UInt8 :=
  match g.pos with
  | 0 => ({ pos := 1, bits := v }, none)
  | 1 => ({ pos := 2, bits := v % 16 }, some (g.bits * 4 + v / 16).toUInt8)
  | 2 => ({ pos := 3, bits := v % 4 }, some (g.bits * 16 + v / 4).toUInt8)
  | _ => ({}, some (g.bits * 64 + v).toUInt8)

/-- The bytes of the characters from the group `g` on; `acc` holds the bytes so far,
reversed. -/
def decodeFrom (g : Group) (acc : List UInt8) : List Char → Except DecodeError (List UInt8)
  | [] =>
    if g.pos == 0 then .ok acc.reverse
    else if g.pos == 1 then .error .length
    else .error .padding
  | c :: rest =>
    if c == '=' then
      if 2 ≤ g.pos && 4 ≤ g.pos + g.pads + 1 then .ok acc.reverse
      else decodeFrom (if 2 ≤ g.pos then { g with pads := g.pads + 1 } else g) acc rest
    else
      match value? c with
      | none => decodeFrom g acc rest
      | some v =>
        let (g, b) := { g with pads := 0 }.push v
        decodeFrom g (match b with | some b => b :: acc | none => acc) rest

/-- The bytes base64 characters encode. -/
def decode (cs : List Char) : Except DecodeError (List UInt8) :=
  decodeFrom {} [] cs

end DocPages.Base64
