import PortableSql.Text.Basic

/-!
# Bytes of a settings document

Bytes are written in groups of four characters, each of which stands for six bits; pads fill the
last group.
-/

namespace PortableSql.Yaml

/-- The value of a character that stands for six bits. -/
def sixBits? (c : Char) : Option Nat :=
  if 'A' ≤ c && c ≤ 'Z' then some (c.toNat - 65)
  else if 'a' ≤ c && c ≤ 'z' then some (c.toNat - 71)
  else if '0' ≤ c && c ≤ '9' then some (c.toNat + 4)
  else if c == '+' then some 62
  else if c == '/' then some 63
  else none

/-- Decodes bytes written six bits at a time. Other characters are ignored. The arguments are the
place within a group of four, the bits left over and the number of pads seen. -/
def sixBitBytes : (place : Nat) → (rest : Nat) → (pads : Nat) → Text → Option (List UInt8)
  | place, _, _, [] => if place == 0 then some [] else none
  | place, rest, pads, c :: cs =>
    if c == '=' then
      if 2 ≤ place && 4 ≤ place + pads + 1 then some [] else sixBitBytes place rest (pads + 1) cs
    else
      match sixBits? c with
      | none => sixBitBytes place rest pads cs
      | some bits =>
        match place with
        | 0 => sixBitBytes 1 bits 0 cs
        | 1 => (sixBitBytes 2 (bits % 16) 0 cs).map (UInt8.ofNat (rest * 4 + bits / 16) :: ·)
        | 2 => (sixBitBytes 3 (bits % 4) 0 cs).map (UInt8.ofNat (rest * 16 + bits / 4) :: ·)
        | _ => (sixBitBytes 0 0 0 cs).map (UInt8.ofNat (rest * 64 + bits) :: ·)

/-- Bytes written six bits at a time, in ASCII. -/
def readBytes? (t : Text) : Option (List UInt8) :=
  if t.all fun c => c.toNat < 0x80 then sixBitBytes 0 0 0 t else none

end PortableSql.Yaml
