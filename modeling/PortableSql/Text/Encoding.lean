import PortableSql.Text.Basic

/-!
# Encoded text

A text is encoded by one to four bytes for each character. The first byte of a character says how
many there are, and restricts the second one, so that no character can be encoded in two ways.
-/

namespace PortableSql.Text

/-- What the first byte of a character says. -/
structure LeadByte where
  /-- The number of bytes that follow. -/
  following : Nat
  /-- The first bits of the code. -/
  bits : Nat
  /-- The least value of the second byte. -/
  least : Nat
  /-- The greatest value of the second byte. -/
  greatest : Nat
deriving DecidableEq, Repr

/-- What a byte says as the first one of a character, unless no character starts so. -/
def leadByte? (b : Nat) : Option LeadByte :=
  if b < 0x80 then some ⟨0, b, 0x80, 0xbf⟩
  else if b < 0xc2 then none
  else if b < 0xe0 then some ⟨1, b - 0xc0, 0x80, 0xbf⟩
  else if b < 0xf0 then
    some ⟨2, b - 0xe0, if b == 0xe0 then 0xa0 else 0x80, if b == 0xed then 0x9f else 0xbf⟩
  else if b < 0xf5 then
    some ⟨3, b - 0xf0, if b == 0xf0 then 0x90 else 0x80, if b == 0xf4 then 0x8f else 0xbf⟩
  else none

/-- Text that was decoded, and the number of bytes up to the one that cannot be decoded, if there
is such a byte. A text that ends inside of a character cannot be decoded at its end. -/
structure Decoding where
  /-- The characters, each with the number of bytes up to its end. -/
  chars : List (Char × Nat)
  /-- The number of bytes before the fault. -/
  fault : Option Nat
deriving DecidableEq, Repr

/-- Decodes bytes from a position on. `started` says what the next byte of a character must be that
has been started. -/
def decodeFrom : (position : Nat) → (started : Option LeadByte) → List UInt8 → Decoding
  | _, none, [] => ⟨[], none⟩
  | position, some _, [] => ⟨[], some position⟩
  | position, none, b :: bytes =>
    match leadByte? b.toNat with
    | none => ⟨[], some position⟩
    | some ⟨0, bits, _, _⟩ =>
      let rest := decodeFrom (position + 1) none bytes
      { rest with chars := (Char.ofNat bits, position + 1) :: rest.chars }
    | some lead => decodeFrom (position + 1) (some lead) bytes
  | position, some lead, b :: bytes =>
    if b.toNat < lead.least || lead.greatest < b.toNat then ⟨[], some position⟩
    else
      let bits := lead.bits * 64 + b.toNat % 64
      if lead.following ≤ 1 then
        let rest := decodeFrom (position + 1) none bytes
        { rest with chars := (Char.ofNat bits, position + 1) :: rest.chars }
      else decodeFrom (position + 1) (some ⟨lead.following - 1, bits, 0x80, 0xbf⟩) bytes

/-- Decodes bytes. -/
def decode (bytes : List UInt8) : Decoding :=
  decodeFrom 0 none bytes

end PortableSql.Text
