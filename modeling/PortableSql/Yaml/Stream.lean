import PortableSql.Fault
import PortableSql.Text.Encoding
import PortableSql.Yaml.Character

/-!
# The text of a settings file

A settings file is read piece by piece, and a piece that cannot be decoded, or that holds a
character that no document may hold, is a fault only when it is reached. Bytes are decoded in
pieces of 8192, and characters are handed on in pieces of 4096, of which the first two come
together.
-/

namespace PortableSql.Yaml

/-- The text of a settings file, with line feeds as line ends. -/
structure Stream where
  /-- The characters that can be decoded. -/
  chars : Text
  /-- Whether bytes follow that cannot be decoded. -/
  broken : Bool
deriving DecidableEq, Repr

namespace Stream

/-- The number of bytes that are decoded at once. -/
def bytePiece : Nat :=
  8192

/-- The number of characters that are handed on at once. -/
def charPiece : Nat :=
  4096

/-- The number of characters that are handed on before any of them is looked at. -/
def firstPieces : Nat :=
  2 * charPiece

/-- The text of a file that holds text. -/
def ofText (t : Text) : Stream :=
  ⟨Text.normalizeNewlines t, false⟩

/-- Characters whose line ends are settled: a carriage return at the end is not. -/
def settled (t : Text) : Text :=
  if t.getLast? == some '\r' then t.dropLast else t

/-- The text of a file of bytes. If they cannot be decoded, the pieces before the fault count. -/
def ofBytes (bytes : List UInt8) : Stream :=
  let decoding := Text.decode bytes
  match decoding.fault with
  | none => .ofText (decoding.chars.map (·.1))
  | some position =>
    let limit := if position == bytes.length then position else position / bytePiece * bytePiece
    let chars := (decoding.chars.takeWhile fun char => char.2 ≤ limit).map (·.1)
    ⟨Text.normalizeNewlines (settled chars), true⟩

/-- The start of the piece that holds a position. -/
def pieceStart (position : Nat) : Nat :=
  position / charPiece * charPiece

/-- The characters that can be read, and the fault that follows them, if there is one. -/
def readable (stream : Stream) : Except Fault (Text × Option Fault) :=
  let whole := pieceStart stream.chars.length
  if stream.broken && whole < firstPieces then .error .undecodable
  else
    let chars := if stream.broken then stream.chars.take whole else stream.chars
    let position := (chars.takeWhile isAllowed).length
    if position == chars.length then .ok (chars, if stream.broken then some .undecodable else none)
    else if position < firstPieces then .error (.document .characters)
    else .ok (chars.take (pieceStart position), some (.document .characters))

end Stream

end PortableSql.Yaml
