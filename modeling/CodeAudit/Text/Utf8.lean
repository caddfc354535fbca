/-!
# UTF-8

Reading and writing the bytes of a text.

The reader is a machine that takes one byte at a time. Between two characters it
stands still; inside a character it knows how many bytes are owed, what has been
gathered, and between which bounds the next byte has to lie. The bounds differ
from those of any later byte only after four of the leading bytes, where they
keep out forms that are too long, surrogates, and code points above the last
one.

A byte that the machine cannot take ends the character being read as one invalid
piece and is then looked at again as the start of a character. So every invalid
piece is as long as it can be, and a line feed, which is never owed, always comes
through. A strict reading refuses a text with an invalid piece; a tolerant one
puts the replacement character U+FFFD in its place.

## Main definitions

* `Utf8.Pending`: A character of which some bytes have been read.
* `Utf8.Pending.start`: What a byte does between two characters.
* `Utf8.pieces`: The characters and invalid pieces of a byte string.
* `Utf8.decode?`: The strict reading.
* `Utf8.decodeTolerant`: The tolerant reading.
* `Utf8.encode`: The bytes of a text.
-/

namespace CodeAudit

namespace Utf8

/-- A character of which some bytes have been read: `owed` further bytes complete
    it, `value` is what the bytes so far contribute, and the next byte has to lie
    between `low` and `high`. -/
structure Pending where
  owed : Nat
  value : Nat
  low : UInt8
  high : UInt8
deriving DecidableEq, Repr

/-- A character or an invalid piece of a byte string. -/
inductive Piece
  | char (c : Char)
  | invalid
deriving DecidableEq, Repr

/-- What a byte does between two characters: it is a character, opens a longer
    one, or is invalid. -/
def start (b : UInt8) : Piece ⊕ Pending :=
  if b < 0x80 then .inl (.char (Char.ofNat b.toNat))
  -- These would continue a character, or open one that a single byte could have been.
  else if b < 0xC2 then .inl .invalid
  else if b < 0xE0 then .inr ⟨1, b.toNat - 0xC0, 0x80, 0xBF⟩
  else if b < 0xF0 then
    -- The second byte is bounded so that no character is written too long, and none is a
    -- surrogate.
    .inr ⟨2, b.toNat - 0xE0, if b == 0xE0 then 0xA0 else 0x80, if b == 0xED then 0x9F else 0xBF⟩
  else if b < 0xF5 then
    -- Here too nothing is written too long, and nothing lies beyond the last code point.
    .inr ⟨3, b.toNat - 0xF0, if b == 0xF0 then 0x90 else 0x80, if b == 0xF4 then 0x8F else 0xBF⟩
  else .inl .invalid

/-- The pieces of a byte string, in front of which the pieces found so far stand
    in reverse. -/
def piecesFrom : List Piece → Option Pending → List UInt8 → List Piece
  | found, none, [] => found.reverse
  | found, some _, [] => (Piece.invalid :: found).reverse
  | found, none, b :: rest =>
    match start b with
    | .inl piece => piecesFrom (piece :: found) none rest
    | .inr pending => piecesFrom found (some pending) rest
  | found, some p, b :: rest =>
    if p.low ≤ b && b ≤ p.high then
      let value := p.value * 64 + (b.toNat - 0x80)
      if p.owed ≤ 1 then
        piecesFrom (.char (Char.ofNat value) :: found) none rest
      else
        piecesFrom found (some ⟨p.owed - 1, value, 0x80, 0xBF⟩) rest
    else
      -- The byte ends what was open as one invalid piece, and is looked at anew for itself.
      match start b with
      | .inl piece => piecesFrom (piece :: .invalid :: found) none rest
      | .inr pending => piecesFrom (.invalid :: found) (some pending) rest

/-- The characters and invalid pieces of a byte string, from left to right. -/
def pieces (bs : List UInt8) : List Piece :=
  piecesFrom [] none bs

/-- The character a piece stands for in a tolerant reading. -/
def Piece.shown : Piece → Char
  | .char c => c
  | .invalid => '\uFFFD'

/-- The character of a piece, where it is one. -/
def Piece.char? : Piece → Option Char
  | .char c => some c
  | .invalid => none

/-- The text of a byte string, every invalid piece replaced by U+FFFD. -/
def decodeTolerant (bs : List UInt8) : List Char :=
  (pieces bs).map Piece.shown

/-- The text of a byte string without invalid pieces. -/
def decode? (bs : List UInt8) : Option (List Char) :=
  (pieces bs).mapM Piece.char?

/-- The bytes of a text. -/
def encode (cs : List Char) : List UInt8 :=
  cs.flatMap String.utf8EncodeChar

end Utf8

end CodeAudit
