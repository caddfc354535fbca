import CodeAudit.Decimal.Double
import CodeAudit.Text.Lines
import CodeAudit.Text.Utf8

/-!
# Text in Chunks

The characters that come out of a file that is not text.

A file can be read a number of characters at a time. Its bytes are then taken from the file in
chunks, and each chunk is decoded when it is taken. If a file is not text, then the characters in
the chunks in front of the faulty one are found all the same, and only the reading after them fails.
So where the chunks end decides how many characters there are.

A chunk has a least length. It is longer where the characters of the chunk before it took several
bytes each, because then more bytes are expected to be needed for the characters that are still
asked for. The bytes of a character that goes on in the next chunk are held until that chunk is
there, and so is a carriage return at the end of a chunk, which may belong to a line feed.

## Main definitions

* `Utf8.decodeChunk`: The characters of a chunk, and the bytes at its end that are held.
* `normalizeChunk`: The line ends of a chunk.
* `ChunkReader`: A file that is being read in chunks.
* `ChunkReader.step`: Takes the next chunk.
* `charsBeforeFault`: The characters in the chunks before the faulty one.
-/

namespace CodeAudit

namespace Utf8

/-- The characters of a chunk, in front of which the characters found so far stand in reverse, and
    the bytes at its end that begin another character, of which those read so far are given in
    reverse. -/
def decodeChunk (found : List Char) (held : List UInt8) :
    Option Pending → List UInt8 → Option (List Char × List UInt8)
  | _, [] => some (found.reverse, held.reverse)
  | none, b :: rest =>
    match start b with
    | .inl (.char c) => decodeChunk (c :: found) [] none rest
    | .inl .invalid => none
    | .inr pending => decodeChunk found [b] (some pending) rest
  | some p, b :: rest =>
    if p.low ≤ b && b ≤ p.high then
      let value := p.value * 64 + (b.toNat - 0x80)
      if p.owed ≤ 1 then decodeChunk (Char.ofNat value :: found) [] none rest
      else decodeChunk found (b :: held) (some ⟨p.owed - 1, value, 0x80, 0xBF⟩) rest
    -- Two bytes of a surrogate are refused only when the third one is there.
    else if held == [0xED] && 0xA0 ≤ b && b ≤ 0xBF && rest.isEmpty then
      some (found.reverse, [0xED, b])
    else none

end Utf8

/-- The characters of a chunk with every line end a line feed, where a carriage return may be held in
    front of it, and whether one is held at its end. -/
def normalizeChunk (returned : Bool) (cs : List Char) : List Char × Bool :=
  -- A chunk without characters leaves a carriage return where it is.
  if cs.isEmpty then ([], returned)
  else
    let cs := if returned then '\r' :: cs else cs
    if cs.getLast? == some '\r' then (normalizeNewlines cs.dropLast, true)
    else (normalizeNewlines cs, false)

/-- A file that is being read in chunks: the bytes that are left, the bytes of a character and the
    carriage return that are held, the characters found so far in reverse, their number, and how
    many bytes and characters the last chunk had. -/
structure ChunkReader where
  rest : List UInt8
  held : List UInt8
  returned : Bool
  found : List Char
  count : Nat
  lastBytes : Nat
  lastChars : Nat

namespace ChunkReader

/-- The least number of bytes that are taken at once. -/
def leastLength : Nat := 8192

/-- The number of bytes that a number of characters are expected to take. -/
def expectedLength (r : ChunkReader) (missing : Nat) : Nat :=
  if r.lastChars = 0 || r.lastBytes ≤ r.lastChars then missing
  else
    -- The ratio is a floating point number, so the product may fall short of the exact one.
    match Double.quotient? r.lastBytes r.lastChars with
    | some ratio => ((ratio.mul (.ofInt missing)).truncate?.getD 0).toNat
    | none => 0

/-- The length of the next chunk, where a number of characters are asked for at a time. -/
def chunkLength (size : Nat) (r : ChunkReader) : Nat :=
  max leastLength (r.expectedLength (size - r.count % size))

/-- Takes the next chunk. At the end of the file there is none, and what is held then is no
    character. -/
def step (size : Nat) (r : ChunkReader) : Option ChunkReader :=
  let chunk := r.rest.take (r.chunkLength size)
  if chunk.isEmpty then none
  else
    match Utf8.decodeChunk [] [] none (r.held ++ chunk) with
    | none => none
    | some (cs, held) =>
      let normal := normalizeChunk r.returned cs
      some { rest := r.rest.drop chunk.length, held, returned := normal.2,
             found := normal.1.reverse ++ r.found, count := r.count + normal.1.length,
             lastBytes := chunk.length, lastChars := normal.1.length }

/-- The characters that are found until no chunk can be taken. -/
def run (size : Nat) : Nat → ChunkReader → List Char
  | 0, r => r.found.reverse
  | fuel + 1, r =>
    match r.step size with
    | none => r.found.reverse
    | some r => run size fuel r

end ChunkReader

/-- The characters in the chunks before the faulty one of a file that is not text, where a number of
    characters are asked for at a time. -/
def charsBeforeFault (size : Nat) (bytes : List UInt8) : List Char :=
  -- Every chunk that is taken has a byte at least.
  ChunkReader.run size (bytes.length + 1)
    { rest := bytes, held := [], returned := false, found := [], count := 0, lastBytes := 0,
      lastChars := 0 }

end CodeAudit
