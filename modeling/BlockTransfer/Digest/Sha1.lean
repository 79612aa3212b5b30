/-
BlockTransfer.Digest.Sha1 — the SHA-1 digest of a sequence of bytes.

A message is padded to whole blocks of 64 bytes: a byte 80 hexadecimal, zeros,
and the length of the message in bits as eight bytes, largest first. Each block
in turn goes through eighty rounds that turn five words into five others. Words
are 32 bits wide, are read with the largest byte first, and wrap around.

`Hasher` takes a message piece by piece: it keeps the words after the whole
blocks so far, the bytes after them, and the count of all bytes. `sha1` takes a
message at once.
-/
import BlockTransfer.Image
import BlockTransfer.Text.Numeral

namespace BlockTransfer

/-- The five words that a digest is worked out in. -/
structure Digest where
  a : UInt32
  b : UInt32
  c : UInt32
  d : UInt32
  e : UInt32
deriving DecidableEq, Repr

namespace Digest

/-! ## A block of 64 bytes -/

/-- The words before the first block. -/
def initial : Digest :=
  ⟨0x67452301, 0xefcdab89, 0x98badcfe, 0x10325476, 0xc3d2e1f0⟩

/-- A word turned to the left. -/
def rotate (word : UInt32) (count : UInt32) : UInt32 :=
  (word <<< count) ||| (word >>> (32 - count))

/-- The word that starts at an index of a message. -/
def wordAt (bytes : ByteArray) (index : Nat) : UInt32 :=
  ((Image.byteAt bytes index).toUInt32 <<< 24) |||
    ((Image.byteAt bytes (index + 1)).toUInt32 <<< 16) |||
    ((Image.byteAt bytes (index + 2)).toUInt32 <<< 8) |||
    (Image.byteAt bytes (index + 3)).toUInt32

/-- The sixteen words of the block at an offset. -/
def blockWords (bytes : ByteArray) (offset : Nat) : Array UInt32 :=
  (Array.range 16).map fun index => wordAt bytes (offset + 4 * index)

/-- Extends words by more words, each from four of those before it. -/
def extendWords (words : Array UInt32) : Nat → Array UInt32
  | 0 => words
  | count + 1 =>
    let back := fun steps => words.getD (words.size - steps) 0
    extendWords (words.push (rotate (back 3 ^^^ back 8 ^^^ back 14 ^^^ back 16) 1)) count

/-- The function and the constant of a round. -/
def mix (round : Nat) (b c d : UInt32) : UInt32 :=
  if round < 20 then ((b &&& c) ||| (~~~b &&& d)) + 0x5a827999
  else if round < 40 then (b ^^^ c ^^^ d) + 0x6ed9eba1
  else if round < 60 then ((b &&& c) ||| (b &&& d) ||| (c &&& d)) + 0x8f1bbcdc
  else (b ^^^ c ^^^ d) + 0xca62c1d6

/-- One round. -/
def round (state : Digest) (number : Nat) (word : UInt32) : Digest :=
  ⟨rotate state.a 5 + mix number state.b state.c state.d + state.e + word,
    state.a, rotate state.b 30, state.c, state.d⟩

/-- So many rounds, the first of which has the given number. -/
def rounds (words : Array UInt32) (state : Digest) (number : Nat) : Nat → Digest
  | 0 => state
  | count + 1 =>
    rounds words (round state number (words.getD number 0)) (number + 1) count

/-- The words after the block at an offset. -/
def compress (state : Digest) (bytes : ByteArray) (offset : Nat) : Digest :=
  let mixed := rounds (extendWords (blockWords bytes offset) 64) state 0 80
  ⟨state.a + mixed.a, state.b + mixed.b, state.c + mixed.c, state.d + mixed.d, state.e + mixed.e⟩

/-! ## Whole messages -/

/-- The bytes of a block. -/
def blockBytes : Nat := 64

/-- The words after all whole blocks from an offset on. -/
def absorb (state : Digest) (bytes : ByteArray) (offset : Nat) : Digest :=
  if offset + blockBytes ≤ bytes.size then
    absorb (compress state bytes offset) bytes (offset + blockBytes)
  else state
termination_by bytes.size - offset
decreasing_by
  have : 0 < blockBytes := by decide
  omega

/-- A number as so many bytes, largest first. -/
def bigEndian (n : Nat) : Nat → List UInt8
  | 0 => []
  | count + 1 => UInt8.ofNat (n / 256 ^ count) :: bigEndian n count

/-- What follows a message of a length, to make whole blocks. -/
def padding (length : Nat) : ByteArray :=
  let zeros := (blockBytes - (length + 9) % blockBytes) % blockBytes
  ⟨(0x80 :: List.replicate zeros 0 ++ bigEndian (8 * length) 8).toArray⟩

/-- The digest of a message. -/
def sha1 (message : ByteArray) : Digest :=
  absorb initial (message ++ padding message.size) 0

/-! ## Messages in pieces -/

/-- A message of which some pieces are known. -/
structure Hasher where
  state : Digest
  rest : ByteArray
  length : Nat

/-- A message of no bytes. -/
def Hasher.initial : Hasher := ⟨Digest.initial, ByteArray.empty, 0⟩

/-- Adds a piece at the end of the message. -/
def Hasher.update (hasher : Hasher) (piece : ByteArray) : Hasher :=
  let bytes := hasher.rest ++ piece
  let whole := bytes.size / blockBytes * blockBytes
  ⟨absorb hasher.state bytes 0, bytes.extract whole bytes.size, hasher.length + piece.size⟩

/-- The digest of the message. -/
def Hasher.finish (hasher : Hasher) : Digest :=
  absorb hasher.state (hasher.rest ++ padding hasher.length) 0

/-! ## The digest as bytes -/

/-- The twenty bytes of a digest, the largest byte of each word first. -/
def bytes (digest : Digest) : List UInt8 :=
  [digest.a, digest.b, digest.c, digest.d, digest.e].flatMap fun word => bigEndian word.toNat 4

/-- The digest in forty lower-case hexadecimal digits. -/
def text (digest : Digest) : String :=
  String.ofList (digest.bytes.flatMap Text.hexByte)

end Digest

end BlockTransfer
