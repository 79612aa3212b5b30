/-
BlockTransfer.Text.Terminal — texts that a terminal would not just print.

Control characters can begin a CONTROL SEQUENCE, which a terminal obeys instead
of showing it. `visible` writes those that could do harm in a way that can be
read, and `plain` takes whole sequences out of a text.

A sequence begins with the escape character. What follows decides its kind: a
short sequence ends after a few characters; a control function, begun by `[`,
ends at a character from `@` to `~`; a device control string, begun by `P`, and
a string that is not for us, begun by `X`, `^` or `_`, end at the byte 9C; a
command to the operating system, begun by `]`, ends at the bell. Two characters
end any of them, and another escape begins the next. Terminals read bytes, so
the bytes of a character may end a sequence in its middle; nothing of such a
character is kept.
-/
import BlockTransfer.Text.Numeral

namespace BlockTransfer.Text

/-! ## Making control characters visible -/

/-- Control characters below 80 hexadecimal that terminals obey: bell,
backspace, form feed, escape and delete. -/
def harmful : List Char := ['\x07', '\x08', '\x0c', '\x1b', '\x7f']

/-- A character as it may appear on a terminal: one that terminals obey is
written as its code point. -/
def visibleChar (c : Char) : List Char :=
  if c ∈ harmful then '\\' :: 'x' :: hexByte (UInt8.ofNat c.toNat)
  else if 0x80 ≤ c.toNat ∧ c.toNat ≤ 0x9f then
    '\\' :: 'u' :: '\x7b' :: (hexadecimal c.toNat).toList ++ ['\x7d']
  else [c]

/-- A text as it may appear on a terminal. -/
def visible (text : String) : String :=
  String.ofList (text.toList.flatMap visibleChar)

/-! ## Taking control sequences out -/

/-- How far a control sequence has been read. -/
inductive Sequence where
  /-- No sequence has begun. -/
  | outside
  /-- The escape character was the last one. -/
  | begun
  /-- A short sequence goes on. -/
  | short
  | controlFunction
  /-- A device control string, before its parameters. -/
  | deviceControl
  /-- A device control string, among its parameters. -/
  | deviceParameter
  /-- A device control string, behind its parameters. -/
  | deviceIntermediate
  /-- A string that ends at the byte 9C. -/
  | controlString
  | systemCommand
deriving DecidableEq, Repr

namespace Sequence

/-- Reads a byte that is not one of those that end every sequence. -/
def read (sequence : Sequence) (byte : Nat) : Sequence :=
  let within := fun (low high : Nat) => low ≤ byte ∧ byte ≤ high
  match sequence with
  | .outside => .outside
  | .begun =>
    if within 0x20 0x2f then .short
    else if byte = 0x5b then .controlFunction
    else if byte = 0x5d then .systemCommand
    else if byte = 0x50 then .deviceControl
    else if byte = 0x58 ∨ byte = 0x5e ∨ byte = 0x5f then .controlString
    else if within 0x30 0x7e then .outside
    else .begun
  | .short => if within 0x30 0x7e then .outside else .short
  | .controlFunction => if within 0x40 0x7e then .outside else .controlFunction
  | .deviceControl =>
    if within 0x20 0x2f then .deviceIntermediate
    else if within 0x30 0x3f then .deviceParameter
    else if within 0x40 0x7e then .controlString
    else .deviceControl
  | .deviceParameter =>
    if within 0x20 0x2f then .deviceIntermediate
    else if within 0x3c 0x7e then .controlString
    else .deviceParameter
  | .deviceIntermediate => if within 0x30 0x7e then .controlString else .deviceIntermediate
  | .controlString => if byte = 0x9c then .outside else .controlString
  | .systemCommand => if byte = 0x07 then .outside else .systemCommand

/-- Reads any byte. -/
def next (sequence : Sequence) (byte : UInt8) : Sequence :=
  if byte = 0x18 ∨ byte = 0x1a then .outside
  else if byte = 0x1b then .begun
  else sequence.read byte.toNat

/-- Whether blanks are obeyed at once, even in the middle of the sequence. -/
def letsBlanksThrough : Sequence → Bool
  | .outside | .begun | .short | .controlFunction => true
  | _ => false

end Sequence

/-- The blanks that move the cursor. -/
def movingBlanks : List Char := ['\t', '\n', '\x0c', '\r']

/-- Whether a character outside of a sequence is kept. -/
def isKept (c : Char) : Bool :=
  (0x20 ≤ c.toNat && c ≠ '\x7f') || movingBlanks.contains c

/-- The rest of a text without control sequences, of which one may have begun.
A blank that is let through ends the sequence. -/
def plainFrom (sequence : Sequence) : List Char → List Char
  | [] => []
  | c :: cs =>
    if sequence = .outside ∧ isKept c then c :: plainFrom .outside cs
    else if sequence.letsBlanksThrough ∧ c ∈ movingBlanks then c :: plainFrom .outside cs
    else plainFrom ((String.utf8EncodeChar c).foldl Sequence.next sequence) cs

/-- A text without control sequences and without characters that do not print. -/
def plain (text : String) : String :=
  String.ofList (plainFrom .outside text.toList)

end BlockTransfer.Text
