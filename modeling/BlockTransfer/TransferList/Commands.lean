/-
BlockTransfer.TransferList.Commands — the command lines of a transfer list.

Commands start on line 2. A line whose first word is the word of a command
carries a range field as its second word. The first line of each command
counts; later ones are passed over unread, and so is every other line. A
command that never comes leaves its range set empty.
-/
import BlockTransfer.RangeSet.Field

namespace BlockTransfer.TransferList

/-- The range sets of the commands met so far. -/
structure Slots where
  erase? : Option RangeSet
  new? : Option RangeSet
deriving DecidableEq, Repr

namespace Slots

/-- No command met yet. -/
def empty : Slots := ⟨none, none⟩

/-- The range set of a command, if it was met. -/
def get? (slots : Slots) : Command → Option RangeSet
  | .erase => slots.erase?
  | .new => slots.new?

/-- Fills the slot of a command. -/
def put (slots : Slots) (set : RangeSet) : Command → Slots
  | .erase => { slots with erase? := some set }
  | .new => { slots with new? := some set }

end Slots

/-- The command of a line and what follows its word. -/
def Command.ofLine? (line : List Char) : Option (Command × List Char) :=
  match Text.nextWord? line with
  | none => none
  | some (word, rest) =>
    if word = Command.erase.word.toList then some (.erase, rest)
    else if word = Command.new.word.toList then some (.new, rest)
    else none

/-- Reads the range field that follows the word of a command on a line. -/
def readField (command : Command) (line : Nat) (rest : List Char) : Logged Error RangeSet :=
  match Text.nextWord? rest with
  | none =>
    .fail (.missingRangeField command line) .transferList
      s!"Command '{command.word}' on transfer list line {line + 1} has no range field"
  | some (field, _) => do
    let set ← RangeSet.ofField (String.ofList field)
    Logged.report .debug .transferList
      (s!"{command.word} set from line {line + 1}: " ++
        s!"{set.count} ranges, {set.blockCount} blocks: {set.toField}")
    pure set

/-- Reads one line after the header. -/
def readLine (slots : Slots) (line : Nat) (written : List Char) : Logged Error Slots :=
  match Command.ofLine? written with
  | none => do
    Logged.report .debug .transferList
      s!"Ignoring transfer list line {line + 1}: '{String.ofList written}'"
    pure slots
  | some (command, rest) =>
    match slots.get? command with
    | some _ => do
      Logged.report .debug .transferList
        s!"Ignoring repeated '{command.word}' command on line {line + 1}"
      pure slots
    | none => do
      let set ← readField command line rest
      pure (slots.put set command)

/-- Reads lines of which the first has the given number. -/
def readLines (slots : Slots) (line : Nat) : List (List Char) → Logged Error Slots
  | [] => pure slots
  | written :: rest => do
    let slots ← readLine slots line written
    readLines slots (line + 1) rest

/-- The erase set and the new set of a transfer list. -/
structure Commands where
  eraseSet : RangeSet
  newSet : RangeSet
deriving DecidableEq, Repr

/-- Reads the commands of a transfer list, given all of its lines. -/
def Commands.ofLines (lines : List (List Char)) : Logged Error Commands := do
  let slots ← readLines .empty 2 (lines.drop 2)
  pure ⟨slots.erase?.getD .empty, slots.new?.getD .empty⟩

end BlockTransfer.TransferList
