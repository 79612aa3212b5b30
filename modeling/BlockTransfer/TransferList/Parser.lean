/-
BlockTransfer.TransferList.Parser — transfer lists and how one is read.

A transfer list is a header of two lines followed by command lines. What is
kept of it is the version, the total count of blocks and the two range sets;
`summary` says as much in one line.
-/
import BlockTransfer.TransferList.Commands
import BlockTransfer.TransferList.Header

namespace BlockTransfer

/-- What a transfer list says. -/
structure TransferList where
  version : Fin TransferList.versionLimit
  totalBlocks : Fin wordLimit
  eraseSet : RangeSet
  newSet : RangeSet
deriving DecidableEq, Repr

namespace TransferList

/-- Reads a transfer list. -/
def ofText (text : String) : Logged Error TransferList := do
  let lines := Text.lines text.toList
  let header ← Header.ofLines lines
  let commands ← Commands.ofLines lines
  pure ⟨header.version, header.totalBlocks, commands.eraseSet, commands.newSet⟩

/-- The list in one line. -/
def summary (list : TransferList) : String :=
  s!"Transfer list v{list.version.val}, {list.totalBlocks.val} blocks total, " ++
    s!"erase {list.eraseSet.count} ranges ({list.eraseSet.blockCount} blocks), " ++
    s!"new {list.newSet.count} ranges ({list.newSet.blockCount} blocks)"

end TransferList

end BlockTransfer
