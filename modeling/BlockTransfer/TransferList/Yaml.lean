/-
BlockTransfer.TransferList.Yaml — a transfer list as a YAML document.

Block style: a mapping of four keys, the two range sets with their pairs one
below the other, and an empty sequence written as a pair of brackets.
-/
import BlockTransfer.TransferList.Parser

namespace BlockTransfer.TransferList

/-- One range of a set: a sequence of two numbers inside a sequence. -/
def yamlRange (range : BlockRange) : String :=
  s!"  - - {range.start}\n    - {range.stop}\n"

/-- A key and the range set under it. -/
def yamlSet (key : String) (set : RangeSet) : String :=
  match set.ranges with
  | [] => s!"{key}:\n  pairs: []\n"
  | ranges => s!"{key}:\n  pairs:\n" ++ String.join (ranges.map yamlRange)

/-- The whole document. -/
def toYaml (list : TransferList) : String :=
  s!"version: {list.version.val}\ntotal_blocks: {list.totalBlocks.val}\n" ++
    yamlSet "erase_set" list.eraseSet ++ yamlSet "new_set" list.newSet

end BlockTransfer.TransferList
