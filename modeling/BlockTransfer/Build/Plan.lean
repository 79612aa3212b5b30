/-
BlockTransfer.Build.Plan — what a build is to do, and what it reports.

A plan names the ranges to erase and the ranges to fill with data, and whether
bars are to show how far the passes have got. A build erases first, copies
next, and flushes the target last; its report counts the blocks of both passes
and the bytes of data that were used.
-/
import BlockTransfer.Build.Passes
import BlockTransfer.Progress

namespace BlockTransfer.Build

variable {σ τ : Type}

/-- What a build is to do. -/
structure Plan where
  eraseSet : RangeSet
  newSet : RangeSet
  progress : Bool
deriving DecidableEq, Repr

/-- A pass that went through: its blocks, and the bar that showed them. -/
structure Pass where
  blocks : Nat
  bar : ProgressBar

/-- What a build has done. -/
structure Report where
  erasedBlocks : Nat
  writtenBlocks : Nat
  bytesRead : Nat
deriving DecidableEq, Repr

/-- The report in words. -/
def Report.text (report : Report) : String :=
  s!"erased {report.erasedBlocks} blocks, wrote {report.writtenBlocks} blocks " ++
    s!"from {report.bytesRead} bytes of data"

/-- Shows on a bar how far a pass gets. -/
def shownOn (bar : ProgressBar) (pass : Step σ τ Nat) : Step σ τ Pass := do
  let before := (← get).advanced
  let blocks ← pass
  let after := (← get).advanced
  pure ⟨blocks, (bar.advance (after - before)).finish⟩

namespace Plan

/-- The erase pass of a plan. -/
def erase (plan : Plan) (conduct : Conduct σ τ) : Step σ τ Pass :=
  shownOn (.blocks plan.progress plan.eraseSet.blockCount "Erasing")
    (eraseRanges conduct 0 plan.eraseSet.ranges)

/-- The copy pass of a plan. -/
def copy (plan : Plan) (conduct : Conduct σ τ) : Step σ τ Pass :=
  shownOn (.blocks plan.progress plan.newSet.blockCount "Writing")
    (copyRanges conduct 0 plan.newSet.ranges)

/-- The whole build. -/
def build (plan : Plan) (conduct : Conduct σ τ) : Step σ τ Report := do
  report .info s!"Erasing {plan.eraseSet.count} ranges ({plan.eraseSet.blockCount} blocks)"
  let erased ← plan.erase conduct
  report .info s!"Writing {plan.newSet.count} ranges ({plan.newSet.blockCount} blocks)"
  let written ← plan.copy conduct
  flush conduct
  pure ⟨erased.blocks, written.blocks, saturate (written.blocks * blockSize)⟩

end Plan

end BlockTransfer.Build
