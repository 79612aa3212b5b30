/-
BlockTransfer.Progress — progress bars.

A bar that is shown is drawn from a template and has a length; a hidden bar has
neither. Both have a label and a position that is advanced while work is done.
The position is a word and wraps around. Finishing a bar takes it to its
length, if it has one.
-/
import BlockTransfer.BlockRange
import BlockTransfer.Progress.Template

namespace BlockTransfer

/-- What a progress bar shows. -/
structure ProgressBar where
  template? : Option Progress.Template
  length? : Option Nat
  label : String
  position : Nat
  finished : Bool

namespace ProgressBar

open Progress (Template)

/-- A bar that is not shown. -/
def hidden : ProgressBar := ⟨none, none, "", 0, false⟩

/-- A bar that is drawn from a template. -/
def ofTemplate (template : Template) (length : Nat) (label : String) : ProgressBar :=
  ⟨some template, some length, label, 0, false⟩

/-- A bar that counts blocks, hidden unless it is to be shown. -/
def blocks (shown : Bool) (length : Nat) (label : String) : ProgressBar :=
  if shown then ofTemplate .blocks length label else hidden

/-- A bar that counts bytes, hidden unless it is to be shown. -/
def bytes (shown : Bool) (length : Nat) (label : String) : ProgressBar :=
  if shown then ofTemplate .bytes length label else hidden

/-- Advances a bar. -/
def advance (bar : ProgressBar) (count : Nat) : ProgressBar :=
  { bar with position := (bar.position + count) % wordLimit }

/-- Finishes a bar. -/
def finish (bar : ProgressBar) : ProgressBar :=
  { bar with position := bar.length?.getD bar.position, finished := true }

end ProgressBar

end BlockTransfer
