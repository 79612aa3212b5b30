/-
BlockTransfer.Conduct.Limited — sources and targets with limits.

A LIMITED source or target moves only so many bytes per call, is interrupted
at every n-th call, and fails from some point on. With such limits every way
out of a build can be reached on purpose. Limits that are left out do not
bind, and an interruption at every single call is left out too, for no build
would ever get past it.
-/
import BlockTransfer.Conduct

namespace BlockTransfer

/-- Whether a call is one of those, each n-th, that are interrupted. -/
def isDue (every? : Option Nat) (call : Nat) : Bool :=
  match every? with
  | none => false
  | some every => 1 < every && call % every == 0

/-- The call after an interrupted one is not interrupted. -/
theorem isDue_succ {every? : Option Nat} {call : Nat} (due : isDue every? call = true) :
    isDue every? (call + 1) = false := by
  cases every? with
  | none => rfl
  | some every =>
    simp only [isDue, Bool.and_eq_true, decide_eq_true_eq, beq_iff_eq] at due
    obtain ⟨many, divides⟩ := due
    have next : (call + 1) % every = 1 := by
      rw [Nat.add_mod, divides, Nat.zero_add, Nat.mod_mod, Nat.mod_eq_of_lt many]
    simp [isDue, next]

/-- The smaller of a number and a limit that may be left out. -/
def atMost (limit? : Option Nat) (size : Nat) : Nat :=
  match limit? with
  | none => size
  | some limit => min limit size

/-- A failure that is brought about on purpose. -/
def Fault.injected (message : String) : Fault := ⟨.brokenPipe, message, none⟩

/-- Nothing fits past the end of the target. -/
def Fault.noRoom : Fault := ⟨.storageFull, "target limit exceeded", none⟩

/-! ## Sources -/

/-- The limits of a source. -/
structure SourceLimits where
  /-- The most bytes that one read delivers. -/
  longestRead? : Option Nat
  /-- The position from which reads fail, and which no read goes past. -/
  failAt? : Option Nat
  /-- Each read whose number is a multiple of this is interrupted. -/
  interruptEvery? : Option Nat

namespace SourceLimits

/-- What becomes of a read that is not interrupted. -/
def verdict (limits : SourceLimits) (position size : Nat) : Verdict :=
  let size := atMost limits.longestRead? size
  match limits.failAt? with
  | none => .proceed size
  | some failAt =>
    if failAt ≤ position then .refused (.injected "injected read failure")
    else .proceed (min size (failAt - position))

theorem verdict_ne_interrupted (limits : SourceLimits) (position size : Nat) :
    limits.verdict position size ≠ .interrupted := by
  unfold verdict
  cases limits.failAt? with
  | none => simp
  | some failAt =>
    simp only
    split <;> simp

/-- A source with these limits; its state counts the reads so far. -/
def conduct (limits : SourceLimits) : SourceConduct Nat where
  onRead reads position size :=
    if isDue limits.interruptEvery? (reads + 1) then (.interrupted, reads + 1)
    else (limits.verdict position size, reads + 1)
  patience reads := if isDue limits.interruptEvery? (reads + 1) then 1 else 0
  patient := by
    intro reads next position size h
    split at h
    · next due =>
      obtain ⟨_, rfl⟩ := Prod.mk.inj h
      simp [due, isDue_succ due]
    · exact absurd (Prod.mk.inj h).1 (limits.verdict_ne_interrupted position size)

end SourceLimits

/-! ## Targets -/

/-- The limits of a target. -/
structure TargetLimits where
  /-- The image can have no more bytes than this. -/
  capacity : Nat
  /-- The most bytes that one write accepts. -/
  longestWrite? : Option Nat
  /-- After this many bytes, nothing more is accepted. -/
  zeroAfter? : Option Nat
  /-- After this many bytes, writes fail. -/
  failAfter? : Option Nat
  /-- The number of the one seek that fails, counted from 1. -/
  failingSeek? : Option Nat
  /-- Whether flushing fails. -/
  failingFlush : Bool
  /-- Each write whose number is a multiple of this is interrupted. -/
  interruptEvery? : Option Nat

/-- What a limited target has seen: writes, accepted bytes and seeks. -/
structure TargetCounts where
  writes : Nat
  accepted : Nat
  seeks : Nat

/-- Nothing seen yet. -/
def TargetCounts.zero : TargetCounts := ⟨0, 0, 0⟩

namespace TargetLimits

/-- What becomes of a write that fits the capacity or does not. -/
def verdictWithin (limits : TargetLimits) (position size : Nat) : Verdict :=
  if limits.capacity < position + size then .refused .noRoom else .proceed size

/-- What becomes of a write that is not interrupted. -/
def verdict (limits : TargetLimits) (accepted position size : Nat) : Verdict :=
  let size := atMost (limits.zeroAfter?.map (· - accepted)) (atMost limits.longestWrite? size)
  match limits.failAfter? with
  | none => limits.verdictWithin position size
  | some failAfter =>
    if failAfter ≤ accepted then .refused (.injected "injected write failure")
    else limits.verdictWithin position (min size (failAfter - accepted))

theorem verdictWithin_ne_interrupted (limits : TargetLimits) (position size : Nat) :
    limits.verdictWithin position size ≠ .interrupted := by
  unfold verdictWithin
  split <;> simp

theorem verdict_ne_interrupted (limits : TargetLimits) (accepted position size : Nat) :
    limits.verdict accepted position size ≠ .interrupted := by
  unfold verdict
  cases limits.failAfter? with
  | none => exact limits.verdictWithin_ne_interrupted _ _
  | some failAfter =>
    simp only
    split
    · simp
    · exact limits.verdictWithin_ne_interrupted _ _

/-- How many bytes a verdict lets in. -/
def accepts : Verdict → Nat
  | .proceed size => size
  | _ => 0

/-- A target with these limits. -/
def conduct (limits : TargetLimits) : TargetConduct TargetCounts where
  onWrite counts position size :=
    let writes := counts.writes + 1
    if isDue limits.interruptEvery? writes then (.interrupted, { counts with writes })
    else
      let verdict := limits.verdict counts.accepted position size
      (verdict, { counts with writes, accepted := counts.accepted + accepts verdict })
  onSeek counts _ :=
    let seeks := counts.seeks + 1
    (if limits.failingSeek? = some seeks then some (.injected "injected seek failure") else none,
      { counts with seeks })
  onFlush counts :=
    (if limits.failingFlush then some (.injected "injected flush failure") else none, counts)
  patience counts := if isDue limits.interruptEvery? (counts.writes + 1) then 1 else 0
  patient := by
    intro counts next position size h
    simp only at h
    split at h
    · next due =>
      obtain ⟨_, rfl⟩ := Prod.mk.inj h
      simp [due, isDue_succ due]
    · exact absurd (Prod.mk.inj h).1 (limits.verdict_ne_interrupted _ _ _)

end TargetLimits

end BlockTransfer
