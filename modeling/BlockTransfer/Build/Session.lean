/-
BlockTransfer.Build.Session — the state of a build while it goes on.

A session is what is read from and how far, what is written into, the events so
far, and how many blocks the passes have got through. The data are bytes of
their own, or they are the very image that is being written, for then every
write may change what is read next.

A `Step` works on a session and may fail; a failed step leaves the session as
it was when it failed.
-/
import BlockTransfer.Error
import BlockTransfer.Event
import BlockTransfer.Source
import BlockTransfer.Target

namespace BlockTransfer.Build

/-- Where the data come from. -/
inductive DataSource where
  | apart (bytes : ByteArray)
  | image

/-- The state of a build. -/
structure Session (σ τ : Type) where
  data : DataSource
  reader : Reader σ
  target : Target τ
  log : Array Event
  /-- The blocks that the passes have got through. -/
  advanced : Nat

/-- Work on a session that may fail. -/
abbrev Step (σ τ : Type) := ExceptT Error (StateM (Session σ τ))

namespace Session

variable {σ τ : Type}

/-- The bytes that the data hold now. -/
def dataBytes (session : Session σ τ) : ByteArray :=
  match session.data with
  | .apart bytes => bytes
  | .image => session.target.image

end Session

/-! ## Steps -/

variable {σ τ : Type}

/-- Reports an event. -/
def report (level : Level) (message : String) : Step σ τ Unit :=
  modify fun session => { session with log := session.log.push ⟨level, .image, message⟩ }

/-- Notes that a pass has got through so many blocks. -/
def advance (blocks : Nat) : Step σ τ Unit :=
  modify fun session => { session with advanced := session.advanced + blocks }

/-- A fault is an error of the step. -/
def raise {α : Type} : Except Fault α → Except Error α
  | .ok value => .ok value
  | .error fault => .error (.io fault)

/-- Works on the target of a session. -/
def onTarget (work : Target τ → Except Fault Unit × Target τ) : Step σ τ Unit :=
  ExceptT.mk fun ⟨data, reader, target, log, advanced⟩ =>
    match work target with
    | (result, target) => (raise result, ⟨data, reader, target, log, advanced⟩)

/-- Reads as many bytes as asked for, or all that are left. -/
def gather (conduct : Conduct σ τ) (size : Nat) : Step σ τ ByteArray :=
  ExceptT.mk fun session =>
    match conduct.source.gather session.dataBytes size ByteArray.empty session.reader with
    | (result, reader) => (raise result, { session with reader })

/-- Moves the target to an offset. -/
def seek (conduct : Conduct σ τ) (offset : Nat) : Step σ τ Unit :=
  onTarget (conduct.target.seek offset)

/-- Writes a piece into the target. -/
def write (conduct : Conduct σ τ) (piece : ByteArray) : Step σ τ Unit :=
  onTarget (conduct.target.writeAll piece)

/-- Asks the target to finish what it has begun. -/
def flush (conduct : Conduct σ τ) : Step σ τ Unit :=
  onTarget conduct.target.flush

end BlockTransfer.Build
