/-
BlockTransfer.Proofs.Trace — what the operations on a target do to its image.

A target keeps the operations that it has seen. `replay` plays operations back
on an image and a position in it, and `Target.Saw before ops after` says that
`ops` is what a target has seen between two moments and that playing it back
on the earlier image gives the later one. So a statement about the image of a
target is a statement about operations, and only this module looks into
`Image.splice` for it: writes one after the other put what they have accepted
at the place where they began (`replay_writes`).
-/
import BlockTransfer.Image.Lemmas
import BlockTransfer.Target

namespace BlockTransfer

namespace Operation

/-- Whether an operation is a write, whatever became of it. -/
def isWrite : Operation → Bool
  | .write .. => true
  | _ => false

/-- The bytes that an operation put into the image. -/
def accepted : Operation → ByteArray
  | .write _ (.accepted bytes) => bytes
  | _ => ByteArray.empty

/-- What an operation does to an image and to the position in it. -/
def perform (op : Operation) (place : ByteArray × Nat) : ByteArray × Nat :=
  match op with
  | .seek offset none => (place.1, offset)
  | .write _ (.accepted bytes) => (Image.splice place.1 bytes place.2, place.2 + bytes.size)
  | _ => place

/-- A write puts what it accepts where the target is, and moves past it. -/
theorem perform_of_isWrite {op : Operation} (hop : op.isWrite) (place : ByteArray × Nat) :
    op.perform place =
      (Image.splice place.1 op.accepted place.2, place.2 + op.accepted.size) := by
  cases op with
  | write requested outcome =>
    cases outcome with
    | accepted bytes => rfl
    | interrupted => simp [perform, accepted, Image.splice_of_size_eq_zero]
    | refused fault => simp [perform, accepted, Image.splice_of_size_eq_zero]
  | seek offset fault? => simp [isWrite] at hop
  | flush fault? => simp [isWrite] at hop

end Operation

/-! ## Several operations -/

/-- The bytes that operations put into the image, in order. -/
def acceptedBytes : List Operation → ByteArray
  | [] => ByteArray.empty
  | op :: ops => op.accepted ++ acceptedBytes ops

theorem acceptedBytes_append (first second : List Operation) :
    acceptedBytes (first ++ second) = acceptedBytes first ++ acceptedBytes second := by
  induction first with
  | nil => simp [acceptedBytes]
  | cons op first ih => simp [acceptedBytes, ih, ByteArray.append_assoc]

/-- Plays operations back on an image and a position in it. -/
def replay (ops : List Operation) (place : ByteArray × Nat) : ByteArray × Nat :=
  ops.foldl (fun place op => op.perform place) place

theorem replay_append (first second : List Operation) (place : ByteArray × Nat) :
    replay (first ++ second) place = replay second (replay first place) := by
  simp [replay, List.foldl_append]

/-- Writes put all they accept, as one piece, where the target was. -/
theorem replay_writes {ops : List Operation} (hops : ∀ op ∈ ops, op.isWrite)
    (place : ByteArray × Nat) :
    replay ops place =
      (Image.splice place.1 (acceptedBytes ops) place.2,
        place.2 + (acceptedBytes ops).size) := by
  induction ops generalizing place with
  | nil => simp [replay, acceptedBytes, Image.splice_of_size_eq_zero]
  | cons op ops ih =>
    have hop : op.isWrite := hops op (by simp)
    have hrest : ∀ op ∈ ops, op.isWrite := fun op hmem => hops op (by simp [hmem])
    rw [← List.singleton_append, replay_append, ih hrest, acceptedBytes_append]
    simp only [replay, List.foldl_cons, List.foldl_nil, Operation.perform_of_isWrite hop,
      acceptedBytes, ByteArray.append_empty, Image.splice_append, ByteArray.size_append,
      Nat.add_assoc]

/-! ## What a target has seen between two moments -/

/-- A target has seen these operations, and they made its image and its
position what they are. -/
structure Target.Saw {τ : Type} (before : Target τ) (ops : List Operation) (after : Target τ) :
    Prop where
  trace : after.trace.toList = before.trace.toList ++ ops
  place : (after.image, after.position) = replay ops (before.image, before.position)

namespace Target.Saw

variable {τ : Type} {before middle after : Target τ} {first second : List Operation}

theorem refl (target : Target τ) : target.Saw [] target := ⟨by simp, rfl⟩

theorem trans (hfirst : before.Saw first middle) (hsecond : middle.Saw second after) :
    before.Saw (first ++ second) after := by
  constructor
  · rw [hsecond.trace, hfirst.trace, List.append_assoc]
  · rw [hsecond.place, hfirst.place, replay_append]

/-- One operation is seen. -/
theorem push (op : Operation) (image : ByteArray) (position : Nat) (trace : Array Operation)
    (state next : τ) :
    Target.Saw ⟨image, position, trace, state⟩ [op]
      ⟨(op.perform (image, position)).1, (op.perform (image, position)).2, trace.push op, next⟩ :=
  ⟨by simp, rfl⟩

/-- The image that a target had becomes the one that it has. -/
theorem image (h : before.Saw first after) :
    after.image = (replay first (before.image, before.position)).1 := by
  rw [← h.place]

theorem position (h : before.Saw first after) :
    after.position = (replay first (before.image, before.position)).2 := by
  rw [← h.place]

end Target.Saw

end BlockTransfer
