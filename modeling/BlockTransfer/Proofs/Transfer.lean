/-
BlockTransfer.Proofs.Transfer — the writes that move the bytes of a range.

The bytes of a range are moved chunk by chunk, and a chunk is written on until
all of it is accepted. `Moved length start ops stop` says that writes move the
bytes from `start` to `stop` of a range that holds `length`: each asks for what
is left of its chunk, and is interrupted or accepts a part. What such writes add
up to is `Transfer`: nothing in it speaks of the way from one write to the next
(`Moved.transfer`).

Writing one chunk moves its bytes, or moves some of them up to a write that fails
(`exists_moved_of_writing`).
-/
import BlockTransfer.Proofs.Course
import Mathlib.Algebra.Ring.Nat

namespace BlockTransfer

namespace Operation

/-- How many bytes a write was to put into the image. -/
def requested : Operation → Nat
  | .write requested _ => requested
  | _ => 0

/-- The fault with which an operation has failed. A write that accepts nothing
has failed; one that was interrupted has not. -/
def fault? : Operation → Option Fault
  | .seek _ fault? => fault?
  | .write _ (.accepted bytes) => if bytes.size = 0 then some .wroteNothing else none
  | .write _ .interrupted => none
  | .write _ (.refused fault) => some fault
  | .flush fault? => fault?

/-- What was asked of a target. -/
inductive Call where
  | seek (offset : Nat)
  | write (requested : Nat)
  | flush
deriving DecidableEq, Repr

/-- What an operation was asked to do, whatever became of it. -/
def call : Operation → Call
  | .seek offset _ => .seek offset
  | .write requested _ => .write requested
  | .flush _ => .flush

end Operation

namespace Build

/-! ## What is left of a chunk -/

/-- How many bytes of the chunk that `done` lies in are left. -/
def chunkLeft (length done : Nat) : Nat :=
  min (length - done) (chunkSize - done % chunkSize)

theorem chunkLeft_pos {length done : Nat} (h : done < length) : 0 < chunkLeft length done := by
  have hmod := Nat.mod_lt done chunkSize_pos
  unfold chunkLeft
  omega

theorem chunkLeft_le (length done : Nat) : chunkLeft length done ≤ chunkSize := by
  unfold chunkLeft
  omega

theorem add_chunkLeft_le {length done : Nat} (h : done ≤ length) :
    done + chunkLeft length done ≤ length := by
  unfold chunkLeft
  omega

/-- Within the chunk that begins at `start`. -/
theorem chunkLeft_add {length start moved : Nat} (hstart : chunkSize ∣ start)
    (hmoved : moved < chunkAt length start) :
    chunkLeft length (start + moved) = chunkAt length start - moved := by
  obtain ⟨chunks, rfl⟩ := hstart
  unfold chunkAt chunkLeft at *
  rw [Nat.mul_add_mod, Nat.mod_eq_of_lt (by omega)]
  omega

/-- At the start of a chunk all of it is left. -/
theorem chunkLeft_of_dvd {length done : Nat} (h : chunkSize ∣ done) :
    chunkLeft length done = chunkAt length done := by
  rw [chunkLeft, chunkAt, Nat.mod_eq_zero_of_dvd h, Nat.sub_zero]

/-- After a chunk another one begins, or the range ends. -/
theorem dvd_add_chunkAt {length done : Nat} (hdone : chunkSize ∣ done) (hless : done < length) :
    chunkSize ∣ done + chunkAt length done ∨ done + chunkAt length done = length := by
  by_cases hmore : done + chunkAt length done < length
  · rw [chunkAt_eq hmore]
    exact .inl (Nat.dvd_add hdone (Nat.dvd_refl _))
  · exact .inr (Nat.le_antisymm (add_chunkAt_le hless) (Nat.not_lt.mp hmore))

/-! ## Moving bytes -/

/-- The writes that move the bytes of a range from one of them to another. -/
inductive Moved (length : Nat) : Nat → List Operation → Nat → Prop
  | refl {done} : Moved length done [] done
  | interrupted {done ops stop} (hless : done < length) (hrest : Moved length done ops stop) :
      Moved length done (.write (chunkLeft length done) .interrupted :: ops) stop
  | accepted {done ops stop} {bytes : ByteArray} (hsome : 0 < bytes.size)
      (hfits : bytes.size ≤ chunkLeft length done)
      (hrest : Moved length (done + bytes.size) ops stop) :
      Moved length done (.write (chunkLeft length done) (.accepted bytes) :: ops) stop

namespace Moved

variable {length done stop : Nat} {ops : List Operation}

theorem trans {middle : Nat} {more : List Operation} (hfirst : Moved length done ops middle)
    (hsecond : Moved length middle more stop) : Moved length done (ops ++ more) stop := by
  induction hfirst with
  | refl => exact hsecond
  | interrupted hless _ ih => exact .interrupted hless (ih hsecond)
  | accepted hsome hfits _ ih => exact .accepted hsome hfits (ih hsecond)

/-- Each of the operations is a write for a part of a chunk that did not fail. -/
theorem of_mem (h : Moved length done ops stop) :
    ∀ op ∈ ops, op.isWrite ∧ op.fault? = none ∧ op.requested ≤ chunkSize := by
  induction h with
  | refl => simp
  | interrupted _ _ ih =>
    exact List.forall_mem_cons.mpr ⟨⟨rfl, rfl, chunkLeft_le _ _⟩, ih⟩
  | accepted hsome _ _ ih =>
    refine List.forall_mem_cons.mpr ⟨⟨rfl, ?_, chunkLeft_le _ _⟩, ih⟩
    exact if_neg (Nat.ne_of_gt hsome)

/-- As many bytes are accepted as are moved over. -/
theorem add_size (h : Moved length done ops stop) : done + (acceptedBytes ops).size = stop := by
  induction h with
  | refl => simp [acceptedBytes]
  | interrupted _ _ ih => simpa [acceptedBytes, Operation.accepted] using ih
  | accepted _ _ _ ih =>
    rw [acceptedBytes, ByteArray.size_append, Operation.accepted, ← Nat.add_assoc, ih]

theorem le_stop (h : Moved length done ops stop) : done ≤ stop :=
  h.add_size ▸ Nat.le_add_right _ _

/-- One write can move all that is left of a chunk. -/
theorem one (h : done < length) :
    Moved length done
      [.write (chunkLeft length done) (.accepted (Image.zeros (chunkLeft length done)))]
      (done + chunkLeft length done) := by
  have hsize := Image.size_zeros (chunkLeft length done)
  refine .accepted (by rw [hsize]; exact chunkLeft_pos h) (Nat.le_of_eq hsize) ?_
  rw [hsize]
  exact .refl

/-- Whatever was moved, the rest can be. -/
theorem exists_rest (h : done ≤ length) : ∃ ops, Moved length done ops length := by
  induction hleft : length - done using Nat.strongRecOn generalizing done with
  | ind left ih =>
    by_cases hless : done < length
    · have hpos := chunkLeft_pos hless
      obtain ⟨ops, hops⟩ := ih (length - (done + chunkLeft length done)) (by omega)
        (add_chunkLeft_le h) rfl
      exact ⟨_, (one hless).trans hops⟩
    · have hend : done = length := by omega
      exact ⟨[], hend ▸ .refl⟩

end Moved

/-! ## Writing a chunk -/

/-- The writes of a chunk move its bytes, up to one that fails. That one was to
move what was left of the chunk. -/
theorem exists_moved_of_writing {τ : Type} {conduct : TargetConduct τ} {piece : ByteArray}
    {length start done reached : Nat} {ops : List Operation} {result : Except Fault Unit}
    (hstart : chunkSize ∣ start) (hpiece : piece.size = chunkAt length start)
    (h : Writing conduct piece done ops result reached) :
    ∃ seen, Moved length (start + done) seen (start + reached) ∧
      ((result = .ok () ∧ ops = seen) ∨
        ∃ fault last, result = .error fault ∧ ops = seen ++ [last] ∧ last.fault? = some fault ∧
          reached < chunkAt length start ∧
          last.call = .write (chunkLeft length (start + reached))) := by
  induction h with
  | finished _ => exact ⟨[], .refl, .inl ⟨rfl, rfl⟩⟩
  | @interrupted done ops result reached hdone _ ih =>
    obtain ⟨seen, hmoved, hcases⟩ := ih
    have hless : start + done < length := by
      unfold chunkAt at hpiece
      omega
    have hleft := chunkLeft_add hstart (hpiece ▸ hdone)
    rw [hpiece, ← hleft]
    refine ⟨_, .interrupted hless hmoved, ?_⟩
    obtain ⟨hok, rfl⟩ | ⟨fault, last, herror, rfl, hlast⟩ := hcases
    · exact .inl ⟨hok, rfl⟩
    · exact .inr ⟨fault, last, herror, rfl, hlast⟩
  | @accepted done count ops result reached hcount hfits _ ih =>
    obtain ⟨seen, hmoved, hcases⟩ := ih
    have hsize : (piece.extract done (done + count)).size = count := by
      rw [ByteArray.size_extract]
      omega
    have hleft := chunkLeft_add hstart (by omega : done < chunkAt length start)
    have hrest : Moved length (start + done + (piece.extract done (done + count)).size) seen
        (start + reached) := by
      rwa [hsize, Nat.add_assoc]
    rw [hpiece, ← hleft]
    refine ⟨_, .accepted (by omega) (by omega) hrest, ?_⟩
    obtain ⟨hok, rfl⟩ | ⟨fault, last, herror, rfl, hlast⟩ := hcases
    · exact .inl ⟨hok, rfl⟩
    · exact .inr ⟨fault, last, herror, rfl, hlast⟩
  | @refused done fault hdone _ =>
    rw [hpiece] at hdone ⊢
    rw [← chunkLeft_add hstart hdone]
    exact ⟨[], .refl, .inr ⟨fault, _, rfl, rfl, rfl, hdone, rfl⟩⟩
  | @nothing done hdone _ =>
    rw [hpiece] at hdone ⊢
    rw [← chunkLeft_add hstart hdone]
    exact ⟨[], .refl, .inr ⟨.wroteNothing, _, rfl, rfl, rfl, hdone, rfl⟩⟩

/-! ## Whole chunks -/

/-- The sizes of the chunks that so many bytes are moved in. -/
def chunkSizes (length : Nat) : List Nat :=
  List.replicate (length / chunkSize) chunkSize ++
    if length % chunkSize = 0 then [] else [length % chunkSize]

/-- The first chunk is followed by those of the bytes after it. -/
theorem chunkSizes_eq_cons {length : Nat} (h : 0 < length) :
    chunkSizes length = min length chunkSize :: chunkSizes (length - min length chunkSize) := by
  by_cases hless : length < chunkSize
  · have hmod := Nat.mod_eq_of_lt hless
    have hdiv := Nat.div_eq_of_lt hless
    rw [Nat.min_eq_left (Nat.le_of_lt hless), Nat.sub_self]
    simp [chunkSizes, hmod, hdiv, Nat.ne_of_gt h]
  · have hle := Nat.not_lt.mp hless
    have hdiv : length / chunkSize = (length - chunkSize) / chunkSize + 1 :=
      Nat.div_eq_sub_div chunkSize_pos hle
    have hmod : length % chunkSize = (length - chunkSize) % chunkSize := Nat.mod_eq_sub_mod hle
    rw [Nat.min_eq_right hle, chunkSizes, chunkSizes, hdiv, hmod, List.replicate_succ,
      List.cons_append]

/-- Writes that are each accepted in full are for one chunk each. -/
theorem Moved.requested_eq {length done stop : Nat} {ops : List Operation}
    (h : Moved length done ops stop) (hstop : stop = length)
    (hdone : chunkSize ∣ done ∨ done = length)
    (hfull : ∀ op ∈ ops, op.accepted.size = op.requested) :
    ops.map Operation.requested = chunkSizes (length - done) := by
  induction h with
  | refl => simp [hstop, chunkSizes]
  | interrupted hless _ _ =>
    -- An interrupted write accepts nothing of what it asks for.
    have hnone := hfull _ (List.mem_cons_self ..)
    have hpos := chunkLeft_pos hless
    exact absurd hnone (Nat.ne_of_lt hpos)
  | @accepted done ops stop bytes hsome hfits hrest ih =>
    have hsize : bytes.size = chunkLeft length done := hfull _ (List.mem_cons_self ..)
    have hless : done < length := by
      unfold chunkLeft at hfits
      omega
    have haligned : chunkSize ∣ done := hdone.resolve_right (Nat.ne_of_lt hless)
    have hchunk : bytes.size = chunkAt length done := hsize.trans (chunkLeft_of_dvd haligned)
    have hnext : chunkSize ∣ done + bytes.size ∨ done + bytes.size = length := by
      rw [hchunk]
      exact dvd_add_chunkAt haligned hless
    have hsizes := ih hstop hnext fun op hop => hfull op (List.mem_cons_of_mem _ hop)
    rw [List.map_cons, hsizes, chunkSizes_eq_cons (Nat.sub_pos_of_lt hless), Nat.sub_sub,
      Operation.requested, ← hsize, hchunk]
    rfl

/-- Sizes that so many blocks are moved in: whole chunks but for the last, each
of them a number of blocks, and together all blocks. -/
structure InChunks (blocks : Nat) (sizes : List Nat) : Prop where
  count : sizes.length = (blockSize * blocks + (chunkSize - 1)) / chunkSize
  whole : ∀ size ∈ sizes.dropLast, size = chunkSize
  aligned : ∀ size ∈ sizes, blockSize ∣ size
  sum : (sizes.map (· / blockSize)).sum = blocks

theorem inChunks_chunkSizes (blocks : Nat) : InChunks blocks (chunkSizes (blockSize * blocks)) where
  count := by
    unfold chunkSizes chunkSize blockSize
    split <;> simp <;> omega
  whole := by
    intro size hsize
    unfold chunkSizes at hsize
    split at hsize
    · rw [List.append_nil] at hsize
      exact List.eq_of_mem_replicate (List.dropLast_subset _ hsize)
    · rw [List.dropLast_concat] at hsize
      exact List.eq_of_mem_replicate hsize
  aligned := by
    intro size hsize
    have hrest : blockSize ∣ blockSize * blocks % chunkSize :=
      (Nat.dvd_mod_iff (Nat.dvd_mul_left blockSize 256)).mpr (Nat.dvd_mul_right blockSize blocks)
    obtain hsize | hsize := List.mem_append.mp hsize
    · rw [List.eq_of_mem_replicate hsize]
      exact Nat.dvd_mul_left blockSize 256
    · split at hsize
      · cases hsize
      · rwa [List.mem_singleton.mp hsize]
  sum := by
    unfold chunkSizes chunkSize blockSize
    split <;> simp <;> omega

/-! ## Transfers -/

/-- The operations between the move to a range of so many blocks and the next
move: writes that go on until all bytes of the range are accepted, none for more
than a chunk. When each is accepted in full there is one for each chunk. -/
structure Transfer (blocks : Nat) (ops : List Operation) : Prop where
  isWrite : ∀ op ∈ ops, op.isWrite
  fault?_eq_none : ∀ op ∈ ops, op.fault? = none
  requested_le : ∀ op ∈ ops, op.requested ≤ chunkSize
  accepted : (acceptedBytes ops).size = blockSize * blocks
  empty : blocks = 0 → ops = []
  inChunks : (∀ op ∈ ops, op.accepted.size = op.requested) →
    InChunks blocks (ops.map Operation.requested)

/-- Nothing is written where there is nothing to move. -/
theorem Moved.eq_nil {ops : List Operation} (h : Moved 0 0 ops 0) : ops = [] := by
  cases h with
  | refl => rfl
  | interrupted hless _ => exact absurd hless (Nat.lt_irrefl 0)
  | accepted hsome _ hrest => exact absurd hrest.le_stop (by omega)

/-- Moving all bytes of a range is a transfer. -/
theorem Moved.transfer {blocks : Nat} {ops : List Operation}
    (h : Moved (blockSize * blocks) 0 ops (blockSize * blocks)) : Transfer blocks ops where
  isWrite := fun op hop => (h.of_mem op hop).1
  fault?_eq_none := fun op hop => (h.of_mem op hop).2.1
  requested_le := fun op hop => (h.of_mem op hop).2.2
  accepted := by simpa using h.add_size
  empty := by
    rintro rfl
    exact h.eq_nil
  inChunks := by
    intro hfull
    rw [h.requested_eq rfl (.inl (Nat.dvd_zero _)) hfull, Nat.sub_zero]
    exact inChunks_chunkSizes blocks

end Build

end BlockTransfer
