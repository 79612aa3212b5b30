/-
BlockTransfer.Proofs.Turns — what the loop over the chunks of a range can do.

A TURN of the loop takes one chunk from the source to the target. It goes
through, or it fails in one of four ways: the chunk cannot be read, or the data
end within it, or the target does not get to the range, or it does not take all
of the chunk. `Turn` says for each of them which session is left, and how the
chunk was read and written; every turn that is run goes one of these ways
(`run_copyChunk`).

`Turns` puts turns in a row, and the loop is nothing else (`run_copyBytes`). So
what a turn does to the image, the trace, the log or the reader has only to be
carried along this relation; nothing else takes the loop apart.
-/
import BlockTransfer.Proofs.Course
import BlockTransfer.Proofs.Steps

namespace BlockTransfer.Build

variable {σ τ : Type}

/-- The move to a range, which comes before its first chunk is written. -/
def entry (span : Span) (done : Nat) : List Operation :=
  if done = 0 then [.seek span.offset none] else []

theorem acceptedBytes_entry_append (span : Span) (done : Nat) (ops : List Operation) :
    acceptedBytes (entry span done ++ ops) = acceptedBytes ops := by
  have hnone : acceptedBytes (entry span done) = ByteArray.empty := by
    unfold entry
    split <;> rfl
  rw [acceptedBytes_append, hnone, ByteArray.empty_append]

/-- After the move, if there is one, the target stands where the bytes of the
range go on. -/
theorem replay_entry {span : Span} {done position : Nat}
    (h : done = 0 ∨ position = span.offset + done) (image : ByteArray) :
    replay (entry span done) (image, position) = (image, span.offset + done) := by
  unfold entry
  by_cases hfirst : done = 0
  · rw [if_pos hfirst, hfirst]
    rfl
  · rw [if_neg hfirst, ← h.resolve_left hfirst]
    rfl

/-- What a turn can do when so many bytes of the range are done, and so many are
to be moved. -/
inductive Turn (conduct : Conduct σ τ) (range : BlockRange) (span : Span) (done size : Nat)
    (before : Session σ τ) : Except Error Unit → Session σ τ → Prop
  | unread {fault moved reader} (hread : before.Gathers conduct size moved (.error fault) reader) :
      Turn conduct range span done size before (.error (.io fault)) { before with reader }
  | short {chunk moved reader message}
      (hread : before.Gathers conduct size moved (.ok chunk) reader) (hshort : chunk.size < size) :
      Turn conduct range span done size before
        (.error (.build (.shortRead range span.length (done + chunk.size))))
        { before with reader, log := before.log.push ⟨.error, .image, message⟩ }
  | unmoved {chunk moved reader fault target}
      (hread : before.Gathers conduct size moved (.ok chunk) reader) (hfull : chunk.size = size)
      (hfirst : done = 0) (hsaw : before.target.Saw [.seek span.offset (some fault)] target)
      (hconduct : ¬ (span.offset < wordLimit ∧ conduct.target.Reliable)) :
      Turn conduct range span done size before (.error (.io fault)) { before with reader, target }
  | broken {chunk moved reader ops reached fault target}
      (hread : before.Gathers conduct size moved (.ok chunk) reader) (hfull : chunk.size = size)
      (hsaw : before.target.Saw (entry span done ++ ops) target)
      (hwriting : Writing conduct.target chunk 0 ops (.error fault) reached) :
      Turn conduct range span done size before (.error (.io fault)) { before with reader, target }
  | through {chunk moved reader ops reached target}
      (hread : before.Gathers conduct size moved (.ok chunk) reader) (hfull : chunk.size = size)
      (hsaw : before.target.Saw (entry span done ++ ops) target)
      (hwriting : Writing conduct.target chunk 0 ops (.ok ()) reached) :
      Turn conduct range span done size before (.ok ())
        { before with reader, target, advanced := before.advanced + size / blockSize }

section

variable {conduct : Conduct σ τ} {range : BlockRange} {span : Span} {done size : Nat}
  {before after : Session σ τ} {result : Except Error Unit}

/-- The target moves to the range before its first chunk, and only then. -/
theorem run_entry {rest : Step σ τ Unit}
    (hrun : (do
      if done = 0 then
        seek conduct span.offset
      rest : Step σ τ Unit).run before = (result, after)) :
    (∃ target, before.target.Saw (entry span done) target ∧
      rest.run { before with target } = (result, after)) ∨
    (∃ fault target, done = 0 ∧ result = .error (.io fault) ∧ after = { before with target } ∧
      before.target.Saw [.seek span.offset (some fault)] target ∧
      ¬ (span.offset < wordLimit ∧ conduct.target.Reliable)) := by
  unfold entry
  by_cases hfirst : done = 0
  · rw [if_pos hfirst] at hrun ⊢
    obtain hmoved | ⟨fault, target, hfault⟩ := run_seek_bind hrun
    · exact .inl hmoved
    · exact .inr ⟨fault, target, hfirst, hfault⟩
  · rw [if_neg hfirst] at hrun ⊢
    exact .inl ⟨before.target, .refl _, hrun⟩

theorem run_copyChunk (hrun : (copyChunk conduct range span done size).run before =
    (result, after)) : Turn conduct range span done size before result after := by
  unfold copyChunk at hrun
  obtain ⟨chunk, moved, reader, hread, hrest⟩ | ⟨fault, moved, reader, rfl, rfl, hread⟩ :=
    run_gather_bind hrun
  · by_cases hshort : chunk.size < size
    · rw [if_pos hshort] at hrest
      injection hrest with hresult hafter
      subst hresult hafter
      exact .short hread hshort
    · have hfull : chunk.size = size :=
        Nat.le_antisymm hread.gathered.size_le (Nat.not_lt.mp hshort)
      rw [if_neg hshort] at hrest
      obtain ⟨ready, hsaw, hput⟩ | ⟨fault, target, hfirst, rfl, rfl, hsaw, hconduct⟩ :=
        run_entry hrest
      · obtain ⟨ops, reached, target, hwrote, hwriting, hnote⟩ |
          ⟨ops, reached, fault, target, rfl, rfl, hwrote, hwriting⟩ := run_write_bind hput
        · injection hnote with hresult hafter
          subst hresult hafter
          exact .through hread hfull (hsaw.trans hwrote) hwriting
        · exact .broken hread hfull (hsaw.trans hwrote) hwriting
      · exact .unmoved hread hfull hfirst hsaw hconduct
  · exact .unread hread

end

/-! ## Turns in a row -/

/-- The turns over a range from where so many bytes of it are done: until it is
full, or up to the first that fails. -/
inductive Turns (conduct : Conduct σ τ) (range : BlockRange) (span : Span) :
    Nat → Session σ τ → Except Error Unit → Session σ τ → Prop
  | full {done session} (hdone : span.length ≤ done) :
      Turns conduct range span done session (.ok ()) session
  | failed {done before error after} (hless : done < span.length)
      (hturn : Turn conduct range span done (chunkAt span.length done) before (.error error)
        after) :
      Turns conduct range span done before (.error error) after
  | next {done before middle result after} (hless : done < span.length)
      (hturn : Turn conduct range span done (chunkAt span.length done) before (.ok ()) middle)
      (hrest : Turns conduct range span (done + chunkAt span.length done) middle result after) :
      Turns conduct range span done before result after

/-- The loop over a range is turns in a row. -/
theorem run_copyBytes {conduct : Conduct σ τ} {range : BlockRange} {span : Span} {done : Nat}
    {before after : Session σ τ} {result : Except Error Unit}
    (hrun : (copyBytes conduct range span done).run before = (result, after)) :
    Turns conduct range span done before result after := by
  fun_induction copyBytes conduct range span done generalizing before with
  | case1 done hdone =>
    obtain ⟨rfl, rfl⟩ := run_pure hrun
    exact .full hdone
  | case2 done hmore ih =>
    have hless : done < span.length := Nat.not_le.mp hmore
    obtain ⟨_, middle, hturn, hrest⟩ | ⟨error, hturn, rfl⟩ := run_bind_cases hrun
    · exact .next hless (run_copyChunk hturn) (ih hrest)
    · exact .failed hless (run_copyChunk hturn)

end BlockTransfer.Build
