/-
BlockTransfer.Proofs.FailedBuild — what a build that fails leaves behind.

A build that fails has made some of the fills of its plan in full, and of the
next one the first bytes are in the image, possibly none (`StoppedAt`); or it
has made them all and only the flush failed (`Unflushed`). Nothing is undone and
nothing is written out of order, so outside the ranges of the plan the image is
as it was. A range without a place, and one for which the data end within the
first chunk, are refused before the target is asked to do anything about them.
-/
import BlockTransfer.Proofs.Frame
import BlockTransfer.Proofs.Obstacle

namespace BlockTransfer.Build

variable {σ τ : Type} {conduct : Conduct σ τ} {data : ByteArray}

/-- Work on fills has stopped at one of them: those before it were `made`, the
first `moved` bytes of it are in the image, and `own` is what the target has
seen of it. -/
structure StoppedAt (conduct : Conduct σ τ) (data : ByteArray) (before after : Target τ)
    (error : Error) (made : List Fill) (next : Fill) (moved : Nat) (own : List Operation) :
    Prop where
  made_full : ∀ fill ∈ made, fill.Full
  there : moved ≤ next.bytes.size
  image : after.image =
    Image.splice (applyFills before.image made) (next.bytes.extract 0 moved) next.offset
  trace : ∃ making, after.trace.toList = before.trace.toList ++ (making ++ own) ∧
    Course conduct data made making (.ok ()) ∧ Filled conduct data next own (.error error) moved
  overflow : ∀ range, error = .build (.rangeOverflow range) →
    range = next.range ∧ moved = 0 ∧ own = []
  short : ∀ range expected available, error = .build (.shortRead range expected available) →
    range = next.range ∧ expected = next.range.byteLength ∧
      moved = available / chunkSize * chunkSize ∧ (moved = 0 → own = [])

/-- All fills were made, and the flush failed. -/
structure Unflushed (conduct : Conduct σ τ) (data : ByteArray) (before after : Target τ)
    (error : Error) (fills : List Fill) : Prop where
  full : ∀ fill ∈ fills, fill.Full
  image : after.image = applyFills before.image fills
  trace : ∃ making fault,
    after.trace.toList = before.trace.toList ++ (making ++ [.flush (some fault)]) ∧
    Course conduct data fills making (.ok ()) ∧ error = .io fault

/-- A course that fails has stopped at one of its fills. -/
theorem Course.exists_stoppedAt {fills : List Fill} {ops : List Operation} {error : Error}
    {before after : Target τ} (h : Course conduct data fills ops (.error error))
    (hsaw : before.Saw ops after) :
    ∃ made next later moved own, fills = made ++ next :: later ∧
      StoppedAt conduct data before after error made next moved own := by
  obtain ⟨made, next, later, making, own, moved, hfills, rfl, hmade, hnext⟩ := h.exists_of_error
  refine ⟨made, next, later, moved, own, hfills, hmade.full_of_ok, hnext.stop_le, ?_,
    ⟨making, hsaw.trace, hmade, hnext⟩, ?_, ?_⟩
  · rw [hsaw.image, replay_append, hnext.image, hmade.image_of_ok]
  · rintro range rfl
    obtain ⟨hrange, _, hmoved, hown⟩ | ⟨_, hio, _⟩ | ⟨_, hshort, _⟩ := hnext.error_cases
    · injection hrange with hrange
      injection hrange with hrange
      exact ⟨hrange, hmoved, hown⟩
    · cases hio
    · cases hshort
  · rintro range expected available rfl
    obtain ⟨hoverflow, _⟩ | ⟨_, hio, _⟩ | ⟨there, hrange, _, hshort⟩ := hnext.error_cases
    · cases hoverflow
    · cases hio
    · injection hrange with hrange
      injection hrange with hrange hexpected hthere
      subst hthere
      exact ⟨hrange, hexpected, hshort.stop_eq, hshort.unseen⟩

/-- A build that fails leaves the fills of its plan up to where it stopped, in
their order, and changes nothing outside its ranges. -/
theorem Plan.build_failed {plan : Plan} {before after : Session σ τ} {error : Error}
    (hdata : before.data = .apart data)
    (hrun : (plan.build conduct).run before = (.error error, after)) :
    ((∃ made next later moved own,
        plan.fills data before.reader.position = made ++ next :: later ∧
        StoppedAt conduct data before.target after.target error made next moved own) ∨
      Unflushed conduct data before.target after.target error
        (plan.fills data before.reader.position)) ∧
    Within plan.ranges before.target.image after.target.image := by
  refine ⟨?_, Plan.build_within hrun⟩
  obtain ⟨ops, hsaw, hended⟩ := Plan.build_ended hdata hrun
  cases hended with
  | stopped hcourse => exact .inl (hcourse.exists_stoppedAt hsaw.target)
  | @unflushed making fault hcourse _ =>
    refine .inr ⟨hcourse.full_of_ok, ?_, making, fault, hsaw.target.trace, hcourse, rfl⟩
    rw [hsaw.target.image, replay_flush, hcourse.image_of_ok]

theorem Plan.build_failed_overlapping :
    ∃ before error after, before = Program.freshSession (.apart ByteArray.empty) (Image.zeros 9) ∧
      (Plan.overlapping.build .willing).run before = (.error error, after) ∧
      ((∃ made next later moved own,
          Plan.overlapping.fills ByteArray.empty before.reader.position = made ++ next :: later ∧
          StoppedAt .willing ByteArray.empty before.target after.target error made next moved own) ∨
        Unflushed .willing ByteArray.empty before.target after.target error
          (Plan.overlapping.fills ByteArray.empty before.reader.position)) ∧
      Within Plan.overlapping.ranges before.target.image after.target.image := by
  obtain ⟨error, after, hrun⟩ := Plan.overlapping_error (Image.zeros 9)
  exact ⟨_, error, after, rfl, hrun, Plan.build_failed rfl hrun⟩

end BlockTransfer.Build
