/-
BlockTransfer.Proofs.Rebuild — building again over what a build has left.

A build changes an image at the ranges of its plan only, whether it goes through
or fails, and a build that goes through fills all of these ranges. So a second
build of the same ranges hides whatever the first one has left: it makes the
image that it would have made directly.
-/
import BlockTransfer.Proofs.Frame
import BlockTransfer.Proofs.Obstacle

namespace BlockTransfer.Build

/-- The data that a build is still to read. -/
def Session.unread {σ τ : Type} (session : Session σ τ) (data : ByteArray) : ByteArray :=
  data.extract session.reader.position data.size

/-- What a plan is to put where depends on its ranges and the unread data only. -/
theorem Plan.fills_congr {erase new : RangeSet} {first second : Bool} {data other : ByteArray}
    {position start : Nat}
    (hsame : data.extract position data.size = other.extract start other.size) :
    (Plan.mk erase new first).fills data position =
      (Plan.mk erase new second).fills other start := by
  have hcopies := copyFills_extract data position 0 new.ranges
  rw [hsame, copyFills_extract] at hcopies
  simp only [fills, Nat.add_zero] at hcopies ⊢
  rw [hcopies]

/-- A build of the same ranges over what a first build has left, however that
ended and whatever it read, makes the image that it makes over what was there
before; and it changes nothing when the first build had gone through with the
same data. -/
theorem Plan.rebuild_image {σ₁ τ₁ σ₂ τ₂ σ₃ τ₃ : Type} {erase new : RangeSet}
    {shown₁ shown₂ shown₃ : Bool} {first : Conduct σ₁ τ₁} {second : Conduct σ₂ τ₂}
    {direct : Conduct σ₃ τ₃} {data₂ data₃ : ByteArray} {result : Except Error Report}
    {report₂ report₃ : Report} {before₁ after₁ : Session σ₁ τ₁} {before₂ after₂ : Session σ₂ τ₂}
    {before₃ after₃ : Session σ₃ τ₃}
    (hfirst : ((Plan.mk erase new shown₁).build first).run before₁ = (result, after₁))
    (hdata₂ : before₂.data = .apart data₂)
    (himage : before₂.target.image = after₁.target.image)
    (hsecond : ((Plan.mk erase new shown₂).build second).run before₂ = (.ok report₂, after₂))
    (hdata₃ : before₃.data = .apart data₃)
    (hstart : before₃.target.image = before₁.target.image)
    (hdirect : ((Plan.mk erase new shown₃).build direct).run before₃ = (.ok report₃, after₃))
    (hsame : before₂.unread data₂ = before₃.unread data₃) :
    after₂.target.image = after₃.target.image ∧
      ∀ report₁ data₁, result = .ok report₁ → before₁.data = .apart data₁ →
        before₁.unread data₁ = before₂.unread data₂ →
        after₂.target.image = after₁.target.image := by
  have hwithin := Plan.build_within hfirst
  obtain ⟨hfull, himage₂⟩ := Plan.build_image hdata₂ hsecond
  have hover : after₂.target.image = applyFills before₁.target.image
      ((Plan.mk erase new shown₂).fills data₂ before₂.reader.position) := by
    rw [himage₂, himage]
    refine Within.applyFills_eq ?_ hfull
    rw [map_range_fills]
    exact hwithin
  constructor
  · obtain ⟨_, himage₃⟩ := Plan.build_image hdata₃ hdirect
    rw [hover, himage₃, hstart, Plan.fills_congr hsame]
  · rintro report₁ data₁ rfl hdata₁ hunread
    obtain ⟨_, himage₁⟩ := Plan.build_image hdata₁ hfirst
    rw [hover, himage₁, Plan.fills_congr hunread]

/-- A build that ran out of data is made good by one that has them. -/
theorem Plan.rebuild_image_overlapping :
    ∃ data left error report report' after after', data = ⟨Array.replicate 16384 7⟩ ∧
      (Plan.overlapping.build .willing).run
        (Program.freshSession (.apart ByteArray.empty) (Image.zeros 9)) = (.error error, left) ∧
      (Plan.overlapping.build .willing).run
        (Program.freshSession (.apart data) left.target.image) = (.ok report, after) ∧
      (Plan.overlapping.build .willing).run
        (Program.freshSession (.apart data) (Image.zeros 9)) = (.ok report', after') ∧
      after.target.image = after'.target.image := by
  have hsize : (ByteArray.mk (Array.replicate 16384 7)).size = 16384 := by simp [ByteArray.size]
  obtain ⟨error, left, hfirst⟩ := Plan.overlapping_error (Image.zeros 9)
  obtain ⟨report, after, hsecond⟩ := Plan.overlapping_ok left.target.image hsize
  obtain ⟨report', after', hdirect⟩ := Plan.overlapping_ok (Image.zeros 9) hsize
  refine ⟨_, left, error, report, report', after, after', rfl, hfirst, hsecond, hdirect, ?_⟩
  exact (Plan.rebuild_image hfirst (by rfl) (by rfl) hsecond (by rfl) (by rfl) hdirect
    (by rfl)).1

end BlockTransfer.Build
