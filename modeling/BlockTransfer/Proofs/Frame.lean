/-
BlockTransfer.Proofs.Frame — what a build leaves alone.

Whatever a build reads, even from the image that it is writing, and however it
ends, it has changed the image at the ranges of its plan only
(`Plan.build_within`). The erase pass is known from its fills; for the copy pass
the data may change under way, so its turns are looked at once more. What is
carried along them is the position of the target: when so many bytes of a range
are done, it stands that far into the range.
-/
import BlockTransfer.Proofs.Ending

namespace BlockTransfer.Build

variable {σ τ : Type} {conduct : Conduct σ τ} {before after : Session σ τ}
  {result : Except Error Unit} {range : BlockRange} {done : Nat}

/-- Writes of a piece that fits stay inside the range, and move the target past
what was written. -/
theorem writing_within {piece : ByteArray} {ops : List Operation} {reached : Nat}
    {written : Except Fault Unit} (hwriting : Writing conduct.target piece 0 ops written reached)
    (hfits : done + piece.size ≤ range.byteLength) (image : ByteArray) :
    Within [range] image (replay ops (image, range.offset + done)).1 ∧
      (written = .ok () →
        (replay ops (image, range.offset + done)).2 = range.offset + (done + piece.size)) := by
  rw [replay_writes hwriting.isWrite, hwriting.acceptedBytes_eq]
  have hreached := hwriting.reached_le (Nat.zero_le _)
  have hsize : (piece.extract 0 reached).size = reached := by
    rw [ByteArray.size_extract]
    omega
  refine ⟨.splice (by omega) (by omega) _, fun hwritten => ?_⟩
  have hall := hwriting.reached_of_ok (Nat.zero_le _) hwritten
  dsimp only
  omega

/-- A turn changes nothing outside its range. When it goes through, the target
stands where the next chunk is to go. -/
theorem Turn.within {size : Nat}
    (h : Turn conduct range ⟨range.offset, range.byteLength⟩ done size before result after)
    (hfits : done + size ≤ range.byteLength)
    (hposition : done = 0 ∨ before.target.position = range.offset + done) :
    Within [range] before.target.image after.target.image ∧
      (result = .ok () → after.target.position = range.offset + (done + size)) := by
  have hplace : replay (entry ⟨range.offset, range.byteLength⟩ done)
      (before.target.image, before.target.position) = (before.target.image, range.offset + done) :=
    replay_entry hposition _
  cases h with
  | unread _ => exact ⟨.refl _ _, by simp⟩
  | short _ _ => exact ⟨.refl _ _, by simp⟩
  | unmoved _ _ _ hsaw _ =>
    refine ⟨?_, by simp⟩
    rw [hsaw.image]
    exact .refl _ _
  | broken _ hfull hsaw hwriting =>
    refine ⟨?_, by simp⟩
    rw [hsaw.image, replay_append, hplace]
    exact (writing_within hwriting (hfull ▸ hfits) _).1
  | through _ hfull hsaw hwriting =>
    subst hfull
    rw [hsaw.image, hsaw.position, replay_append, hplace]
    obtain ⟨hwithin, hmoved⟩ := writing_within hwriting hfits before.target.image
    exact ⟨hwithin, fun _ => hmoved rfl⟩

theorem Turns.within
    (h : Turns conduct range ⟨range.offset, range.byteLength⟩ done before result after)
    (hposition : done = 0 ∨ before.target.position = range.offset + done) :
    Within [range] before.target.image after.target.image := by
  induction h with
  | full _ => exact .refl _ _
  | failed hless hturn => exact (hturn.within (add_chunkAt_le hless) hposition).1
  | next hless hturn _ ih =>
    obtain ⟨hwithin, hmoved⟩ := hturn.within (add_chunkAt_le hless) hposition
    exact hwithin.trans (ih (.inr (hmoved rfl)))

theorem copyRange_within (hrun : (copyRange conduct range).run before = (result, after)) :
    Within [range] before.target.image after.target.image := by
  unfold copyRange at hrun
  obtain ⟨_, hrest⟩ | ⟨_, _, hsame⟩ := run_place_bind hrun
  · obtain ⟨told, hsame, hrest⟩ := run_report_bind hrest
    rw [← hsame.target]
    exact (run_copyBytes hrest).within (.inl rfl)
  · rw [hsame.target]
    exact .refl _ _

theorem copyRanges_within {blocks : Nat} {ranges : List BlockRange} {result : Except Error Nat}
    (hrun : (copyRanges conduct blocks ranges).run before = (result, after)) :
    Within ranges before.target.image after.target.image := by
  induction ranges generalizing blocks before with
  | nil =>
    obtain ⟨_, rfl⟩ := run_pure hrun
    exact .refl _ _
  | cons range ranges ih =>
    rw [copyRanges] at hrun
    obtain ⟨_, middle, hrange, hrest⟩ | ⟨error, hrange, _⟩ := run_bind_cases hrun
    · exact ((copyRange_within hrange).append_right ranges).trans ((ih hrest).append_left [range])
    · exact (copyRange_within hrange).append_right ranges

/-! ## Builds -/

/-- A build changes the image at the ranges of its plan only. -/
theorem Plan.build_within {plan : Plan} {result : Except Error Report}
    (hrun : (plan.build conduct).run before = (result, after)) :
    Within plan.ranges before.target.image after.target.image := by
  have herasing : ∀ {pass : Except Error Pass} {start middle : Session σ τ},
      (plan.erase conduct).run start = (pass, middle) →
      Within plan.ranges start.target.image middle.target.image := by
    intro pass start middle herase
    obtain ⟨ops, hsaw, hcourse, _⟩ := Plan.erase_course ByteArray.empty herase
    rw [hsaw.target.image, Plan.ranges, ← map_range_eraseFills plan.eraseSet.ranges]
    exact (hcourse.within _ _).append_right _
  have hcopying : ∀ {pass : Except Error Pass} {start middle : Session σ τ},
      (plan.copy conduct).run start = (pass, middle) →
      Within plan.ranges start.target.image middle.target.image := by
    intro pass start middle hcopy
    exact (copyRanges_within (run_shownOn hcopy)).append_left _
  unfold Plan.build at hrun
  obtain ⟨started, hstarted, hrun⟩ := run_report_bind hrun
  rw [← hstarted.target]
  obtain ⟨erased, middle, herase, hrun⟩ | ⟨error, herase, _⟩ := run_bind_cases hrun
  · refine (herasing herase).trans ?_
    obtain ⟨noted, hnoted, hrun⟩ := run_report_bind hrun
    rw [← hnoted.target]
    obtain ⟨written, copied, hcopy, hrun⟩ | ⟨error, hcopy, _⟩ := run_bind_cases hrun
    · refine (hcopying hcopy).trans ?_
      obtain ⟨flushed, hflush, hrun⟩ | ⟨fault, flushed, _, rfl, hflush, _⟩ := run_flush_bind hrun
      · obtain ⟨_, rfl⟩ := run_pure hrun
        rw [hflush.image]
        exact .refl _ _
      · rw [hflush.image]
        exact .refl _ _
    · exact hcopying hcopy
  · exact herasing herase

end BlockTransfer.Build
