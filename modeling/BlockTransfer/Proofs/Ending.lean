/-
BlockTransfer.Proofs.Ending — the three ways in which a build ends.

A build is a course over the fills of its plan, zeros for the erase set before
slices of the data for the new set, and then a flush. It ends at a fill that
fails, at the flush, or well: `Ended` has one case for each, and
`Plan.build_ended` says that every run of a build is one of them.
`Plan.build_cases` keeps apart which of the passes was the last, for the erase
pass does not read.
-/
import BlockTransfer.Proofs.Passes

namespace BlockTransfer.Build

variable {σ τ : Type} {conduct : Conduct σ τ} {data : ByteArray}

/-! ## The fills of a plan -/

namespace Plan

/-- The ranges of a plan, in the order in which they are filled. -/
def ranges (plan : Plan) : List BlockRange :=
  plan.eraseSet.ranges ++ plan.newSet.ranges

/-- What a plan is to put where, with data that begin at a position. -/
def fills (plan : Plan) (data : ByteArray) (position : Nat) : List Fill :=
  eraseFills plan.eraseSet.ranges ++ copyFills data position plan.newSet.ranges

@[simp] theorem map_range_fills (plan : Plan) (data : ByteArray) (position : Nat) :
    (plan.fills data position).map Fill.range = plan.ranges := by
  simp [fills, ranges]

end Plan

/-! ## Endings -/

/-- The operations of a build over fills, and how it ends. -/
inductive Ended (conduct : Conduct σ τ) (data : ByteArray) (fills : List Fill) :
    List Operation → Except Error Unit → Prop
  | stopped {ops error} (hcourse : Course conduct data fills ops (.error error)) :
      Ended conduct data fills ops (.error error)
  | unflushed {ops fault} (hcourse : Course conduct data fills ops (.ok ()))
      (hconduct : ¬ conduct.target.Reliable) :
      Ended conduct data fills (ops ++ [.flush (some fault)]) (.error (.io fault))
  | flushed {ops} (hcourse : Course conduct data fills ops (.ok ())) :
      Ended conduct data fills (ops ++ [.flush none]) (.ok ())

/-- Flushing does not touch the image. -/
theorem replay_flush (ops : List Operation) (fault? : Option Fault) (place : ByteArray × Nat) :
    replay (ops ++ [.flush fault?]) place = replay ops place := by
  rw [replay_append]
  rfl

namespace Ended

variable {fills more : List Fill} {ops rest : List Operation} {result : Except Error Unit}

/-- A build that goes on where a course has ended well. -/
theorem prepend (hfirst : Course conduct data fills ops (.ok ()))
    (hsecond : Ended conduct data more rest result) :
    Ended conduct data (fills ++ more) (ops ++ rest) result := by
  cases hsecond with
  | stopped hcourse => exact .stopped (hfirst.append hcourse)
  | unflushed hcourse hconduct =>
    rw [← List.append_assoc]
    exact .unflushed (hfirst.append hcourse) hconduct
  | flushed hcourse =>
    rw [← List.append_assoc]
    exact .flushed (hfirst.append hcourse)

theorem course_of_ok (h : Ended conduct data fills ops (.ok ())) :
    ∃ filling, ops = filling ++ [.flush none] ∧ Course conduct data fills filling (.ok ()) := by
  cases h with
  | flushed hcourse => exact ⟨_, rfl, hcourse⟩

theorem image_of_ok (h : Ended conduct data fills ops (.ok ())) (image : ByteArray)
    (position : Nat) : (replay ops (image, position)).1 = applyFills image fills := by
  obtain ⟨filling, rfl, hcourse⟩ := h.course_of_ok
  rw [replay_flush, hcourse.image_of_ok]

end Ended

/-! ## Every build ends in one of these ways -/

section

variable {plan : Plan} {before after : Session σ τ} {result : Except Error Report}

/-- A build fails in its erase pass, before it has read anything, or goes on
with the copy pass and the flush. -/
theorem Plan.build_cases (hdata : before.data = .apart data)
    (hrun : (plan.build conduct).run before = (result, after)) :
    (∃ ops error, result = .error error ∧ before.Saw ops after ∧
      Course conduct data (eraseFills plan.eraseSet.ranges) ops (.error error) ∧
      after.reader = before.reader) ∨
    (∃ erasing ops, before.Saw (erasing ++ ops) after ∧
      Course conduct data (eraseFills plan.eraseSet.ranges) erasing (.ok ()) ∧
      Ended conduct data (copyFills data before.reader.position plan.newSet.ranges) ops
        (uncounted result) ∧
      ∀ range, result = .error (.build (.rangeOverflow range)) →
        after.reader.position = before.reader.position +
          blockSize * blocksIn (plan.newSet.ranges.takeWhile (·.span?.isSome))) := by
  unfold Plan.build at hrun
  obtain ⟨started, hstarted, hrun⟩ := run_report_bind hrun
  obtain ⟨erased, middle, herase, hrun⟩ | ⟨error, herase, rfl⟩ := run_bind_cases hrun
  · obtain ⟨erasing, herasing, hcourse, hreader⟩ := Plan.erase_course data herase
    obtain ⟨noted, hnoted, hrun⟩ := run_report_bind hrun
    have hsaw : before.Saw erasing noted := by
      simpa using hstarted.trans_saw (herasing.trans hnoted.saw)
    have hposition : noted.reader.position = before.reader.position := by
      rw [hnoted.reader, hreader, hstarted.reader]
    right
    obtain ⟨written, copied, hcopy, hrun⟩ | ⟨error, hcopy, rfl⟩ := run_bind_cases hrun
    · obtain ⟨ops, hops, hcopying, _⟩ :=
        Plan.copy_course (hsaw.data.trans hdata) hposition hcopy
      obtain ⟨flushed, hflush, hrun⟩ | ⟨fault, flushed, rfl, rfl, hflush, hconduct⟩ :=
        run_flush_bind hrun
      · obtain ⟨rfl, rfl⟩ := run_pure hrun
        exact ⟨erasing, ops ++ [.flush none], hsaw.trans (hops.trans (Session.saw_target hflush)),
          hcourse, .flushed hcopying, by simp⟩
      · exact ⟨erasing, ops ++ [.flush (some fault)],
          hsaw.trans (hops.trans (Session.saw_target hflush)), hcourse,
          .unflushed hcopying hconduct, by simp⟩
    · obtain ⟨ops, hops, hcopying, hrefused⟩ :=
        Plan.copy_course (hsaw.data.trans hdata) hposition hcopy
      refine ⟨erasing, ops, hsaw.trans hops, hcourse, .stopped hcopying, fun range hrange => ?_⟩
      injection hrange with hrange
      exact hrefused range (by rw [hrange])
  · obtain ⟨erasing, herasing, hcourse, hreader⟩ := Plan.erase_course data herase
    exact .inl ⟨erasing, error, rfl, hstarted.trans_saw herasing, hcourse,
      hreader.trans hstarted.reader⟩

/-- Every run of a build is a course over the fills of its plan, with a flush
after it if that went through. -/
theorem Plan.build_ended (hdata : before.data = .apart data)
    (hrun : (plan.build conduct).run before = (result, after)) :
    ∃ ops, before.Saw ops after ∧
      Ended conduct data (plan.fills data before.reader.position) ops (uncounted result) := by
  obtain ⟨ops, error, rfl, hsaw, hcourse, _⟩ | ⟨erasing, ops, hsaw, hcourse, hended, _⟩ :=
    Plan.build_cases hdata hrun
  · exact ⟨ops, hsaw, .stopped (hcourse.append_of_error _)⟩
  · exact ⟨erasing ++ ops, hsaw, hended.prepend hcourse⟩

/-- A build that goes through had data for all its ranges, and put all fills of
its plan into the image. -/
theorem Plan.build_image {report : Report} (hdata : before.data = .apart data)
    (hrun : (plan.build conduct).run before = (.ok report, after)) :
    (∀ fill ∈ plan.fills data before.reader.position, fill.Full) ∧
      after.target.image =
        applyFills before.target.image (plan.fills data before.reader.position) := by
  obtain ⟨ops, hsaw, hended⟩ := Plan.build_ended hdata hrun
  obtain ⟨filling, _, hcourse⟩ := hended.course_of_ok
  exact ⟨hcourse.full_of_ok, by rw [hsaw.target.image, hended.image_of_ok]⟩

end

end BlockTransfer.Build
