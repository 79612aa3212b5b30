/-
BlockTransfer.Proofs.Reporting — each failure of the program's own is told once.

Reading a list and building an image tell how they end (`Logged.Reports`,
`Reports`). A run takes over the events of both: what is wrong with a list or
with a build was told while the list was read or the image built, and fails the
run without another error event. The run itself tells of a missing input, and
passes on the faults of files. From the small tasks up, every task tells how it
ends; there are warnings among the events of a run, so they are of any level.
-/
import BlockTransfer.Program.Lemmas
import BlockTransfer.Proofs.Events

namespace BlockTransfer

/-! ## The run of the program -/

namespace Program

section

variable {α : Type}

theorem report_reports {level : Level} {topic : Topic} {message : String} (h : level ≠ .error) :
    Reports (fun _ => True) Scene.log (report level topic message) :=
  reports_modify (fun _ => rfl) (reported_singleton h trivial _)

theorem print_reports (text : String) : Reports (fun _ => True) Scene.log (print text) :=
  reports_silent fun _ => rfl

theorem save_reports (location : Location) (content : ByteArray) :
    Reports (fun _ => True) Scene.log (save location content) :=
  reports_silent fun _ => rfl

theorem consult_reports (question : FileTree → Except Fault α) :
    Reports (fun _ => True) Scene.log (consult question) := by
  refine reports_get.bind fun scene => ?_
  split
  · exact reports_pure _
  · exact reports_throw_fault _

/-- What is wrong with a list was told while it was read. -/
theorem adopt_reports {reading : Logged TransferList.Error α} (h : reading.Tells) :
    Reports (fun _ => True) Scene.log (adopt reading) := by
  unfold Logged.Tells at h
  unfold adopt
  cases hresult : reading.result with
  | ok value =>
    rw [hresult] at h
    have hthrough : Told Error.IsOwn reading.log (.ok ⟨⟩ : Except Error PUnit) := .through h.quiet
    exact (reports_modify (fun _ => rfl) hthrough.reported).bind fun _ => reports_pure _
  | error error =>
    rw [hresult] at h
    exact reports_modify_throw (fun _ => rfl) (h.of_own trivial trivial).reported

theorem checkInput_reports (path : String) :
    Reports (fun _ => True) Scene.log (checkInput path) := by
  refine reports_get.bind fun scene => ?_
  split
  · exact reports_pure _
  · exact reports_modify_throw (fun _ => rfl) (reported_error rfl trivial trivial)

theorem buildFiles_reports (plan : Build.Plan) (dataPath imagePath : String) :
    Reports (fun _ => True) Scene.log (buildFiles plan dataPath imagePath) := by
  refine (consult_reports _).bind fun data => (consult_reports _).bind fun ⟨location, content⟩ =>
    (save_reports _ _).bind fun _ => (report_reports (by decide)).bind fun _ => ?_
  rcases hbuild : (plan.build ⟨entryConduct data.2, .willing fileOffsetLimit⟩).run
    (freshSession (dataSource data location) content) with ⟨result, session⟩
  dsimp only
  rw [hbuild]
  -- The events of the session are those of the build alone.
  obtain ⟨events, hlog, hreported⟩ := plan.build_reports _ _ _ _ hbuild
  have hevents : session.log.toList = events := hlog
  have htold := hevents ▸ hreported.told
  refine (save_reports _ _).bind fun _ => ?_
  cases result with
  | error error => exact reports_modify_throw (fun _ => rfl) htold.of_error.reported
  | ok made =>
    have hthrough : Told Error.IsOwn session.log.toList (.ok ⟨⟩ : Except Error PUnit) :=
      .through htold.quiet
    refine (reports_modify (fun _ => rfl) hthrough.reported).bind fun _ => ?_
    dsimp only
    split
    · exact (report_reports (by decide)).bind fun _ => reports_pure _
    · exact reports_pure _

theorem printDigest_reports (path : String) (progress : Bool) :
    Reports (fun _ => True) Scene.log (printDigest path progress) :=
  (consult_reports _).bind fun _ => (consult_reports _).bind fun _ => print_reports _

theorem showTable_reports (options : Options) (list : TransferList) :
    Reports (fun _ => True) Scene.log (showTable options list) := by
  unfold showTable
  split
  · exact print_reports _
  · exact reports_pure _

theorem makeImage_reports (options : Options) (list : TransferList) :
    Reports (fun _ => True) Scene.log (makeImage options list) := by
  refine (buildFiles_reports _ _ _).bind fun made => (report_reports (by decide)).bind fun _ => ?_
  split
  · exact printDigest_reports _ _
  · exact reports_pure _

theorem buildImage_reports (options : Options) (list : TransferList) :
    Reports (fun _ => True) Scene.log (buildImage options list) := by
  rw [buildImage_eq]
  exact (report_reports (by decide)).bind fun _ => (showTable_reports options list).bind fun _ =>
    makeImage_reports options list

theorem run_tells (options : Options) : Tells Scene.log (run options) := by
  have hrun : Reports (fun _ => True) Scene.log (run options) := by
    refine (checkInput_reports _).bind fun _ => (checkInput_reports _).bind fun _ =>
      (consult_reports _).bind fun text =>
        (adopt_reports (TransferList.ofText_reports text).tells).bind fun list => ?_
    split
    · exact print_reports _
    · exact buildImage_reports options list
  exact hrun.tells

end

end Program

/-- Whatever is read, and however the devices of a build behave, a failure of
the program's own is told by one error event, the last of the log, and no other
end of the work comes with an error event: reading a range field, a header,
commands or a whole list, an erase pass, a copy pass, a build, and a run of the
program. -/
theorem own_failures_told_once :
    (∀ field, (RangeSet.ofField field).Tells) ∧
    (∀ lines, (TransferList.Header.ofLines lines).Tells) ∧
    (∀ lines, (TransferList.Commands.ofLines lines).Tells) ∧
    (∀ text, (TransferList.ofText text).Tells) ∧
    (∀ {σ τ : Type} (plan : Build.Plan) (conduct : Conduct σ τ),
      Tells Build.Session.events (plan.erase conduct) ∧
      Tells Build.Session.events (plan.copy conduct) ∧
      Tells Build.Session.events (plan.build conduct)) ∧
    ∀ options tree, Told Error.IsOwn
      ((Program.run options).run (.start tree)).2.log
      ((Program.run options).run (.start tree)).1 := by
  refine ⟨fun field => (RangeSet.ofField_reports field).tells,
    fun lines => (TransferList.Header.ofLines_reports lines).tells,
    fun lines => (TransferList.Commands.ofLines_reports lines).tells,
    fun text => (TransferList.ofText_reports text).tells, fun plan conduct =>
      ⟨(plan.erase_reports conduct).tells, (plan.copy_reports conduct).tells,
        (plan.build_reports conduct).tells⟩, ?_⟩
  intro options tree
  obtain ⟨events, hlog, htold⟩ := Program.run_tells options (.start tree) _ _ rfl
  have hevents : ((Program.run options).run (.start tree)).2.log = events := hlog
  rw [hevents]
  exact htold

end BlockTransfer
