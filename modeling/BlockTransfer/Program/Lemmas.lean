/-
BlockTransfer.Program.Lemmas — the tasks of a run, one by one.

Each small task that goes to the inputs is an equation: how it ends, and what
scene it leaves (`run_consult`, `run_adopt`, `run_checkInput`). Building an image
is cut into what is printed before it and the rest (`buildImage_eq`), so that
whether a table was asked for is looked at only once (`run_showTable`).
-/
import BlockTransfer.Program
import BlockTransfer.Proofs.Sequence

namespace BlockTransfer.Program

/-! ## Asking and reading -/

section

variable {α : Type} {value : α}

/-- A question to the tree changes nothing, and its fault is the error. -/
theorem run_consult (question : FileTree → Except Fault α) (scene : Scene) :
    (consult question).run scene = ((question scene.tree).mapError .io, scene) := by
  have hget : (get : Task Scene).run scene = (.ok scene, scene) := rfl
  rw [consult, run_bind_ok hget]
  cases question scene.tree <;> rfl

theorem run_consult_ok {question : FileTree → Except Fault α} (scene : Scene)
    (h : question scene.tree = .ok value) : (consult question).run scene = (.ok value, scene) := by
  rw [run_consult, h]
  rfl

theorem run_consult_error {question : FileTree → Except Fault α} {fault : Fault} (scene : Scene)
    (h : question scene.tree = .error fault) :
    (consult question).run scene = (.error (.io fault), scene) := by
  rw [run_consult, h]
  rfl

/-- The events of reading a list go to the log, and what is wrong with the list
is the error. -/
theorem run_adopt (reading : Logged TransferList.Error α) (scene : Scene) :
    (adopt reading).run scene = (reading.result.mapError .transferList,
      { scene with log := scene.log ++ reading.log }) := by
  have hmodify : (modify fun scene => { scene with log := scene.log ++ reading.log } :
      Task PUnit).run scene = (.ok ⟨⟩, { scene with log := scene.log ++ reading.log }) := rfl
  rw [adopt, run_bind_ok hmodify]
  cases reading.result <;> rfl

theorem run_adopt_ok {reading : Logged TransferList.Error α} (scene : Scene)
    (h : reading.result = .ok value) :
    (adopt reading).run scene = (.ok value, { scene with log := scene.log ++ reading.log }) := by
  rw [run_adopt, h]
  rfl

theorem run_adopt_error {reading : Logged TransferList.Error α} {error : TransferList.Error}
    (scene : Scene) (h : reading.result = .error error) :
    (adopt reading).run scene =
      (.error (.transferList error), { scene with log := scene.log ++ reading.log }) := by
  rw [run_adopt, h]
  rfl

end

/-! ## Checking the inputs -/

section

variable {path : String}

/-- An input that is there is passed over; one that is missing is reported. -/
theorem run_checkInput (path : String) (scene : Scene) :
    (checkInput path).run scene = if scene.tree.contains path = true then (.ok (), scene)
      else (.error (.missingInput path), { scene with log := scene.log ++
        [⟨.error, .program, s!"Input file '{path}' does not exist"⟩] }) := by
  have hget : (get : Task Scene).run scene = (.ok scene, scene) := rfl
  rw [checkInput, run_bind_ok hget]
  split
  · rfl
  · rfl

theorem run_checkInput_ok (scene : Scene) (h : scene.tree.contains path = true) :
    (checkInput path).run scene = (.ok (), scene) := by
  rw [run_checkInput, if_pos h]

theorem run_checkInput_missing (scene : Scene) (h : scene.tree.contains path = false) :
    ∃ log, (checkInput path).run scene = (.error (.missingInput path), { scene with log }) := by
  rw [run_checkInput, if_neg (by simp [h])]
  exact ⟨_, rfl⟩

end

/-! ## Building an image, in two parts -/

/-- Prints the table of ranges if it is asked for. -/
def showTable (options : Options) (list : TransferList) : Task Unit :=
  if options.table then print (TransferList.Table.text list) else pure ()

/-- Builds the image, and prints its digest if it is asked for. -/
def makeImage (options : Options) (list : TransferList) : Task Unit := do
  let made ← buildFiles ⟨list.eraseSet, list.newSet, !options.noProgress⟩ options.data options.image
  report .info .program s!"Built '{options.image}': {made.text}"
  if options.sha1sum then
    printDigest options.image !options.noProgress

theorem buildImage_eq (options : Options) (list : TransferList) :
    buildImage options list = (do
      report .info .program list.summary
      showTable options list
      makeImage options list) := by
  unfold buildImage showTable
  by_cases htable : options.table = true
  · simp only [if_pos htable]
    rfl
  · simp only [if_neg htable]
    rfl

/-- What is printed before a build: the summary of the list, and the table of
its ranges below it. -/
def tableText (options : Options) (list : TransferList) : String :=
  if options.table then list.summary ++ "\n" ++ TransferList.Table.grid list else ""

theorem run_showTable (options : Options) (list : TransferList) (scene : Scene) :
    (showTable options list).run scene =
      (.ok (), { scene with stdout := scene.stdout ++ tableText options list }) := by
  unfold showTable tableText
  split
  · rfl
  · rw [String.append_empty]
    rfl

end BlockTransfer.Program
