/-
BlockTransfer.Proofs.Inputs — what a run does before it builds anything.

Five things keep a run from building: the transfer list is not there, the data
are not there, the list cannot be read as a text, the text is not a transfer
list, or only YAML was asked for. Several of them may hold at once. `Halts` says
how such a run ends and what it prints, with one case for each, and each case
holds only when none of those before it does. `run_halted` says that a run ends
that way, and that all files are as they were.

No task before the build puts anything into the tree, so the scene of such a run
is read off the sequence of its tasks. A run that is not halted goes on from a
list that is known to be good (`run_given`).
-/
import BlockTransfer.Program.Lemmas

namespace BlockTransfer.Program

variable {options : Options} {tree : FileTree}

/-! ## Runs that build nothing -/

/-- How a run ends that builds nothing, and what it prints. The cases come in
the order in which they are looked at, and each holds only when none of those
before it does. -/
inductive Halts (options : Options) (tree : FileTree) : Except Error Unit → String → Prop
  | noList (hlist : tree.contains options.transferList = false) :
      Halts options tree (.error (.missingInput options.transferList)) ""
  | noData (hlist : tree.contains options.transferList = true)
      (hdata : tree.contains options.data = false) :
      Halts options tree (.error (.missingInput options.data)) ""
  | unread {fault} (hlist : tree.contains options.transferList = true)
      (hdata : tree.contains options.data = true)
      (htext : tree.readText options.transferList = .error fault) :
      Halts options tree (.error (.io fault)) ""
  | malformed {text error} (hlist : tree.contains options.transferList = true)
      (hdata : tree.contains options.data = true)
      (htext : tree.readText options.transferList = .ok text)
      (hreading : (TransferList.ofText text).result = .error error) :
      Halts options tree (.error (.transferList error)) ""
  | yaml {text list} (hlist : tree.contains options.transferList = true)
      (hdata : tree.contains options.data = true)
      (htext : tree.readText options.transferList = .ok text)
      (hreading : (TransferList.ofText text).result = .ok list) (hyaml : options.yaml = true) :
      Halts options tree (.ok ()) list.toYaml

/-- A run whose inputs are there goes on to read the list. -/
theorem run_checked (hlist : tree.contains options.transferList = true)
    (hdata : tree.contains options.data = true) :
    (run options).run (.start tree) = (do
      let text ← consult (·.readText options.transferList)
      let list ← adopt (TransferList.ofText text)
      if options.yaml then print list.toYaml else buildImage options list : Task Unit).run
        (.start tree) := by
  rw [run, run_bind_ok (run_checkInput_ok (.start tree) hlist),
    run_bind_ok (run_checkInput_ok (.start tree) hdata)]

/-- If the list can be read, it does what the list says. -/
theorem run_given {text : String} {list : TransferList}
    (hlist : tree.contains options.transferList = true)
    (hdata : tree.contains options.data = true)
    (htext : tree.readText options.transferList = .ok text)
    (hreading : (TransferList.ofText text).result = .ok list) :
    (run options).run (.start tree) =
      (if options.yaml = true then print list.toYaml else buildImage options list : Task Unit).run
        ⟨tree, (TransferList.ofText text).log, ""⟩ := by
  rw [run_checked hlist hdata, run_bind_ok (run_consult_ok (.start tree) htext),
    run_bind_ok (run_adopt_ok (.start tree) hreading)]
  rfl

theorem run_of_halts {result : Except Error Unit} {out : String}
    (h : Halts options tree result out) :
    ∃ log, (run options).run (.start tree) = (result, ⟨tree, log, out⟩) := by
  cases h with
  | noList hlist =>
    obtain ⟨log, hrun⟩ := run_checkInput_missing (.start tree) hlist
    exact ⟨log, run_bind_error hrun⟩
  | noData hlist hdata =>
    obtain ⟨log, hrun⟩ := run_checkInput_missing (.start tree) hdata
    refine ⟨log, ?_⟩
    rw [run, run_bind_ok (run_checkInput_ok (.start tree) hlist)]
    exact run_bind_error hrun
  | unread hlist hdata htext =>
    refine ⟨[], ?_⟩
    rw [run_checked hlist hdata]
    exact run_bind_error (run_consult_error (.start tree) htext)
  | @malformed text error hlist hdata htext hreading =>
    refine ⟨(TransferList.ofText text).log, ?_⟩
    rw [run_checked hlist hdata, run_bind_ok (run_consult_ok (.start tree) htext)]
    exact run_bind_error (run_adopt_error (.start tree) hreading)
  | @yaml text list hlist hdata htext hreading hyaml =>
    refine ⟨(TransferList.ofText text).log, ?_⟩
    rw [run_given hlist hdata htext hreading, if_pos hyaml]
    show (Except.ok (), Scene.mk tree _ ("" ++ list.toYaml)) = _
    rw [String.empty_append]

/-- Every run either halts or goes on from a list that it has read. -/
theorem halts_or_goes_on (options : Options) (tree : FileTree) :
    (∃ result out, Halts options tree result out) ∨
    ∃ text list, tree.contains options.transferList = true ∧ tree.contains options.data = true ∧
      tree.readText options.transferList = .ok text ∧
      (TransferList.ofText text).result = .ok list ∧ options.yaml = false := by
  cases hlist : tree.contains options.transferList with
  | false => exact .inl ⟨_, _, .noList hlist⟩
  | true =>
  cases hdata : tree.contains options.data with
  | false => exact .inl ⟨_, _, .noData hlist hdata⟩
  | true =>
  cases htext : tree.readText options.transferList with
  | error fault => exact .inl ⟨_, _, .unread hlist hdata htext⟩
  | ok text =>
  cases hreading : (TransferList.ofText text).result with
  | error error => exact .inl ⟨_, _, .malformed hlist hdata htext hreading⟩
  | ok list =>
  cases hyaml : options.yaml with
  | true => exact .inl ⟨_, _, .yaml hlist hdata htext hreading hyaml⟩
  | false => exact .inr ⟨text, list, rfl, rfl, rfl, hreading, rfl⟩

/-- When the list or the data are missing, the list cannot be read or is not
one, or YAML is asked for, the run ends with the first of these and leaves all
files as they were. It prints the YAML if that is all there is, and nothing
otherwise. -/
theorem run_halted (h : tree.contains options.transferList = false ∨
    tree.contains options.data = false ∨
    (∃ fault, tree.readText options.transferList = .error fault) ∨
    (∃ text error, tree.readText options.transferList = .ok text ∧
      (TransferList.ofText text).result = .error error) ∨
    options.yaml = true) :
    ∃ result out, Halts options tree result out ∧
      ((run options).run (.start tree)).1 = result ∧
      ((run options).run (.start tree)).2.tree = tree ∧
      ((run options).run (.start tree)).2.stdout = out := by
  obtain ⟨result, out, hhalts⟩ | ⟨text, list, hlist, hdata, htext, hreading, hyaml⟩ :=
    halts_or_goes_on options tree
  · obtain ⟨log, hrun⟩ := run_of_halts hhalts
    exact ⟨result, out, hhalts, by rw [hrun], by rw [hrun], by rw [hrun]⟩
  · simp [hlist, hdata, htext, hreading, hyaml] at h

/-- YAML is asked for and the list is empty, but the missing data come first. -/
theorem run_halted_missing_data :
    ∃ options tree, options = ⟨"list", "data", "image", true, true, true, false⟩ ∧
      tree = FileTree.empty.put ["list"] (.file ByteArray.empty) ∧ options.yaml = true ∧
      ((run options).run (.start tree)).1 = .error (.missingInput "data") ∧
      ((run options).run (.start tree)).2.tree = tree ∧
      ((run options).run (.start tree)).2.stdout = "" := by
  obtain ⟨result, out, hhalts, hresult, htree, hstdout⟩ :=
    @run_halted ⟨"list", "data", "image", true, true, true, false⟩
      (FileTree.empty.put ["list"] (.file ByteArray.empty)) (.inr (.inr (.inr (.inr rfl))))
  refine ⟨_, _, rfl, rfl, rfl, ?_⟩
  cases hhalts with
  | noList hlist => exact absurd hlist (by decide)
  | noData _ _ => exact ⟨hresult, htree, hstdout⟩
  | unread _ hdata _ => exact absurd hdata (by decide)
  | malformed _ hdata _ _ => exact absurd hdata (by decide)
  | yaml _ hdata _ _ _ => exact absurd hdata (by decide)

end BlockTransfer.Program
