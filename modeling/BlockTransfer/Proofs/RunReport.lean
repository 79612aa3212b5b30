/-
BlockTransfer.Proofs.RunReport — what a run says about its files.

A run that gets to build prints the table before the build and the digest after
it, and warns about data that no range has used (`run_reports`). Neither reading
the list nor the build itself warns, so the only warning there may be is the one
after the build (`warnings_buildEvents`). The number in it is a difference of
two lengths that are found in different ways: the bytes of the report, which are
counted by blocks, and the length of the data, which is looked up after the
build. When a build goes through, the blocks of its new ranges were all there,
so the difference is what is left over (`Plan.bytesRead_eq`).

The table is a line that sums the list up and a grid that shows its ranges. The
digest is that of what the image holds after the run, with what was in it before
the build where no range lies.
-/
import BlockTransfer.Proofs.Events
import BlockTransfer.Proofs.ExactReport
import BlockTransfer.Proofs.FileBuild
import BlockTransfer.Proofs.TableText

namespace BlockTransfer

namespace Build

variable {σ τ : Type} {conduct : Conduct σ τ} {data : ByteArray}

/-- Fills that were all made had nothing in their way. -/
theorem Course.obstacle?_of_ok {fills : List Fill} {ops : List Operation}
    {result : Except Error Unit} (h : Course conduct data fills ops result)
    (hok : result = .ok ()) : obstacle? fills = none := by
  induction h with
  | nil => rfl
  | @cons fill fills ops rest result stop hfill _ ih =>
    exact (obstacle?_cons_eq_none_iff fill fills).mpr
      ⟨(fill.obstacle?_eq_none_iff).mpr ⟨hfill.span?_of_ok, hfill.full_of_ok⟩, ih hok⟩
  | stopped => cases hok

/-- The bytes of a report are the blocks of the new ranges, and the data had
that many. -/
theorem Plan.bytesRead_eq {plan : Plan} {before after : Session σ τ} {report : Report}
    (hsize : data.size < wordLimit) (hdata : before.data = .apart data)
    (hrun : (plan.build conduct).run before = (.ok report, after)) :
    report.bytesRead = blockSize * plan.newSet.blockCount ∧
      blockSize * plan.newSet.blockCount ≤ data.size := by
  obtain ⟨ops, _, hended⟩ := Plan.build_ended hdata hrun
  obtain ⟨_, _, hcourse⟩ := hended.course_of_ok
  have hthere := ((plan.obstacle?_fills_eq_none_iff data _).mp (hcourse.obstacle?_of_ok rfl)).2
  have hblocks : blocksIn plan.newSet.ranges < wordLimit := by
    unfold blockSize at hthere
    omega
  have hcount : plan.newSet.blockCount = blocksIn plan.newSet.ranges := by
    rw [RangeSet.blockCount_eq, saturate_of_lt hblocks]
  obtain ⟨_, _, written, _, _, hcopy, _, rfl⟩ := Plan.build_parts hrun
  obtain ⟨_, hcounted, _⟩ := Plan.copy_counts hblocks hcopy
  constructor
  · show saturate (written.blocks * blockSize) = _
    rw [hcounted.count, Nat.mul_comm, saturate_of_lt (by rw [hcount]; omega)]
  · rw [hcount]
    omega

end Build

namespace Program

/-! ## What is warned about -/

section

open Build

variable {result : Except Error Report}

/-- What is warned about after a build: the data are longer than the new ranges. -/
def leftover (dataPath : String) (length : Nat) (set : RangeSet) : List Event :=
  if blockSize * set.blockCount < length then
    [unusedBytes dataPath (length - blockSize * set.blockCount)]
  else []

theorem warnings_unusedEvents (dataPath : String) (length : Nat) (result : Except Error Report) :
    warnings (unusedEvents dataPath length result) = unusedEvents dataPath length result := by
  cases result with
  | error error => rfl
  | ok made =>
    dsimp only [unusedEvents]
    split
    · rfl
    · rfl

theorem warnings_madeEvents (options : Options) (result : Except Error Report) :
    warnings (madeEvents options result) = [] := by
  cases result with
  | error error => rfl
  | ok made => exact warnings_singleton (by decide)

/-- Reading a list reports no warning. -/
theorem warnings_listEvents (text : String) (list : TransferList) :
    warnings ((TransferList.ofText text).log ++ [⟨.info, .program, list.summary⟩]) = [] := by
  rw [warnings_append, warnings_of_calm (TransferList.ofText_reports text).among,
    warnings_singleton (by decide), List.append_nil]

/-- When files are built into, only what is said of the data can be a warning. -/
theorem warnings_buildEvents {plan : Plan} {conduct : Conduct Unit Unit} {data : DataSource}
    {content : ByteArray} {session : Session Unit Unit} (dataPath imagePath : String)
    (length : Nat) (hbuild : (plan.build conduct).run (freshSession data content) =
      (result, session)) :
    warnings (buildEvents dataPath imagePath length session result) =
      unusedEvents dataPath length result := by
  have hsession : warnings session.log.toList = [] :=
    (plan.build_reports conduct).warnings_eq hbuild
  rw [buildEvents, ← List.singleton_append, warnings_append, warnings_append,
    warnings_singleton (by decide), hsession, warnings_unusedEvents, List.nil_append,
    List.nil_append]

/-- A whole run that builds warns only of data that are left over. -/
theorem Job.warnings_eq {options : Options} {tree : FileTree} (job : Job options tree)
    {session : Session Unit Unit}
    (hbuild : (job.plan.build ⟨.willing, .willing fileOffsetLimit⟩).run
      (freshSession (.apart job.bytes) job.content) = (result, session)) :
    warnings ((TransferList.ofText job.text).log ++ [⟨.info, .program, job.list.summary⟩] ++
      buildEvents options.data options.image job.bytes.size session result ++
        madeEvents options result) = unusedEvents options.data job.bytes.size result := by
  rw [warnings_append, warnings_append, warnings_listEvents, warnings_buildEvents _ _ _ hbuild,
    warnings_madeEvents, List.nil_append, List.append_nil]

end

/-! ## Runs that get to build -/

section

variable {options : Options} {tree : FileTree} {text : String} {list : TransferList}
  {dataLocation : Location} {bytes : ByteArray}

/-- What a run that gets to build reports. It ends as the build into its files
ends. When that goes through, there is a warning just when the data are longer
than the new ranges, and it names by how much; the output is the table and the
digest of all that the image holds in the end, as far as they are asked for.
When the build fails, there is no warning, and no digest. The table is a line
that sums the list up, and below it a grid that shows its ranges. -/
theorem run_reports (hbuilds : options.yaml = false)
    (htext : tree.readText options.transferList = .ok text)
    (hlist : (TransferList.ofText text).result = .ok list)
    (hdata : tree.open? options.data = .ok (dataLocation, .file bytes))
    (hapart : ∀ location content,
      tree.openOrCreate options.image = .ok (location, content) → dataLocation ≠ location)
    (hsize : bytes.size < fileOffsetLimit) :
    ∃ made scene, TransferList.Table.SumsUp list list.summary ∧
      TransferList.Table.Tabulates list (TransferList.Table.grid list) ∧
      ((buildFiles ⟨list.eraseSet, list.newSet, !options.noProgress⟩ options.data
        options.image).run (.start tree)).1 = made ∧
      (run options).run (.start tree) = (Build.uncounted made, scene) ∧
      (∀ report, made = .ok report → ∃ content, scene.tree.read options.image = .ok content ∧
        warnings scene.log = leftover options.data bytes.size list.newSet ∧
        scene.stdout =
          (if options.table then list.summary ++ "\n" ++ TransferList.Table.grid list else "") ++
            digestText options content) ∧
      ∀ error, made = .error error → warnings scene.log = [] ∧
        scene.stdout =
          if options.table then list.summary ++ "\n" ++ TransferList.Table.grid list else "" := by
  have hword : bytes.size < wordLimit := Nat.lt_trans hsize (by decide)
  cases himage : tree.openOrCreate options.image with
  | error fault =>
    have hrun := run_to_makeImage hbuilds htext hlist (FileTree.contains_of_open? hdata)
    refine ⟨.error (.io fault), _, TransferList.Table.sumsUp_summary list,
      TransferList.Table.tabulates_grid list, ?_,
      hrun.trans (run_bind_error (run_buildFiles_unopened _ hdata himage)), by simp,
      fun _ _ => ⟨warnings_listEvents text list, rfl⟩⟩
    rw [run_buildFiles_unopened (.start tree) hdata himage]
  | ok found =>
    obtain ⟨imageLocation, content⟩ := found
    have hdistinct := hapart imageLocation content himage
    rcases hbuild : ((Build.Plan.mk list.eraseSet list.newSet !options.noProgress).build
      ⟨.willing, .willing fileOffsetLimit⟩).run (freshSession (.apart bytes) content) with
        ⟨made, session⟩
    let job : Job options tree := ⟨text, list, dataLocation, bytes, imageLocation, content, hbuilds,
      htext, hlist, hdata, himage, hdistinct⟩
    have hfiles := run_buildFiles (.start tree) hdata himage hdistinct hbuild
    have hwarned := job.warnings_eq hbuild
    refine ⟨made, _, TransferList.Table.sumsUp_summary list,
      TransferList.Table.tabulates_grid list, by rw [hfiles], job.run_eq hbuild, ?_, ?_⟩
    · rintro report rfl
      obtain ⟨hread, _⟩ := Build.Plan.bytesRead_eq hword rfl hbuild
      refine ⟨session.target.image, FileTree.read_put himage _, hwarned.trans ?_, rfl⟩
      rw [unusedEvents, hread, leftover]
    · rintro error rfl
      exact ⟨hwarned, String.append_empty⟩

/-- Files of which the data have a byte more than the ranges need. -/
def leftoverTree : FileTree where
  entries := [(["list"], .file "4\n9\nerase 2,0,3\nnew 6,1,3,9,9,0,2\n".toUTF8),
    (["data"], .file ⟨Array.replicate 16385 7⟩)]

theorem run_reports_leftover :
    ∃ scene content,
      TransferList.Table.SumsUp Job.overlapping.list Job.overlapping.list.summary ∧
      TransferList.Table.Tabulates Job.overlapping.list
        (TransferList.Table.grid Job.overlapping.list) ∧
      (run ⟨"list", "data", "image", true, false, true, false⟩).run (.start leftoverTree) =
        (.ok (), scene) ∧
      scene.tree.read "image" = .ok content ∧ warnings scene.log = [unusedBytes "data" 1] ∧
      scene.stdout =
        Job.overlapping.list.summary ++ "\n" ++ TransferList.Table.grid Job.overlapping.list ++
          ((Digest.sha1 content).text ++ "  " ++ "image" ++ " (" ++ ByteSize.text content.size ++
          ")\n") := by
  have hsize : (ByteArray.mk (Array.replicate 16385 7)).size = 16385 := by simp [ByteArray.size]
  have hdata : leftoverTree.open? "data" = .ok (["data"], .file ⟨Array.replicate 16385 7⟩) := rfl
  have himage : leftoverTree.openOrCreate "image" = .ok (["image"], ByteArray.empty) := rfl
  have hapart : ∀ location content,
      leftoverTree.openOrCreate "image" = .ok (location, content) → ["data"] ≠ location := by
    rintro location content hopen
    obtain ⟨rfl, _⟩ := Prod.mk.inj (Except.ok.inj (himage.symm.trans hopen))
    decide
  -- The build goes through, for there is more than it needs.
  obtain ⟨report, after, hbuild⟩ := @Build.Plan.willing_ok ⟨Array.replicate 16385 7⟩
    ⟨Job.overlapping.list.eraseSet, Job.overlapping.list.newSet, true⟩ ByteArray.empty
    (by decide) (by rw [hsize]; decide)
  rw [← build_in_memory (by decide)] at hbuild
  have hfiles := run_buildFiles (.start leftoverTree) hdata himage (by decide) hbuild
  obtain ⟨made, scene, hline, htable, hmade, hrun, hok, _⟩ :=
    @run_reports ⟨"list", "data", "image", true, false, true, false⟩ leftoverTree
      Job.overlapping.text Job.overlapping.list ["data"] ⟨Array.replicate 16385 7⟩ rfl rfl
      Job.overlapping.good hdata hapart (by rw [hsize]; decide)
  obtain rfl : .ok report = made := (congrArg Prod.fst hfiles).symm.trans hmade
  obtain ⟨content, hread, hwarnings, hstdout⟩ := hok report rfl
  have hunused : leftover "data" 16385 Job.overlapping.list.newSet = [unusedBytes "data" 1] := by
    decide +kernel
  rw [hsize] at hwarnings
  rw [if_pos rfl, digestText, if_pos rfl] at hstdout
  exact ⟨scene, content, hline, htable, hrun, hread, hwarnings.trans hunused, hstdout⟩

end

end Program

end BlockTransfer
