/-
BlockTransfer.Proofs.FileBuild — a run over files is a build in memory.

A `Job` is what a run finds when it gets to build: a list that can be read, data
that are a file, and an image that can be opened. The run builds over what the
image holds, or over nothing, and puts what the build leaves into the file,
whether the build goes through or not; no other file is touched. What it reports
and prints is told with it, from the list to the digest (`Job.run_eq`).

Files are willing devices, but they have no offsets from 2^63 on. Ranges that
end below block 2^51 lie below that, and then the build into the files is one in
memory. So it ends as any build of the same does whose devices are reliable, and
leaves the same image (`run_builds`).
-/
import BlockTransfer.FileTree.Lemmas
import BlockTransfer.Proofs.Agreement
import BlockTransfer.Proofs.Inputs
import BlockTransfer.Proofs.Rebuild
import BlockTransfer.Proofs.StreamedDigest

namespace BlockTransfer

namespace Program

/-! ## Digests of files -/

/-- What is printed after a build that went through. -/
def digestText (options : Options) (content : ByteArray) : String :=
  if options.sha1sum then
    s!"{(Digest.sha1 content).text}  {options.image} ({ByteSize.text content.size})\n"
  else ""

theorem run_printDigest (scene : Scene) {path : String} {content : ByteArray}
    (hread : scene.tree.read path = .ok content) (progress : Bool) :
    (printDigest path progress).run scene = (.ok (), { scene with stdout := scene.stdout ++
      s!"{(Digest.sha1 content).text}  {path} ({ByteSize.text content.size})\n" }) := by
  have hbar : (ProgressBar.bytes progress content.size "Hashing").position < wordLimit := by
    cases progress <;> exact wordLimit_pos
  rw [printDigest, run_bind_ok (run_consult_ok scene hread),
    run_bind_ok (run_consult_ok scene (Digest.ofSource_willing content hbar))]
  rfl

/-! ## The build -/

section

open Build

/-- The warning about bytes of data that no range has used. -/
def unusedBytes (dataPath : String) (count : Nat) : Event :=
  ⟨.warn, .image,
    s!"{count} bytes at the end of '{dataPath}' " ++ "were not used by any new range"⟩

/-- What is reported after a build: that data are left over. -/
def unusedEvents (dataPath : String) (length : Nat) : Except Error Report → List Event
  | .error _ => []
  | .ok made =>
    if made.bytesRead < length then [unusedBytes dataPath (length - made.bytesRead)] else []

/-- What is reported when files are built into: the event before the build, those
of the build, and what is said of it. -/
def buildEvents (dataPath imagePath : String) (length : Nat) (session : Session Unit Unit)
    (result : Except Error Report) : List Event :=
  ⟨.info, .image, s!"Building image '{imagePath}' from '{dataPath}'"⟩ ::
    (session.log.toList ++ unusedEvents dataPath length result)

/-- What is reported when an image has been made. -/
def madeEvents (options : Options) : Except Error Report → List Event
  | .error _ => []
  | .ok made => [⟨.info, .program, s!"Built '{options.image}': {made.text}"⟩]

/-- What is printed when an image has been made. -/
def madeText (options : Options) (image : ByteArray) : Except Error Report → String
  | .error _ => ""
  | .ok _ => digestText options image

variable {dataLocation imageLocation : Location} {bytes content : ByteArray}
  {result : Except Error Report} {session : Session Unit Unit}

/-- A build into a file is a build over its content, of which the result is put
back. -/
theorem run_buildFiles {plan : Plan} {dataPath imagePath : String} (scene : Scene)
    (hdata : scene.tree.open? dataPath = .ok (dataLocation, .file bytes))
    (himage : scene.tree.openOrCreate imagePath = .ok (imageLocation, content))
    (hapart : dataLocation ≠ imageLocation)
    (hbuild : (plan.build ⟨.willing, .willing fileOffsetLimit⟩).run
      (freshSession (.apart bytes) content) = (result, session)) :
    (buildFiles plan dataPath imagePath).run scene = (result,
      ⟨scene.tree.put imageLocation (.file session.target.image),
        scene.log ++ buildEvents dataPath imagePath bytes.size session result,
        scene.stdout⟩) := by
  have hsource : dataSource (dataLocation, .file bytes) imageLocation = .apart bytes :=
    if_neg hapart
  have hentry : entryConduct (.file bytes) = .willing := rfl
  obtain ⟨ops, hsaw, _⟩ := Plan.build_ended rfl hbuild
  have hlength : dataLength (.file bytes) session = bytes.size :=
    congrArg ByteArray.size (Session.dataBytes_of_apart hsaw.data)
  rw [← FileTree.put_put scene.tree imageLocation (.file content), buildFiles,
    run_bind_ok (run_consult_ok scene hdata), run_bind_ok (run_consult_ok scene himage)]
  dsimp only
  rw [hsource, hentry, hbuild, buildEvents, List.append_cons, ← List.append_assoc]
  cases result with
  | error error =>
    rw [unusedEvents, List.append_nil]
    rfl
  | ok made =>
    dsimp only [unusedEvents]
    rw [hlength]
    split
    · rfl
    · rw [List.append_nil]
      rfl

/-- Without an image there is no build. -/
theorem run_buildFiles_unopened {plan : Plan} {dataPath imagePath : String} {fault : Fault}
    (scene : Scene) (hdata : scene.tree.open? dataPath = .ok (dataLocation, .file bytes))
    (himage : scene.tree.openOrCreate imagePath = .error fault) :
    (buildFiles plan dataPath imagePath).run scene = (.error (.io fault), scene) := by
  rw [buildFiles, run_bind_ok (run_consult_ok scene hdata)]
  exact run_bind_error (run_consult_error scene himage)

/-- What the image holds in the end is what the build has left, and the run ends
as the build did. -/
theorem run_makeImage {options : Options} {list : TransferList} (scene : Scene)
    (hdata : scene.tree.open? options.data = .ok (dataLocation, .file bytes))
    (himage : scene.tree.openOrCreate options.image = .ok (imageLocation, content))
    (hapart : dataLocation ≠ imageLocation)
    (hbuild : ((Plan.mk list.eraseSet list.newSet !options.noProgress).build
      ⟨.willing, .willing fileOffsetLimit⟩).run (freshSession (.apart bytes) content) =
        (result, session)) :
    (makeImage options list).run scene = (uncounted result,
      ⟨scene.tree.put imageLocation (.file session.target.image),
        scene.log ++ buildEvents options.data options.image bytes.size session result ++
          madeEvents options result,
        scene.stdout ++ madeText options session.target.image result⟩) := by
  have hfiles := run_buildFiles scene hdata himage hapart hbuild
  cases result with
  | error error =>
    rw [madeEvents, madeText, List.append_nil, String.append_empty]
    exact run_bind_error hfiles
  | ok made =>
    rw [makeImage, run_bind_ok hfiles, madeEvents, madeText, digestText]
    by_cases hsum : options.sha1sum = true
    · simp only [if_pos hsum]
      exact run_printDigest _ (FileTree.read_put himage session.target.image) _
    · simp only [if_neg hsum, String.append_empty]
      rfl

end

/-! ## Runs that build -/

/-- A run that reads its list goes on with the table, and then with the image. -/
theorem run_to_makeImage {options : Options} {tree : FileTree} {text : String}
    {list : TransferList} (hbuilds : options.yaml = false)
    (htext : tree.readText options.transferList = .ok text)
    (hlist : (TransferList.ofText text).result = .ok list)
    (hdata : tree.contains options.data = true) :
    (run options).run (.start tree) = (makeImage options list).run ⟨tree,
      (TransferList.ofText text).log ++ [⟨.info, .program, list.summary⟩],
      tableText options list⟩ := by
  have htable := run_showTable options list
    ⟨tree, (TransferList.ofText text).log ++ [⟨.info, .program, list.summary⟩], ""⟩
  rw [String.empty_append] at htable
  rw [run_given (FileTree.contains_of_readText htext) hdata htext hlist,
    if_neg (by simp [hbuilds]), buildImage_eq]
  exact run_bind_ok htable

/-- What a run has to do that builds: the list is there and can be read, the
data are a file, and the image is one or can be made one, in another place. -/
structure Job (options : Options) (tree : FileTree) where
  text : String
  list : TransferList
  dataLocation : Location
  bytes : ByteArray
  imageLocation : Location
  /-- What the image holds before, which is nothing if it is not there. -/
  content : ByteArray
  builds : options.yaml = false
  readable : tree.readText options.transferList = .ok text
  good : (TransferList.ofText text).result = .ok list
  data : tree.open? options.data = .ok (dataLocation, .file bytes)
  image : tree.openOrCreate options.image = .ok (imageLocation, content)
  distinct : dataLocation ≠ imageLocation

namespace Job

open Build

variable {options : Options} {tree : FileTree} (job : Job options tree)

/-- The ranges to fill, with bars unless they are unwanted. -/
def plan : Plan :=
  ⟨job.list.eraseSet, job.list.newSet, !options.noProgress⟩

/-- The run puts into the image what the build leaves, and ends as it does. -/
theorem run_eq {result : Except Error Report} {session : Session Unit Unit}
    (hbuild : (job.plan.build ⟨.willing, .willing fileOffsetLimit⟩).run
      (freshSession (.apart job.bytes) job.content) = (result, session)) :
    (run options).run (.start tree) = (uncounted result,
      ⟨tree.put job.imageLocation (.file session.target.image),
        (TransferList.ofText job.text).log ++ [⟨.info, .program, job.list.summary⟩] ++
          buildEvents options.data options.image job.bytes.size session result ++
            madeEvents options result,
        tableText options job.list ++ madeText options session.target.image result⟩) := by
  rw [run_to_makeImage job.builds job.readable job.good (FileTree.contains_of_open? job.data)]
  exact run_makeImage _ job.data job.image job.distinct hbuild

end Job

/-! ## Builds in memory -/

/-- Ranges that end below this block, the number 2^51, lie where files have
offsets. -/
def fileBlockLimit : Nat := Nat.pow 2 51

theorem fileOffsetLimit_eq : fileOffsetLimit = blockSize * fileBlockLimit := by decide

theorem offset_lt_of_stop_lt {range : BlockRange} (h : range.stop < fileBlockLimit) :
    range.offset < fileOffsetLimit := by
  have hordered := range.ordered
  rw [fileOffsetLimit_eq, BlockRange.offset]
  exact Nat.mul_lt_mul_of_pos_left (Nat.lt_of_le_of_lt hordered h) (by decide)

/-- Below that block, files are willing devices like any others. -/
theorem build_in_memory {plan : Build.Plan}
    (hranges : ∀ range ∈ plan.ranges, range.stop < fileBlockLimit) :
    (plan.build ⟨.willing, .willing fileOffsetLimit⟩ : Build.Step Unit Unit Build.Report) =
      plan.build Conduct.willing :=
  Build.Plan.build_below (by decide) fun range hrange => offset_lt_of_stop_lt (hranges range hrange)

section

open Build

variable {σ τ : Type} {options : Options} {tree : FileTree} {conduct : Conduct σ τ} {shown : Bool}
  {before after : Session σ τ} {made : Except Error Report}

/-- A run ends as a build in memory over the same bytes, with any reliable
devices. The image holds what that build leaves, also when it fails, and nothing
else has changed. -/
theorem run_builds (job : Job options tree)
    (hranges : ∀ range ∈ job.plan.ranges, range.stop < fileBlockLimit)
    (hconduct : conduct.Reliable job.bytes) (hbytes : before.data = .apart job.bytes)
    (hposition : before.reader.position = 0) (hcontent : before.target.image = job.content)
    (hmade : ({ job.plan with progress := shown }.build conduct).run before = (made, after)) :
    ∃ scene, (run options).run (.start tree) = (uncounted made, scene) ∧
      (∀ location, location ≠ job.imageLocation → scene.tree.at? location = tree.at? location) ∧
      scene.tree.at? job.imageLocation = some (.file after.target.image) ∧
      scene.tree.read options.image = .ok after.target.image ∧
      ∀ error, made = .error error → ∃ why, error = .build why := by
  rcases hbuild : (job.plan.build ⟨.willing, .willing fileOffsetLimit⟩).run
    (freshSession (.apart job.bytes) job.content) with ⟨result, session⟩
  have hrun := job.run_eq hbuild
  -- The build into the files is one in memory, with devices of its own.
  rw [build_in_memory hranges] at hbuild
  have hfills : { job.plan with progress := shown }.fills job.bytes before.reader.position =
      job.plan.fills job.bytes 0 := by
    rw [hposition]
    exact Plan.fills_congr rfl
  obtain ⟨hended, hleft⟩ := Plan.build_agrees hconduct hbytes hmade
    (Conduct.willing_reliable job.bytes) rfl hbuild hfills hcontent
  obtain ⟨_, hplace⟩ := FileTree.openOrCreate_place job.image
  rw [hended, hleft]
  refine ⟨_, hrun, fun location hne => FileTree.at?_put_of_ne hne tree _,
    FileTree.at?_put_self (FileTree.isGiven_of_at? hplace) tree _,
    FileTree.read_put job.image session.target.image, ?_⟩
  rintro error rfl
  exact Plan.build_error hconduct hbytes hmade

theorem nine_lt_wordLimit : 9 < wordLimit := by decide

/-- Files of which the image is not there yet. -/
def overlappingTree : FileTree where
  entries := [(["list"], .file "4\n9\nerase 2,0,3\nnew 6,1,3,9,9,0,2\n".toUTF8),
    (["data"], .file ⟨Array.replicate 16384 7⟩)]

def Job.overlapping :
    Job ⟨"list", "data", "image", true, false, true, false⟩ overlappingTree where
  text := "4\n9\nerase 2,0,3\nnew 6,1,3,9,9,0,2\n"
  list := ⟨⟨4, by decide⟩, ⟨9, nine_lt_wordLimit⟩, Plan.overlapping.eraseSet,
    Plan.overlapping.newSet⟩
  dataLocation := ["data"]
  bytes := ⟨Array.replicate 16384 7⟩
  imageLocation := ["image"]
  content := ByteArray.empty
  builds := rfl
  readable := rfl
  good := rfl
  data := rfl
  image := rfl
  distinct := by decide

theorem run_builds_overlapping :
    ∃ report after scene,
      (Plan.overlapping.build .willing).run
        (freshSession (.apart Job.overlapping.bytes) ByteArray.empty) = (.ok report, after) ∧
      (run ⟨"list", "data", "image", true, false, true, false⟩).run (.start overlappingTree) =
        (.ok (), scene) ∧
      scene.tree.at? ["image"] = some (.file after.target.image) := by
  have hsize : Job.overlapping.bytes.size = 16384 := by simp [Job.overlapping, ByteArray.size]
  obtain ⟨report, after, hmade⟩ := Plan.overlapping_ok ByteArray.empty hsize
  obtain ⟨scene, hrun, _, himage, _⟩ := run_builds Job.overlapping (by decide)
    (Conduct.willing_reliable _) (by rfl) (by rfl) (by rfl) hmade
  exact ⟨report, after, scene, hmade, hrun, himage⟩

end

end Program

end BlockTransfer
