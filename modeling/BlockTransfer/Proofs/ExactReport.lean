/-
BlockTransfer.Proofs.ExactReport — the numbers in a report are what was moved.

A report is put together from counts that no byte ever enters: each pass adds
up the lengths of its ranges, the announcement of the pass adds them up again
and stops at the largest word, and the bytes of data are the blocks of the copy
pass times the size of a block. Yet when a build goes through all these numbers
agree with one another and with the bytes that have moved (`Plan.build_counts`).

For the erase pass the bytes are those of its fills. In the copy pass each turn
of the loop over a range takes a chunk from the source and has the target accept
as many bytes as it has taken (`Session.Carried`), wherever the data come from.
-/
import BlockTransfer.Proofs.Concatenation
import BlockTransfer.Proofs.Obstacle

namespace BlockTransfer

/-! ## Counts that stop at the largest word -/

theorem saturate_of_lt {n : Nat} (h : n < wordLimit) : saturate n = n :=
  Nat.min_eq_left (Nat.le_sub_one_of_lt h)

/-- Stopping at each step is stopping at the end. -/
theorem foldl_saturate (count : Nat) (ranges : List BlockRange) :
    ranges.foldl (fun sum range => saturate (sum + range.length)) (saturate count) =
      saturate (count + Build.blocksIn ranges) := by
  induction ranges generalizing count with
  | nil => rfl
  | cons range ranges ih =>
    have hstep : saturate (saturate count + range.length) = saturate (count + range.length) := by
      unfold saturate
      omega
    rw [List.foldl_cons, hstep, ih, Build.blocksIn_cons, Nat.add_assoc]

theorem RangeSet.blockCount_eq (set : RangeSet) :
    set.blockCount = saturate (Build.blocksIn set.ranges) := by
  have hfold := foldl_saturate 0 set.ranges
  rwa [Nat.zero_add] at hfold

namespace Build

variable {σ τ : Type} {conduct : Conduct σ τ} {before middle after : Session σ τ}

/-! ## Bytes that are carried from the source to the target -/

/-- Between two moments of a build the reader has moved over so many bytes, and
the target has accepted as many. -/
structure Session.Carried (before : Session σ τ) (bytes : Nat) (ops : List Operation)
    (after : Session σ τ) : Prop where
  saw : before.Saw ops after
  taken : after.reader.position = before.reader.position + bytes
  given : (acceptedBytes ops).size = bytes

namespace Session.Carried

variable {bytes more : Nat} {first second : List Operation}

theorem of_same (h : before.Same after) : before.Carried 0 [] after :=
  ⟨h.saw, by rw [h.reader, Nat.add_zero], rfl⟩

theorem trans (hfirst : before.Carried bytes first middle)
    (hsecond : middle.Carried more second after) :
    before.Carried (bytes + more) (first ++ second) after where
  saw := hfirst.saw.trans hsecond.saw
  taken := by rw [hsecond.taken, hfirst.taken, Nat.add_assoc]
  given := by rw [acceptedBytes_append, ByteArray.size_append, hfirst.given, hsecond.given]

end Session.Carried

/-- A turn that goes through gives away the chunk that it has taken. -/
theorem Turn.carried {range : BlockRange} {span : Span} {done size : Nat}
    (h : Turn conduct range span done size before (.ok ()) after) :
    ∃ ops, before.Carried size ops after := by
  cases h with
  | @through chunk moved _ ops _ _ hread hfull hsaw hwriting =>
    have hmoved : moved = size := hread.gathered.size_eq.symm.trans hfull
    refine ⟨_, ⟨rfl, hsaw⟩, hmoved ▸ hread.position, ?_⟩
    rw [acceptedBytes_entry_append, hwriting.acceptedBytes_of_ok, hfull]

theorem Turns.carried {range : BlockRange} {span : Span} {done : Nat} {result : Except Error Unit}
    (h : Turns conduct range span done before result after) (hle : done ≤ span.length)
    (hok : result = .ok ()) : ∃ ops, before.Carried (span.length - done) ops after := by
  induction h with
  | full hfull =>
    rw [Nat.sub_eq_zero_of_le hfull]
    exact ⟨[], .of_same ⟨rfl, rfl, rfl⟩⟩
  | failed _ _ => cases hok
  | @next done _ _ _ _ hless hturn _ ih =>
    have hnext := add_chunkAt_le hless
    obtain ⟨ops, hcarried⟩ := hturn.carried
    obtain ⟨more, hmore⟩ := ih hnext hok
    have hsplit : span.length - done =
        chunkAt span.length done + (span.length - (done + chunkAt span.length done)) := by
      omega
    rw [hsplit]
    exact ⟨ops ++ more, hcarried.trans hmore⟩

theorem copyRange_carried {range : BlockRange} {value : Unit}
    (hrun : (copyRange conduct range).run before = (.ok value, after)) :
    ∃ ops, before.Carried range.byteLength ops after := by
  unfold copyRange at hrun
  obtain ⟨_, hrest⟩ | ⟨_, hmisplaced, _⟩ := run_place_bind hrun
  · obtain ⟨told, hsame, hrest⟩ := run_report_bind hrest
    obtain ⟨ops, hcarried⟩ := (run_copyBytes hrest).carried (Nat.zero_le _) rfl
    have hboth := (Session.Carried.of_same hsame).trans hcarried
    rw [Nat.zero_add] at hboth
    exact ⟨_, hboth⟩
  · cases hmisplaced

/-- A copy pass that goes through carries as many bytes as its ranges hold. -/
theorem copyRanges_carried {blocks value : Nat} {ranges : List BlockRange}
    (hrun : (copyRanges conduct blocks ranges).run before = (.ok value, after)) :
    ∃ ops, before.Carried (blockSize * blocksIn ranges) ops after := by
  induction ranges generalizing blocks before with
  | nil =>
    obtain ⟨_, rfl⟩ := run_pure hrun
    exact ⟨[], .of_same ⟨rfl, rfl, rfl⟩⟩
  | cons range ranges ih =>
    rw [copyRanges] at hrun
    obtain ⟨_, middle, hrange, hrest⟩ | ⟨_, _, herror⟩ := run_bind_cases hrun
    · obtain ⟨ops, hcarried⟩ := copyRange_carried hrange
      obtain ⟨more, hmore⟩ := ih hrest
      rw [blocksIn_cons, Nat.mul_add]
      exact ⟨ops ++ more, hcarried.trans hmore⟩
    · cases herror

/-! ## The zeros of an erase pass -/

/-- An erase pass that goes through has had zeros accepted, as many as its
ranges hold. -/
theorem Course.acceptedBytes_eraseFills {data : ByteArray} {ranges : List BlockRange}
    {ops : List Operation} (h : Course conduct data (eraseFills ranges) ops (.ok ())) :
    acceptedBytes ops = Image.zeros (blockSize * blocksIn ranges) := by
  induction ranges generalizing ops with
  | nil =>
    cases h with
    | nil => rfl
  | cons range ranges ih =>
    cases h with
    | cons hfill hrest =>
      rw [acceptedBytes_append, hfill.acceptedBytes_of_ok, ih hrest, blocksIn_cons, Nat.mul_add]
      exact Image.zeros_append _ _

/-! ## Passes and their announcements -/

/-- A session in which something more was reported. -/
def Session.told (session : Session σ τ) (level : Level) (message : String) : Session σ τ :=
  { session with log := session.log.push ⟨level, .image, message⟩ }

theorem run_report {α : Type} {level : Level} {message : String} {rest : Unit → Step σ τ α} :
    (report level message >>= rest).run before = (rest ()).run (before.told level message) := rfl

/-- A pass over a set is announced with a number of blocks and goes through with
the same number, which is the block count of the set; and the bytes that the
target accepts in it, by the operations that it sees, are as many blocks. -/
structure Counted (verb : String) (set : RangeSet) (pass : Step σ τ Pass) (blocks : Nat)
    (before : Session σ τ) (ops : List Operation) (after : Session σ τ) : Prop where
  announced : ∃ done,
    pass.run (before.told .info s!"{verb} {set.count} ranges ({blocks} blocks)") =
      (.ok done, after) ∧ done.blocks = blocks
  count : blocks = set.blockCount
  saw : before.Saw ops after
  accepted : (acceptedBytes ops).size = blockSize * blocks

/-- A build that goes through is its two passes, each announced with the block
count of its set, and a flush. -/
theorem Plan.build_parts {plan : Plan} {report : Report}
    (hrun : (plan.build conduct).run before = (.ok report, after)) :
    ∃ erased middle written copied,
      (plan.erase conduct).run (before.told .info
        s!"Erasing {plan.eraseSet.count} ranges ({plan.eraseSet.blockCount} blocks)") =
          (.ok erased, middle) ∧
      (plan.copy conduct).run (middle.told .info
        s!"Writing {plan.newSet.count} ranges ({plan.newSet.blockCount} blocks)") =
          (.ok written, copied) ∧
      (flush conduct).run copied = (.ok (), after) ∧
      report = ⟨erased.blocks, written.blocks, saturate (written.blocks * blockSize)⟩ := by
  unfold Plan.build at hrun
  rw [run_report] at hrun
  obtain ⟨erased, middle, herase, hrest⟩ | ⟨_, _, herror⟩ := run_bind_cases hrun
  · rw [run_report] at hrest
    obtain ⟨written, copied, hcopy, hrest⟩ | ⟨_, _, herror⟩ := run_bind_cases hrest
    · obtain ⟨_, flushed, hflush, hpure⟩ | ⟨_, _, herror⟩ := run_bind_cases hrest
      · obtain ⟨hreport, rfl⟩ := run_pure hpure
        injection hreport with hreport
        exact ⟨erased, middle, written, copied, herase, hcopy, hflush, hreport⟩
      · cases herror
    · cases herror
  · cases herror

/-- Flushing does not read. -/
theorem reader_of_flush {value : Unit}
    (hrun : (flush conduct).run before = (.ok value, after)) : after.reader = before.reader := by
  rw [← bind_pure (flush conduct)] at hrun
  obtain ⟨_, _, hpure⟩ | ⟨_, _, hfault, _⟩ := run_flush_bind hrun
  · obtain ⟨_, rfl⟩ := run_pure hpure
    rfl
  · cases hfault

/-- An announced erase pass that goes through has zeroed as many blocks as were
announced, and has not read. -/
theorem Plan.erase_counts {plan : Plan} {done : Pass}
    (hblocks : blocksIn plan.eraseSet.ranges < wordLimit)
    (hrun : (plan.erase conduct).run (before.told .info
      s!"Erasing {plan.eraseSet.count} ranges ({plan.eraseSet.blockCount} blocks)") =
        (.ok done, after)) :
    ∃ ops, Counted "Erasing" plan.eraseSet (plan.erase conduct) done.blocks before ops after ∧
      acceptedBytes ops = Image.zeros (blockSize * done.blocks) ∧
      after.reader = before.reader := by
  have hdone : done.blocks = blocksIn plan.eraseSet.ranges := by
    rw [erase, eraseRanges_eq_foldlM] at hrun
    exact blocks_of_shownOn hrun
  have hcount : done.blocks = plan.eraseSet.blockCount := by
    rw [RangeSet.blockCount_eq, saturate_of_lt hblocks, hdone]
  obtain ⟨ops, hsaw, hcourse, hreader⟩ := Plan.erase_course ByteArray.empty hrun
  have hzeros : acceptedBytes ops = Image.zeros (blockSize * done.blocks) := by
    rw [hcourse.acceptedBytes_eraseFills, hdone]
  refine ⟨ops, ⟨⟨done, ?_, rfl⟩, hcount, ⟨hsaw.data, hsaw.target⟩, ?_⟩, hzeros, hreader⟩
  · rw [hcount]
    exact hrun
  · rw [hzeros, Image.size_zeros]

/-- An announced copy pass that goes through has taken and given away as many
blocks as were announced. -/
theorem Plan.copy_counts {plan : Plan} {done : Pass}
    (hblocks : blocksIn plan.newSet.ranges < wordLimit)
    (hrun : (plan.copy conduct).run (before.told .info
      s!"Writing {plan.newSet.count} ranges ({plan.newSet.blockCount} blocks)") =
        (.ok done, after)) :
    ∃ ops, Counted "Writing" plan.newSet (plan.copy conduct) done.blocks before ops after ∧
      after.reader.position = before.reader.position + blockSize * done.blocks := by
  have hdone : done.blocks = blocksIn plan.newSet.ranges := by
    rw [copy, copyRanges_eq_foldlM] at hrun
    exact blocks_of_shownOn hrun
  have hcount : done.blocks = plan.newSet.blockCount := by
    rw [RangeSet.blockCount_eq, saturate_of_lt hblocks, hdone]
  obtain ⟨ops, hcarried⟩ := copyRanges_carried (run_shownOn hrun)
  rw [← hdone] at hcarried
  refine ⟨ops, ⟨⟨done, ?_, rfl⟩, hcount, ⟨hcarried.saw.data, hcarried.saw.target⟩,
    hcarried.given⟩, hcarried.taken⟩
  rw [hcount]
  exact hrun

/-- When a build goes through, the numbers of its report are those with which
its passes were announced, the block counts of its sets, and what was moved: so
many blocks of zeros in the erase pass, so many blocks in the copy pass, and
their bytes of data. -/
theorem Plan.build_counts {plan : Plan} {report : Report}
    (herase : blocksIn plan.eraseSet.ranges < wordLimit)
    (hnew : blockSize * blocksIn plan.newSet.ranges < wordLimit)
    (hrun : (plan.build conduct).run before = (.ok report, after)) :
    ∃ erasing middle copying copied,
      Counted "Erasing" plan.eraseSet (plan.erase conduct) report.erasedBlocks before erasing
        middle ∧
      acceptedBytes erasing = Image.zeros (blockSize * report.erasedBlocks) ∧
      Counted "Writing" plan.newSet (plan.copy conduct) report.writtenBlocks middle copying
        copied ∧
      (flush conduct).run copied = (.ok (), after) ∧
      report.bytesRead = blockSize * report.writtenBlocks ∧
      after.reader.position = before.reader.position + report.bytesRead := by
  have hsmall : blocksIn plan.newSet.ranges < wordLimit := by
    unfold blockSize at hnew
    omega
  obtain ⟨erased, middle, written, copied, hfirst, hsecond, hflush, rfl⟩ := Plan.build_parts hrun
  obtain ⟨erasing, herasing, hzeros, hunread⟩ := Plan.erase_counts herase hfirst
  obtain ⟨copying, hcopying, htaken⟩ := Plan.copy_counts hsmall hsecond
  have hbytes : saturate (written.blocks * blockSize) = blockSize * written.blocks := by
    rw [hcopying.count, RangeSet.blockCount_eq, saturate_of_lt hsmall, Nat.mul_comm,
      saturate_of_lt hnew]
  refine ⟨erasing, middle, copying, copied, herasing, hzeros, hcopying, hflush, hbytes, ?_⟩
  rw [hbytes, reader_of_flush hflush, htaken, hunread]

/-- Two ranges that overlap count twice. -/
theorem Plan.build_counts_overlapping :
    ∃ data report after, data = ⟨Array.replicate 16384 7⟩ ∧
      (Plan.overlapping.build .willing).run
        (Program.freshSession (.apart data) ByteArray.empty) = (.ok report, after) ∧
      report = ⟨3, 4, 16384⟩ ∧ after.reader.position = 16384 := by
  have hsize : (ByteArray.mk (Array.replicate 16384 7)).size = 16384 := by simp [ByteArray.size]
  obtain ⟨⟨erased, written, bytes⟩, after, hrun⟩ := Plan.overlapping_ok ByteArray.empty hsize
  obtain ⟨_, _, _, _, herased, _, hwritten, _, hbytes, hposition⟩ :=
    Plan.build_counts (by decide) (by decide) hrun
  obtain rfl : erased = 3 := herased.count
  obtain rfl : written = 4 := hwritten.count
  obtain rfl : bytes = 16384 := hbytes
  exact ⟨_, _, after, rfl, hrun, rfl, hposition⟩

end Build

end BlockTransfer
