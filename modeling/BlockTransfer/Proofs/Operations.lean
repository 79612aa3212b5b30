/-
BlockTransfer.Proofs.Operations — what the target of a build sees.

For each range a target sees a move to it and a transfer of its bytes (`visit`);
the copy pass passes over an empty range, the erase pass does not. The script of
a plan is the visits of its erase set, those of its new set, each in the order
of the list, and one flush after them all. Every build plays the script of its
plan, whatever its source and its target do, and one that goes through has got
through all the blocks of it (`Plan.build_operations`).

Level by level, from the loop over the chunks of a range to the build, the
script of a level is made of the scripts of the level below.
-/
import BlockTransfer.Proofs.Obstacle
import BlockTransfer.Proofs.Script

namespace BlockTransfer.Build

variable {σ τ : Type}

/-! ## Scripts -/

/-- The transfers of so many blocks. -/
def transfers (blocks : Nat) : Language Operation :=
  {ops | Transfer blocks ops}

/-- A move to a range, and a transfer of its bytes. -/
def visit (range : BlockRange) : Language Operation :=
  {[.seek range.offset none]} * transfers range.length

/-- In the copy pass nothing is seen of an empty range. -/
def copying (range : BlockRange) : Language Operation :=
  if range.length = 0 then 1 else visit range

/-- The sequences that the target of a build may see when nothing goes wrong. -/
def Plan.script (plan : Plan) : Language Operation :=
  (plan.eraseSet.ranges.map visit).prod * (plan.newSet.ranges.map copying).prod * {[.flush none]}

theorem moving_le_transfers (range : BlockRange) :
    moving range.byteLength 0 range.byteLength ≤ transfers range.length :=
  fun _ hops => Moved.transfer hops

/-! ## Every script can be played -/

theorem exists_mem_mul {first second : Language Operation} (hfirst : ∃ ops, ops ∈ first)
    (hsecond : ∃ ops, ops ∈ second) : ∃ ops, ops ∈ first * second := by
  obtain ⟨ops, hops⟩ := hfirst
  obtain ⟨more, hmore⟩ := hsecond
  exact ⟨ops ++ more, Language.append_mem_mul hops hmore⟩

theorem exists_mem_moving {length done : Nat} (h : done ≤ length) :
    ∃ ops, ops ∈ moving length done length :=
  Moved.exists_rest h

theorem exists_mem_moving_chunk {length done : Nat} (hdone : chunkSize ∣ done)
    (hless : done < length) : ∃ ops, ops ∈ moving length done (done + chunkAt length done) :=
  ⟨_, chunkLeft_of_dvd hdone ▸ Moved.one hless⟩

theorem exists_mem_visit (range : BlockRange) : ∃ ops, ops ∈ visit range := by
  obtain ⟨ops, hops⟩ := exists_mem_moving (Nat.zero_le range.byteLength)
  exact exists_mem_mul ⟨_, rfl⟩ ⟨ops, moving_le_transfers range hops⟩

theorem exists_mem_copying (range : BlockRange) : ∃ ops, ops ∈ copying range := by
  unfold copying
  split
  · exact ⟨[], Language.nil_mem_one⟩
  · exact exists_mem_visit range

theorem exists_mem_prod {script : BlockRange → Language Operation}
    (h : ∀ range, ∃ ops, ops ∈ script range) (ranges : List BlockRange) :
    ∃ ops, ops ∈ (ranges.map script).prod := by
  induction ranges with
  | nil => exact ⟨[], Language.nil_mem_one⟩
  | cons range ranges ih => exact exists_mem_mul (h range) ih

/-! ## Chunks -/

/-- A chunk and what is left after it are as many blocks as there were before. -/
theorem chunk_blocks {length done : Nat} (h : done < length) :
    chunkAt length done / blockSize + (length - (done + chunkAt length done)) / blockSize =
      (length - done) / blockSize := by
  unfold chunkAt chunkSize blockSize
  omega

/-- A chunk that is written and counted, and what comes after it. -/
theorem plays_chunk {conduct : Conduct σ τ} {piece : ByteArray} {length done : Nat}
    {rest : Step σ τ Unit} (hdone : chunkSize ∣ done) (hless : done < length)
    (hpiece : piece.size = chunkAt length done)
    (hrest : Plays conduct.source (moving length (done + chunkAt length done) length)
      ((length - (done + chunkAt length done)) / blockSize) rest) :
    Plays conduct.source (moving length done length) ((length - done) / blockSize)
      (do write conduct piece; advance (chunkAt length done / blockSize); rest) := by
  have hnext := exists_mem_moving (add_chunkAt_le hless)
  have hcounted : Plays conduct.source (moving length (done + chunkAt length done) length)
      ((length - done) / blockSize)
      (do advance (chunkAt length done / blockSize); rest) :=
    ((plays_advance _).bind (fun _ _ _ _ => hrest) hnext).of_le (by rw [one_mul])
      (chunk_blocks hless)
  exact ((plays_write conduct hdone hpiece).bind (fun _ _ _ _ => hcounted) hnext).of_le
    (moving_mul_le _ _ _ _) (Nat.zero_add _)

/-- At the end of a range nothing is left to do. -/
theorem plays_end {source : SourceConduct σ} (length : Nat) :
    Plays source (moving length length length) ((length - length) / blockSize)
      (pure () : Step σ τ Unit) := by
  refine (plays_pure ()).of_le ?_ (by simp)
  rintro ops rfl
  exact Moved.refl

/-! ## Ranges -/

/-- A range that has a place is reported, and then something is done about it. -/
theorem plays_placed {source : SourceConduct σ} {script : Language Operation} {blocks : Nat}
    {range : BlockRange} {message : Span → String} {work : Span → Step σ τ Unit}
    (hscript : ∃ ops, ops ∈ script)
    (hwork : Plays source script blocks (work ⟨range.offset, range.byteLength⟩)) :
    Plays source script blocks
      (do let span ← place range; report .debug (message span); work span) := by
  refine (plays_place range).silent_bind (fun _ span _ hspan => ?_) hscript
  rw [eq_of_place hspan]
  exact (plays_report _ _).silent_bind (fun _ _ _ _ => hwork) hscript

theorem byteLength_div_blockSize (range : BlockRange) :
    range.byteLength / blockSize = range.length :=
  Nat.mul_div_cancel_left _ (by decide)

/-! ## The erase pass -/

theorem plays_eraseBytes (conduct : Conduct σ τ) {length done : Nat} (hle : done ≤ length)
    (hdone : chunkSize ∣ done ∨ done = length) :
    Plays conduct.source (moving length done length) ((length - done) / blockSize)
      (eraseBytes conduct (length - done)) := by
  induction hremaining : length - done using Nat.strongRecOn generalizing done with
  | ind remaining ih =>
    subst hremaining
    rw [eraseBytes]
    split
    · next hnone =>
      obtain rfl : done = length := by omega
      exact plays_end done
    · next hsome =>
      have hless : done < length := by omega
      have hpos := chunkAt_pos hless
      have haligned := hdone.resolve_right (Nat.ne_of_lt hless)
      have hrest := ih _ (by omega) (add_chunkAt_le hless) (dvd_add_chunkAt haligned hless) rfl
      have hchunk := plays_chunk haligned hless (Image.size_zeros _) hrest
      rw [← Nat.sub_sub] at hchunk
      exact hchunk

theorem plays_eraseRange (conduct : Conduct σ τ) (range : BlockRange) :
    Plays conduct.source (visit range) range.length (eraseRange conduct range) := by
  have hbytes := plays_eraseBytes conduct (Nat.zero_le range.byteLength) (.inl (Nat.dvd_zero _))
  refine plays_placed (exists_mem_visit range) ?_
  refine ((plays_seek conduct range.offset).bind (fun _ _ _ _ => hbytes)
    (exists_mem_moving (Nat.zero_le _))).of_le ?_ ?_
  · exact mul_le_mul_right (moving_le_transfers range) _
  · rw [Nat.zero_add, Nat.sub_zero, byteLength_div_blockSize]

theorem plays_eraseRanges (conduct : Conduct σ τ) (blocks : Nat) (ranges : List BlockRange) :
    Plays conduct.source (ranges.map visit).prod (blocksIn ranges)
      (eraseRanges conduct blocks ranges) := by
  induction ranges generalizing blocks with
  | nil => exact plays_pure _
  | cons range ranges ih =>
    exact (plays_eraseRange conduct range).bind (fun _ _ _ _ => ih _)
      (exists_mem_prod exists_mem_visit ranges)

/-! ## The copy pass -/

/-- The move to a range that is still to come when so many bytes are done. -/
def entering (range : BlockRange) (done : Nat) : Language Operation :=
  if done = 0 ∧ 0 < range.byteLength then {[.seek range.offset none]} else 1

theorem exists_mem_entering (range : BlockRange) (done : Nat) :
    ∃ ops, ops ∈ entering range done := by
  unfold entering
  split
  · exact ⟨_, rfl⟩
  · exact ⟨[], Language.nil_mem_one⟩

theorem entry_mem_entering {range : BlockRange} {done : Nat} (hless : done < range.byteLength) :
    entry ⟨range.offset, range.byteLength⟩ done ∈ entering range done := by
  unfold entry entering
  by_cases hfirst : done = 0
  · rw [if_pos hfirst, if_pos ⟨hfirst, Nat.zero_lt_of_lt hless⟩]
    exact rfl
  · rw [if_neg hfirst, if_neg fun h => hfirst h.1]
    exact Language.nil_mem_one

section

variable {conduct : Conduct σ τ} {range : BlockRange} {done : Nat} {before after : Session σ τ}
  {result : Except Error Unit}

/-- The writes of a turn, after the move to its range if it is the first. -/
theorem follows_of_entry {chunk : ByteArray} {ops : List Operation} {reached : Nat}
    {written : Except Fault Unit} (hdone : chunkSize ∣ done) (hless : done < range.byteLength)
    (hfull : chunk.size = chunkAt range.byteLength done)
    (hwriting : Writing conduct.target chunk 0 ops written reached) :
    Follows conduct.source
      (entering range done * moving range.byteLength done (done + chunkAt range.byteLength done))
      (entry ⟨range.offset, range.byteLength⟩ done ++ ops) (raise written) := by
  have hsound : ∀ op ∈ entry ⟨range.offset, range.byteLength⟩ done, op.fault? = none := by
    unfold entry
    split <;> simp [Operation.fault?]
  have hentry : Follows conduct.source (entering range done)
      (entry ⟨range.offset, range.byteLength⟩ done) (.ok () : Except Error Unit) :=
    .through hsound (entry_mem_entering hless)
  exact hentry.append (follows_of_writing conduct hdone hfull hwriting)

/-- A turn gets through one chunk of the script of its range. -/
theorem Turn.follows
    (h : Turn conduct range ⟨range.offset, range.byteLength⟩ done (chunkAt range.byteLength done)
      before result after)
    (hdone : chunkSize ∣ done) (hless : done < range.byteLength) :
    ∃ ops, before.Saw ops after ∧
      Follows conduct.source
        (entering range done * moving range.byteLength done (done + chunkAt range.byteLength done))
        ops result ∧
      (result = .ok () →
        after.advanced = before.advanced + chunkAt range.byteLength done / blockSize) := by
  have hmoving := exists_mem_moving_chunk hdone hless
  obtain ⟨whole, hwhole⟩ := exists_mem_mul (exists_mem_entering range done) hmoving
  have hnone : ∀ op ∈ ([] : List Operation), op.fault? = none := List.forall_mem_nil _
  cases h with
  | unread hread =>
    obtain ⟨_, _, _, hrefused⟩ := hread.refused _ rfl
    exact ⟨[], ⟨rfl, .refl _⟩, .held hnone hwhole (.unread hrefused), by simp⟩
  | short _ hshort =>
    have hend := Nat.lt_of_lt_of_le (Nat.add_lt_add_left hshort done) (add_chunkAt_le hless)
    exact ⟨[], ⟨rfl, .refl _⟩, .held hnone hwhole (.short hend), by simp⟩
  | unmoved _ _ hfirst hsaw _ =>
    obtain ⟨more, hmore⟩ := hmoving
    have hentered := Language.append_mem_mul (entry_mem_entering hless) hmore
    rw [entry, if_pos hfirst] at hentered
    exact ⟨_, ⟨rfl, hsaw⟩, .failed hnone hentered rfl rfl, by simp⟩
  | broken _ hfull hsaw hwriting =>
    exact ⟨_, ⟨rfl, hsaw⟩, follows_of_entry hdone hless hfull hwriting, by simp⟩
  | through _ hfull hsaw hwriting =>
    exact ⟨_, ⟨rfl, hsaw⟩, follows_of_entry hdone hless hfull hwriting, fun _ => rfl⟩

theorem Turns.follows
    (h : Turns conduct range ⟨range.offset, range.byteLength⟩ done before result after)
    (hle : done ≤ range.byteLength) (hdone : chunkSize ∣ done ∨ done = range.byteLength) :
    ∃ ops, before.Saw ops after ∧
      Follows conduct.source
        (entering range done * moving range.byteLength done range.byteLength) ops result ∧
      (result = .ok () →
        after.advanced = before.advanced + (range.byteLength - done) / blockSize) := by
  -- A script of a chunk and one of what is left make a script of it all.
  have hsplit (first next : Nat) : entering range first * moving range.byteLength first next *
      moving range.byteLength next range.byteLength ≤
        entering range first * moving range.byteLength first range.byteLength := by
    rw [mul_assoc]
    exact mul_le_mul_right (moving_mul_le _ _ _ _) _
  induction h with
  | full hfull =>
    obtain rfl := Nat.le_antisymm hle hfull
    have hentered : entering range range.byteLength = 1 := if_neg (by omega)
    rw [hentered, one_mul]
    exact ⟨[], ⟨rfl, .refl _⟩, .through (List.forall_mem_nil _) Moved.refl, by simp⟩
  | failed hless hturn =>
    obtain ⟨ops, hsaw, hfollows, _⟩ :=
      hturn.follows (hdone.resolve_right (Nat.ne_of_lt hless)) hless
    exact ⟨ops, hsaw, (hfollows.append_of_error (exists_mem_moving (add_chunkAt_le hless))).mono
      (hsplit _ _), by simp⟩
  | @next done _ _ _ _ hless hturn _ ih =>
    have haligned := hdone.resolve_right (Nat.ne_of_lt hless)
    have hpos : 0 < chunkAt range.byteLength done := chunkAt_pos hless
    have hentered : entering range (done + chunkAt range.byteLength done) = 1 :=
      if_neg (by omega)
    obtain ⟨ops, hsaw, hfollows, hadvanced⟩ := hturn.follows haligned hless
    obtain ⟨more, hmore, hrest, hend⟩ := ih (add_chunkAt_le hless) (dvd_add_chunkAt haligned hless)
    rw [hentered, one_mul] at hrest
    refine ⟨ops ++ more, hsaw.trans hmore, (hfollows.append hrest).mono (hsplit _ _), fun hok => ?_⟩
    rw [hend hok, hadvanced rfl, Nat.add_assoc, chunk_blocks hless]

end

theorem entering_mul_le_copying (range : BlockRange) :
    entering range 0 * moving range.byteLength 0 range.byteLength ≤ copying range := by
  by_cases hempty : range.length = 0
  · have hzero : range.byteLength = 0 := range.byteLength_eq_zero_iff.mpr hempty
    rw [entering, if_neg (by omega), one_mul, copying, if_pos hempty, hzero]
    exact fun ops hops => Moved.eq_nil hops
  · have hpos : 0 < range.byteLength :=
      Nat.pos_of_ne_zero (mt range.byteLength_eq_zero_iff.mp hempty)
    rw [entering, if_pos ⟨rfl, hpos⟩, copying, if_neg hempty]
    exact mul_le_mul_right (moving_le_transfers range) _

theorem plays_copyRange (conduct : Conduct σ τ) (range : BlockRange) :
    Plays conduct.source (copying range) range.length (copyRange conduct range) := by
  have hbytes : Plays conduct.source
      (entering range 0 * moving range.byteLength 0 range.byteLength)
      ((range.byteLength - 0) / blockSize)
      (copyBytes conduct range ⟨range.offset, range.byteLength⟩ 0) := fun _ _ _ hrun => by
    obtain ⟨ops, hsaw, hfollows, hadvanced⟩ :=
      (run_copyBytes hrun).follows (Nat.zero_le _) (.inl (Nat.dvd_zero _))
    exact ⟨ops, hsaw, hfollows, fun _ => hadvanced⟩
  refine plays_placed (exists_mem_copying range) (hbytes.of_le (entering_mul_le_copying range) ?_)
  rw [Nat.sub_zero, byteLength_div_blockSize]

theorem plays_copyRanges (conduct : Conduct σ τ) (blocks : Nat) (ranges : List BlockRange) :
    Plays conduct.source (ranges.map copying).prod (blocksIn ranges)
      (copyRanges conduct blocks ranges) := by
  induction ranges generalizing blocks with
  | nil => exact plays_pure _
  | cons range ranges ih =>
    exact (plays_copyRange conduct range).bind (fun _ _ _ _ => ih _)
      (exists_mem_prod exists_mem_copying ranges)

/-! ## Builds -/

/-- Showing a pass on a bar changes nothing about it. -/
theorem plays_shownOn {source : SourceConduct σ} {script : Language Operation} {blocks : Nat}
    {pass : Step σ τ Nat} (bar : ProgressBar) (h : Plays source script blocks pass) :
    Plays source script blocks (shownOn bar pass) := by
  intro before result after hrun
  obtain ⟨ops, hsaw, hfollows, hadvanced⟩ := h before _ after (run_shownOn hrun)
  refine ⟨ops, hsaw, ?_, ?_⟩
  · cases result with
    | ok shown =>
      cases hfollows with
      | through hsound hscript => exact .through hsound hscript
    | error error =>
      cases hfollows with
      | failed hsound hscript hcall hfault => exact .failed hsound hscript hcall hfault
      | held hsound hscript hcause => exact .held hsound hscript hcause
  · rintro shown rfl
    exact hadvanced shown.blocks rfl

theorem Plan.plays_build (plan : Plan) (conduct : Conduct σ τ) :
    Plays conduct.source plan.script (blocksIn plan.ranges) (plan.build conduct) := by
  have herase : Plays conduct.source (plan.eraseSet.ranges.map visit).prod
      (blocksIn plan.eraseSet.ranges) (plan.erase conduct) :=
    plays_shownOn _ (plays_eraseRanges conduct 0 _)
  have hcopy : Plays conduct.source (plan.newSet.ranges.map copying).prod
      (blocksIn plan.newSet.ranges) (plan.copy conduct) :=
    plays_shownOn _ (plays_copyRanges conduct 0 _)
  have hend : ∃ ops, ops ∈ (1 : Language Operation) := ⟨[], Language.nil_mem_one⟩
  have hflushing : ∃ ops, ops ∈ ({[.flush none]} * 1 : Language Operation) :=
    exists_mem_mul ⟨_, rfl⟩ hend
  have hcopying := exists_mem_mul (exists_mem_prod exists_mem_copying plan.newSet.ranges) hflushing
  have herasing := exists_mem_mul (exists_mem_prod exists_mem_visit plan.eraseSet.ranges) hcopying
  have hparts : Plays conduct.source
      ((plan.eraseSet.ranges.map visit).prod *
        ((plan.newSet.ranges.map copying).prod * ({[.flush none]} * 1)))
      (blocksIn plan.eraseSet.ranges + (blocksIn plan.newSet.ranges + 0))
      (plan.build conduct) := by
    unfold Plan.build
    refine (plays_report _ _).silent_bind (fun _ _ _ _ => ?_) herasing
    refine herase.bind (fun _ erased _ _ => ?_) hcopying
    refine (plays_report _ _).silent_bind (fun _ _ _ _ => ?_) hcopying
    refine hcopy.bind (fun _ written _ _ => ?_) hflushing
    exact (plays_flush conduct).bind (fun _ _ _ _ => plays_pure _) hend
  refine hparts.of_le ?_ ?_
  · rw [Plan.script, mul_one, mul_assoc]
  · simp [Plan.ranges, blocksIn_append]

/-- A build plays the script of its plan and gets through the blocks of all its
ranges; each range is visited, and got through, on its own. -/
theorem Plan.build_operations (plan : Plan) (conduct : Conduct σ τ) :
    Plays conduct.source plan.script (blocksIn plan.ranges) (plan.build conduct) ∧
      ∀ range, Plays conduct.source (visit range) range.length (eraseRange conduct range) ∧
        Plays conduct.source (copying range) range.length (copyRange conduct range) :=
  ⟨plan.plays_build conduct, fun range =>
    ⟨plays_eraseRange conduct range, plays_copyRange conduct range⟩⟩

/-- Two ranges that overlap after one that is erased: the target has seen them
in this order, and nothing of the empty range between them. -/
theorem Plan.build_operations_overlapping :
    ∃ data report after ops, data = ⟨Array.replicate 16384 7⟩ ∧
      (Plan.overlapping.build .willing).run
        (Program.freshSession (.apart data) ByteArray.empty) = (.ok report, after) ∧
      after.target.trace.toList = ops ∧ ops ∈ Plan.overlapping.script ∧ after.advanced = 7 := by
  have hsize : (ByteArray.mk (Array.replicate 16384 7)).size = 16384 := by simp [ByteArray.size]
  obtain ⟨report, after, hrun⟩ := Plan.overlapping_ok ByteArray.empty hsize
  obtain ⟨ops, hsaw, hfollows, hadvanced⟩ :=
    (Plan.overlapping.build_operations .willing).1 _ _ after hrun
  refine ⟨_, report, after, ops, rfl, hrun, hsaw.target.trace, ?_, hadvanced report rfl⟩
  cases hfollows with
  | through _ hscript => exact hscript

end BlockTransfer.Build
