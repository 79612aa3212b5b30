/-
BlockTransfer.Proofs.Outcome — how a build ends when no device fails.

With reliable devices the ranges and the size of the data decide alone. A build
goes through when every range ends below block 2^52 and there are data for all
new ranges. Otherwise the first range in the way decides: an erase range
that has no place, for which nothing has been read yet; or a new range that has
none, whose own data are not read, or for which the data that are left by the
ranges before it do not suffice.
-/
import BlockTransfer.Proofs.Obstacle

namespace BlockTransfer.Build

variable {σ τ : Type} {conduct : Conduct σ τ} {data : ByteArray}

/-- A build of a plan ends as the first range in its way has it, where so many
bytes of data are `left` at the start. -/
structure Plan.Decided (plan : Plan) (left : Nat) (before after : Session σ τ)
    (result : Except Error Report) : Prop where
  ok_iff : (∃ report, result = .ok report) ↔
    (∀ range ∈ plan.eraseSet.ranges ++ plan.newSet.ranges, range.stop < blockLimit) ∧
      blockSize * blocksIn plan.newSet.ranges ≤ left
  erase : ∀ earlier range later, plan.eraseSet.ranges = earlier ++ range :: later →
    (∀ other ∈ earlier, other.stop < blockLimit) → blockLimit ≤ range.stop →
    result = .error (.build (.rangeOverflow range)) ∧ after.reader = before.reader
  overflow : ∀ earlier range later, plan.newSet.ranges = earlier ++ range :: later →
    (∀ other ∈ plan.eraseSet.ranges ++ earlier, other.stop < blockLimit) →
    blockSize * blocksIn earlier ≤ left → blockLimit ≤ range.stop →
    result = .error (.build (.rangeOverflow range)) ∧
      after.reader.position = before.reader.position + blockSize * blocksIn earlier
  short : ∀ earlier range later, plan.newSet.ranges = earlier ++ range :: later →
    (∀ other ∈ plan.eraseSet.ranges ++ earlier, other.stop < blockLimit) →
    blockSize * blocksIn earlier ≤ left → range.stop < blockLimit →
    left - blockSize * blocksIn earlier < range.byteLength →
    result = .error (.build (.shortRead range (blockSize * (range.stop - range.start))
      (left - blockSize * blocksIn earlier)))

/-- A new range divides the fills of a plan. -/
theorem Plan.fills_eq (plan : Plan) (data : ByteArray) (position : Nat)
    {earlier later : List BlockRange} {range : BlockRange}
    (hranges : plan.newSet.ranges = earlier ++ range :: later) :
    plan.fills data position =
      (Plan.mk plan.eraseSet ⟨earlier⟩ plan.progress).fills data position ++
        sliceFill data (position + blockSize * blocksIn earlier) range ::
          copyFills data (position + blockSize * blocksIn earlier + range.byteLength) later := by
  rw [fills, fills, hranges, copyFills_append, copyFills, List.append_assoc]

section

variable {plan : Plan} {before after : Session σ τ} {result : Except Error Report}
  {earlier later : List BlockRange} {range : BlockRange}

/-- An erase range without a place stops a build before anything is read. -/
theorem Plan.erase_overflow (hconduct : conduct.Reliable data) (hdata : before.data = .apart data)
    (hrun : (plan.build conduct).run before = (result, after))
    (hranges : plan.eraseSet.ranges = earlier ++ range :: later)
    (hearlier : ∀ other ∈ earlier, other.stop < blockLimit) (hstop : blockLimit ≤ range.stop) :
    result = .error (.build (.rangeOverflow range)) ∧ after.reader = before.reader := by
  constructor
  · refine Plan.result_of_obstacle hconduct hdata hrun ?_
    have hsplit : plan.fills data before.reader.position =
        eraseFills earlier ++ .zeros range :: (eraseFills later ++
          copyFills data before.reader.position plan.newSet.ranges) := by
      simp [fills, eraseFills, hranges]
    rw [hsplit]
    refine obstacle?_eq_some ?_ (Fill.obstacle?_of_le hstop)
    rw [obstacle?_eraseFills_eq_none_iff]
    exact fun other hmem => other.span?_ne_none_iff.mpr (hearlier other hmem)
  · obtain ⟨_, _, _, _, _, hreader⟩ | ⟨erasing, _, _, hcourse, _⟩ := Plan.build_cases hdata hrun
    · exact hreader
    · have hmem : Fill.zeros range ∈ eraseFills plan.eraseSet.ranges := by
        simp [eraseFills, hranges]
      exact absurd ((BlockRange.span?_eq_none_iff _).mpr hstop) (hcourse.span?_of_ok _ hmem)

/-- What comes before a new range is not in the way of a build. -/
theorem Plan.obstacle?_before {position : Nat}
    (hplaced : ∀ other ∈ plan.eraseSet.ranges ++ earlier, other.stop < blockLimit)
    (hthere : blockSize * blocksIn earlier ≤ data.size - position) :
    obstacle? ((Plan.mk plan.eraseSet ⟨earlier⟩ plan.progress).fills data position) = none :=
  (obstacle?_fills_eq_none_iff _ data position).mpr ⟨hplaced, hthere⟩

/-- A new range without a place stops a build before the data for it are read. -/
theorem Plan.copy_overflow (hconduct : conduct.Reliable data) (hdata : before.data = .apart data)
    (hrun : (plan.build conduct).run before = (result, after))
    (hranges : plan.newSet.ranges = earlier ++ range :: later)
    (hplaced : ∀ other ∈ plan.eraseSet.ranges ++ earlier, other.stop < blockLimit)
    (hthere : blockSize * blocksIn earlier ≤ data.size - before.reader.position)
    (hstop : blockLimit ≤ range.stop) :
    result = .error (.build (.rangeOverflow range)) ∧
      after.reader.position = before.reader.position + blockSize * blocksIn earlier := by
  have hresult : result = .error (.build (.rangeOverflow range)) := by
    refine Plan.result_of_obstacle hconduct hdata hrun ?_
    rw [plan.fills_eq data _ hranges]
    exact obstacle?_eq_some (Plan.obstacle?_before hplaced hthere) (Fill.obstacle?_of_le hstop)
  refine ⟨hresult, ?_⟩
  obtain ⟨_, error, _, _, hcourse, _⟩ | ⟨_, _, _, _, _, hposition⟩ :=
    Plan.build_cases hdata hrun
  · have herased : obstacle? (eraseFills plan.eraseSet.ranges) = none := by
      rw [obstacle?_eraseFills_eq_none_iff]
      intro other hmem
      exact other.span?_ne_none_iff.mpr (hplaced other (List.mem_append_left _ hmem))
    have herror := hcourse.result_eq hconduct
    rw [herased] at herror
    cases herror
  · rw [hposition range hresult, hranges, List.takeWhile_append_of_pos, List.takeWhile_cons_of_neg,
      List.append_nil]
    · simp [(BlockRange.span?_eq_none_iff range).mpr hstop]
    · intro other hmem
      rw [Option.isSome_iff_ne_none]
      exact other.span?_ne_none_iff.mpr (hplaced other (List.mem_append_right _ hmem))

/-- A new range for which the data do not suffice stops a build. -/
theorem Plan.copy_short (hconduct : conduct.Reliable data) (hdata : before.data = .apart data)
    (hrun : (plan.build conduct).run before = (result, after))
    (hranges : plan.newSet.ranges = earlier ++ range :: later)
    (hplaced : ∀ other ∈ plan.eraseSet.ranges ++ earlier, other.stop < blockLimit)
    (hthere : blockSize * blocksIn earlier ≤ data.size - before.reader.position)
    (hstop : range.stop < blockLimit)
    (hshort : data.size - before.reader.position - blockSize * blocksIn earlier <
      range.byteLength) :
    result = .error (.build (.shortRead range range.byteLength
      (data.size - before.reader.position - blockSize * blocksIn earlier))) := by
  refine Plan.result_of_obstacle hconduct hdata hrun ?_
  rw [plan.fills_eq data _ hranges]
  rw [Nat.sub_sub] at hshort ⊢
  exact obstacle?_eq_some (Plan.obstacle?_before hplaced hthere)
    (obstacle?_sliceFill_of_lt hstop hshort)

end

/-! ## Builds -/

/-- With reliable devices every build is decided by its ranges and by how many
bytes of data there are. -/
theorem Plan.build_decided (plan : Plan) (before : Session σ τ) (hconduct : conduct.Reliable data)
    (hdata : before.data = .apart data) :
    plan.Decided (data.size - before.reader.position) before
      ((plan.build conduct).run before).2 ((plan.build conduct).run before).1 := by
  rcases hrun : (plan.build conduct).run before with ⟨result, after⟩
  refine ⟨Plan.result_ok_iff hconduct hdata hrun, ?_, ?_, ?_⟩
  · intro earlier range later hranges hearlier hstop
    exact Plan.erase_overflow hconduct hdata hrun hranges hearlier hstop
  · intro earlier range later hranges hplaced hthere hstop
    exact Plan.copy_overflow hconduct hdata hrun hranges hplaced hthere hstop
  · intro earlier range later hranges hplaced hthere hstop hshort
    exact Plan.copy_short hconduct hdata hrun hranges hplaced hthere hstop hshort

/-- Two blocks of data are used up before the last range, one is left for it. -/
theorem Plan.build_decided_overlapping :
    ((Plan.overlapping.build .willing).run
      (Program.freshSession (.apart (Image.zeros 12288)) ByteArray.empty)).1 =
        .error (.build (.shortRead ⟨0, 2, by decide, by decide⟩ 8192 4096)) := by
  have hdecided := Plan.overlapping.build_decided
    (Program.freshSession (.apart (Image.zeros 12288)) ByteArray.empty)
    (Conduct.willing_reliable _) rfl
  have hleft : (Image.zeros 12288).size - 0 = 12288 := by rw [Nat.sub_zero, Image.size_zeros]
  have hshort := hdecided.short [⟨1, 3, by decide, by decide⟩, ⟨9, 9, by decide, by decide⟩]
    ⟨0, 2, by decide, by decide⟩ [] rfl (by decide)
  simp only [Program.freshSession, hleft] at hshort
  exact hshort (by decide) (by decide) (by decide)

end BlockTransfer.Build
