/-
BlockTransfer.Proofs.Obstacle — what can stop a build when no device fails.

Two things can: a range that has no place in bytes, and data that end before a
range is full. `Fill.obstacle?` reads off a fill whether one of them is in its
way, and `obstacle?` finds the first in a list of fills. With a reliable
source and a reliable target a build ends with just that error, or well if
there is none (`Plan.build_result`), whatever pieces the bytes come in. For the
fills of a plan this comes down to arithmetic: a range has a place when it ends
below block 2^52 (`BlockRange.span?_ne_none_iff`), and the slices are full when
the data hold all blocks together (`obstacle?_copyFills_eq_none_iff`).
-/
import BlockTransfer.Program
import BlockTransfer.Proofs.Ending

namespace BlockTransfer

/-- Ranges that end below this block, the number 2^52, have a place in bytes. -/
def blockLimit : Nat := Nat.pow 2 52

theorem wordLimit_eq : wordLimit = blockSize * blockLimit := by decide

/-- The offset, the length and the end of a range are words when the end is. -/
theorem BlockRange.span?_ne_none_iff (range : BlockRange) :
    range.span? ≠ none ↔ range.stop < blockLimit := by
  have hordered := range.ordered
  have hend := range.offset_add_byteLength
  simp only [span?, ne_eq, ite_eq_right_iff, reduceCtorEq, imp_false, Decidable.not_not,
    wordLimit_eq]
  unfold blockSize at *
  omega

theorem BlockRange.span?_eq_none_iff (range : BlockRange) :
    range.span? = none ↔ blockLimit ≤ range.stop := by
  rw [← Nat.not_lt, ← range.span?_ne_none_iff, ne_eq, Decidable.not_not]

namespace Build

variable {σ τ : Type} {conduct : Conduct σ τ} {data : ByteArray}

/-! ## One fill -/

/-- What is in the way of a fill. -/
def Fill.obstacle? (fill : Fill) : Option Error :=
  if fill.range.span? = none then some (.build (.rangeOverflow fill.range))
  else if fill.bytes.size < fill.range.byteLength then
    some (.build (.shortRead fill.range fill.range.byteLength fill.bytes.size))
  else none

theorem Fill.obstacle?_eq_none_iff (fill : Fill) :
    fill.obstacle? = none ↔ fill.range.span? ≠ none ∧ fill.Full := by
  have hsize := fill.size_bytes_le
  unfold obstacle? Full
  split
  · next hspan => simp [hspan]
  split
  · next hspan hshort => simp [Nat.ne_of_lt hshort]
  · next hspan hfull =>
    simp only [true_iff]
    exact ⟨hspan, by omega⟩

/-- A range that has no place is in the way of any fill, even of an empty one. -/
theorem Fill.obstacle?_of_le {fill : Fill} (hstop : blockLimit ≤ fill.range.stop) :
    fill.obstacle? = some (.build (.rangeOverflow fill.range)) := by
  rw [obstacle?, if_pos ((BlockRange.span?_eq_none_iff _).mpr hstop)]

theorem obstacle?_sliceFill_of_lt {position : Nat} {range : BlockRange}
    (hstop : range.stop < blockLimit) (hshort : data.size - position < range.byteLength) :
    (sliceFill data position range).obstacle? =
      some (.build (.shortRead range range.byteLength (data.size - position))) := by
  have hspan : range.span? ≠ none := (BlockRange.span?_ne_none_iff _).mpr hstop
  have hsize : (sliceFill data position range).bytes.size = data.size - position := by
    rw [size_sliceFill, Nat.min_eq_right (Nat.le_of_lt hshort)]
  have hrange : (sliceFill data position range).range = range := rfl
  rw [Fill.obstacle?, hrange, hsize, if_neg hspan, if_pos hshort]

/-- How work ends that only an obstacle can stop. -/
def settled : Option Error → Except Error Unit
  | none => .ok ()
  | some error => .error error

theorem Filled.result_eq {fill : Fill} {ops : List Operation} {result : Except Error Unit}
    {stop : Nat} (hconduct : conduct.Reliable data)
    (h : Filled conduct data fill ops result stop) : result = settled fill.obstacle? := by
  cases result with
  | ok value =>
    rw [(fill.obstacle?_eq_none_iff).mpr ⟨h.span?_of_ok, h.full_of_ok⟩]
    rfl
  | error error =>
    obtain ⟨rfl, hspan, _⟩ | ⟨fault, _, hunreliable⟩ | ⟨available, rfl, hspan, hshort⟩ :=
      h.error_cases
    · simp [Fill.obstacle?, hspan, settled]
    · exact absurd hconduct hunreliable
    · have hall : available = fill.bytes.size := hshort.all hconduct
      have hless : fill.bytes.size < fill.range.byteLength := hall ▸ hshort.short
      simp [Fill.obstacle?, hspan, hless, hall, settled]

/-! ## Fills in order -/

/-- What is in the way of fills that are made in order. -/
def obstacle? (fills : List Fill) : Option Error :=
  fills.findSome? Fill.obstacle?

theorem obstacle?_cons_eq_none_iff (fill : Fill) (fills : List Fill) :
    obstacle? (fill :: fills) = none ↔ fill.obstacle? = none ∧ obstacle? fills = none := by
  simp [obstacle?]

theorem obstacle?_append_eq_none_iff (first second : List Fill) :
    obstacle? (first ++ second) = none ↔ obstacle? first = none ∧ obstacle? second = none := by
  simp [obstacle?, List.findSome?_append, Option.or_eq_none_iff]

/-- The first fill in whose way something is decides. -/
theorem obstacle?_eq_some {earlier later : List Fill} {fill : Fill} {error : Error}
    (hearlier : obstacle? earlier = none) (hfill : fill.obstacle? = some error) :
    obstacle? (earlier ++ fill :: later) = some error := by
  unfold obstacle? at *
  rw [List.findSome?_append, hearlier, Option.none_or, List.findSome?_cons, hfill]

/-- What is in the way is found by the build itself. -/
theorem exists_build_of_obstacle? {fills : List Fill} {error : Error}
    (h : obstacle? fills = some error) : ∃ why, error = .build why := by
  obtain ⟨fill, _, hfill⟩ := List.exists_of_findSome?_eq_some h
  unfold Fill.obstacle? at hfill
  split at hfill
  · injection hfill with hfill
    exact ⟨_, hfill.symm⟩
  split at hfill
  · injection hfill with hfill
    exact ⟨_, hfill.symm⟩
  · cases hfill

theorem Course.result_eq {fills : List Fill} {ops : List Operation} {result : Except Error Unit}
    (hconduct : conduct.Reliable data) (h : Course conduct data fills ops result) :
    result = settled (obstacle? fills) := by
  induction h with
  | nil => rfl
  | @cons fill fills ops rest result stop hfill hrest ih =>
    have hfree : fill.obstacle? = none :=
      (fill.obstacle?_eq_none_iff).mpr ⟨hfill.span?_of_ok, hfill.full_of_ok⟩
    rw [ih, obstacle?, obstacle?, List.findSome?_cons, hfree]
  | @stopped fill fills ops error stop hfill =>
    have hresult := hfill.result_eq hconduct
    cases hobstacle : fill.obstacle? with
    | none => rw [hobstacle] at hresult; cases hresult
    | some other =>
      rw [hobstacle] at hresult
      rw [hresult, obstacle?, List.findSome?_cons, hobstacle]

theorem Ended.result_eq {fills : List Fill} {ops : List Operation} {result : Except Error Unit}
    (hconduct : conduct.Reliable data) (h : Ended conduct data fills ops result) :
    result = settled (obstacle? fills) := by
  cases h with
  | stopped hcourse => exact hcourse.result_eq hconduct
  | unflushed _ hunreliable => exact absurd hconduct.target hunreliable
  | flushed hcourse => exact hcourse.result_eq hconduct

/-! ## Plans -/

theorem obstacle?_eraseFills_eq_none_iff (ranges : List BlockRange) :
    obstacle? (eraseFills ranges) = none ↔ ∀ range ∈ ranges, range.span? ≠ none := by
  simp [obstacle?, eraseFills, Fill.obstacle?_eq_none_iff, Fill.full_zeros, Fill.range]

theorem sliceFill_full_iff (data : ByteArray) (position : Nat) (range : BlockRange) :
    (sliceFill data position range).Full ↔ range.byteLength ≤ data.size - position := by
  rw [Fill.Full, size_sliceFill]
  show min range.byteLength (data.size - position) = range.byteLength ↔ _
  omega

/-- The slices are all there when there are as many bytes as all ranges hold. -/
theorem obstacle?_copyFills_eq_none_iff (data : ByteArray) (position : Nat)
    (ranges : List BlockRange) :
    obstacle? (copyFills data position ranges) = none ↔
      (∀ range ∈ ranges, range.span? ≠ none) ∧
        blockSize * blocksIn ranges ≤ data.size - position := by
  induction ranges generalizing position with
  | nil => simp [obstacle?, copyFills, blocksIn]
  | cons range ranges ih =>
    have hslice : (sliceFill data position range).obstacle? = none ↔
        range.span? ≠ none ∧ range.byteLength ≤ data.size - position := by
      rw [Fill.obstacle?_eq_none_iff, sliceFill_full_iff]
      rfl
    have hlength : range.byteLength = blockSize * range.length := rfl
    rw [copyFills, obstacle?_cons_eq_none_iff, ih, hslice, List.forall_mem_cons, blocksIn_cons,
      Nat.mul_add, ← hlength]
    constructor
    · rintro ⟨⟨hspan, hthere⟩, hspans, hrest⟩
      exact ⟨⟨hspan, hspans⟩, by omega⟩
    · rintro ⟨⟨hspan, hspans⟩, hthere⟩
      exact ⟨⟨hspan, by omega⟩, hspans, by omega⟩

theorem Plan.obstacle?_fills_eq_none_iff (plan : Plan) (data : ByteArray) (position : Nat) :
    obstacle? (plan.fills data position) = none ↔
      (∀ range ∈ plan.ranges, range.stop < blockLimit) ∧
        blockSize * blocksIn plan.newSet.ranges ≤ data.size - position := by
  rw [fills, obstacle?_append_eq_none_iff, obstacle?_eraseFills_eq_none_iff,
    obstacle?_copyFills_eq_none_iff, ranges, List.forall_mem_append, and_assoc]
  simp only [BlockRange.span?_ne_none_iff]

/-! ## Builds -/

section

variable {plan : Plan} {before after : Session σ τ} {result : Except Error Report}

/-- When no device fails a build ends at the first obstacle. -/
theorem Plan.build_result (hconduct : conduct.Reliable data) (hdata : before.data = .apart data)
    (hrun : (plan.build conduct).run before = (result, after)) :
    uncounted result = settled (obstacle? (plan.fills data before.reader.position)) := by
  obtain ⟨ops, _, hended⟩ := Plan.build_ended hdata hrun
  exact hended.result_eq hconduct

/-- So it fails with an error of its own, or not at all. -/
theorem Plan.build_error {error : Error} (hconduct : conduct.Reliable data)
    (hdata : before.data = .apart data)
    (hrun : (plan.build conduct).run before = (.error error, after)) :
    ∃ why, error = .build why := by
  have hresult := Plan.build_result hconduct hdata hrun
  cases hobstacle : obstacle? (plan.fills data before.reader.position) with
  | none => rw [hobstacle] at hresult; cases hresult
  | some other =>
    rw [hobstacle] at hresult
    injection hresult with hother
    exact hother ▸ exists_build_of_obstacle? hobstacle

theorem Plan.result_of_obstacle {error : Error} (hconduct : conduct.Reliable data)
    (hdata : before.data = .apart data)
    (hrun : (plan.build conduct).run before = (result, after))
    (hobstacle : obstacle? (plan.fills data before.reader.position) = some error) :
    result = .error error := by
  have hresult := Plan.build_result hconduct hdata hrun
  rw [hobstacle] at hresult
  cases result with
  | ok report => cases hresult
  | error other =>
    injection hresult with hother
    rw [hother]

/-- A build goes through just when its ranges have places and its data are there. -/
theorem Plan.result_ok_iff (hconduct : conduct.Reliable data) (hdata : before.data = .apart data)
    (hrun : (plan.build conduct).run before = (result, after)) :
    (∃ report, result = .ok report) ↔
      (∀ range ∈ plan.ranges, range.stop < blockLimit) ∧
        blockSize * blocksIn plan.newSet.ranges ≤ data.size - before.reader.position := by
  have hresult := Plan.build_result hconduct hdata hrun
  rw [← plan.obstacle?_fills_eq_none_iff data]
  cases result with
  | ok report =>
    cases hobstacle : obstacle? (plan.fills data before.reader.position) with
    | none => simp
    | some error => rw [hobstacle] at hresult; cases hresult
  | error error =>
    cases hobstacle : obstacle? (plan.fills data before.reader.position) with
    | none => rw [hobstacle] at hresult; cases hresult
    | some other => simp

end

/-- With devices that do all they are asked for, a plan whose ranges have places
and whose data are there is built. -/
theorem Plan.willing_ok (plan : Plan) (image : ByteArray)
    (hplaced : ∀ range ∈ plan.ranges, range.stop < blockLimit)
    (hthere : blockSize * blocksIn plan.newSet.ranges ≤ data.size) :
    ∃ report after, (plan.build .willing).run
      (Program.freshSession (.apart data) image) = (.ok report, after) := by
  rcases hrun : (plan.build .willing).run
    (Program.freshSession (.apart data) image) with ⟨result, after⟩
  obtain ⟨report, rfl⟩ :=
    (Plan.result_ok_iff (Conduct.willing_reliable _) rfl hrun).mpr ⟨hplaced, hthere⟩
  exact ⟨report, after, rfl⟩

/-- A plan with ranges that overlap, and an empty one. -/
def Plan.overlapping : Plan where
  eraseSet := ⟨[⟨0, 3, by decide, by decide⟩]⟩
  newSet := ⟨[⟨1, 3, by decide, by decide⟩, ⟨9, 9, by decide, by decide⟩,
    ⟨0, 2, by decide, by decide⟩]⟩
  progress := false

/-- A plan whose new ranges share no blocks and leave none out. -/
def Plan.tiling : Plan where
  eraseSet := ⟨[⟨1, 3, by decide, by decide⟩, ⟨9, 9, by decide, by decide⟩]⟩
  newSet := ⟨[⟨2, 4, by decide, by decide⟩, ⟨0, 1, by decide, by decide⟩,
    ⟨4, 5, by decide, by decide⟩, ⟨7, 7, by decide, by decide⟩, ⟨1, 2, by decide, by decide⟩]⟩
  progress := false

theorem Plan.overlapping_ok (image : ByteArray) {data : ByteArray} (hsize : data.size = 16384) :
    ∃ report after, (overlapping.build .willing).run
      (Program.freshSession (.apart data) image) = (.ok report, after) :=
  overlapping.willing_ok image (by decide) (by rw [hsize]; exact Nat.le_refl 16384)

/-- Without data it fails. -/
theorem Plan.overlapping_error (image : ByteArray) :
    ∃ error after, (overlapping.build .willing).run
      (Program.freshSession (.apart ByteArray.empty) image) = (.error error, after) := by
  rcases hrun : (overlapping.build .willing).run
    (Program.freshSession (.apart ByteArray.empty) image) with ⟨error | report, after⟩
  · exact ⟨error, after, rfl⟩
  · have hdecided := (Plan.result_ok_iff (Conduct.willing_reliable _) rfl hrun).mp ⟨report, rfl⟩
    have hthere : 16384 ≤ 0 := hdecided.2
    omega

end Build

end BlockTransfer
