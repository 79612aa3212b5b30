/-
BlockTransfer.Proofs.BuiltImage — what a build makes of an image.

`Plan.Makes` says, byte by byte, which image a plan makes of another one, with
no mention of passes, chunks or devices. A build that goes through leaves that
image, however its reads and writes were cut short (`Plan.build_makes`): it puts
all fills of its plan into the image, and the last fill that covers a byte is
the one that it comes from.
-/
import BlockTransfer.Proofs.Obstacle

namespace BlockTransfer.Build

variable {σ τ : Type} {conduct : Conduct σ τ}

/-- Where in the data a byte of a new range is: past the blocks of the ranges
before that one, and those of its own up to the byte. -/
def dataIndex (earlier : List BlockRange) (range : BlockRange) (index : Nat) : Nat :=
  blockSize * (blocksIn earlier + (index / blockSize - range.start)) + index % blockSize

/-- The image `after` is what a plan makes of `before` with the data from a
position on. A block belongs to the LAST new range that covers it; a block that
only erase ranges cover is zero; all other bytes stay, zero past the end, and
empty ranges do not count. -/
structure Plan.Makes (plan : Plan) (data : ByteArray) (position : Nat)
    (before after : ByteArray) : Prop where
  size : after.size = max before.size (blockSize * BlockRange.reach plan.ranges)
  copied : ∀ earlier range later index, plan.newSet.ranges = earlier ++ range :: later →
    range.Covers (index / blockSize) →
    (∀ other ∈ later, ¬ other.Covers (index / blockSize)) →
    ∃ (hin : index < after.size) (hthere : position + dataIndex earlier range index < data.size),
      after[index] = data[position + dataIndex earlier range index]
  erased : ∀ index, (∀ range ∈ plan.newSet.ranges, ¬ range.Covers (index / blockSize)) →
    (∃ range ∈ plan.eraseSet.ranges, range.Covers (index / blockSize)) →
    ∃ hin : index < after.size, after[index] = 0
  kept : ∀ index, (∀ range ∈ plan.ranges, ¬ range.Covers (index / blockSize)) →
    Image.byteAt after index = Image.byteAt before index

/-! ## Fills, byte by byte -/

/-- A byte that is erased is zero, whichever erase range covers it. -/
theorem byteAt_applyFills_eraseFills (image : ByteArray) {ranges : List BlockRange} {index : Nat}
    (hcovers : ∃ range ∈ ranges, range.Covers (index / blockSize)) :
    Image.byteAt (applyFills image (eraseFills ranges)) index = 0 := by
  induction ranges generalizing image with
  | nil => simp at hcovers
  | cons range ranges ih =>
    rw [eraseFills, List.map_cons, ← eraseFills, applyFills_cons]
    by_cases hlater : ∃ range ∈ ranges, range.Covers (index / blockSize)
    · exact ih _ hlater
    -- No later range covers the byte, so the zeros of this one stay.
    have hnone : ∀ range ∈ (eraseFills ranges).map Fill.range,
        ¬ range.Covers (index / blockSize) := by
      simpa using hlater
    have hhead : range.Covers (index / blockSize) := by
      simpa [hlater] using hcovers
    rw [byteAt_applyFills _ (not_covers_of_full full_of_mem_eraseFills hnone),
      byteAt_splice_of_covers (((Fill.full_zeros range).covers_iff index).mpr hhead)]
    exact Image.byteAt_zeros _ _

/-- A byte of a full slice, by its index in the image. -/
theorem byteAt_sliceFill {data : ByteArray} {position index : Nat} {earlier : List BlockRange}
    {range : BlockRange} (hcovers : range.Covers (index / blockSize))
    (hfull : (sliceFill data (position + blockSize * blocksIn earlier) range).Full) :
    ∃ hthere : position + dataIndex earlier range index < data.size,
      Image.byteAt (sliceFill data (position + blockSize * blocksIn earlier) range).bytes
        (index - range.offset) = data[position + dataIndex earlier range index] := by
  have hplace := (range.covers_div_iff index).mp hcovers
  have hthere := (sliceFill_full_iff data _ range).mp hfull
  have hindex : position + blockSize * blocksIn earlier + (index - range.offset) =
      position + dataIndex earlier range index := by
    obtain ⟨hstart, _⟩ := hcovers
    unfold dataIndex BlockRange.offset blockSize at *
    omega
  have hin : position + dataIndex earlier range index < data.size := by omega
  refine ⟨hin, ?_⟩
  rw [sliceFill, Fill.bytes, Image.byteAt_extract, if_pos (by omega), hindex,
    Image.byteAt_of_lt hin]

/-- A byte that is copied comes from the last range that covers it. -/
theorem byteAt_applyFills_copyFills (image : ByteArray) {data : ByteArray} {position index : Nat}
    {earlier later : List BlockRange} {range : BlockRange}
    (hfull : ∀ fill ∈ copyFills data position (earlier ++ range :: later), fill.Full)
    (hcovers : range.Covers (index / blockSize))
    (hlast : ∀ other ∈ later, ¬ other.Covers (index / blockSize)) :
    ∃ hthere : position + dataIndex earlier range index < data.size,
      Image.byteAt (applyFills image (copyFills data position (earlier ++ range :: later))) index =
        data[position + dataIndex earlier range index] := by
  -- The slice for the range begins where those of the earlier ranges end.
  rw [copyFills_append, copyFills] at hfull ⊢
  have hslice : (sliceFill data (position + blockSize * blocksIn earlier) range).Full :=
    hfull _ (by simp)
  have hlater : ∀ fill ∈ copyFills data (position + blockSize * blocksIn earlier +
      range.byteLength) later, ¬ fill.Covers index := by
    apply not_covers_of_full
    · intro fill hmem
      exact hfull fill (by simp [hmem])
    · rw [map_range_copyFills]
      exact hlast
  obtain ⟨hthere, hbyte⟩ := byteAt_sliceFill hcovers hslice
  refine ⟨hthere, ?_⟩
  rw [byteAt_applyFills_last image _ ((hslice.covers_iff index).mpr hcovers) hlater]
  exact hbyte

/-- Full fills of a plan make the image that the plan describes. -/
theorem Plan.makes_applyFills (plan : Plan) (data : ByteArray) (position : Nat)
    (before : ByteArray) (hfull : ∀ fill ∈ plan.fills data position, fill.Full) :
    plan.Makes data position before (applyFills before (plan.fills data position)) := by
  have hsize := size_applyFills before hfull
  rw [map_range_fills] at hsize
  have hcopies : ∀ fill ∈ copyFills data position plan.newSet.ranges, fill.Full :=
    fun fill hmem => hfull fill (List.mem_append_right _ hmem)
  have hin : ∀ range ∈ plan.ranges, ∀ index, range.Covers (index / blockSize) →
      index < (applyFills before (plan.fills data position)).size := by
    intro range hmem index hcovers
    have hreach := BlockRange.lt_reach_of_covers hmem hcovers
    omega
  refine ⟨hsize, ?_, ?_, ?_⟩
  · intro earlier range later index hranges hcovers hlast
    have hindex := hin range (by simp [ranges, hranges]) index hcovers
    rw [hranges] at hcopies
    obtain ⟨hthere, hbyte⟩ := byteAt_applyFills_copyFills
      (applyFills before (eraseFills plan.eraseSet.ranges)) hcopies hcovers hlast
    refine ⟨hindex, hthere, ?_⟩
    rw [← Image.byteAt_of_lt hindex, ← hbyte]
    unfold fills
    rw [applyFills_append, hranges]
  · intro index hnone hcovers
    obtain ⟨range, hmem, hrange⟩ := hcovers
    have hindex := hin range (List.mem_append_left _ hmem) index hrange
    refine ⟨hindex, ?_⟩
    rw [← Image.byteAt_of_lt hindex]
    unfold fills
    rw [applyFills_append,
      byteAt_applyFills _ (not_covers_of_full hcopies (by rw [map_range_copyFills]; exact hnone))]
    exact byteAt_applyFills_eraseFills before ⟨range, hmem, hrange⟩
  · intro index hnone
    exact byteAt_applyFills before (not_covers_of_full hfull (by rw [map_range_fills]; exact hnone))

/-! ## Builds -/

/-- A build that goes through leaves the image that its plan describes. For an
empty range, whatever came before and after it, the target has seen no write. -/
theorem Plan.build_makes {plan : Plan} {data : ByteArray} {before after : Session σ τ}
    {report : Report} (hdata : before.data = .apart data)
    (hrun : (plan.build conduct).run before = (.ok report, after)) :
    plan.Makes data before.reader.position before.target.image after.target.image ∧
      ∀ earlier fill later, plan.fills data before.reader.position = earlier ++ fill :: later →
        fill.range.length = 0 →
        ∃ first own last stop, after.target.trace.toList =
            before.target.trace.toList ++ (first ++ own ++ last ++ [.flush none]) ∧
          Course conduct data earlier first (.ok ()) ∧
          Filled conduct data fill own (.ok ()) stop ∧
          Course conduct data later last (.ok ()) ∧ ∀ op ∈ own, op.isWrite = false := by
  constructor
  · obtain ⟨hfull, himage⟩ := Plan.build_image hdata hrun
    rw [himage]
    exact plan.makes_applyFills data _ _ hfull
  · intro earlier fill later hfills hempty
    obtain ⟨ops, hsaw, hended⟩ := Plan.build_ended hdata hrun
    obtain ⟨filling, hops, hcourse⟩ := hended.course_of_ok
    rw [hfills] at hcourse
    obtain ⟨first, own, last, stop, hsplit, hearlier, hfill, hlater⟩ := hcourse.exists_of_ok
    refine ⟨first, own, last, stop, ?_, hearlier, hfill, hlater, hfill.isWrite_of_empty hempty⟩
    rw [hsaw.target.trace, hops, hsplit]

theorem Plan.build_makes_overlapping :
    ∃ data report after, data = ⟨Array.replicate 16384 7⟩ ∧
      (Plan.overlapping.build .willing).run
        (Program.freshSession (.apart data) ByteArray.empty) = (.ok report, after) ∧
      Plan.overlapping.Makes data 0 ByteArray.empty after.target.image := by
  have hsize : (ByteArray.mk (Array.replicate 16384 7)).size = 16384 := by simp [ByteArray.size]
  obtain ⟨report, after, hrun⟩ := Plan.overlapping_ok ByteArray.empty hsize
  exact ⟨_, report, after, rfl, hrun, (Plan.build_makes rfl hrun).1⟩

end BlockTransfer.Build
