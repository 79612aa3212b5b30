/-
BlockTransfer.Proofs.Fill — what a build is to put where.

A `Fill` is a range with the bytes that belong there: zeros, or a slice of the
data. `applyFills` puts fills into an image one after the other. It is
described byte by byte: a byte that no fill covers stays (`byteAt_applyFills`),
any other comes from the last fill that covers it (`byteAt_applyFills_last`),
and the size is the old one or the end of the furthest range
(`size_applyFills`).

`Within ranges before after` says that one image came from another by changes
inside the ranges only. Full fills put over such ranges make the two images the
same (`Within.applyFills_eq`): whatever had been done to one of them before is
lost.
-/
import BlockTransfer.BlockRange
import BlockTransfer.Image.Lemmas

namespace BlockTransfer

/-! ## Blocks and bytes -/

namespace BlockRange

/-- Whether a block is one of the range. -/
def Covers (range : BlockRange) (block : Nat) : Prop :=
  range.start ≤ block ∧ block < range.stop

/-- The byte at an index is one of a range when its block is. -/
theorem covers_div_iff (range : BlockRange) (index : Nat) :
    range.Covers (index / blockSize) ↔
      range.offset ≤ index ∧ index < range.offset + range.byteLength := by
  have hordered := range.ordered
  simp only [Covers, offset, byteLength, length, blockSize]
  omega

theorem byteLength_eq_zero_iff (range : BlockRange) :
    range.byteLength = 0 ↔ range.length = 0 := by
  simp only [byteLength, blockSize]
  omega

theorem offset_add_byteLength (range : BlockRange) :
    range.offset + range.byteLength = blockSize * range.stop := by
  have hordered := range.ordered
  simp only [offset, byteLength, length, blockSize]
  omega

/-- The end of the furthest of the ranges that hold any blocks. -/
def reach (ranges : List BlockRange) : Nat :=
  ((ranges.filter (·.length ≠ 0)).map (·.stop)).foldr max 0

theorem reach_cons (range : BlockRange) (ranges : List BlockRange) :
    reach (range :: ranges) =
      if range.length = 0 then reach ranges else max range.stop (reach ranges) := by
  by_cases hempty : range.length = 0 <;> simp [reach, hempty]

theorem reach_append (first second : List BlockRange) :
    reach (first ++ second) = max (reach first) (reach second) := by
  induction first with
  | nil => simp [reach]
  | cons range first ih =>
    rw [List.cons_append, reach_cons, reach_cons, ih]
    split
    · rfl
    · rw [Nat.max_assoc]

example : reach [⟨2, 4, by decide, by decide⟩, ⟨9, 9, by decide, by decide⟩] = 4 := by decide

/-- A byte of a covered block lies before the end of the furthest range. -/
theorem lt_reach_of_covers {ranges : List BlockRange} {range : BlockRange} {index : Nat}
    (hmem : range ∈ ranges) (hcovers : range.Covers (index / blockSize)) :
    index < blockSize * reach ranges := by
  induction ranges with
  | nil => cases hmem
  | cons first ranges ih =>
    rw [reach_cons]
    rcases List.mem_cons.mp hmem with rfl | hmem
    · obtain ⟨hstart, hstop⟩ := hcovers
      rw [if_neg (by unfold length; omega)]
      unfold blockSize at *
      omega
    · have hlater := ih hmem
      unfold blockSize at *
      split <;> omega

end BlockRange

namespace Build

/-! ## Fills -/

/-- What a build is to put at the place of a range. There may be fewer bytes of
data than the range holds, when the data end before. -/
inductive Fill where
  | zeros (range : BlockRange)
  | data (range : BlockRange) (bytes : ByteArray) (fits : bytes.size ≤ range.byteLength)

namespace Fill

/-- The range that is filled. -/
def range : Fill → BlockRange
  | .zeros range => range
  | .data range _ _ => range

/-- The bytes that there are for the range. -/
def bytes : Fill → ByteArray
  | .zeros range => Image.zeros range.byteLength
  | .data _ bytes _ => bytes

/-- Where the range begins in the image. -/
def offset (fill : Fill) : Nat :=
  fill.range.offset

/-- There are as many bytes as the range holds. -/
def Full (fill : Fill) : Prop :=
  fill.bytes.size = fill.range.byteLength

/-- Whether the fill has a byte for an index of the image. -/
def Covers (fill : Fill) (index : Nat) : Prop :=
  fill.offset ≤ index ∧ index < fill.offset + fill.bytes.size

theorem size_bytes_le (fill : Fill) : fill.bytes.size ≤ fill.range.byteLength := by
  cases fill with
  | zeros range => exact Nat.le_of_eq (Image.size_zeros range.byteLength)
  | data range bytes fits => exact fits

theorem full_zeros (range : BlockRange) : (Fill.zeros range).Full :=
  Image.size_zeros range.byteLength

/-- A full fill covers the bytes of the blocks of its range. -/
theorem Full.covers_iff {fill : Fill} (h : fill.Full) (index : Nat) :
    fill.Covers index ↔ fill.range.Covers (index / blockSize) := by
  rw [Covers, h, BlockRange.covers_div_iff, offset]

end Fill

/-- Puts fills into an image, one after the other. -/
def applyFills (image : ByteArray) (fills : List Fill) : ByteArray :=
  fills.foldl (fun image fill => Image.splice image fill.bytes fill.offset) image

theorem applyFills_cons (image : ByteArray) (fill : Fill) (fills : List Fill) :
    applyFills image (fill :: fills) =
      applyFills (Image.splice image fill.bytes fill.offset) fills := rfl

theorem applyFills_append (image : ByteArray) (first second : List Fill) :
    applyFills image (first ++ second) = applyFills (applyFills image first) second := by
  simp [applyFills, List.foldl_append]

/-- Full fills cover no byte outside the blocks of their ranges. -/
theorem not_covers_of_full {fills : List Fill} {index : Nat} (hfull : ∀ fill ∈ fills, fill.Full)
    (houtside : ∀ range ∈ fills.map Fill.range, ¬ range.Covers (index / blockSize)) :
    ∀ fill ∈ fills, ¬ fill.Covers index := by
  intro fill hfill hcovers
  apply houtside fill.range (List.mem_map_of_mem hfill)
  exact ((hfull fill hfill).covers_iff index).mp hcovers

/-! ## The fills of a pass -/

/-- The fills of an erase pass. -/
def eraseFills (ranges : List BlockRange) : List Fill :=
  ranges.map .zeros

/-- A range with the data for it, which begin at a position. -/
def sliceFill (data : ByteArray) (position : Nat) (range : BlockRange) : Fill :=
  .data range (data.extract position (position + range.byteLength)) <| by
    rw [ByteArray.size_extract]
    omega

/-- The fills of a copy pass: the slices of the data from a position on, one
after the other. -/
def copyFills (data : ByteArray) : Nat → List BlockRange → List Fill
  | _, [] => []
  | position, range :: ranges =>
    sliceFill data position range :: copyFills data (position + range.byteLength) ranges

theorem full_of_mem_eraseFills {ranges : List BlockRange} :
    ∀ fill ∈ eraseFills ranges, fill.Full := by
  simp [eraseFills, Fill.full_zeros]

@[simp] theorem map_range_eraseFills (ranges : List BlockRange) :
    (eraseFills ranges).map Fill.range = ranges := by
  simp [eraseFills, Function.comp_def, Fill.range]

@[simp] theorem map_range_copyFills (data : ByteArray) (position : Nat)
    (ranges : List BlockRange) : (copyFills data position ranges).map Fill.range = ranges := by
  induction ranges generalizing position with
  | nil => rfl
  | cons range ranges ih => simp [copyFills, ih, sliceFill, Fill.range]

/-- How many blocks ranges hold, each counted in full. -/
def blocksIn (ranges : List BlockRange) : Nat :=
  ranges.foldr (fun range blocks => range.length + blocks) 0

theorem blocksIn_cons (range : BlockRange) (ranges : List BlockRange) :
    blocksIn (range :: ranges) = range.length + blocksIn ranges := rfl

theorem blocksIn_append (first second : List BlockRange) :
    blocksIn (first ++ second) = blocksIn first + blocksIn second := by
  induction first with
  | nil => simp [blocksIn]
  | cons range first ih => rw [List.cons_append, blocksIn_cons, blocksIn_cons, ih, Nat.add_assoc]

/-- The slices of later ranges begin where those of earlier ones end. -/
theorem copyFills_append (data : ByteArray) (position : Nat) (earlier later : List BlockRange) :
    copyFills data position (earlier ++ later) =
      copyFills data position earlier ++
        copyFills data (position + blockSize * blocksIn earlier) later := by
  induction earlier generalizing position with
  | nil => simp [copyFills, blocksIn]
  | cons range earlier ih =>
    rw [List.cons_append, copyFills, ih, copyFills, List.cons_append]
    simp [blocksIn, BlockRange.byteLength, Nat.mul_add, Nat.add_assoc]

/-- Only the data from the position on matter. -/
theorem copyFills_extract (data : ByteArray) (position moved : Nat) (ranges : List BlockRange) :
    copyFills (data.extract position data.size) moved ranges =
      copyFills data (position + moved) ranges := by
  induction ranges generalizing moved with
  | nil => rfl
  | cons range ranges ih =>
    have hbytes : (data.extract position data.size).extract moved (moved + range.byteLength) =
        data.extract (position + moved) (position + moved + range.byteLength) := by
      rw [ByteArray.extract_extract, Image.extract_min_size, Nat.add_assoc]
    have hslice : sliceFill (data.extract position data.size) moved range =
        sliceFill data (position + moved) range := by
      simp only [sliceFill, hbytes]
    rw [copyFills, copyFills, ih, hslice, Nat.add_assoc]

/-! ## Byte by byte -/

theorem byteAt_splice_of_not_covers {fill : Fill} {index : Nat} (h : ¬ fill.Covers index)
    (image : ByteArray) :
    Image.byteAt (Image.splice image fill.bytes fill.offset) index = Image.byteAt image index := by
  rw [Image.byteAt_splice]
  exact if_neg h

theorem byteAt_splice_of_covers {fill : Fill} {index : Nat} (h : fill.Covers index)
    (image : ByteArray) :
    Image.byteAt (Image.splice image fill.bytes fill.offset) index =
      Image.byteAt fill.bytes (index - fill.offset) := by
  rw [Image.byteAt_splice]
  exact if_pos h

/-- A byte that no fill covers stays what it was. -/
theorem byteAt_applyFills (image : ByteArray) {fills : List Fill} {index : Nat}
    (h : ∀ fill ∈ fills, ¬ fill.Covers index) :
    Image.byteAt (applyFills image fills) index = Image.byteAt image index := by
  induction fills generalizing image with
  | nil => rfl
  | cons fill fills ih =>
    rw [applyFills_cons, ih _ fun fill hmem => h fill (by simp [hmem])]
    exact byteAt_splice_of_not_covers (h fill (by simp)) image

/-- A byte that a fill covers and no later one comes from that fill. -/
theorem byteAt_applyFills_last (image : ByteArray) (earlier : List Fill) {fill : Fill}
    {later : List Fill} {index : Nat} (hcovers : fill.Covers index)
    (hlast : ∀ fill ∈ later, ¬ fill.Covers index) :
    Image.byteAt (applyFills image (earlier ++ fill :: later)) index =
      Image.byteAt fill.bytes (index - fill.offset) := by
  rw [applyFills_append, applyFills_cons, byteAt_applyFills _ hlast]
  exact byteAt_splice_of_covers hcovers _

/-- Images that agree at an index, or whose byte there is covered, agree after
the same fills. -/
theorem byteAt_applyFills_congr {first second : ByteArray} {fills : List Fill} {index : Nat}
    (h : Image.byteAt first index = Image.byteAt second index ∨ ∃ fill ∈ fills, fill.Covers index) :
    Image.byteAt (applyFills first fills) index =
      Image.byteAt (applyFills second fills) index := by
  induction fills generalizing first second with
  | nil => simpa [applyFills] using h
  | cons fill fills ih =>
    rw [applyFills_cons, applyFills_cons]
    apply ih
    by_cases hcovers : fill.Covers index
    · left
      rw [byteAt_splice_of_covers hcovers, byteAt_splice_of_covers hcovers]
    · rw [byteAt_splice_of_not_covers hcovers, byteAt_splice_of_not_covers hcovers]
      rcases h with hsame | ⟨other, hmem, hother⟩
      · exact .inl hsame
      · rcases List.mem_cons.mp hmem with rfl | hmem
        · exact absurd hother hcovers
        · exact .inr ⟨other, hmem, hother⟩

/-! ## Sizes -/

/-- A full fill makes an image long enough for its range, if that holds any
blocks. -/
theorem size_splice_of_full {fill : Fill} (h : fill.Full) (image : ByteArray) :
    (Image.splice image fill.bytes fill.offset).size =
      if fill.range.length = 0 then image.size
      else max image.size (blockSize * fill.range.stop) := by
  have hend : fill.offset + fill.range.byteLength = blockSize * fill.range.stop :=
    fill.range.offset_add_byteLength
  rw [Image.size_splice, h, hend]
  by_cases hempty : fill.range.length = 0
  · rw [if_pos hempty, if_pos (fill.range.byteLength_eq_zero_iff.mpr hempty)]
  · rw [if_neg hempty, if_neg (mt fill.range.byteLength_eq_zero_iff.mp hempty)]

theorem size_applyFills (image : ByteArray) {fills : List Fill} (h : ∀ fill ∈ fills, fill.Full) :
    (applyFills image fills).size =
      max image.size (blockSize * BlockRange.reach (fills.map Fill.range)) := by
  induction fills generalizing image with
  | nil => simp [applyFills, BlockRange.reach]
  | cons fill fills ih =>
    have hrest : ∀ fill ∈ fills, fill.Full := fun fill hmem => h fill (by simp [hmem])
    rw [applyFills_cons, ih _ hrest, size_splice_of_full (h fill (by simp)), List.map_cons,
      BlockRange.reach_cons, blockSize]
    split <;> omega

/-! ## Changes inside ranges only -/

/-- One image came from another by changes at the places of ranges: it is not
shorter, is longer only where a range made it so, and is the same elsewhere. -/
structure Within (ranges : List BlockRange) (before after : ByteArray) : Prop where
  not_shorter : before.size ≤ after.size
  size_le : after.size ≤ max before.size (blockSize * BlockRange.reach ranges)
  outside : ∀ index, (∀ range ∈ ranges, ¬ range.Covers (index / blockSize)) →
    Image.byteAt after index = Image.byteAt before index

namespace Within

/-- Nothing has changed. -/
theorem refl (ranges : List BlockRange) (image : ByteArray) : Within ranges image image :=
  ⟨Nat.le_refl _, Nat.le_max_left _ _, fun _ _ => rfl⟩

theorem trans {ranges : List BlockRange} {before middle after : ByteArray}
    (hfirst : Within ranges before middle) (hsecond : Within ranges middle after) :
    Within ranges before after where
  not_shorter := Nat.le_trans hfirst.not_shorter hsecond.not_shorter
  size_le := by
    have hmiddle := hfirst.size_le
    have hafter := hsecond.size_le
    omega
  outside := by
    intro index houtside
    rw [hsecond.outside index houtside, hfirst.outside index houtside]

/-- What is inside some ranges is inside more of them. -/
theorem append_right {ranges : List BlockRange} {before after : ByteArray}
    (h : Within ranges before after) (more : List BlockRange) :
    Within (ranges ++ more) before after where
  not_shorter := h.not_shorter
  size_le := by
    have hsize := h.size_le
    rw [BlockRange.reach_append, blockSize] at *
    omega
  outside := fun index houtside =>
    h.outside index fun range hmem => houtside range (List.mem_append_left _ hmem)

theorem append_left {ranges : List BlockRange} {before after : ByteArray}
    (h : Within ranges before after) (more : List BlockRange) :
    Within (more ++ ranges) before after where
  not_shorter := h.not_shorter
  size_le := by
    have hsize := h.size_le
    rw [BlockRange.reach_append, blockSize] at *
    omega
  outside := fun index houtside =>
    h.outside index fun range hmem => houtside range (List.mem_append_right _ hmem)

/-- A piece that is put inside a range changes nothing outside of it. -/
theorem splice {range : BlockRange} {piece : ByteArray} {position : Nat}
    (hstart : range.offset ≤ position)
    (hend : position + piece.size ≤ range.offset + range.byteLength) (image : ByteArray) :
    Within [range] image (Image.splice image piece position) where
  not_shorter := by
    rw [Image.size_splice]
    split <;> omega
  size_le := by
    have hstop := range.offset_add_byteLength
    have hempty := range.byteLength_eq_zero_iff
    rw [Image.size_splice, BlockRange.reach_cons]
    split
    · exact Nat.le_max_left _ _
    · rw [if_neg (by omega), BlockRange.reach]
      simp only [List.filter_nil, List.map_nil, List.foldr_nil, Nat.max_zero]
      omega
  outside := by
    intro index houtside
    have hnot : ¬ range.Covers (index / blockSize) := houtside range (by simp)
    rw [BlockRange.covers_div_iff] at hnot
    rw [Image.byteAt_splice, if_neg (by omega)]

/-- Full fills over the ranges hide what has been changed inside them. -/
theorem applyFills_eq {before after : ByteArray} {fills : List Fill}
    (h : Within (fills.map Fill.range) before after) (hfull : ∀ fill ∈ fills, fill.Full) :
    applyFills after fills = applyFills before fills := by
  apply Image.ext_byteAt
  · have hshort := h.not_shorter
    have hlong := h.size_le
    rw [size_applyFills _ hfull, size_applyFills _ hfull]
    omega
  · intro index _
    apply byteAt_applyFills_congr
    by_cases hcovers : ∃ fill ∈ fills, fill.Covers index
    · exact .inr hcovers
    · refine .inl (h.outside index fun range hmem hrange => hcovers ?_)
      obtain ⟨fill, hfill, rfl⟩ := List.mem_map.mp hmem
      exact ⟨fill, hfill, ((hfull fill hfill).covers_iff index).mpr hrange⟩

end Within

end Build

end BlockTransfer
