/-
BlockTransfer.Proofs.Extraction — reading the data back from an image.

The bytes that an image has for the new ranges, one range after the other, are
what was `extracted` from it. When no two of the ranges share a block, what is
extracted from the image of a build is just the data that the build has used:
no later range lies over an earlier one, and nothing is left of what was erased.

`BlockRange.blocks` lists the blocks of ranges in the order of the list. Ranges
that tile the first blocks of an image list each of them once (`Tiles.perm`),
and each block of the image is then that block of the data that has its place
in the list. So the image is the data in another order.

All of this is read off `Plan.Makes`, slice by slice
(`Plan.Makes.extract_range`).
-/
import BlockTransfer.Proofs.BuiltImage
import Mathlib.Data.List.Nodup

namespace BlockTransfer

/-! ## The blocks of ranges -/

namespace BlockRange

/-- No block is in both ranges. -/
def Disjoint (range other : BlockRange) : Prop :=
  ∀ block, range.Covers block → ¬ other.Covers block

/-- One range is empty, or ends before the other one starts. -/
theorem disjoint_iff (range other : BlockRange) :
    range.Disjoint other ↔ range.length = 0 ∨ other.length = 0 ∨
      range.stop ≤ other.start ∨ other.stop ≤ range.start := by
  have hrange := range.ordered
  have hother := other.ordered
  unfold Disjoint Covers length
  constructor
  · intro hdisjoint
    have hlater := hdisjoint (max range.start other.start)
    omega
  · intro hcases block hcovers
    omega

instance : DecidableRel Disjoint := fun range other =>
  decidable_of_iff _ (range.disjoint_iff other).symm

/-- The blocks of ranges, in order. -/
def blocks (ranges : List BlockRange) : List Nat :=
  ranges.flatMap fun range => List.range' range.start range.length

theorem mem_range'_iff_covers (range : BlockRange) (block : Nat) :
    block ∈ List.range' range.start range.length ↔ range.Covers block := by
  have hordered := range.ordered
  rw [List.mem_range'_1, Covers, length]
  omega

theorem mem_blocks_iff {ranges : List BlockRange} {block : Nat} :
    block ∈ blocks ranges ↔ ∃ range ∈ ranges, range.Covers block := by
  simp only [blocks, List.mem_flatMap, mem_range'_iff_covers]

/-- Ranges that share no block list no block twice. -/
theorem nodup_blocks {ranges : List BlockRange} (h : ranges.Pairwise Disjoint) :
    (blocks ranges).Nodup := by
  refine List.nodup_flatMap.mpr ⟨fun range _ => List.nodup_range' 1, h.imp ?_⟩
  intro range other hdisjoint block hrange hother
  exact hdisjoint block ((range.mem_range'_iff_covers block).mp hrange)
    ((other.mem_range'_iff_covers block).mp hother)

/-- The ranges end below a block when those do that hold any blocks. -/
theorem reach_le_iff {ranges : List BlockRange} {bound : Nat} :
    reach ranges ≤ bound ↔ ∀ range ∈ ranges, range.length ≠ 0 → range.stop ≤ bound := by
  induction ranges with
  | nil => simp [reach]
  | cons range ranges ih =>
    rw [reach_cons, List.forall_mem_cons, ← ih]
    split
    · next hempty => simp [hempty]
    · next hsome =>
      rw [Nat.max_le]
      simp [hsome]

/-- Ranges that have each block below a number once, and no others. -/
structure Tiles (count : Nat) (ranges : List BlockRange) : Prop where
  disjoint : ranges.Pairwise Disjoint
  covered : ∀ block, (∃ range ∈ ranges, range.Covers block) ↔ block < count

namespace Tiles

variable {count : Nat} {ranges : List BlockRange}

/-- The blocks of a tiling are the blocks below the number, in some order. -/
theorem perm (h : Tiles count ranges) : (blocks ranges).Perm (List.range count) := by
  refine (List.perm_ext_iff_of_nodup (nodup_blocks h.disjoint) List.nodup_range).mpr ?_
  intro block
  rw [mem_blocks_iff, h.covered, List.mem_range]

theorem reach_eq (h : Tiles count ranges) : reach ranges = count := by
  apply Nat.le_antisymm
  · rw [reach_le_iff]
    intro range hmem hsome
    have hcovers : range.Covers (range.stop - 1) := by
      have hordered := range.ordered
      unfold Covers
      unfold length at hsome
      omega
    have hlast := (h.covered (range.stop - 1)).mp ⟨range, hmem, hcovers⟩
    omega
  · cases count with
    | zero => exact Nat.zero_le _
    | succ last =>
      obtain ⟨range, hmem, hstart, hstop⟩ := (h.covered last).mpr (Nat.lt_succ_self last)
      have hsome : range.length ≠ 0 := by
        unfold length
        omega
      have hreach := reach_le_iff.mp (Nat.le_refl (reach ranges)) range hmem hsome
      omega

end Tiles

end BlockRange

namespace Build

open BlockRange (Tiles)

/-- The block with a number in a list of blocks belongs to one of the ranges. -/
theorem exists_of_getElem?_blocks {ranges : List BlockRange} {number block : Nat}
    (h : (BlockRange.blocks ranges)[number]? = some block) :
    ∃ earlier range later inside, ranges = earlier ++ range :: later ∧
      number = blocksIn earlier + inside ∧ inside < range.length ∧
      block = range.start + inside := by
  induction ranges generalizing number with
  | nil => simp [BlockRange.blocks] at h
  | cons range ranges ih =>
    rw [BlockRange.blocks, List.flatMap_cons, ← BlockRange.blocks] at h
    by_cases hown : number < range.length
    · rw [List.getElem?_append_left (by simpa using hown), List.getElem?_range' hown] at h
      refine ⟨[], range, ranges, number, rfl, (Nat.zero_add number).symm, hown, ?_⟩
      rw [← Option.some.inj h, Nat.one_mul]
    · rw [List.getElem?_append_right (by simpa using hown), List.length_range'] at h
      obtain ⟨earlier, other, later, inside, rfl, hnumber, hinside, hblock⟩ := ih h
      refine ⟨range :: earlier, other, later, inside, rfl, ?_, hinside, hblock⟩
      rw [blocksIn_cons]
      omega

/-! ## What is extracted -/

/-- The bytes that an image has for ranges, one range after the other. -/
def extracted (image : ByteArray) : List BlockRange → ByteArray
  | [] => ByteArray.empty
  | range :: ranges =>
    image.extract (blockSize * range.start) (blockSize * range.stop) ++ extracted image ranges

/-- Bytes of a range have their data side by side. -/
theorem dataIndex_offset_add (earlier : List BlockRange) (range : BlockRange) (inside : Nat) :
    dataIndex earlier range (range.offset + inside) = blockSize * blocksIn earlier + inside := by
  unfold dataIndex BlockRange.offset blockSize
  omega

namespace Plan.Makes

variable {plan : Plan} {data before after : ByteArray} {position : Nat}
  {earlier later : List BlockRange} {range : BlockRange}

/-- A byte of a range comes from its place in the data. -/
theorem getElem_range (h : plan.Makes data position before after)
    (hdisjoint : plan.newSet.ranges.Pairwise BlockRange.Disjoint)
    (hranges : plan.newSet.ranges = earlier ++ range :: later) {inside : Nat}
    (hinside : inside < range.byteLength) :
    ∃ (hin : range.offset + inside < after.size)
      (hthere : position + (blockSize * blocksIn earlier + inside) < data.size),
      after[range.offset + inside] = data[position + (blockSize * blocksIn earlier + inside)] := by
  have hcovers : range.Covers ((range.offset + inside) / blockSize) := by
    rw [range.covers_div_iff]
    omega
  -- The ranges after this one do not have its blocks.
  have hlast : ∀ other ∈ later, ¬ other.Covers ((range.offset + inside) / blockSize) := by
    rw [hranges, List.pairwise_append, List.pairwise_cons] at hdisjoint
    obtain ⟨_, ⟨hown, _⟩, _⟩ := hdisjoint
    exact fun other hother => hown other hother _ hcovers
  have hbyte := h.copied earlier range later (range.offset + inside) hranges hcovers hlast
  simpa only [dataIndex_offset_add] using hbyte

/-- So a slice of a range is a slice of the data, and all of it is there. -/
theorem extract_range (h : plan.Makes data position before after)
    (hdisjoint : plan.newSet.ranges.Pairwise BlockRange.Disjoint)
    (hranges : plan.newSet.ranges = earlier ++ range :: later) {start stop : Nat}
    (hordered : start ≤ stop) (hstop : stop ≤ range.byteLength) :
    after.extract (range.offset + start) (range.offset + stop) =
        data.extract (position + (blockSize * blocksIn earlier + start))
          (position + (blockSize * blocksIn earlier + stop)) ∧
      (after.extract (range.offset + start) (range.offset + stop)).size = stop - start := by
  rcases Nat.lt_or_eq_of_le hordered with hless | rfl
  · obtain ⟨hin, hthere, _⟩ := h.getElem_range hdisjoint hranges
      (Nat.lt_of_lt_of_le (Nat.sub_one_lt_of_lt hless) hstop)
    have hsize : (after.extract (range.offset + start) (range.offset + stop)).size =
        stop - start := by
      rw [ByteArray.size_extract]
      omega
    refine ⟨ByteArray.ext_getElem ?_ fun i hi hi' => ?_, hsize⟩
    · rw [hsize, ByteArray.size_extract]
      omega
    · have hinside : start + i < range.byteLength := by omega
      obtain ⟨_, _, hbyte⟩ := h.getElem_range hdisjoint hranges hinside
      simp only [ByteArray.getElem_extract, Nat.add_assoc]
      exact hbyte
  · simp

/-- What is extracted for the ranges from one of them on. -/
theorem extracted_later (h : plan.Makes data position before after)
    (hdisjoint : plan.newSet.ranges.Pairwise BlockRange.Disjoint)
    (hranges : plan.newSet.ranges = earlier ++ later) :
    extracted after later =
        data.extract (position + blockSize * blocksIn earlier)
          (position + blockSize * blocksIn plan.newSet.ranges) ∧
      (extracted after later).size = blockSize * blocksIn later := by
  induction later generalizing earlier with
  | nil =>
    rw [hranges, List.append_nil]
    simp [extracted, blocksIn]
  | cons range later ih =>
    have hnext : plan.newSet.ranges = (earlier ++ [range]) ++ later := by
      rw [hranges, List.append_assoc, List.singleton_append]
    have hearlier : blockSize * blocksIn (earlier ++ [range]) =
        blockSize * blocksIn earlier + range.byteLength := by
      rw [blocksIn_append, Nat.mul_add]
      rfl
    have htotal : blockSize * blocksIn (earlier ++ [range]) ≤
        blockSize * blocksIn plan.newSet.ranges := by
      rw [hnext, blocksIn_append (earlier ++ [range])]
      exact Nat.mul_le_mul_left _ (Nat.le_add_right _ _)
    obtain ⟨hrest, hrestSize⟩ := ih hnext
    obtain ⟨hown, hownSize⟩ := h.extract_range hdisjoint hranges (Nat.zero_le _)
      (Nat.le_refl range.byteLength)
    have hoffset : range.offset + 0 = blockSize * range.start := rfl
    rw [range.offset_add_byteLength, hoffset] at hown hownSize
    constructor
    · rw [extracted, hown, hrest, hearlier, ByteArray.extract_append_extract]
      congr 1 <;> omega
    · rw [extracted, ByteArray.size_append, hownSize, hrestSize, blocksIn_cons, Nat.mul_add]
      rfl

/-- A block of the image is the block of the data that has its place in the list
of blocks. -/
theorem extract_block (h : plan.Makes data position before after)
    (hdisjoint : plan.newSet.ranges.Pairwise BlockRange.Disjoint) {number block : Nat}
    (hblock : (BlockRange.blocks plan.newSet.ranges)[number]? = some block) :
    after.extract (blockSize * block) (blockSize * (block + 1)) =
      data.extract (position + blockSize * number) (position + blockSize * (number + 1)) := by
  obtain ⟨earlier, range, later, inside, hranges, rfl, hinside, rfl⟩ :=
    exists_of_getElem?_blocks hblock
  have hstop : blockSize * (inside + 1) ≤ range.byteLength := Nat.mul_le_mul_left _ hinside
  have hslice := (h.extract_range hdisjoint hranges
    (Nat.mul_le_mul_left blockSize (Nat.le_succ inside)) hstop).1
  rw [BlockRange.offset, ← Nat.mul_add, ← Nat.mul_add] at hslice
  rw [Nat.add_assoc, Nat.add_assoc, Nat.mul_add blockSize (blocksIn earlier) inside,
    Nat.mul_add blockSize (blocksIn earlier) (inside + 1)]
  exact hslice

/-- The image has just the blocks of a tiling when there was nothing past them
before, and nothing is erased there. -/
theorem size_of_tiles {blocks : Nat} (h : plan.Makes data position before after)
    (htiles : Tiles blocks plan.newSet.ranges) (hbefore : before.size ≤ blockSize * blocks)
    (herase : ∀ range ∈ plan.eraseSet.ranges, range.length ≠ 0 → range.stop ≤ blocks) :
    after.size = blockSize * blocks := by
  have hreach : BlockRange.reach plan.ranges = blocks := by
    rw [Plan.ranges, BlockRange.reach_append, htiles.reach_eq]
    exact Nat.max_eq_right (BlockRange.reach_le_iff.mpr herase)
  rw [h.size, hreach]
  exact Nat.max_eq_right hbefore

end Plan.Makes

/-- An image is made of the first blocks of the data, each of them once, in the
order of a list: the n-th block of the data is the block of the image that the
list has at n. -/
structure Reordered (order : List Nat) (data : ByteArray) (position : Nat) (image : ByteArray) :
    Prop where
  once : order.Perm (List.range order.length)
  size : image.size = blockSize * order.length
  same : ∀ number block, order[number]? = some block →
    image.extract (blockSize * block) (blockSize * (block + 1)) =
      data.extract (position + blockSize * number) (position + blockSize * (number + 1))

/-- What is made for a tiling is the data in another order. -/
theorem Plan.Makes.reordered {plan : Plan} {data before after : ByteArray} {position blocks : Nat}
    (h : plan.Makes data position before after) (htiles : Tiles blocks plan.newSet.ranges)
    (hbefore : before.size ≤ blockSize * blocks)
    (herase : ∀ range ∈ plan.eraseSet.ranges, range.length ≠ 0 → range.stop ≤ blocks) :
    Reordered (BlockRange.blocks plan.newSet.ranges) data position after := by
  have hcount : (BlockRange.blocks plan.newSet.ranges).length = blocks := by
    rw [htiles.perm.length_eq, List.length_range]
  refine ⟨?_, ?_, fun number block => h.extract_block htiles.disjoint⟩
  · rw [hcount]
    exact htiles.perm
  · rw [hcount]
    exact h.size_of_tiles htiles hbefore herase

/-- From the image of a build whose new ranges share no blocks its data can be
read back; when the ranges tile the image, it is these data in another order. -/
theorem Plan.build_extracts {σ τ : Type} {conduct : Conduct σ τ} {plan : Plan} {data : ByteArray}
    {before after : Session σ τ} {report : Report} (hdata : before.data = .apart data)
    (hdisjoint : plan.newSet.ranges.Pairwise BlockRange.Disjoint)
    (hrun : (plan.build conduct).run before = (.ok report, after)) :
    extracted after.target.image plan.newSet.ranges =
        data.extract before.reader.position
          (before.reader.position + blockSize * blocksIn plan.newSet.ranges) ∧
      (extracted after.target.image plan.newSet.ranges).size =
        blockSize * blocksIn plan.newSet.ranges ∧
      ∀ blocks, Tiles blocks plan.newSet.ranges →
        before.target.image.size ≤ blockSize * blocks →
        (∀ range ∈ plan.eraseSet.ranges, range.length ≠ 0 → range.stop ≤ blocks) →
        after.target.image.size = blockSize * blocks ∧
          Reordered (BlockRange.blocks plan.newSet.ranges) data before.reader.position
            after.target.image := by
  obtain ⟨hfull, himage⟩ := Plan.build_image hdata hrun
  have hmakes : plan.Makes data before.reader.position before.target.image after.target.image := by
    rw [himage]
    exact plan.makes_applyFills data _ _ hfull
  obtain ⟨hbytes, hsize⟩ := hmakes.extracted_later hdisjoint (List.nil_append _).symm
  refine ⟨hbytes, hsize, fun blocks htiles hbefore herase => ⟨?_, ?_⟩⟩
  · exact hmakes.size_of_tiles htiles hbefore herase
  · exact hmakes.reordered htiles hbefore herase

/-- The new ranges of the plan tile five blocks. -/
theorem Plan.tiling_tiles : Tiles 5 tiling.newSet.ranges where
  disjoint := by decide
  covered := by
    intro block
    simp only [tiling, List.mem_cons, List.not_mem_nil, or_false, exists_eq_or_imp,
      exists_eq_left, BlockRange.Covers]
    omega

/-- Five blocks and a few bytes more are put in the order of the tiling. -/
theorem Plan.build_extracts_tiling :
    ∃ data report after, data = ⟨Array.ofFn fun index : Fin 20486 => .ofNat (index / 4096)⟩ ∧
      (Plan.tiling.build .willing).run
        (Program.freshSession (.apart data) (Image.zeros 9)) = (.ok report, after) ∧
      extracted after.target.image Plan.tiling.newSet.ranges = data.extract 0 20480 ∧
      Reordered [2, 3, 0, 4, 1] data 0 after.target.image := by
  have hsize : (ByteArray.mk
      (Array.ofFn fun index : Fin 20486 => .ofNat (index / 4096))).size = 20486 := by
    simp [ByteArray.size]
  obtain ⟨report, after, hrun⟩ := Plan.tiling.willing_ok (Image.zeros 9) (by decide)
    (by rw [hsize]; decide)
  obtain ⟨hbytes, _, hreordered⟩ := Plan.build_extracts rfl Plan.tiling_tiles.disjoint hrun
  refine ⟨_, report, after, rfl, hrun, hbytes, ?_⟩
  have herase : ∀ range ∈ Plan.tiling.eraseSet.ranges, range.length ≠ 0 → range.stop ≤ 5 := by
    decide
  refine (hreordered 5 Plan.tiling_tiles ?_ herase).2
  simp [Program.freshSession, blockSize]

end Build

end BlockTransfer
