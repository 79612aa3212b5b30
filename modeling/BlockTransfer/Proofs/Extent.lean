/-
BlockTransfer.Proofs.Extent — how far a range reaches, and how many blocks ranges
hold.

A range has a place in bytes if three numbers are words: its offset, its length
and the sum of the two. The sum is the end of the range in bytes, and neither of
the others is larger, so the three conditions are one: the range ends below block
2^52. Every other range is refused, one without blocks as well
(`Build.place_decided`). The table of a list asks for the offset and the length
apart, so it shows both for every range that has a place.

The count of blocks of a set stops at the largest word at each range. As sums
only grow, that is the same as stopping once at the end (`RangeSet.blockCount_eq`).
So the count does not depend on the order of the ranges, and the counts of two
sets make the count of both together, also where one has stopped already
(`RangeSet.blockCount_saturates`).
-/
import BlockTransfer.Proofs.ExactReport
import BlockTransfer.Proofs.TableText

namespace BlockTransfer

/-! ## Places in bytes -/

namespace Build

open TransferList.Table (offsetText sizeText mul_blockSize_lt_iff offset_ne_dash size_ne_dash)

variable {σ τ : Type}

/-- A range is given its place and nothing else happens, or it is refused and that
is reported. -/
theorem run_place (range : BlockRange) (before : Session σ τ) :
    (place range).run before =
      if range.stop < blockLimit then (.ok ⟨range.offset, range.byteLength⟩, before)
      else
        (.error (.build (.rangeOverflow range)), before.told .error
          s!"Block range {range.text} does not fit in a 64-bit byte offset") := by
  by_cases hstop : range.stop < blockLimit
  · obtain ⟨span, hspan⟩ := Option.ne_none_iff_exists'.mp (range.span?_ne_none_iff.mpr hstop)
    rw [if_pos hstop, place, hspan, BlockRange.span?_eq_some hspan]
    rfl
  · rw [if_neg hstop, place, range.span?_eq_none_iff.mpr (Nat.not_lt.mp hstop)]
    rfl

/-- A range that has a place is shown with its offset and its size. -/
theorem shown_of_stop_lt {range : BlockRange} (h : range.stop < blockLimit) :
    offsetText range = "0x" ++ Text.hexadecimal range.offset ∧
      sizeText range = ByteSize.text range.byteLength := by
  obtain ⟨hoffset, hlength, _⟩ := BlockRange.words_of_span? (range.span?_ne_none_iff.mpr h)
  exact ⟨if_pos hoffset, if_pos hlength⟩

/-- A range has a place if and only if it ends below block 2^52, and every other one
is refused, with or without blocks in it. The place begins at the offset of its
first block and ends at that of its end, which is a word; and the table shows both
numbers of the place, each without a dash. -/
theorem place_decided (range : BlockRange) (before : Session σ τ) :
    (∀ span, ((place range).run before).1 = .ok span ↔
      range.stop < blockLimit ∧
        span = ⟨blockSize * range.start, blockSize * (range.stop - range.start)⟩) ∧
    (∀ error, ((place range).run before).1 = .error error ↔
      blockLimit ≤ range.stop ∧ error = .build (.rangeOverflow range)) ∧
    ∀ span, ((place range).run before).1 = .ok span →
      span.offset + span.length = blockSize * range.stop ∧ blockSize * range.stop < wordLimit ∧
      offsetText range = "0x" ++ Text.hexadecimal span.offset ∧ offsetText range ≠ "-" ∧
      sizeText range = ByteSize.text span.length ∧ sizeText range ≠ "-" := by
  rw [run_place]
  by_cases hstop : range.stop < blockLimit
  · obtain ⟨hoffset, hsize⟩ := shown_of_stop_lt hstop
    rw [if_pos hstop]
    refine ⟨fun span => ?_, fun error => ?_, fun span hspan => ?_⟩
    · rw [Except.ok.injEq, eq_comm]
      exact ⟨fun hspan => ⟨hstop, hspan⟩, fun hspan => hspan.2⟩
    · simp [Nat.not_le.mpr hstop]
    · obtain rfl : ⟨range.offset, range.byteLength⟩ = span := Except.ok.inj hspan
      exact ⟨range.offset_add_byteLength, (mul_blockSize_lt_iff _).mpr hstop, hoffset,
        hoffset ▸ offset_ne_dash _, hsize, hsize ▸ size_ne_dash _⟩
  · rw [if_neg hstop]
    refine ⟨fun span => ?_, fun error => ?_, fun span hspan => ?_⟩
    · simp [hstop]
    · rw [Except.error.injEq, eq_comm]
      exact ⟨fun herror => ⟨Nat.not_lt.mp hstop, herror⟩, fun herror => herror.2⟩
    · cases hspan

/-- The last block that has a place, and the block after it, which has none although
its offset and its length are words. -/
theorem place_decided_last_block :
    ∃ last next : BlockRange,
      last.start = 4503599627370494 ∧ last.stop = 4503599627370495 ∧
      next.start = 4503599627370495 ∧ next.stop = 4503599627370496 ∧
      ((place last).run (Program.freshSession .image ByteArray.empty)).1 =
        .ok ⟨18446744073709543424, 4096⟩ ∧
      offsetText last = "0xffffffffffffe000" ∧ sizeText last = "4.00K" ∧
      next.offset < wordLimit ∧ next.byteLength < wordLimit ∧
      ((place next).run (Program.freshSession .image ByteArray.empty)).1 =
        .error (.build (.rangeOverflow next)) := by
  let last : BlockRange := ⟨4503599627370494, 4503599627370495, by decide, by decide⟩
  let next : BlockRange := ⟨4503599627370495, 4503599627370496, by decide, by decide⟩
  obtain ⟨hplace, _, htable⟩ := place_decided last (Program.freshSession .image ByteArray.empty)
  obtain ⟨_, hrefused, _⟩ := place_decided next (Program.freshSession .image ByteArray.empty)
  have hlast := (hplace ⟨18446744073709543424, 4096⟩).mpr (by decide)
  obtain ⟨_, _, hoffset, _, hsize, _⟩ := htable _ hlast
  refine ⟨last, next, rfl, rfl, rfl, rfl, hlast, hoffset.trans ?_, hsize.trans ?_, ?_, ?_, ?_⟩
  · decide
  · decide
  · decide
  · decide
  · exact (hrefused _).mpr ⟨by decide, rfl⟩

end Build

/-! ## Counts of blocks -/

theorem Build.blocksIn_eq_sum (ranges : List BlockRange) :
    blocksIn ranges = (ranges.map BlockRange.length).sum := by
  rw [List.sum, List.foldr_map, blocksIn]

/-- Stopping at the largest word on the way to a sum is stopping at the end. -/
theorem saturate_add_saturate (n m : Nat) :
    saturate (saturate n + saturate m) = saturate (n + m) := by
  unfold saturate
  omega

namespace RangeSet

theorem blockCount_eq_sum (set : RangeSet) :
    set.blockCount = saturate (set.pairs.map fun pair => pair.2 - pair.1).sum := by
  rw [blockCount_eq, Build.blocksIn_eq_sum, pairs, List.map_map]
  rfl

/-- The count of blocks is the sum of the lengths of all ranges, or the largest word
if that is less. So it is the same in any order of the ranges, and the counts of two
sets add up to that of both in the same way. -/
theorem blockCount_saturates :
    (∀ set : RangeSet, set.blockCount =
      min (set.pairs.map fun pair => pair.2 - pair.1).sum (wordLimit - 1)) ∧
    (∀ set other : RangeSet, set.pairs.Perm other.pairs → set.blockCount = other.blockCount) ∧
    ∀ first second : RangeSet,
      (first ++ second).blockCount =
        min (first.blockCount + second.blockCount) (wordLimit - 1) := by
  refine ⟨blockCount_eq_sum, fun set other hperm => ?_, fun first second => ?_⟩
  · rw [blockCount_eq_sum, blockCount_eq_sum, (hperm.map _).sum_nat]
  · rw [blockCount_eq, ranges_append, Build.blocksIn_append, ← saturate_add_saturate,
      ← blockCount_eq, ← blockCount_eq]
    rfl

/-- A set that has all the blocks there are in one range, with another range before
it or after it, and with both again. -/
theorem blockCount_saturates_early :
    ∃ set other : RangeSet,
      set.pairs = [(0, 18446744073709551615), (7, 9)] ∧
      other.pairs = [(7, 9), (0, 18446744073709551615)] ∧
      set.blockCount = 18446744073709551615 ∧ set.blockCount = other.blockCount ∧
      (set ++ other).blockCount = 18446744073709551615 := by
  let whole : BlockRange := ⟨0, 18446744073709551615, by decide, by decide⟩
  let few : BlockRange := ⟨7, 9, by decide, by decide⟩
  obtain ⟨hcount, hperm, happend⟩ := blockCount_saturates
  have hset : (RangeSet.mk [whole, few]).blockCount = 18446744073709551615 :=
    (hcount _).trans (by decide)
  have hother : (RangeSet.mk [whole, few]).blockCount = (RangeSet.mk [few, whole]).blockCount :=
    hperm _ _ (.swap _ _ _)
  refine ⟨⟨[whole, few]⟩, ⟨[few, whole]⟩, rfl, rfl, hset, hother, (happend _ _).trans ?_⟩
  rw [← hother, hset]
  decide

end RangeSet

end BlockTransfer
