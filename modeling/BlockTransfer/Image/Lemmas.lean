/-
BlockTransfer.Image.Lemmas — the operations on an image, seen byte by byte.

`byteAt` turns each of them into arithmetic on indices: `byteAt_append` and
`byteAt_extract` for bytes that are put together and cut out, and
`size_splice` and `byteAt_splice` for a piece that is put into an image. Two
images that have the same size and the same bytes are the same (`ext_byteAt`).
`splice_append` is what makes a write in parts the same as a write at once.
-/
import BlockTransfer.Image

namespace BlockTransfer.Image

theorem byteAt_of_lt {image : ByteArray} {i : Nat} (h : i < image.size) :
    byteAt image i = image[i] := by
  simp [byteAt, h]

theorem byteAt_of_le {image : ByteArray} {i : Nat} (h : image.size ≤ i) : byteAt image i = 0 := by
  simp [byteAt, Nat.not_lt.2 h]

theorem byteAt_zeros (count i : Nat) : byteAt (zeros count) i = 0 := by
  unfold byteAt
  split
  · next h => simp [zeros, ByteArray.getElem_eq_getElem_data]
  · rfl

/-! ## Reading from bytes that were put together -/

theorem byteAt_append (a b : ByteArray) (i : Nat) :
    byteAt (a ++ b) i = if i < a.size then byteAt a i else byteAt b (i - a.size) := by
  have size := ByteArray.size_append (a := a) (b := b)
  split
  · next h =>
    rw [byteAt_of_lt (by omega), byteAt_of_lt h, ByteArray.getElem_append_left h]
  · next h =>
    by_cases inside : i - a.size < b.size
    · rw [byteAt_of_lt (by omega), byteAt_of_lt inside, ByteArray.getElem_append_right (by omega)]
    · rw [byteAt_of_le (by omega), byteAt_of_le (by omega)]

theorem byteAt_extract (bytes : ByteArray) (start stop i : Nat) :
    byteAt (bytes.extract start stop) i =
      if start + i < stop then byteAt bytes (start + i) else 0 := by
  have size := ByteArray.size_extract (a := bytes) (b := start) (e := stop)
  by_cases inside : i < (bytes.extract start stop).size
  · rw [byteAt_of_lt inside, ByteArray.getElem_extract, if_pos (by omega), byteAt_of_lt (by omega)]
  · rw [byteAt_of_le (by omega)]
    split
    · rw [byteAt_of_le (by omega)]
    · rfl

/-- Bytes are the same when they are as many and read the same. -/
theorem ext_byteAt {a b : ByteArray} (size : a.size = b.size)
    (bytes : ∀ i, i < a.size → byteAt a i = byteAt b i) : a = b := by
  apply ByteArray.ext_getElem size
  intro i ha hb
  have := bytes i ha
  rwa [byteAt_of_lt ha, byteAt_of_lt hb] at this

/-- Nothing is cut out from past the end. -/
theorem extract_min_size (bytes : ByteArray) (start stop : Nat) :
    bytes.extract start (min stop bytes.size) = bytes.extract start stop := by
  apply ext_byteAt
  · simp only [ByteArray.size_extract]
    omega
  · intro i hi
    rw [ByteArray.size_extract] at hi
    rw [byteAt_extract, byteAt_extract, if_pos (by omega), if_pos (by omega)]

/-! ## Putting a piece at an offset -/

/-- A piece that has bytes makes the image long enough for them. -/
theorem size_splice (image piece : ByteArray) (offset : Nat) :
    (splice image piece offset).size =
      if piece.size = 0 then image.size else max image.size (offset + piece.size) := by
  unfold splice
  split
  · rfl
  split
  · simp only [ByteArray.size_append, size_zeros]
    omega
  · rw [ByteArray.copySlice_eq_append]
    simp only [ByteArray.size_append, ByteArray.size_extract, ByteArray.size_data]
    omega

/-- A byte of the image after a splice is one of the piece, if it lies where the
piece was put, and else the byte that was there, or zero in a gap. -/
theorem byteAt_splice (image piece : ByteArray) (offset i : Nat) :
    byteAt (splice image piece offset) i =
      if offset ≤ i ∧ i < offset + piece.size then byteAt piece (i - offset)
      else byteAt image i := by
  unfold splice
  split
  · rw [if_neg (by omega)]
  split
  · next beyond =>
    simp only [byteAt_append, byteAt_zeros, ByteArray.size_append, size_zeros]
    by_cases old : i < image.size
    · rw [if_pos (by omega), if_pos old, if_neg (by omega)]
    by_cases gap : i < offset
    · rw [if_pos (by omega), if_neg old, if_neg (by omega), byteAt_of_le (by omega)]
    by_cases inside : i < offset + piece.size
    · rw [if_neg (by omega), if_pos (by omega), Nat.add_sub_cancel' beyond]
    · rw [if_neg (by omega), if_neg (by omega), byteAt_of_le (by omega), byteAt_of_le (by omega)]
  · next short =>
    have cut : min offset image.size = offset := by omega
    rw [ByteArray.copySlice_eq_append]
    simp only [byteAt_append, byteAt_extract, ByteArray.size_append, ByteArray.size_extract,
      ByteArray.size_data, Nat.sub_zero, Nat.zero_add, Nat.min_self, cut]
    by_cases before : i < offset
    · rw [if_pos (by omega), if_pos before, if_pos before, if_neg (by omega)]
    by_cases inside : i < offset + piece.size
    · rw [if_pos inside, if_neg before, if_pos (by omega), if_pos (by omega)]
    rw [if_neg inside]
    by_cases old : i < image.size
    · rw [if_pos (by omega), if_neg (by omega)]
      congr 1
      omega
    · rw [if_neg (by omega), if_neg (by omega), byteAt_of_le (by omega)]

/-- Two pieces of which the second follows the first are put like one. -/
theorem splice_append (image first second : ByteArray) (offset : Nat) :
    splice (splice image first offset) second (offset + first.size)
      = splice image (first ++ second) offset := by
  apply ext_byteAt
  · simp only [size_splice, ByteArray.size_append]
    split <;> split <;> split <;> omega
  · intro i _
    simp only [byteAt_splice, byteAt_append, ByteArray.size_append]
    by_cases hsecond : offset + first.size ≤ i ∧ i < offset + first.size + second.size
    · rw [if_pos hsecond, if_pos (by omega), if_neg (by omega), Nat.sub_add_eq]
    · rw [if_neg hsecond]
      by_cases hfirst : offset ≤ i ∧ i < offset + first.size
      · rw [if_pos hfirst, if_pos (by omega), if_pos (by omega)]
      · rw [if_neg hfirst, if_neg (by omega)]

/-! ## Zero bytes -/

theorem zeros_append (first second : Nat) :
    zeros first ++ zeros second = zeros (first + second) := by
  apply ext_byteAt
  · simp
  · intro i _
    simp [byteAt_append, byteAt_zeros]

theorem extract_zeros (count start stop : Nat) :
    (zeros count).extract start stop = zeros (min stop count - start) := by
  apply ext_byteAt
  · simp
  · intro i _
    simp [byteAt_extract, byteAt_zeros]

end BlockTransfer.Image
