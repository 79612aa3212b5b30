/-
BlockTransfer.Image — the bytes of an image.

An image is a byte array that grows at its end. `splice` puts a piece at an
offset: bytes there are replaced, a gap before the offset is filled with zeros,
and a piece of no bytes changes nothing, not even the size. `byteAt` is the
view that the operation is described through: a byte past the end reads as
zero.
-/

namespace BlockTransfer.Image

/-- So many zero bytes. -/
def zeros (count : Nat) : ByteArray :=
  ⟨Array.replicate count 0⟩

/-- The byte at an index, zero past the end. -/
def byteAt (image : ByteArray) (index : Nat) : UInt8 :=
  if h : index < image.size then image[index] else 0

/-- Puts a piece at an offset. -/
def splice (image piece : ByteArray) (offset : Nat) : ByteArray :=
  if piece.size = 0 then image
  else if image.size ≤ offset then image ++ zeros (offset - image.size) ++ piece
  else piece.copySlice 0 image offset piece.size

@[simp] theorem size_zeros (count : Nat) : (zeros count).size = count := by
  simp [zeros, ByteArray.size]

/-- A piece of no bytes changes nothing. -/
theorem splice_of_size_eq_zero {piece : ByteArray} (image : ByteArray) (offset : Nat)
    (h : piece.size = 0) : splice image piece offset = image := by
  simp [splice, h]

end BlockTransfer.Image
