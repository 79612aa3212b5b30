/-
BlockTransfer.Digest.Sha1.Lemmas — a message in pieces has the digest of the
whole.

The words after a block depend on the bytes of that block only
(`compress_congr`), so it does not matter where in an array of bytes the block
stands, nor what follows it. Two messages one after the other are therefore
absorbed one after the other, when the bytes that do not fill a block are put in
front of the second (`absorb_append`).

`Hasher.Holds` is what a hasher keeps of a message. No bytes are held at first,
an update holds a piece more, and a hasher that holds a message finishes with
its digest.
-/
import BlockTransfer.Digest.Sha1
import BlockTransfer.Image.Lemmas

namespace BlockTransfer.Digest

open Image (byteAt byteAt_append byteAt_extract)

/-! ## Blocks -/

section

variable {first second : ByteArray} {offset place : Nat}

theorem wordAt_congr (h : ∀ i < 4, byteAt first (offset + i) = byteAt second (place + i)) :
    wordAt first offset = wordAt second place := by
  have h0 : byteAt first offset = byteAt second place := h 0 (by decide)
  unfold wordAt
  rw [h0, h 1 (by decide), h 2 (by decide), h 3 (by decide)]

theorem blockWords_congr
    (h : ∀ i < blockBytes, byteAt first (offset + i) = byteAt second (place + i)) :
    blockWords first offset = blockWords second place := by
  unfold blockWords
  refine Array.map_congr_left fun index hindex => ?_
  have hless : index < 16 := Array.mem_range.mp hindex
  refine wordAt_congr fun i hi => ?_
  rw [Nat.add_assoc, Nat.add_assoc]
  exact h (4 * index + i) (by unfold blockBytes; omega)

/-- Blocks of the same bytes do the same to the words. -/
theorem compress_congr (state : Digest)
    (h : ∀ i < blockBytes, byteAt first (offset + i) = byteAt second (place + i)) :
    compress state first offset = compress state second place := by
  unfold compress
  rw [blockWords_congr h]

end

/-! ## Whole messages -/

theorem blockBytes_pos : 0 < blockBytes := by decide

section

variable {bytes : ByteArray} {offset : Nat}

/-- A whole block is absorbed, then what comes after it. -/
theorem absorb_of_le (state : Digest) (h : offset + blockBytes ≤ bytes.size) :
    absorb state bytes offset =
      absorb (compress state bytes offset) bytes (offset + blockBytes) := by
  rw [absorb, if_pos h]

theorem absorb_of_lt (state : Digest) (h : bytes.size < offset + blockBytes) :
    absorb state bytes offset = state := by
  rw [absorb, if_neg (Nat.not_le.mpr h)]

end

/-- The bytes from an offset on are absorbed like those that are cut out there. -/
theorem absorb_extract (state : Digest) (bytes : ByteArray) (start offset : Nat) :
    absorb state (bytes.extract start bytes.size) offset = absorb state bytes (start + offset) := by
  have hsize : (bytes.extract start bytes.size).size = bytes.size - start := by
    rw [ByteArray.size_extract, Nat.min_self]
  induction hremaining : bytes.size - offset using Nat.strongRecOn generalizing state offset with
  | ind remaining ih =>
    have hpos := blockBytes_pos
    by_cases hfull : offset + blockBytes ≤ bytes.size - start
    · have hblock : compress state (bytes.extract start bytes.size) offset =
          compress state bytes (start + offset) := by
        refine compress_congr state fun i hi => ?_
        rw [byteAt_extract, if_pos (by omega), Nat.add_assoc]
      rw [absorb_of_le state (by omega), absorb_of_le state (by omega), hblock,
        ih _ (by omega) _ (offset + blockBytes) rfl, Nat.add_assoc]
    · rw [absorb_of_lt state (by omega), absorb_of_lt state (by omega)]

/-- The whole blocks of a message from an offset on are absorbed first, whatever
follows the message. -/
theorem absorb_append_from (state : Digest) (first second : ByteArray) (offset : Nat) :
    absorb state (first ++ second) offset =
      absorb (absorb state first offset) (first ++ second)
        (offset + (first.size - offset) / blockBytes * blockBytes) := by
  induction hremaining : first.size - offset using Nat.strongRecOn generalizing state offset with
  | ind remaining ih =>
    have hpos := blockBytes_pos
    have hsize : (first ++ second).size = first.size + second.size := ByteArray.size_append
    by_cases hfull : offset + blockBytes ≤ first.size
    · have hblock : compress state (first ++ second) offset = compress state first offset := by
        refine compress_congr state fun i hi => ?_
        rw [byteAt_append, if_pos (by omega)]
      have hturn : (first.size - offset) / blockBytes =
          (first.size - (offset + blockBytes)) / blockBytes + 1 := by
        rw [← Nat.sub_sub, Nat.div_eq_sub_div hpos (by omega)]
      rw [absorb_of_le state (by omega), absorb_of_le state hfull, hblock,
        ih _ (by omega) _ (offset + blockBytes) rfl, ← hremaining, hturn, Nat.add_mul, Nat.one_mul,
        Nat.add_assoc offset blockBytes, Nat.add_comm blockBytes]
    · have hnone : remaining / blockBytes = 0 := Nat.div_eq_of_lt (by omega)
      rw [absorb_of_lt state (Nat.not_le.mp hfull), hnone, Nat.zero_mul, Nat.add_zero]

/-- The bytes of a message that do not fill a block. -/
def remainder (message : ByteArray) : ByteArray :=
  message.extract (message.size / blockBytes * blockBytes) message.size

/-- What is left over of a message, and what follows the message, are cut out
together. -/
theorem remainder_append (first second : ByteArray) :
    remainder first ++ second =
      (first ++ second).extract (first.size / blockBytes * blockBytes) (first ++ second).size := by
  have hle := Nat.div_mul_le_self first.size blockBytes
  rw [remainder, ByteArray.size_append, ByteArray.extract_append, Nat.sub_eq_zero_of_le hle,
    Nat.add_sub_cancel_left, ByteArray.extract_zero_size,
    ← Image.extract_min_size first _ (first.size + second.size), Nat.min_eq_right (by omega)]

/-- A message goes on where the whole blocks of another have been absorbed, with
the bytes that were left over in front of it. -/
theorem absorb_append (state : Digest) (first second : ByteArray) :
    absorb state (first ++ second) 0 =
      absorb (absorb state first 0) (remainder first ++ second) 0 := by
  rw [absorb_append_from, remainder_append, absorb_extract, Nat.sub_zero, Nat.zero_add,
    Nat.add_zero]

/-- What is left over in the end does not change when whole blocks are taken
away before. -/
theorem remainder_remainder_append (first second : ByteArray) :
    remainder (remainder first ++ second) = remainder (first ++ second) := by
  have hle := Nat.div_mul_le_self first.size blockBytes
  have hsize : (first ++ second).size = first.size + second.size := ByteArray.size_append
  have hblocks : ((first ++ second).size - first.size / blockBytes * blockBytes) / blockBytes =
      (first ++ second).size / blockBytes - first.size / blockBytes := by
    rw [Nat.mul_comm]
    exact Nat.sub_mul_div _ _ _
  have hmore : first.size / blockBytes * blockBytes ≤
      (first ++ second).size / blockBytes * blockBytes :=
    Nat.mul_le_mul_right _ (Nat.div_le_div_right (by omega))
  rw [remainder_append]
  unfold remainder
  rw [ByteArray.extract_extract, ByteArray.size_extract, Nat.min_self, hblocks, Nat.sub_mul,
    Nat.add_sub_cancel' hmore, Nat.add_sub_cancel' (by omega), Nat.min_self]

/-! ## Messages in pieces -/

/-- A hasher that was given a message, in whatever pieces. -/
structure Hasher.Holds (hasher : Hasher) (message : ByteArray) : Prop where
  state : hasher.state = absorb Digest.initial message 0
  rest : hasher.rest = remainder message
  length : hasher.length = message.size

namespace Hasher.Holds

variable {hasher : Hasher} {message : ByteArray}

theorem initial : Hasher.initial.Holds ByteArray.empty where
  state := (absorb_of_lt Digest.initial (by decide)).symm
  rest := rfl
  length := rfl

theorem update (h : hasher.Holds message) (piece : ByteArray) :
    (hasher.update piece).Holds (message ++ piece) where
  state := by
    rw [absorb_append, ← h.state, ← h.rest]
    rfl
  rest := by
    rw [← remainder_remainder_append, ← h.rest]
    rfl
  length := by
    rw [ByteArray.size_append, ← h.length]
    rfl

/-- A hasher finishes with the digest of what it was given. -/
theorem finish (h : hasher.Holds message) : hasher.finish = sha1 message := by
  rw [Hasher.finish, h.state, h.rest, h.length, sha1, ← absorb_append]

end Hasher.Holds

end BlockTransfer.Digest
