/-
BlockTransfer.Proofs.StreamedDigest — the digest of what arrives from a source.

`Arrives conduct data reader pieces ending` says how a source is read out: the
pieces that arrive, in order and none of them empty, with interrupted reads in
between, and then the end of the source or a failure. Every source is read out
in some way (`exists_arrives`), and a reliable one delivers all that it holds
(`Arrives.of_reliable`).

How the bytes are cut into pieces does not matter: hashing ends with the digest
of all of them, and the bar stands at their count and is finished. After a
failure it stands at the count of the bytes that had arrived, and is not
finished (`ofSource_hashes`).
-/
import BlockTransfer.Conduct.Limited
import BlockTransfer.Digest.Sha1.Lemmas
import BlockTransfer.Digest.Stream
import BlockTransfer.Proofs.Devices

namespace BlockTransfer

/-! ## Hexadecimal digits -/

namespace Text

/-- The digits that bytes are written with. -/
def lowerHexDigits : List Char := "0123456789abcdef".toList

/-- The bytes that pairs of hexadecimal digits stand for. -/
def readHexBytes : List Char → Option (List UInt8)
  | [] => some []
  | [_] => none
  | high :: low :: digits =>
    match hexDigit? high, hexDigit? low, readHexBytes digits with
    | some high, some low, some bytes => some (UInt8.ofNat (16 * high + low) :: bytes)
    | _, _, _ => none

theorem hexDigit?_digitChar : ∀ n < 16, hexDigit? n.digitChar = some n := by decide

theorem digitChar_mem_lowerHexDigits : ∀ n < 16, n.digitChar ∈ lowerHexDigits := by decide

theorem toNat_div_lt (byte : UInt8) : byte.toNat / 16 < 16 := by
  have hbyte := byte.toNat_lt
  omega

theorem toNat_mod_lt (byte : UInt8) : byte.toNat % 16 < 16 :=
  Nat.mod_lt _ (by decide)

theorem mem_lowerHexDigits_of_hexByte {byte : UInt8} {c : Char} (h : c ∈ hexByte byte) :
    c ∈ lowerHexDigits := by
  rw [hexByte, List.mem_cons, List.mem_singleton] at h
  obtain rfl | rfl := h
  · exact digitChar_mem_lowerHexDigits _ (toNat_div_lt byte)
  · exact digitChar_mem_lowerHexDigits _ (toNat_mod_lt byte)

/-- Bytes that were written are read back. -/
theorem readHexBytes_flatMap (bytes : List UInt8) :
    readHexBytes (bytes.flatMap hexByte) = some bytes := by
  induction bytes with
  | nil => rfl
  | cons byte bytes ih =>
    have hwhole : 16 * (byte.toNat / 16) + byte.toNat % 16 = byte.toNat := Nat.div_add_mod _ _
    rw [List.flatMap_cons, hexByte, List.cons_append, List.cons_append, List.nil_append,
      readHexBytes, hexDigit?_digitChar _ (toNat_div_lt byte),
      hexDigit?_digitChar _ (toNat_mod_lt byte), ih]
    simp [hwhole]

end Text

namespace Digest

theorem length_bigEndian (n count : Nat) : (bigEndian n count).length = count := by
  induction count with
  | zero => rfl
  | succ count ih => exact congrArg (· + 1) ih

theorem length_bytes (digest : Digest) : digest.bytes.length = 20 := by
  simp [bytes, length_bigEndian]

theorem toList_text (digest : Digest) : digest.text.toList = digest.bytes.flatMap Text.hexByte := by
  rw [text, String.toList_ofList]

theorem length_text (digest : Digest) : digest.text.length = 40 := by
  have hbytes : digest.bytes.map (fun byte => (Text.hexByte byte).length) =
      digest.bytes.map fun _ => 2 := rfl
  rw [← String.length_toList, toList_text, List.length_flatMap, hbytes, List.map_const',
    List.sum_replicate_nat, length_bytes]

theorem mem_lowerHexDigits_of_text {digest : Digest} {c : Char} (h : c ∈ digest.text.toList) :
    c ∈ Text.lowerHexDigits := by
  rw [toList_text] at h
  obtain ⟨byte, _, hc⟩ := List.mem_flatMap.mp h
  exact Text.mem_lowerHexDigits_of_hexByte hc

theorem readHexBytes_text (digest : Digest) :
    Text.readHexBytes digest.text.toList = some digest.bytes := by
  rw [toList_text, Text.readHexBytes_flatMap]

/-! ## What arrives from a source -/

/-- Pieces, one after the other. -/
def joined : List ByteArray → ByteArray
  | [] => ByteArray.empty
  | piece :: pieces => piece ++ joined pieces

section

variable {σ : Type} {conduct : SourceConduct σ} {data : ByteArray} {reader : Reader σ}
  {pieces : List ByteArray} {ending : Except Fault Unit}

/-- How a source is read out from a reader on: the pieces that arrive, none of
them empty, and how it ends. -/
inductive Arrives (conduct : SourceConduct σ) (data : ByteArray) :
    Reader σ → List ByteArray → Except Fault Unit → Prop
  | ended {reader atMost state}
      (hread : conduct.onRead reader.state reader.position readSize = (.proceed atMost, state))
      (hnone : SourceConduct.delivered data reader.position readSize atMost = 0) :
      Arrives conduct data reader [] (.ok ())
  | refused {reader fault state}
      (hread : conduct.onRead reader.state reader.position readSize = (.refused fault, state)) :
      Arrives conduct data reader [] (.error fault)
  | interrupted {reader state pieces ending}
      (hread : conduct.onRead reader.state reader.position readSize = (.interrupted, state))
      (hrest : Arrives conduct data ⟨reader.position, state⟩ pieces ending) :
      Arrives conduct data reader pieces ending
  | delivered {reader atMost state moved pieces ending}
      (hread : conduct.onRead reader.state reader.position readSize = (.proceed atMost, state))
      (hmoved : SourceConduct.delivered data reader.position readSize atMost = moved)
      (hsome : 0 < moved)
      (hrest : Arrives conduct data ⟨reader.position + moved, state⟩ pieces ending) :
      Arrives conduct data reader
        (data.extract reader.position (reader.position + moved) :: pieces) ending

/-- Every source is read out in some way. -/
theorem exists_arrives (conduct : SourceConduct σ) (data : ByteArray) (reader : Reader σ) :
    ∃ pieces ending, Arrives conduct data reader pieces ending := by
  -- Hashing takes the same turns, whatever it has got so far.
  fun_induction hashRest conduct data .initial .hidden reader with
  | case1 _ _ reader fault state hread => exact ⟨[], _, .refused hread⟩
  | case2 _ _ reader state hread _ ih =>
    obtain ⟨pieces, ending, hrest⟩ := ih
    exact ⟨pieces, ending, .interrupted hread hrest⟩
  | case3 _ _ reader atMost state hread moved hnone => exact ⟨[], _, .ended hread hnone⟩
  | case4 _ _ reader atMost state hread moved hsome ih =>
    obtain ⟨pieces, ending, hrest⟩ := ih
    exact ⟨_, ending, .delivered hread rfl (Nat.pos_of_ne_zero hsome) hrest⟩

/-- A reliable source delivers all that it holds. -/
theorem Arrives.of_reliable (hconduct : conduct.Reliable data)
    (h : Arrives conduct data reader pieces ending) :
    ending = .ok () ∧ joined pieces = data.extract reader.position data.size := by
  induction h with
  | @ended reader atMost state hread hnone =>
    have hend : data.size ≤ reader.position := by
      refine Nat.le_of_not_lt fun hleft => ?_
      have hnot := hconduct.delivers reader.state reader.position readSize hleft (by decide)
      rw [hread] at hnot
      have hmost : atMost ≠ 0 := fun hzero => hnot (by rw [hzero])
      unfold SourceConduct.delivered readSize at hnone
      omega
    refine ⟨rfl, ?_⟩
    rw [ByteArray.extract_eq_empty_iff.mpr (by omega)]
    rfl
  | @refused reader fault state hread =>
    exact absurd (by rw [hread]) (hconduct.read reader.state reader.position readSize fault)
  | interrupted hread hrest ih => exact ih
  | @delivered reader atMost state moved pieces ending hread hmoved hsome hrest ih =>
    obtain ⟨hending, hjoined⟩ := ih
    have hle : reader.position + moved ≤ data.size := by
      rw [← hmoved] at hsome ⊢
      simp only [SourceConduct.delivered] at *
      omega
    refine ⟨hending, ?_⟩
    rw [joined, hjoined, ByteArray.extract_append_extract, Nat.min_eq_left (by omega),
      Nat.max_eq_right hle]

/-! ## Hashing what arrives -/

theorem advance_zero {bar : ProgressBar} (h : bar.position < wordLimit) : bar.advance 0 = bar := by
  rw [ProgressBar.advance, Nat.add_zero, Nat.mod_eq_of_lt h]

theorem advance_advance (bar : ProgressBar) (first second : Nat) :
    (bar.advance first).advance second = bar.advance (first + second) := by
  simp only [ProgressBar.advance, Nat.mod_add_mod, Nat.add_assoc]

/-- How hashing comes out when so many pieces have arrived: with the digest of
the whole message and a bar that is finished, or with the failure. -/
def hashed (message : ByteArray) (bar : ProgressBar) : Except Fault Unit → Hashing
  | .ok () => ⟨.ok (sha1 message), bar.finish⟩
  | .error fault => ⟨.error fault, bar⟩

section

variable (hasher : Hasher) (bar : ProgressBar)

theorem hashRest_refused {fault : Fault} {state : σ}
    (hread : conduct.onRead reader.state reader.position readSize = (.refused fault, state)) :
    hashRest conduct data hasher bar reader = ⟨.error fault, bar⟩ := by
  rw [hashRest]
  split
  · next other _ hother =>
    obtain ⟨hfault, _⟩ := Prod.mk.inj (hread.symm.trans hother)
    rw [Verdict.refused.inj hfault]
  · next hother => cases hread.symm.trans hother
  · next hother => cases hread.symm.trans hother

theorem hashRest_interrupted {state : σ}
    (hread : conduct.onRead reader.state reader.position readSize = (.interrupted, state)) :
    hashRest conduct data hasher bar reader =
      hashRest conduct data hasher bar ⟨reader.position, state⟩ := by
  rw [hashRest]
  split
  · next hother => cases hread.symm.trans hother
  · next other hother =>
    obtain ⟨_, rfl⟩ := Prod.mk.inj (hread.symm.trans hother)
    rfl
  · next hother => cases hread.symm.trans hother

/-- A read that may move bytes is the last one if there are none, and otherwise
the hasher takes them. -/
theorem hashRest_proceed {atMost moved : Nat} {state : σ}
    (hread : conduct.onRead reader.state reader.position readSize = (.proceed atMost, state))
    (hmoved : SourceConduct.delivered data reader.position readSize atMost = moved) :
    hashRest conduct data hasher bar reader =
      if moved = 0 then ⟨.ok hasher.finish, bar.finish⟩
      else
        hashRest conduct data
          (hasher.update (data.extract reader.position (reader.position + moved)))
          (bar.advance moved) ⟨reader.position + moved, state⟩ := by
  subst hmoved
  rw [hashRest]
  split
  · next hother => cases hread.symm.trans hother
  · next hother => cases hread.symm.trans hother
  · next other _ hother =>
    obtain ⟨hmost, rfl⟩ := Prod.mk.inj (hread.symm.trans hother)
    rw [Verdict.proceed.inj hmost]

end

/-- However the pieces are cut, they are hashed as one message. -/
theorem hashRest_of_arrives {hasher : Hasher} {message : ByteArray} {bar : ProgressBar}
    (h : Arrives conduct data reader pieces ending) (hheld : hasher.Holds message)
    (hbar : bar.position < wordLimit) :
    hashRest conduct data hasher bar reader =
      hashed (message ++ joined pieces) (bar.advance (joined pieces).size) ending := by
  induction h generalizing hasher message bar with
  | ended hread hnone =>
    rw [hashRest_proceed hasher bar hread hnone, if_pos rfl, hheld.finish, joined,
      ByteArray.append_empty, ByteArray.size_empty, advance_zero hbar, hashed]
  | refused hread =>
    rw [hashRest_refused hasher bar hread, joined, ByteArray.size_empty, advance_zero hbar, hashed]
  | interrupted hread hrest ih =>
    rw [hashRest_interrupted hasher bar hread]
    exact ih hheld hbar
  | @delivered reader atMost state moved pieces ending hread hmoved hsome hrest ih =>
    have hsize : (data.extract reader.position (reader.position + moved)).size = moved := by
      rw [ByteArray.size_extract, ← hmoved, SourceConduct.delivered]
      omega
    have hnext : (bar.advance moved).position < wordLimit := Nat.mod_lt _ wordLimit_pos
    rw [hashRest_proceed hasher bar hread hmoved, if_neg (Nat.ne_of_gt hsome),
      ih (hheld.update _) hnext, joined, ByteArray.size_append, hsize, advance_advance,
      ByteArray.append_assoc]

theorem ofSource_of_arrives {state : σ} {bar : ProgressBar}
    (h : Arrives conduct data ⟨0, state⟩ pieces ending) (hbar : bar.position < wordLimit) :
    ofSource conduct state data bar =
      hashed (joined pieces) (bar.advance (joined pieces).size) ending := by
  rw [ofSource, hashRest_of_arrives h .initial hbar, ByteArray.empty_append]

/-- The digest of a file is the digest of its content. -/
theorem ofSource_willing (content : ByteArray) {bar : ProgressBar}
    (hbar : bar.position < wordLimit) :
    (ofSource .willing () content bar).result = .ok (sha1 content) := by
  obtain ⟨pieces, ending, harrives⟩ := exists_arrives .willing content ⟨0, ()⟩
  obtain ⟨rfl, hall⟩ := harrives.of_reliable (SourceConduct.willing_reliable content)
  rw [ofSource_of_arrives harrives hbar, hall, ByteArray.extract_zero_size, hashed]

/-- A message at once is a message in one piece. -/
theorem finish_update_initial (message : ByteArray) :
    (Hasher.initial.update message).finish = sha1 message := by
  rw [(Hasher.Holds.initial.update message).finish, ByteArray.empty_append]

/-- What arrives is hashed as one message, whatever pieces it comes in and
however often reads are interrupted. All that a reliable source holds arrives.
At the end of the source the digest is that of the message, its text is the
digest in hexadecimal digits, and the bar is finished at the count of the bytes.
A failure is passed on, with the bar at the count of the bytes before it. -/
theorem ofSource_hashes {state : σ} (harrives : Arrives conduct data ⟨0, state⟩ pieces ending)
    (hsize : (joined pieces).size < wordLimit) :
    (conduct.Reliable data → ending = .ok () ∧ joined pieces = data) ∧
    (ending = .ok () → ∃ digest,
      ofSource conduct state data .hidden = ⟨.ok digest,
        { ProgressBar.hidden with position := (joined pieces).size, finished := true }⟩ ∧
      digest = sha1 (joined pieces) ∧ digest = (Hasher.initial.update (joined pieces)).finish ∧
      digest.text.length = 40 ∧ (∀ c ∈ digest.text.toList, c ∈ Text.lowerHexDigits) ∧
      digest.bytes.length = 20 ∧ Text.readHexBytes digest.text.toList = some digest.bytes) ∧
    ∀ fault, ending = .error fault →
      ofSource conduct state data .hidden = ⟨.error fault,
        { ProgressBar.hidden with position := (joined pieces).size, finished := false }⟩ := by
  have hhashed : ofSource conduct state data .hidden =
      hashed (joined pieces) { ProgressBar.hidden with position := (joined pieces).size }
        ending := by
    have hposition : (ProgressBar.hidden.position + (joined pieces).size) % wordLimit =
        (joined pieces).size := by
      rw [ProgressBar.hidden, Nat.zero_add, Nat.mod_eq_of_lt hsize]
    rw [ofSource_of_arrives harrives wordLimit_pos, ProgressBar.advance, hposition]
  refine ⟨fun hconduct => ?_, ?_, ?_⟩
  · obtain ⟨hending, hall⟩ := harrives.of_reliable hconduct
    exact ⟨hending, by rw [hall, ByteArray.extract_zero_size]⟩
  · rintro rfl
    exact ⟨_, hhashed, rfl, (finish_update_initial _).symm, length_text _,
      fun c hc => mem_lowerHexDigits_of_text hc, length_bytes _, readHexBytes_text _⟩
  · rintro fault rfl
    exact hhashed

end

-- The digests of nothing and of three letters are as the standard has them.
example : (sha1 ByteArray.empty).text = "da39a3ee5e6b4b0d3255bfef95601890afd80709" := by
  decide +kernel

example : (sha1 "abc".toUTF8).text = "a9993e364706816aba3e25717850c26c9cd0d89d" := by
  decide +kernel

/-- Three letters. -/
def letters : ByteArray := ⟨#[0x61, 0x62, 0x63]⟩

/-- At most two bytes at a time, and every second read is interrupted. -/
def haltingLimits : SourceLimits := ⟨some 2, none, some 2⟩

/-- Nothing from the third byte on. -/
def brokenLimits : SourceLimits := ⟨none, some 2, none⟩

theorem letters_arrive :
    Arrives haltingLimits.conduct letters ⟨0, 0⟩
      [letters.extract 0 (0 + 2), letters.extract 2 (2 + 1)] (.ok ()) := by
  have hend : Arrives haltingLimits.conduct letters ⟨3, 4⟩ [] (.ok ()) :=
    .ended (show haltingLimits.conduct.onRead 4 3 readSize = (.proceed 2, 5) from rfl) rfl
  have hsecond : Arrives haltingLimits.conduct letters ⟨2, 2⟩ [letters.extract 2 (2 + 1)]
      (.ok ()) :=
    .delivered (show haltingLimits.conduct.onRead 2 2 readSize = (.proceed 2, 3) from rfl)
      (show _ = 1 from rfl) (by decide) (.interrupted rfl hend)
  exact .delivered (show haltingLimits.conduct.onRead 0 0 readSize = (.proceed 2, 1) from rfl)
    (show _ = 2 from rfl) (by decide) (.interrupted rfl hsecond)

theorem letters_arrive_in_part :
    Arrives brokenLimits.conduct letters ⟨0, 0⟩ [letters.extract 0 (0 + 2)]
      (.error (.injected "injected read failure")) :=
  .delivered (show brokenLimits.conduct.onRead 0 0 readSize = (.proceed 2, 1) from rfl)
    (show _ = 2 from rfl) (by decide) (.refused rfl)

/-- Three letters in two pieces, with an interruption after each; and two of
them, before a failure. -/
theorem ofSource_hashes_letters :
    (∃ digest, ofSource haltingLimits.conduct 0 letters .hidden =
      ⟨.ok digest, { ProgressBar.hidden with position := 3, finished := true }⟩ ∧
      digest = sha1 letters) ∧
    ofSource brokenLimits.conduct 0 letters .hidden =
      ⟨.error (.injected "injected read failure"),
        { ProgressBar.hidden with position := 2, finished := false }⟩ := by
  constructor
  · obtain ⟨digest, hhashing, hdigest, _⟩ :=
      (ofSource_hashes letters_arrive (by decide)).2.1 rfl
    exact ⟨digest, hhashing, hdigest⟩
  · exact (ofSource_hashes letters_arrive_in_part (by decide)).2.2 _ rfl

end Digest

end BlockTransfer
