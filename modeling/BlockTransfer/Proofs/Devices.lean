/-
BlockTransfer.Proofs.Devices — how pieces are written and gathered.

`Writing conduct piece done ops result reached` says that `ops` are the writes
with which a target that behaves like `conduct` takes a piece from the byte
`done` on: interrupted writes and writes that accept a part, until all of it is
in, or until a write fails or accepts nothing. `writeFrom` writes that way
(`writeFrom_writing`), so what a piece leaves in the trace is known for every
conduct, and its first `reached` bytes are what was put into the image
(`Writing.acceptedBytes_eq`).

Sources need no trace. `gather_gathered` says what gathering returns, and where
it leaves the reader: bytes of the data from the position of the reader on. If
they are fewer than were asked for, the source has ended (`gather_ended`).

A RELIABLE source or target never fails and never moves nothing, however short
its reads and writes are and however often they are interrupted. A failure is
recorded together with the fact that the conduct is not reliable.
-/
import BlockTransfer.BlockRange
import BlockTransfer.Proofs.Trace
import BlockTransfer.Source

namespace BlockTransfer

/-! ## Reliable sources and targets -/

/-- Reads do not fail, and deliver something as long as bytes are left. -/
structure SourceConduct.Reliable {σ : Type} (conduct : SourceConduct σ) (data : ByteArray) :
    Prop where
  read : ∀ state position size fault, (conduct.onRead state position size).1 ≠ .refused fault
  delivers : ∀ state position size, position < data.size → 0 < size →
    (conduct.onRead state position size).1 ≠ .proceed 0

/-- Writes do not fail and accept something, and the target moves to every
offset that is a word. -/
structure TargetConduct.Reliable {τ : Type} (conduct : TargetConduct τ) : Prop where
  write : ∀ state position size fault, (conduct.onWrite state position size).1 ≠ .refused fault
  accepts : ∀ state position size, 0 < size →
    (conduct.onWrite state position size).1 ≠ .proceed 0
  seek : ∀ state offset, offset < wordLimit → (conduct.onSeek state offset).1 = none
  flush : ∀ state, (conduct.onFlush state).1 = none

/-- Both sides of a build are reliable. -/
structure Conduct.Reliable {σ τ : Type} (conduct : Conduct σ τ) (data : ByteArray) : Prop where
  source : conduct.source.Reliable data
  target : conduct.target.Reliable

theorem SourceConduct.willing_reliable (data : ByteArray) :
    SourceConduct.willing.Reliable data where
  read := by intro _ _ _ _ h; cases h
  delivers := by
    intro _ _ size _ hsize h
    injection h with h
    omega

theorem TargetConduct.willing_reliable : (TargetConduct.willing wordLimit).Reliable where
  write := by intro _ _ _ _ h; cases h
  accepts := by
    intro _ _ size hsize h
    injection h with h
    omega
  seek := by intro _ offset hoffset; simp [TargetConduct.willing, hoffset]
  flush := by intro _; rfl

/-- Both sides do at once what they are asked for. -/
def Conduct.willing : Conduct Unit Unit :=
  ⟨.willing, .willing wordLimit⟩

theorem Conduct.willing_reliable (data : ByteArray) : Conduct.willing.Reliable data :=
  ⟨SourceConduct.willing_reliable data, TargetConduct.willing_reliable⟩

/-! ## Writing a piece -/

/-- The writes with which a piece gets into a target from some byte on, how it
ends, and how many bytes of the piece have got there. -/
inductive Writing {τ : Type} (conduct : TargetConduct τ) (piece : ByteArray) :
    Nat → List Operation → Except Fault Unit → Nat → Prop
  | finished {done} (hdone : piece.size ≤ done) : Writing conduct piece done [] (.ok ()) done
  | interrupted {done ops result reached} (hdone : done < piece.size)
      (hrest : Writing conduct piece done ops result reached) :
      Writing conduct piece done (.write (piece.size - done) .interrupted :: ops) result reached
  | accepted {done count ops result reached} (hcount : 0 < count)
      (hfits : done + count ≤ piece.size)
      (hrest : Writing conduct piece (done + count) ops result reached) :
      Writing conduct piece done
        (.write (piece.size - done) (.accepted (piece.extract done (done + count))) :: ops)
        result reached
  | refused {done fault} (hdone : done < piece.size) (hconduct : ¬ conduct.Reliable) :
      Writing conduct piece done [.write (piece.size - done) (.refused fault)] (.error fault) done
  | nothing {done} (hdone : done < piece.size) (hconduct : ¬ conduct.Reliable) :
      Writing conduct piece done
        [.write (piece.size - done) (.accepted ByteArray.empty)] (.error .wroteNothing) done

namespace Writing

variable {τ : Type} {conduct : TargetConduct τ} {piece : ByteArray} {done reached : Nat}
  {ops : List Operation} {result : Except Fault Unit}

theorem isWrite (h : Writing conduct piece done ops result reached) :
    ∀ op ∈ ops, op.isWrite := by
  induction h with
  | finished _ => simp
  | interrupted _ _ ih => simpa [Operation.isWrite] using ih
  | accepted _ _ _ ih => simpa [Operation.isWrite] using ih
  | refused _ _ => simp [Operation.isWrite]
  | nothing _ _ => simp [Operation.isWrite]

theorem le_reached (h : Writing conduct piece done ops result reached) : done ≤ reached := by
  induction h with
  | accepted _ _ _ ih => omega
  | interrupted _ _ ih => exact ih
  | finished _ => exact Nat.le_refl _
  | refused _ _ => exact Nat.le_refl _
  | nothing _ _ => exact Nat.le_refl _

theorem reached_le (h : Writing conduct piece done ops result reached)
    (hdone : done ≤ piece.size) : reached ≤ piece.size := by
  induction h with
  | finished _ => exact hdone
  | interrupted _ _ ih => exact ih hdone
  | accepted _ hfits _ ih => exact ih hfits
  | refused _ _ => exact hdone
  | nothing _ _ => exact hdone

theorem acceptedBytes_eq (h : Writing conduct piece done ops result reached) :
    acceptedBytes ops = piece.extract done reached := by
  induction h with
  | finished _ => simp [acceptedBytes]
  | interrupted _ _ ih => simp [acceptedBytes, Operation.accepted, ih]
  | accepted _ _ hrest ih =>
    have hle := hrest.le_reached
    rw [acceptedBytes, ih, Operation.accepted, ByteArray.extract_append_extract,
      Nat.min_eq_left (by omega), Nat.max_eq_right hle]
  | refused _ _ => simp [acceptedBytes, Operation.accepted]
  | nothing _ _ => simp [acceptedBytes, Operation.accepted]

/-- A piece that is written is in the target in full. -/
theorem reached_of_ok (h : Writing conduct piece done ops result reached)
    (hdone : done ≤ piece.size) (hresult : result = .ok ()) : reached = piece.size := by
  induction h with
  | finished hsize => omega
  | interrupted _ _ ih => exact ih hdone hresult
  | accepted _ hfits _ ih => exact ih hfits hresult
  | refused _ _ => cases hresult
  | nothing _ _ => cases hresult

/-- Its bytes are all that the target has accepted. -/
theorem acceptedBytes_of_ok (h : Writing conduct piece 0 ops (.ok ()) reached) :
    acceptedBytes ops = piece := by
  rw [h.acceptedBytes_eq, h.reached_of_ok (Nat.zero_le _) rfl, ByteArray.extract_zero_size]

/-- A reliable target takes every piece. -/
theorem not_reliable (h : Writing conduct piece done ops result reached) {fault : Fault}
    (hresult : result = .error fault) : ¬ conduct.Reliable := by
  induction h with
  | finished _ => cases hresult
  | interrupted _ _ ih => exact ih hresult
  | accepted _ _ _ ih => exact ih hresult
  | refused _ hconduct => exact hconduct
  | nothing _ hconduct => exact hconduct

end Writing

namespace TargetConduct

variable {τ : Type} (conduct : TargetConduct τ)

/-- Writing a piece from some byte on leaves the writes of it in the trace. -/
theorem writeFrom_writing (piece : ByteArray) (done : Nat) (target : Target τ) :
    ∃ ops reached, target.Saw ops (conduct.writeFrom piece done target).2 ∧
      Writing conduct piece done ops (conduct.writeFrom piece done target).1 reached := by
  fun_induction writeFrom conduct piece done target with
  | case1 done image position trace state hdone =>
    exact ⟨[], done, .refl _, .finished hdone⟩
  | case2 done image position trace state hdone requested fault next hverdict =>
    refine ⟨[.write requested (.refused fault)], done, .push _ image position trace state next,
      .refused (by omega) fun hreliable => ?_⟩
    exact hreliable.write state position requested fault (by rw [hverdict])
  | case3 done image position trace state hdone requested next hverdict _ ih =>
    obtain ⟨ops, reached, hsaw, hwriting⟩ := ih
    refine ⟨.write requested .interrupted :: ops, reached, ?_, .interrupted (by omega) hwriting⟩
    exact (Target.Saw.push (.write requested .interrupted) image position trace state
      next).trans hsaw
  | case4 done image position trace state hdone requested atMost next hverdict accepted bytes
      seen hnone =>
    have hatMost : atMost = 0 := by omega
    have hbytes : bytes = ByteArray.empty := by simp [bytes, hnone]
    refine ⟨[.write requested (.accepted bytes)], done, ⟨by simp [seen], ?_⟩, ?_⟩
    · simp [replay, Operation.perform, hbytes, Image.splice_of_size_eq_zero]
    · rw [hbytes]
      refine .nothing (by omega) fun hreliable => ?_
      exact hreliable.accepts state position requested (by omega) (by rw [hverdict, hatMost])
  | case5 done image position trace state hdone requested atMost next hverdict accepted bytes
      seen hsome ih =>
    obtain ⟨ops, reached, hsaw, hwriting⟩ := ih
    have hsize : bytes.size = accepted := by
      simp only [bytes, ByteArray.size_extract]
      omega
    refine ⟨.write requested (.accepted bytes) :: ops, reached, ?_,
      .accepted (by omega) (by omega) hwriting⟩
    rw [← hsize] at hsaw ⊢
    exact (Target.Saw.push (.write requested (.accepted bytes)) image position trace state
      next).trans hsaw

/-- Writing a whole piece. -/
theorem writeAll_writing (piece : ByteArray) (target : Target τ) :
    ∃ ops reached, target.Saw ops (conduct.writeAll piece target).2 ∧
      Writing conduct piece 0 ops (conduct.writeAll piece target).1 reached :=
  conduct.writeFrom_writing piece 0 target

/-- A piece that was written has moved the target by its size. -/
theorem position_writeAll {piece : ByteArray} {target : Target τ}
    (h : (conduct.writeAll piece target).1 = .ok ()) :
    (conduct.writeAll piece target).2.position = target.position + piece.size := by
  obtain ⟨ops, reached, hsaw, hwriting⟩ := conduct.writeAll_writing piece target
  rw [h] at hwriting
  rw [hsaw.position, replay_writes hwriting.isWrite, hwriting.acceptedBytes_of_ok]

/-! ## Moving and flushing -/

/-- Moving to an offset is one operation; a reliable target does it. -/
theorem seek_saw (offset : Nat) (target : Target τ) :
    ∃ fault?, target.Saw [.seek offset fault?] (conduct.seek offset target).2 ∧
      (conduct.seek offset target).1 = outcome fault? ∧
      (offset < wordLimit ∧ conduct.Reliable → fault? = none) := by
  obtain ⟨image, position, trace, state⟩ := target
  rcases hseek : conduct.onSeek state offset with ⟨_ | fault, next⟩
  · refine ⟨none, ?_, by simp [seek, hseek, outcome], fun _ => rfl⟩
    simp only [seek, hseek]
    exact .push (.seek offset none) image position trace state next
  · refine ⟨some fault, ?_, by simp [seek, hseek, outcome], ?_⟩
    · simp only [seek, hseek]
      exact .push (.seek offset (some fault)) image position trace state next
    · rintro ⟨hoffset, hreliable⟩
      simpa [hseek] using hreliable.seek state offset hoffset

/-- Flushing is one operation; a reliable target does it. -/
theorem flush_saw (target : Target τ) :
    ∃ fault?, target.Saw [.flush fault?] (conduct.flush target).2 ∧
      (conduct.flush target).1 = outcome fault? ∧ (conduct.Reliable → fault? = none) := by
  obtain ⟨image, position, trace, state⟩ := target
  rcases hflush : conduct.onFlush state with ⟨fault?, next⟩
  refine ⟨fault?, ?_, by simp [flush, hflush], fun hreliable => ?_⟩
  · simp only [flush, hflush]
    exact .push (.flush fault?) image position trace state next
  · simpa [hflush] using hreliable.flush state

end TargetConduct

/-! ## Gathering -/

namespace SourceConduct

variable {σ : Type} (conduct : SourceConduct σ) (data : ByteArray)

/-- What gathering has done: the reader has moved over so many bytes, which are
those that were gathered, and it only gives up early if the source is not
reliable or has no more. -/
structure Gathered (size : Nat) (got : ByteArray) (position moved : Nat)
    (result : Except Fault ByteArray) : Prop where
  fits : got.size + moved ≤ size
  there : moved ≤ data.size - position
  chunk : ∀ chunk, result = .ok chunk →
    chunk = got ++ data.extract position (position + moved)
  full : ∀ chunk, result = .ok chunk → got.size + moved < size → conduct.Reliable data →
    moved = data.size - position
  error : ∀ fault, result = .error fault → ¬ conduct.Reliable data

/-- A chunk is as long as the way that the reader has moved for it. -/
theorem Gathered.size_eq {conduct : SourceConduct σ} {data chunk : ByteArray}
    {size position moved : Nat}
    (h : conduct.Gathered data size ByteArray.empty position moved (.ok chunk)) :
    chunk.size = moved := by
  have hthere := h.there
  rw [h.chunk chunk rfl, ByteArray.empty_append, ByteArray.size_extract]
  omega

/-- No more is gathered than was asked for. -/
theorem Gathered.size_le {conduct : SourceConduct σ} {data chunk : ByteArray}
    {size position moved : Nat}
    (h : conduct.Gathered data size ByteArray.empty position moved (.ok chunk)) :
    chunk.size ≤ size := by
  have hfits := h.fits
  rwa [ByteArray.size_empty, Nat.zero_add, ← h.size_eq] at hfits

theorem gather_gathered (size : Nat) (got : ByteArray) (reader : Reader σ)
    (hgot : got.size ≤ size) :
    ∃ moved, (conduct.gather data size got reader).2.position = reader.position + moved ∧
      conduct.Gathered data size got reader.position moved
        (conduct.gather data size got reader).1 := by
  fun_induction gather conduct data size got reader with
  | case1 got reader hsize =>
    refine ⟨0, rfl, by omega, by omega, ?_, by omega, by simp⟩
    intro chunk hchunk
    injection hchunk with hchunk
    simp [hchunk]
  | case2 got reader hsize fault next hverdict =>
    refine ⟨0, rfl, by omega, by omega, by simp, by simp, fun _ _ hreliable => ?_⟩
    exact hreliable.read reader.state reader.position (size - got.size) fault (by rw [hverdict])
  | case3 got reader hsize next hverdict _ ih => exact ih hgot
  | case4 got reader hsize atMost next hverdict moved hnone =>
    refine ⟨0, rfl, by omega, by omega, ?_, ?_, by simp⟩
    · intro chunk hchunk
      injection hchunk with hchunk
      simp [hchunk]
    · intro _ _ _ hreliable
      by_cases hmore : reader.position < data.size
      · have hdelivered : atMost = 0 := by
          simp only [moved, delivered] at hnone
          omega
        refine absurd ?_ (hreliable.delivers reader.state reader.position (size - got.size)
          hmore (by omega))
        rw [hverdict, hdelivered]
      · omega
  | case5 got reader hsize atMost next hverdict moved hsome ih =>
    have hmoved : moved ≤ size - got.size ∧ moved ≤ data.size - reader.position := by
      simp only [moved, delivered]
      omega
    have hextract : (data.extract reader.position (reader.position + moved)).size = moved := by
      simp only [ByteArray.size_extract]
      omega
    have hgrown : (got ++ data.extract reader.position (reader.position + moved)).size
        = got.size + moved := by
      rw [ByteArray.size_append, hextract]
    obtain ⟨rest, hposition, hrest⟩ := ih (by omega)
    have hfits : got.size + moved + rest ≤ size := hgrown ▸ hrest.fits
    have hthere : rest ≤ data.size - (reader.position + moved) := hrest.there
    refine ⟨moved + rest, by simpa [Nat.add_assoc] using hposition, by omega, by omega, ?_, ?_,
      hrest.error⟩
    · intro chunk hchunk
      rw [hrest.chunk chunk hchunk, ByteArray.append_assoc, ByteArray.extract_append_extract,
        Nat.min_eq_left (Nat.le_add_right _ _), Nat.max_eq_right (Nat.le_add_right _ _),
        Nat.add_assoc]
    · intro chunk hchunk hshort hreliable
      have hfull : rest = data.size - (reader.position + moved) :=
        hrest.full chunk hchunk (by omega) hreliable
      omega

/-- The source has said that there is no more: it has answered the last read with
nothing, and that is where the reader stands. -/
def Ended (reader : Reader σ) : Prop :=
  ∃ state size atMost, 0 < size ∧
    conduct.onRead state reader.position size = (.proceed atMost, reader.state) ∧
    delivered data reader.position size atMost = 0

/-- Reads may fail, but one that delivers nothing means that no bytes are left. -/
def Delivers : Prop :=
  ∀ state position size, position < data.size → 0 < size →
    (conduct.onRead state position size).1 ≠ .proceed 0

/-- A source that delivers what it has only ends when all of it has been read. -/
theorem Ended.size_le {conduct : SourceConduct σ} {data : ByteArray} {reader : Reader σ}
    (h : conduct.Ended data reader) (hdelivers : conduct.Delivers data) :
    data.size ≤ reader.position := by
  obtain ⟨state, size, atMost, hsize, hread, hnone⟩ := h
  refine Nat.le_of_not_lt fun hless => ?_
  have hzero : atMost = 0 := by
    simp only [delivered] at hnone
    omega
  exact hdelivers state reader.position size hless hsize (by rw [hread, hzero])

/-- Gathering too little means that the source has ended. -/
theorem gather_ended {size : Nat} {got chunk : ByteArray} {reader after : Reader σ}
    (h : conduct.gather data size got reader = (.ok chunk, after)) (hshort : chunk.size < size) :
    conduct.Ended data after := by
  fun_induction gather conduct data size got reader with
  | case1 got reader hsize =>
    injection h with hchunk
    injection hchunk with hchunk
    subst hchunk
    omega
  | case2 got reader hsize fault next hverdict => cases h
  | case3 got reader hsize next hverdict _ ih => exact ih h
  | case4 got reader hsize atMost next hverdict moved hnone =>
    injection h with _ hafter
    subst hafter
    exact ⟨reader.state, size - got.size, atMost, by omega, hverdict, hnone⟩
  | case5 got reader hsize atMost next hverdict moved hsome ih => exact ih h

/-- Gathering fails with a fault of the source only. -/
theorem gather_refused {size : Nat} {got : ByteArray} {reader : Reader σ} {fault : Fault}
    (h : (conduct.gather data size got reader).1 = .error fault) :
    ∃ state position size, (conduct.onRead state position size).1 = .refused fault := by
  fun_induction gather conduct data size got reader with
  | case1 got reader hsize => cases h
  | case2 got reader hsize other next hverdict =>
    injection h with h
    exact ⟨reader.state, reader.position, size - got.size, by rw [hverdict, h]⟩
  | case3 got reader hsize next hverdict _ ih => exact ih h
  | case4 got reader hsize atMost next hverdict moved hnone => cases h
  | case5 got reader hsize atMost next hverdict moved hsome ih => exact ih h

end SourceConduct

end BlockTransfer
