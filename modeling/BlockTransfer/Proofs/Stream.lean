/-
BlockTransfer.Proofs.Stream — the bytes that a copy pass takes from its source
and gives to its target.

At each moment of the pass the bytes that the reader has moved over are those
that the target has accepted, in the same order, and then the bytes that are
HELD: they have been read and not yet written (`Session.Streamed`). A chunk is
gathered, then it is held, then writes give it away from its start on
(`Streamed.give`); when the next chunk is gathered nothing is held any more. So
whatever fails, no more than a chunk is held, and no byte is lost, repeated or
out of order.

`Flow` adds how much is taken at most, that all of it is given away in the end,
and that the source has ended when the data ran out. It holds of the loop over
the chunks of a range, of a range, and of the pass, where what is taken at most
are the bytes of the ranges that the pass has got to (`Plan.copy_streams`).
-/
import BlockTransfer.Proofs.Obstacle

namespace BlockTransfer.Build

variable {σ τ α : Type} {conduct : Conduct σ τ} {data : ByteArray}
  {before middle after : Session σ τ}

/-! ## What was taken, given away, and is held -/

/-- Between two moments of a build the reader has moved over bytes of the data.
The target has accepted the first of them, in order, and the others are held. -/
structure Session.Streamed (data : ByteArray) (before : Session σ τ) (ops : List Operation)
    (held : ByteArray) (after : Session σ τ) : Prop where
  saw : before.Saw ops after
  taken : data.extract before.reader.position after.reader.position = acceptedBytes ops ++ held
  moved : after.reader.position =
    before.reader.position + ((acceptedBytes ops).size + held.size)

namespace Session.Streamed

variable {first ops more : List Operation} {held rest : ByteArray}

/-- A step that neither reads nor writes. -/
theorem of_same (h : before.Same after) : before.Streamed data [] ByteArray.empty after where
  saw := h.saw
  taken := by simp [h.reader, acceptedBytes]
  moved := by simp [h.reader, acceptedBytes]

/-- The reader goes on when nothing is held. -/
theorem trans (hfirst : before.Streamed data ops ByteArray.empty middle)
    (hsecond : middle.Streamed data more held after) :
    before.Streamed data (ops ++ more) held after where
  saw := hfirst.saw.trans hsecond.saw
  taken := by
    have hmiddle := hfirst.moved
    have hafter := hsecond.moved
    have hjoined : data.extract before.reader.position after.reader.position =
        data.extract before.reader.position middle.reader.position ++
          data.extract middle.reader.position after.reader.position := by
      rw [ByteArray.extract_append_extract, Nat.min_eq_left (by omega),
        Nat.max_eq_right (by omega)]
    rw [hjoined, hfirst.taken, hsecond.taken, ByteArray.append_empty, acceptedBytes_append,
      ByteArray.append_assoc]
  moved := by
    have hmiddle := hfirst.moved
    have hafter := hsecond.moved
    simp only [ByteArray.size_empty] at hmiddle
    rw [acceptedBytes_append, ByteArray.size_append]
    omega

/-- What the target accepts is taken from the start of what is held. -/
theorem give (h : before.Streamed data first held middle) (hsaw : middle.Saw ops after)
    (hreader : after.reader = middle.reader) (hheld : held = acceptedBytes ops ++ rest) :
    before.Streamed data (first ++ ops) rest after where
  saw := h.saw.trans hsaw
  taken := by rw [hreader, h.taken, hheld, acceptedBytes_append, ByteArray.append_assoc]
  moved := by
    rw [hreader, h.moved, hheld, acceptedBytes_append, ByteArray.size_append,
      ByteArray.size_append]
    omega

/-- Bytes that are gathered are held, also when more cannot be read. -/
theorem of_gathers {size moved : Nat} {got : Except Fault ByteArray} {reader : Reader σ}
    (h : before.Gathers conduct size moved got reader) (hdata : before.data = .apart data) :
    before.Streamed data []
      (data.extract before.reader.position (before.reader.position + moved))
      { before with reader } where
  saw := ⟨rfl, .refl _⟩
  taken := by simp [h.position, acceptedBytes]
  moved := by
    have hthere := h.gathered.there
    rw [Session.dataBytes_of_apart hdata] at hthere
    simp only [h.position, acceptedBytes, ByteArray.size_empty, ByteArray.size_extract]
    omega

/-- A chunk that is gathered is held. -/
theorem of_chunk {size moved : Nat} {chunk : ByteArray} {reader : Reader σ}
    (h : before.Gathers conduct size moved (.ok chunk) reader) (hdata : before.data = .apart data) :
    before.Streamed data [] chunk { before with reader } := by
  have hchunk := h.gathered.chunk chunk rfl
  rw [ByteArray.empty_append, Session.dataBytes_of_apart hdata] at hchunk
  rw [hchunk]
  exact .of_gathers h hdata

end Session.Streamed

/-! ## Flow -/

/-- Work that takes at most so many bytes: it holds no more than a chunk, and
when it goes through it has taken them all and holds none. It runs short of
data only when the source has ended. -/
structure Flow (conduct : Conduct σ τ) (data : ByteArray) (most : Nat) (before : Session σ τ)
    (ops : List Operation) (held : ByteArray) (result : Except Error α) (after : Session σ τ) :
    Prop where
  streamed : before.Streamed data ops held after
  held_le : held.size ≤ chunkSize
  le_most : (acceptedBytes ops).size + held.size ≤ most
  all : ∀ value, result = .ok value → held = ByteArray.empty ∧ (acceptedBytes ops).size = most
  ended : ∀ range expected available,
    result = .error (.build (.shortRead range expected available)) →
    conduct.source.Ended data after.reader

namespace Flow

variable {most : Nat} {ops more : List Operation} {held : ByteArray} {result : Except Error α}

/-- Work that takes nothing, and does not run short of data. -/
theorem of_same (h : before.Same after) (hok : ∀ value, result = .ok value → most = 0)
    (hshort : ∀ range expected available,
      result ≠ .error (.build (.shortRead range expected available))) :
    Flow conduct data most before [] ByteArray.empty result after where
  streamed := .of_same h
  held_le := Nat.zero_le _
  le_most := Nat.zero_le _
  all := fun value hvalue => ⟨rfl, (hok value hvalue).symm⟩
  ended := fun range expected available h => absurd h (hshort range expected available)

/-- Work that fails while it holds all that it has taken. -/
theorem of_held {error : Error} (h : before.Streamed data ops held after)
    (hnone : acceptedBytes ops = ByteArray.empty) (hchunk : held.size ≤ chunkSize)
    (hmost : held.size ≤ most)
    (hended : ∀ range expected available, error = .build (.shortRead range expected available) →
      conduct.source.Ended data after.reader) :
    Flow conduct data most before ops held (.error error : Except Error α) after where
  streamed := h
  held_le := hchunk
  le_most := by simpa [hnone] using hmost
  all := by simp
  ended := by
    intro range expected available hshort
    injection hshort with hshort
    exact hended range expected available hshort

/-- What a failure has to do with the bytes does not depend on what was to be
returned, and it may have been allowed to take more. -/
theorem of_error {β : Type} {error : Error} {least : Nat}
    (h : Flow conduct data least before ops held (.error error : Except Error α) after)
    (hle : least ≤ most) :
    Flow conduct data most before ops held (.error error : Except Error β) after where
  streamed := h.streamed
  held_le := h.held_le
  le_most := Nat.le_trans h.le_most hle
  all := by simp
  ended := by
    intro range expected available hshort
    injection hshort with hshort
    exact h.ended range expected available (by rw [hshort])

/-- Work that comes after all that was taken has been given away. -/
theorem after_streamed (hfirst : before.Streamed data ops ByteArray.empty middle)
    (h : Flow conduct data most middle more held result after) :
    Flow conduct data ((acceptedBytes ops).size + most) before (ops ++ more) held result after where
  streamed := hfirst.trans h.streamed
  held_le := h.held_le
  le_most := by
    have hle := h.le_most
    rw [acceptedBytes_append, ByteArray.size_append]
    omega
  all := by
    intro value hvalue
    obtain ⟨hnone, hall⟩ := h.all value hvalue
    rw [acceptedBytes_append, ByteArray.size_append, hall]
    exact ⟨hnone, rfl⟩
  ended := h.ended

end Flow

/-! ## One turn -/

/-- The bytes of a chunk that writes have not given away. -/
theorem eq_acceptedBytes_append {chunk : ByteArray} {ops : List Operation}
    {written : Except Fault Unit} {reached : Nat}
    (h : Writing conduct.target chunk 0 ops written reached) :
    chunk = acceptedBytes ops ++ chunk.extract reached chunk.size := by
  have hreached := h.reached_le (Nat.zero_le _)
  rw [h.acceptedBytes_eq, ByteArray.extract_append_extract, Nat.min_eq_left (Nat.zero_le _),
    Nat.max_eq_right hreached, ByteArray.extract_zero_size]

/-- A turn takes a chunk, and gives it away from its start on. -/
theorem Turn.flow {range : BlockRange} {span : Span} {done size : Nat}
    {result : Except Error Unit} (h : Turn conduct range span done size before result after)
    (hsize : size ≤ chunkSize) (hdata : before.data = .apart data) :
    ∃ ops held, Flow conduct data size before ops held result after := by
  cases h with
  | unread hread =>
    have hfits := hread.gathered.fits
    refine ⟨[], _, .of_held (.of_gathers hread hdata) rfl ?_ ?_ (by simp)⟩
    all_goals
      rw [ByteArray.size_extract]
      simp only [ByteArray.size_empty] at hfits
      omega
  | short hread hshort =>
    have hheld := Session.Streamed.of_chunk hread hdata
    have hended := hread.ended _ rfl hshort
    rw [Session.dataBytes_of_apart hdata] at hended
    exact ⟨[], _, .of_held ⟨⟨rfl, .refl _⟩, hheld.taken, hheld.moved⟩ rfl (by omega) (by omega)
      fun _ _ _ _ => hended⟩
  | @unmoved chunk _ _ _ _ hread hfull _ hsaw _ =>
    have hheld := Session.Streamed.of_chunk hread hdata
    exact ⟨_, chunk, .of_held (hheld.give (Session.saw_target hsaw) rfl rfl) rfl (by omega)
      (by omega) (by simp)⟩
  | @broken chunk _ _ ops reached _ _ hread hfull hsaw hwriting =>
    have hgiven := eq_acceptedBytes_append hwriting
    have hsum := congrArg ByteArray.size hgiven
    rw [ByteArray.size_append] at hsum
    rw [← acceptedBytes_entry_append span done ops] at hgiven hsum
    have hheld := (Session.Streamed.of_chunk hread hdata).give (Session.saw_target hsaw) rfl hgiven
    exact ⟨_, _, hheld, by omega, by rw [List.nil_append]; omega, by simp, by simp⟩
  | @through chunk _ _ ops _ _ hread hfull hsaw hwriting =>
    have hgiven : chunk = acceptedBytes (entry span done ++ ops) ++ ByteArray.empty := by
      rw [acceptedBytes_entry_append, hwriting.acceptedBytes_of_ok, ByteArray.append_empty]
    have hheld := (Session.Streamed.of_chunk hread hdata).give (Session.saw_target hsaw) rfl hgiven
    have hall : (acceptedBytes (entry span done ++ ops)).size = size := by
      rw [acceptedBytes_entry_append, hwriting.acceptedBytes_of_ok, hfull]
    exact ⟨_, ByteArray.empty, ⟨⟨rfl, hheld.saw.target⟩, hheld.taken, hheld.moved⟩, Nat.zero_le _,
      Nat.le_of_eq hall, fun _ _ => ⟨rfl, hall⟩, by simp⟩

/-! ## Ranges -/

theorem Turns.flow {range : BlockRange} {span : Span} {done : Nat} {result : Except Error Unit}
    (h : Turns conduct range span done before result after) (hle : done ≤ span.length)
    (hdata : before.data = .apart data) :
    ∃ ops held, Flow conduct data (span.length - done) before ops held result after := by
  induction h with
  | full hfull =>
    exact ⟨[], ByteArray.empty, .of_same ⟨rfl, rfl, rfl⟩ (fun _ _ => by omega) (by simp)⟩
  | failed hless hturn =>
    obtain ⟨ops, held, hflow⟩ := hturn.flow (Nat.min_le_right _ _) hdata
    exact ⟨ops, held, hflow.of_error (Nat.min_le_left _ _)⟩
  | @next done before middle result after hless hturn _ ih =>
    obtain ⟨ops, held, hflow⟩ := hturn.flow (Nat.min_le_right _ _) hdata
    obtain ⟨rfl, hall⟩ := hflow.all () rfl
    have hnext := add_chunkAt_le hless
    obtain ⟨more, held, hmore⟩ := ih hnext (hflow.streamed.saw.data.trans hdata)
    have hsplit : span.length - done = (acceptedBytes ops).size +
        (span.length - (done + chunkAt span.length done)) := by
      omega
    rw [hsplit]
    exact ⟨ops ++ more, held, .after_streamed hflow.streamed hmore⟩

theorem copyRange_flow {range : BlockRange} {result : Except Error Unit}
    (hdata : before.data = .apart data)
    (hrun : (copyRange conduct range).run before = (result, after)) :
    ∃ ops held, Flow conduct data range.byteLength before ops held result after := by
  unfold copyRange at hrun
  obtain ⟨_, hrest⟩ | ⟨_, rfl, hsame⟩ := run_place_bind hrun
  · obtain ⟨told, hsame, hrest⟩ := run_report_bind hrest
    obtain ⟨ops, held, hflow⟩ :=
      (run_copyBytes hrest).flow (Nat.zero_le _) (hsame.data.trans hdata)
    refine ⟨ops, held, ?_⟩
    have hboth := Flow.after_streamed (.of_same hsame) hflow
    simpa [acceptedBytes] using hboth
  · exact ⟨[], ByteArray.empty, .of_same hsame (by simp) (by simp)⟩

/-! ## The pass -/

/-- The ranges that a pass has got to: all of them when it goes through, and
otherwise those that it has filled and the one in progress when it failed. -/
structure Reached (conduct : Conduct σ τ) (blocks : Nat) (ranges reached : List BlockRange)
    (before : Session σ τ) (result : Except Error α) (after : Session σ τ) : Prop where
  all : ∀ value, result = .ok value → reached = ranges
  last : ∀ error, result = .error error → ∃ earlier range later filled middle,
    reached = earlier ++ [range] ∧ ranges = earlier ++ range :: later ∧
    (copyRanges conduct blocks earlier).run before = (.ok filled, middle) ∧
    (copyRange conduct range).run middle = (.error error, after)

theorem copyRanges_flow {blocks : Nat} {ranges : List BlockRange} {result : Except Error Nat}
    (hdata : before.data = .apart data)
    (hrun : (copyRanges conduct blocks ranges).run before = (result, after)) :
    ∃ ops held reached, Reached conduct blocks ranges reached before result after ∧
      Flow conduct data (blockSize * blocksIn reached) before ops held result after := by
  induction ranges generalizing blocks before with
  | nil =>
    obtain ⟨rfl, rfl⟩ := run_pure hrun
    exact ⟨[], ByteArray.empty, [], ⟨fun _ _ => rfl, by simp⟩,
      .of_same ⟨rfl, rfl, rfl⟩ (fun _ _ => rfl) (by simp)⟩
  | cons range ranges ih =>
    rw [copyRanges] at hrun
    obtain ⟨value, middle, hrange, hrest⟩ | ⟨error, hrange, rfl⟩ := run_bind_cases hrun
    · obtain ⟨ops, held, hflow⟩ := copyRange_flow hdata hrange
      obtain ⟨rfl, hall⟩ := hflow.all value rfl
      obtain ⟨more, held, reached, hreached, hmore⟩ :=
        ih (hflow.streamed.saw.data.trans hdata) hrest
      refine ⟨ops ++ more, held, range :: reached, ⟨?_, ?_⟩, ?_⟩
      · intro blocks hblocks
        rw [hreached.all blocks hblocks]
      · intro error herror
        obtain ⟨earlier, last, later, filled, start, rfl, rfl, hearlier, hlast⟩ :=
          hreached.last error herror
        refine ⟨range :: earlier, last, later, filled, start, rfl, rfl, ?_, hlast⟩
        rw [copyRanges, run_bind_ok hrange]
        exact hearlier
      · rw [blocksIn_cons, Nat.mul_add]
        show Flow conduct data (range.byteLength + _) _ _ _ _ _
        rw [← hall]
        exact .after_streamed hflow.streamed hmore
    · obtain ⟨ops, held, hflow⟩ := copyRange_flow hdata hrange
      refine ⟨ops, held, [range], ⟨by simp, ?_⟩, ?_⟩
      · intro other hother
        injection hother with hother
        subst hother
        exact ⟨[], range, ranges, blocks, before, rfl, rfl, rfl, hrange⟩
      · have hmost : blockSize * blocksIn [range] = range.byteLength := rfl
        rw [hmost]
        exact hflow.of_error (Nat.le_refl _)

/-- At the end of a copy pass, however it ends, the target has accepted the
first bytes that were taken from the source, and at most a chunk is held. No
more is taken than the ranges hold that the pass has got to; when it goes
through, that is all, and none is held; when the data run out the source has
ended. -/
theorem Plan.copy_streams {plan : Plan} {result : Except Error Pass}
    (hdata : before.data = .apart data) (hrun : (plan.copy conduct).run before = (result, after)) :
    ∃ ops held reached,
      before.Streamed data ops held after ∧ held.size ≤ chunkSize ∧
      Reached conduct 0 plan.newSet.ranges reached before result after ∧
      after.reader.position ≤ before.reader.position + blockSize * blocksIn reached ∧
      (∀ pass, result = .ok pass →
        (acceptedBytes ops).size = blockSize * blocksIn plan.newSet.ranges ∧
        after.reader.position =
          before.reader.position + blockSize * blocksIn plan.newSet.ranges) ∧
      ∀ range expected available,
        result = .error (.build (.shortRead range expected available)) →
        conduct.source.Ended data after.reader ∧
          (conduct.source.Delivers data → data.size ≤ after.reader.position) := by
  obtain ⟨ops, held, reached, hreached, hflow⟩ := copyRanges_flow hdata (run_shownOn hrun)
  have hmoved := hflow.streamed.moved
  have hmost := hflow.le_most
  refine ⟨ops, held, reached, hflow.streamed, hflow.held_le, ⟨?_, ?_⟩, by omega, ?_, ?_⟩
  · rintro pass rfl
    exact hreached.all _ rfl
  · rintro error rfl
    exact hreached.last error rfl
  · rintro pass rfl
    obtain ⟨rfl, hall⟩ := hflow.all pass.blocks rfl
    rw [hreached.all pass.blocks rfl] at hall
    rw [ByteArray.size_empty, hall] at hmoved
    exact ⟨hall, hmoved⟩
  · rintro range expected available rfl
    have hended := hflow.ended range expected available rfl
    exact ⟨hended, hended.size_le⟩

/-- Two ranges that overlap take two slices of the data one after the other. -/
theorem Plan.copy_streams_overlapping :
    ∃ data pass after ops, data = ⟨Array.replicate 16390 7⟩ ∧
      (Plan.overlapping.copy .willing).run
        (Program.freshSession (.apart data) ByteArray.empty) = (.ok pass, after) ∧
      (Program.freshSession (.apart data) ByteArray.empty).Saw ops after ∧
      (acceptedBytes ops).size = 16384 ∧ after.reader.position = 16384 := by
  have hsize : (ByteArray.mk (Array.replicate 16390 7)).size = 16390 := by simp [ByteArray.size]
  rcases hrun : (Plan.overlapping.copy .willing).run
    (Program.freshSession (.apart ⟨Array.replicate 16390 7⟩) ByteArray.empty) with ⟨result, after⟩
  obtain ⟨ops, held, reached, hstreamed, _, _, _, hok, _⟩ := Plan.copy_streams rfl hrun
  -- No device fails, and there are data enough.
  obtain ⟨_, _, hcourse, _⟩ := Plan.copy_course rfl rfl hrun
  have hfree : obstacle? (copyFills ⟨Array.replicate 16390 7⟩ 0 Plan.overlapping.newSet.ranges) =
      none :=
    (obstacle?_copyFills_eq_none_iff _ _ _).mpr ⟨by decide, by rw [hsize]; decide⟩
  have hresult : uncounted result = .ok () :=
    (hcourse.result_eq (Conduct.willing_reliable _)).trans (congrArg settled hfree)
  cases result with
  | ok pass =>
    obtain ⟨haccepted, hposition⟩ := hok pass rfl
    exact ⟨_, pass, after, ops, rfl, hrun, hstreamed.saw, haccepted, hposition⟩
  | error error => cases hresult

end BlockTransfer.Build
