/-
BlockTransfer.Proofs.Passes — the passes of a build make fills in order.

Level by level, a loop that was run is shown to have gone the way that the
relations of `Proofs.Course` allow: `eraseBytes` and the turns over a range pour,
a range is filled, and a pass is a course over the fills of its ranges
(`eraseRanges_course`, `copyRanges_course`).
-/
import BlockTransfer.Build.Plan
import BlockTransfer.Proofs.Turns

namespace BlockTransfer.Build

variable {σ τ : Type} {conduct : Conduct σ τ} {data : ByteArray} {before after : Session σ τ}
  {result : Except Error Unit}

/-! ## The erase pass -/

theorem eraseBytes_pouring {range : BlockRange} {remaining done : Nat}
    (hdone : done + remaining = range.byteLength)
    (hrun : (eraseBytes conduct remaining).run before = (result, after)) :
    ∃ ops stop, before.Saw ops after ∧ Pouring conduct data (.zeros range) done ops result stop ∧
      after.reader = before.reader := by
  induction remaining using Nat.strongRecOn generalizing done before with
  | ind remaining ih =>
    rw [eraseBytes] at hrun
    split at hrun
    · next hnone =>
      obtain ⟨rfl, rfl⟩ := run_pure hrun
      exact ⟨[], done, ⟨rfl, .refl _⟩, .full (by simp only [Fill.range]; omega), rfl⟩
    next hsome =>
    have hless : done < range.byteLength := by omega
    have hpos := chunkAt_pos hless
    have hchunk : chunkAt range.byteLength done = min remaining chunkSize := by
      unfold chunkAt
      congr 1
      omega
    have hthere : done + chunkAt range.byteLength done ≤ (Fill.zeros range).bytes.size := by
      rw [Fill.bytes, Image.size_zeros]
      exact add_chunkAt_le hless
    have hpiece : Image.zeros (min remaining chunkSize) =
        (Fill.zeros range).bytes.extract done (done + chunkAt range.byteLength done) := by
      rw [Fill.bytes, Image.extract_zeros, Nat.min_eq_left (add_chunkAt_le hless),
        Nat.add_sub_cancel_left, hchunk]
    dsimp only at hrun
    rw [hpiece] at hrun
    obtain ⟨ops, reached, target, hsaw, hwriting, hmore⟩ |
      ⟨ops, reached, fault, target, rfl, rfl, hsaw, hwriting⟩ := run_write_bind hrun
    · obtain ⟨noted, hsame, hloop⟩ := run_advance_bind hmore
      have hleft : done + chunkAt range.byteLength done + (remaining - min remaining chunkSize) =
          range.byteLength := by omega
      obtain ⟨more, stop, hmoreSaw, hpouring, hreader⟩ := ih _ (by omega) hleft hloop
      exact ⟨ops ++ more, stop, (Session.saw_target hsaw).trans (hsame.trans_saw hmoreSaw),
        .chunk hless hthere hwriting hpouring, hreader.trans hsame.reader⟩
    · exact ⟨ops, done + reached, Session.saw_target hsaw, .broken hless hthere hwriting, rfl⟩

theorem eraseRange_filled {range : BlockRange}
    (hrun : (eraseRange conduct range).run before = (result, after)) :
    ∃ ops stop, before.Saw ops after ∧ Filled conduct data (.zeros range) ops result stop ∧
      after.reader = before.reader := by
  unfold eraseRange at hrun
  obtain ⟨hspan, hrest⟩ | ⟨hspan, rfl, hsame⟩ := run_place_bind hrun
  · obtain ⟨told, hsame, hrest⟩ := run_report_bind hrest
    obtain ⟨moved, hsaw, hrest⟩ | ⟨fault, moved, rfl, rfl, hsaw, hreliable⟩ := run_seek_bind hrest
    · obtain ⟨ops, stop, hpourSaw, hpouring, hreader⟩ :=
        eraseBytes_pouring (Nat.zero_add _) hrest
      exact ⟨.seek range.offset none :: ops, stop,
        hsame.trans_saw ((Session.saw_target hsaw).trans hpourSaw),
        .poured hspan trivial hpouring, hreader.trans hsame.reader⟩
    · refine ⟨[.seek range.offset (some fault)], 0, hsame.trans_saw (Session.saw_target hsaw),
        .unmoved hspan trivial fun hconduct => ?_, hsame.reader⟩
      exact hreliable ⟨BlockRange.offset_lt hspan, hconduct.target⟩
  · exact ⟨[], 0, hsame.saw, .misplaced hspan, hsame.reader⟩

/-- A result without what it counts. -/
def uncounted {α : Type} (result : Except Error α) : Except Error Unit :=
  result.map fun _ => ()

/-- The erase pass is a course over its fills, and does not read. -/
theorem eraseRanges_course (data : ByteArray) {blocks : Nat} {ranges : List BlockRange}
    {result : Except Error Nat}
    (hrun : (eraseRanges conduct blocks ranges).run before = (result, after)) :
    ∃ ops, before.Saw ops after ∧
      Course conduct data (eraseFills ranges) ops (uncounted result) ∧
      after.reader = before.reader := by
  induction ranges generalizing blocks before with
  | nil =>
    obtain ⟨rfl, rfl⟩ := run_pure hrun
    exact ⟨[], ⟨rfl, .refl _⟩, .nil, rfl⟩
  | cons range ranges ih =>
    rw [eraseRanges] at hrun
    obtain ⟨_, middle, hrange, hrest⟩ | ⟨error, hrange, rfl⟩ := run_bind_cases hrun
    · obtain ⟨ops, stop, hsaw, hfilled, hreader⟩ := eraseRange_filled hrange
      obtain ⟨rest, hrestSaw, hcourse, hrestReader⟩ := ih hrest
      exact ⟨ops ++ rest, hsaw.trans hrestSaw, .cons hfilled hcourse, hrestReader.trans hreader⟩
    · obtain ⟨ops, stop, hsaw, hfilled, hreader⟩ := eraseRange_filled hrange
      exact ⟨ops, hsaw, .stopped hfilled, hreader⟩

/-! ## The copy pass -/

section Slices

variable {range : BlockRange} {position done : Nat}

theorem size_sliceFill (data : ByteArray) (position : Nat) (range : BlockRange) :
    (sliceFill data position range).bytes.size =
      min range.byteLength (data.size - position) := by
  rw [sliceFill, Fill.bytes, ByteArray.size_extract]
  omega

theorem extract_sliceFill (data : ByteArray) {start stop : Nat} (hstop : stop ≤ range.byteLength) :
    (sliceFill data position range).bytes.extract start stop =
      data.extract (position + start) (position + stop) := by
  rw [sliceFill, Fill.bytes, ByteArray.extract_extract, Nat.min_eq_left (by omega)]

/-- A chunk that is read in full is the next part of the slice for its range. -/
theorem Session.Gathers.slice {moved : Nat} {chunk : ByteArray} {reader : Reader σ}
    (h : before.Gathers conduct (chunkAt range.byteLength done) moved (.ok chunk) reader)
    (hdata : before.data = .apart data) (hposition : before.reader.position = position + done)
    (hless : done < range.byteLength) (hfull : chunk.size = chunkAt range.byteLength done) :
    done + chunkAt range.byteLength done ≤ (sliceFill data position range).bytes.size ∧
      chunk = (sliceFill data position range).bytes.extract done
        (done + chunkAt range.byteLength done) ∧
      reader.position = position + (done + chunkAt range.byteLength done) := by
  have hle := add_chunkAt_le hless
  have hpos := chunkAt_pos hless
  have hsize := size_sliceFill data position range
  have hgathered := h.gathered
  rw [Session.dataBytes_of_apart hdata, hposition] at hgathered
  have hthere : moved ≤ data.size - (position + done) := hgathered.there
  have hmoved : chunk.size = moved := hgathered.size_eq
  have hread : reader.position = position + done + moved := by rw [h.position, hposition]
  refine ⟨by omega, ?_, by omega⟩
  have hchunk : chunk = data.extract (position + done) (position + done + moved) := by
    simpa using hgathered.chunk chunk rfl
  rw [extract_sliceFill data hle, ← Nat.add_assoc, ← hfull, hmoved]
  exact hchunk

/-- A chunk that is cut short is where the slice for its range ends. -/
theorem Session.Gathers.lacks {moved : Nat} {chunk : ByteArray} {reader : Reader σ}
    (h : before.Gathers conduct (chunkAt range.byteLength done) moved (.ok chunk) reader)
    (hdata : before.data = .apart data) (hposition : before.reader.position = position + done)
    (hless : done < range.byteLength) (hdone : done ≤ (sliceFill data position range).bytes.size)
    (hshort : chunk.size < chunkAt range.byteLength done) :
    (sliceFill data position range).Lacks conduct data done
      (.build (.shortRead range range.byteLength (done + chunk.size))) := by
  have hle := add_chunkAt_le hless
  have hsize := size_sliceFill data position range
  have hgathered := h.gathered
  rw [Session.dataBytes_of_apart hdata, hposition] at hgathered
  have hthere : moved ≤ data.size - (position + done) := hgathered.there
  have hmoved : chunk.size = moved := hgathered.size_eq
  have hleft : done + chunk.size ≤ (sliceFill data position range).bytes.size := by omega
  refine .short (Nat.le_add_right _ _) (Nat.add_lt_add_left hshort done) hleft fun hreliable => ?_
  have hall : moved = data.size - (position + done) :=
    hgathered.full chunk rfl (by simpa [← hmoved] using hshort) hreliable
  show done + chunk.size = (sliceFill data position range).bytes.size
  omega

/-- A turn that goes through writes the next part of the slice. -/
theorem Turn.slice_of_ok
    (h : Turn conduct range ⟨range.offset, range.byteLength⟩ done (chunkAt range.byteLength done)
      before (.ok ()) after)
    (hdata : before.data = .apart data) (hposition : before.reader.position = position + done)
    (hless : done < range.byteLength) :
    ∃ ops reached,
      before.Saw (entry ⟨range.offset, range.byteLength⟩ done ++ ops) after ∧
      done + chunkAt range.byteLength done ≤ (sliceFill data position range).bytes.size ∧
      Writing conduct.target ((sliceFill data position range).bytes.extract done
        (done + chunkAt range.byteLength done)) 0 ops (.ok ()) reached ∧
      after.reader.position = position + (done + chunkAt range.byteLength done) := by
  cases h with
  | through hread hfull hsaw hwriting =>
    obtain ⟨hthere, rfl, hreader⟩ := hread.slice hdata hposition hless hfull
    exact ⟨_, _, ⟨rfl, hsaw⟩, hthere, hwriting, hreader⟩

/-- A turn that fails has found the next part of the slice missing, has not got
to the range, or has written only some of that part. -/
theorem Turn.slice_of_error {error : Error}
    (h : Turn conduct range ⟨range.offset, range.byteLength⟩ done (chunkAt range.byteLength done)
      before (.error error) after)
    (hdata : before.data = .apart data) (hposition : before.reader.position = position + done)
    (hless : done < range.byteLength)
    (hdone : done ≤ (sliceFill data position range).bytes.size) :
    (before.Saw [] after ∧ (sliceFill data position range).Lacks conduct data done error) ∨
    (∃ fault, done = 0 ∧ error = .io fault ∧
      before.Saw [.seek range.offset (some fault)] after ∧
      ¬ (range.offset < wordLimit ∧ conduct.target.Reliable)) ∨
    ∃ fault ops reached, error = .io fault ∧
      before.Saw (entry ⟨range.offset, range.byteLength⟩ done ++ ops) after ∧
      done + chunkAt range.byteLength done ≤ (sliceFill data position range).bytes.size ∧
      Writing conduct.target ((sliceFill data position range).bytes.extract done
        (done + chunkAt range.byteLength done)) 0 ops (.error fault) reached := by
  cases h with
  | unread hread =>
    have herror := hread.gathered.error _ rfl
    rw [Session.dataBytes_of_apart hdata] at herror
    exact .inl ⟨⟨rfl, .refl _⟩, .unread herror⟩
  | short hread hshort =>
    exact .inl ⟨⟨rfl, .refl _⟩, hread.lacks hdata hposition hless hdone hshort⟩
  | unmoved _ _ hfirst hsaw hconduct =>
    exact .inr (.inl ⟨_, hfirst, rfl, ⟨rfl, hsaw⟩, hconduct⟩)
  | broken hread hfull hsaw hwriting =>
    obtain ⟨hthere, rfl, _⟩ := hread.slice hdata hposition hless hfull
    exact .inr (.inr ⟨_, _, _, rfl, ⟨rfl, hsaw⟩, hthere, hwriting⟩)

/-- The turns over a range, once the target has moved to it. -/
theorem Turns.pouring (h : Turns conduct range ⟨range.offset, range.byteLength⟩ done before result
      after) (hpos : 0 < done) (hle : done ≤ range.byteLength)
    (hdone : done ≤ (sliceFill data position range).bytes.size)
    (hdata : before.data = .apart data) (hposition : before.reader.position = position + done) :
    ∃ ops stop, before.Saw ops after ∧
      Pouring conduct data (sliceFill data position range) done ops result stop ∧
      (result = .ok () → after.reader.position = position + range.byteLength) := by
  have hmoved : entry ⟨range.offset, range.byteLength⟩ done = [] := if_neg (Nat.ne_of_gt hpos)
  induction h with
  | @full done session hfull =>
    have hend : done = range.byteLength := Nat.le_antisymm hle hfull
    exact ⟨[], done, ⟨rfl, .refl _⟩, .full hfull, fun _ => hend ▸ hposition⟩
  | @failed done before error after hless hturn =>
    obtain ⟨hsaw, hlacks⟩ | ⟨_, hfirst, _⟩ | ⟨fault, ops, reached, rfl, hsaw, hthere, hwriting⟩ :=
      hturn.slice_of_error hdata hposition hless hdone
    · exact ⟨[], done, hsaw, .lacking hpos hless hlacks, by simp⟩
    · omega
    · rw [hmoved] at hsaw
      exact ⟨ops, done + reached, hsaw, .broken hless hthere hwriting, by simp⟩
  | @next done before middle result after hless hturn _ ih =>
    obtain ⟨ops, reached, hsaw, hthere, hwriting, hreader⟩ :=
      hturn.slice_of_ok hdata hposition hless
    rw [hmoved] at hsaw
    have hpositive : 0 < done + chunkAt range.byteLength done := by omega
    obtain ⟨more, stop, hmore, hpouring, hend⟩ := ih hpositive (add_chunkAt_le hless) hthere
      (hsaw.data.trans hdata) hreader (if_neg (Nat.ne_of_gt hpositive))
    exact ⟨ops ++ more, stop, hsaw.trans hmore, .chunk hless hthere hwriting hpouring, hend⟩

/-- A range is filled with the slice of the data from the position of the
reader on, and after it the reader stands at the end of that slice. A range
without a place is refused before anything is read. -/
theorem copyRange_filled {range : BlockRange} {position : Nat}
    (hdata : before.data = .apart data) (hposition : before.reader.position = position)
    (hrun : (copyRange conduct range).run before = (result, after)) :
    ∃ ops stop, before.Saw ops after ∧
      Filled conduct data (sliceFill data position range) ops result stop ∧
      (result = .ok () → after.reader.position = position + range.byteLength) ∧
      (range.span? = none → after.reader = before.reader) := by
  unfold copyRange at hrun
  obtain ⟨hspan, hrest⟩ | ⟨hspan, rfl, hsame⟩ := run_place_bind hrun
  · obtain ⟨told, hsame, hrest⟩ := run_report_bind hrest
    have htoldData : told.data = .apart data := hsame.data.trans hdata
    have htoldPosition : told.reader.position = position + 0 := hsame.reader ▸ hposition
    have hplaced : range.span? = none → after.reader = before.reader := fun hnone =>
      absurd hnone hspan
    have hfirst : entry ⟨range.offset, range.byteLength⟩ 0 = [.seek range.offset none] := rfl
    cases run_copyBytes hrest with
    | full hempty =>
      have hempty : range.byteLength = 0 := Nat.le_zero.mp hempty
      exact ⟨[], 0, hsame.saw, .idle hspan (Nat.not_lt.mpr (Nat.le_of_eq hempty)),
        fun _ => hempty ▸ htoldPosition, hplaced⟩
    | failed hless hturn =>
      obtain ⟨hsaw, hlacks⟩ | ⟨fault, _, rfl, hsaw, hreliable⟩ |
        ⟨fault, ops, reached, rfl, hsaw, hthere, hwriting⟩ :=
        hturn.slice_of_error htoldData htoldPosition hless (Nat.zero_le _)
      · exact ⟨[], 0, hsame.trans_saw hsaw, .lacking hspan hless hlacks, by simp, hplaced⟩
      · refine ⟨[.seek range.offset (some fault)], 0, hsame.trans_saw hsaw,
          .unmoved hspan hless fun hconduct => ?_, by simp, hplaced⟩
        exact hreliable ⟨BlockRange.offset_lt hspan, hconduct.target⟩
      · exact ⟨.seek range.offset none :: ops, 0 + reached, hsame.trans_saw hsaw,
          .poured hspan hless (.broken hless hthere hwriting), by simp, hplaced⟩
    | next hless hturn hturns =>
      obtain ⟨ops, reached, hsaw, hthere, hwriting, hreader⟩ :=
        hturn.slice_of_ok htoldData htoldPosition hless
      have hpositive := Nat.lt_of_lt_of_le (chunkAt_pos hless) (Nat.le_add_left _ 0)
      obtain ⟨more, stop, hmore, hpouring, hend⟩ := hturns.pouring hpositive (add_chunkAt_le hless)
        hthere (hsaw.data.trans htoldData) hreader
      exact ⟨.seek range.offset none :: (ops ++ more), stop,
        hsame.trans_saw (hsaw.trans hmore),
        .poured hspan hless (.chunk hless hthere hwriting hpouring), hend, hplaced⟩
  · exact ⟨[], 0, hsame.saw, .misplaced hspan, by simp, fun _ => hsame.reader⟩

end Slices

/-- The copy pass is a course over its fills. When it refuses a range, the data
of the ranges before the first one without a place have been read, and no more. -/
theorem copyRanges_course {blocks : Nat} {ranges : List BlockRange} {position : Nat}
    {result : Except Error Nat} (hdata : before.data = .apart data)
    (hposition : before.reader.position = position)
    (hrun : (copyRanges conduct blocks ranges).run before = (result, after)) :
    ∃ ops, before.Saw ops after ∧
      Course conduct data (copyFills data position ranges) ops (uncounted result) ∧
      ∀ range, result = .error (.build (.rangeOverflow range)) →
        after.reader.position =
          position + blockSize * blocksIn (ranges.takeWhile (·.span?.isSome)) := by
  induction ranges generalizing blocks before position with
  | nil =>
    obtain ⟨rfl, rfl⟩ := run_pure hrun
    exact ⟨[], ⟨rfl, .refl _⟩, .nil, by simp⟩
  | cons range ranges ih =>
    rw [copyRanges] at hrun
    obtain ⟨_, middle, hrange, hrest⟩ | ⟨error, hrange, rfl⟩ := run_bind_cases hrun
    · obtain ⟨ops, stop, hsaw, hfilled, hend, _⟩ := copyRange_filled hdata hposition hrange
      obtain ⟨rest, hrestSaw, hcourse, hrefused⟩ := ih (hsaw.data.trans hdata) (hend rfl) hrest
      refine ⟨ops ++ rest, hsaw.trans hrestSaw, .cons hfilled hcourse, fun other hother => ?_⟩
      have htake : (range :: ranges).takeWhile (·.span?.isSome) =
          range :: ranges.takeWhile (·.span?.isSome) :=
        List.takeWhile_cons_of_pos (Option.isSome_iff_ne_none.mpr hfilled.span?_of_ok)
      rw [hrefused other hother, htake, blocksIn_cons, Nat.mul_add, ← Nat.add_assoc]
      rfl
    · obtain ⟨ops, stop, hsaw, hfilled, _, hunread⟩ := copyRange_filled hdata hposition hrange
      refine ⟨ops, hsaw, .stopped hfilled, fun other hother => ?_⟩
      injection hother with hother
      subst hother
      obtain ⟨_, hspan, _⟩ | ⟨fault, hfault, _⟩ | ⟨available, hshort, _⟩ := hfilled.error_cases
      · have hnone : range.span? = none := hspan
        have htake : (range :: ranges).takeWhile (·.span?.isSome) = [] :=
          List.takeWhile_cons_of_neg (by simp [hnone])
        rw [hunread hnone, hposition, htake]
        rfl
      · cases hfault
      · cases hshort

/-! ## The passes of a plan -/

/-- Showing a pass on a bar changes nothing about it. -/
theorem run_shownOn {bar : ProgressBar} {pass : Step σ τ Nat} {result : Except Error Pass}
    (hrun : (shownOn bar pass).run before = (result, after)) :
    pass.run before = (result.map Pass.blocks, after) := by
  obtain ⟨session, middle, hget, hrest⟩ | ⟨error, hget, rfl⟩ := run_bind_cases hrun
  · injection hget with hvalue hmiddle
    subst hmiddle
    obtain ⟨blocks, counted, hpass, hshow⟩ | ⟨error, hpass, rfl⟩ := run_bind_cases hrest
    · obtain ⟨session', shown, hget', hpure⟩ | ⟨error, hget', rfl⟩ := run_bind_cases hshow
      · injection hget' with hvalue' hshown
        subst hshown
        obtain ⟨rfl, rfl⟩ := run_pure hpure
        exact hpass
      · cases hget'
    · exact hpass
  · cases hget

theorem uncounted_map {α β : Type} (f : α → β) (result : Except Error α) :
    uncounted (result.map f) = uncounted result := by
  cases result <;> rfl

theorem Plan.erase_course {plan : Plan} (data : ByteArray) {result : Except Error Pass}
    (hrun : (plan.erase conduct).run before = (result, after)) :
    ∃ ops, before.Saw ops after ∧
      Course conduct data (eraseFills plan.eraseSet.ranges) ops (uncounted result) ∧
      after.reader = before.reader := by
  have hpass := eraseRanges_course data (run_shownOn hrun)
  rwa [uncounted_map] at hpass

theorem Plan.copy_course {plan : Plan} {position : Nat} {result : Except Error Pass}
    (hdata : before.data = .apart data) (hposition : before.reader.position = position)
    (hrun : (plan.copy conduct).run before = (result, after)) :
    ∃ ops, before.Saw ops after ∧
      Course conduct data (copyFills data position plan.newSet.ranges) ops (uncounted result) ∧
      ∀ range, result = .error (.build (.rangeOverflow range)) →
        after.reader.position =
          position + blockSize * blocksIn (plan.newSet.ranges.takeWhile (·.span?.isSome)) := by
  obtain ⟨ops, hsaw, hcourse, hrefused⟩ :=
    copyRanges_course hdata hposition (run_shownOn hrun)
  rw [uncounted_map] at hcourse
  refine ⟨ops, hsaw, hcourse, fun range hrange => hrefused range ?_⟩
  rw [hrange]
  rfl

end BlockTransfer.Build
