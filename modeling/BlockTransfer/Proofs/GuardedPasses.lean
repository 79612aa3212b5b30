/-
BlockTransfer.Proofs.GuardedPasses — passes with every sum, every difference and
every move of the target guarded.

The passes here work on bare pairs and fault where a number would not be a word:
a length below zero, more taken off what remains than there is, more done than a
range holds, a count of blocks at its limit. The position of the target is guarded
as well; within a range it must not get past the end of the range, which must be a
word itself.

`Faultless` says that guarded work does what a plain step does. All that it has to
know of a session is where the target stands: what is left of a range fits between
there and the end of the range, which is the invariant of both loops
(`eraseBytes_faultless`, `copyBytes_faultless`). A whole pass needs to know nothing
of the session it begins with, so it is the plain pass (`erase_run`, `copy_run`),
whatever the source and the target do. `never_faults` puts this together with what
`Proofs.GuardedList` shows of reading, counting and tables.
-/
import BlockTransfer.Proofs.Concatenation
import BlockTransfer.Proofs.GuardedList
import Mathlib.Data.Option.Basic

namespace BlockTransfer.Guarded

open Build (Step Session chunkSize)

variable {σ τ α β : Type}

/-! ## Guarded passes -/

/-- Work on a session that may fail, and may fault. -/
abbrev Work (σ τ : Type) := OptionT (Step σ τ)

/-- A step without anything to guard. -/
def plainly (step : Step σ τ α) : Work σ τ α :=
  OptionT.lift step

/-- Writes what follows the part of a piece that is done; the position of the
target must not get past a bound. -/
def writeFrom (conduct : TargetConduct τ) (bound : Nat) (piece : ByteArray) (done : Nat) :
    Target τ → Option (Except Fault Unit × Target τ)
  | ⟨image, position, trace, state⟩ =>
    if bound < position then none
    else if piece.size ≤ done then some (.ok (), ⟨image, position, trace, state⟩)
    else
      let requested := piece.size - done
      match h : conduct.onWrite state position requested with
      | (.refused fault, state) =>
        some (.error fault,
          ⟨image, position, trace.push (.write requested (.refused fault)), state⟩)
      | (.interrupted, state) =>
        have := conduct.patient h
        writeFrom conduct bound piece done
          ⟨image, position, trace.push (.write requested .interrupted), state⟩
      | (.proceed atMost, state) =>
        let accepted := min atMost requested
        let bytes := piece.extract done (done + accepted)
        let seen := trace.push (.write requested (.accepted bytes))
        if accepted = 0 then some (.error .wroteNothing, ⟨image, position, seen, state⟩)
        else
          writeFrom conduct bound piece (done + accepted)
            ⟨Image.splice image bytes position, position + accepted, seen, state⟩
termination_by target => (piece.size - done, conduct.patience target.state)
decreasing_by
  · exact Prod.Lex.right _ this
  · exact Prod.Lex.left _ _ (by omega)

/-- Writes a piece into the target. -/
def write (conduct : Conduct σ τ) (bound : Nat) (piece : ByteArray) : Work σ τ Unit :=
  OptionT.mk (ExceptT.mk fun session =>
    match writeFrom conduct.target bound piece 0 session.target with
    | some (result, target) => (some <$> Build.raise result, { session with target })
    | none => (.ok none, session))

/-- Moves the target to an offset, which must not be past a bound. -/
def seek (conduct : Conduct σ τ) (bound offset : Nat) : Work σ τ Unit := do
  guard (offset ≤ bound)
  plainly (Build.seek conduct offset)

/-- A pair as a range, which it must be. -/
def range? (pair : Nat × Nat) : Option BlockRange :=
  if h : pair.1 ≤ pair.2 ∧ pair.2 < wordLimit then some ⟨pair.1, pair.2, h.1, h.2⟩ else none

/-- The place of a pair in bytes, if its offset, its length and its end are all
words. -/
def span? (pair : Nat × Nat) : Option (Option Span) := do
  let length ← length? pair
  pure do
    let offset ← word? (blockSize * pair.1)
    let bytes ← word? (blockSize * length)
    let _ ← word? (offset + bytes)
    pure ⟨offset, bytes⟩

/-- The place of a range in bytes. -/
def place (range : BlockRange) : Work σ τ Span := do
  match ← present (span? (bare range)) with
  | some span => pure span
  | none =>
    plainly do
      Build.report .error s!"Block range {range.text} does not fit in a 64-bit byte offset"
      throw (.build (.rangeOverflow range))

/-- Writes so many zero bytes. -/
def eraseBytes (conduct : Conduct σ τ) (bound remaining : Nat) : Work σ τ Unit :=
  if remaining = 0 then pure ()
  else do
    let size := min remaining chunkSize
    write conduct bound (Image.zeros size)
    guard (size ≤ remaining)
    plainly (Build.advance (size / blockSize))
    eraseBytes conduct bound (remaining - size)
termination_by remaining
decreasing_by
  have := Build.chunkSize_pos
  omega

/-- Fills a range with zeros; where it ends must be a word. -/
def eraseRange (conduct : Conduct σ τ) (pair : Nat × Nat) : Work σ τ Unit := do
  let range ← present (range? pair)
  let span ← place range
  guard (blockSize * range.stop < wordLimit)
  plainly (Build.report .debug
    s!"Erasing blocks {range.text} at 0x{Text.hexadecimal span.offset}")
  seek conduct (blockSize * range.stop) span.offset
  eraseBytes conduct (blockSize * range.stop) span.length

/-- Works on a pair, and adds its blocks to a count, which must stay below a
limit. -/
def counting (work : Nat × Nat → Work σ τ Unit) (limit blocks : Nat) (pair : Nat × Nat) :
    Work σ τ Nat := do
  work pair
  let length ← present (length? pair)
  guard (blocks + length < limit)
  pure (blocks + length)

/-- Fills ranges with zeros and counts their blocks. -/
def erase (conduct : Conduct σ τ) (limit : Nat) (pairs : List (Nat × Nat)) : Work σ τ Nat :=
  pairs.foldlM (counting (eraseRange conduct) limit) 0

/-- Fills the next chunk of a range, so many bytes, when it has so many already. -/
def copyChunk (conduct : Conduct σ τ) (range : BlockRange) (span : Span) (bound done size : Nat) :
    Work σ τ Unit := do
  let chunk ← plainly (Build.gather conduct size)
  if chunk.size < size then
    let available := done + chunk.size
    guard (available < wordLimit)
    plainly do
      Build.report .error
        (s!"Data ran out while reading blocks {range.text}: " ++
          s!"needed {span.length} bytes, only {available} left")
      throw (.build (.shortRead range span.length available))
  else
    if done = 0 then
      seek conduct bound span.offset
    write conduct bound chunk
    guard (done + size < wordLimit)
    plainly (Build.advance (size / blockSize))

/-- Fills a range with data, of which it has so many bytes already, but not more
than all. -/
def copyBytes (conduct : Conduct σ τ) (range : BlockRange) (span : Span) (bound done : Nat) :
    Work σ τ Unit := do
  guard (done ≤ span.length)
  if span.length ≤ done then pure ()
  else
    copyChunk conduct range span bound done (Build.chunkAt span.length done)
    copyBytes conduct range span bound (done + Build.chunkAt span.length done)
termination_by span.length - done
decreasing_by
  have hless : done < span.length := by omega
  have hpos := Build.chunkAt_pos hless
  omega

/-- Fills a range with data; where it ends must be a word. -/
def copyRange (conduct : Conduct σ τ) (pair : Nat × Nat) : Work σ τ Unit := do
  let range ← present (range? pair)
  let span ← place range
  guard (blockSize * range.stop < wordLimit)
  plainly (Build.report .debug
    s!"Writing blocks {range.text} to 0x{Text.hexadecimal span.offset}")
  copyBytes conduct range span (blockSize * range.stop) 0

/-- Fills ranges with data and counts their blocks. -/
def copy (conduct : Conduct σ τ) (limit : Nat) (pairs : List (Nat × Nat)) : Work σ τ Nat :=
  pairs.foldlM (counting (copyRange conduct) limit) 0

/-! ## Work without a fault -/

/-- From where the target stands at a position with `before`, the guarded work
does what the plain step does and has no fault; when it goes through it leaves
the target at a position with `after`. -/
structure Faultless (before : Nat → Prop) (guarded : Work σ τ α) (plain : Step σ τ α)
    (after : α → Nat → Prop) : Prop where
  same : ∀ session : Session σ τ, before session.target.position →
    guarded.run.run session = (some <$> plain).run session
  kept : ∀ (session : Session σ τ) value reached, before session.target.position →
    plain.run session = (.ok value, reached) → after value reached.target.position

namespace Faultless

variable {before : Nat → Prop} {guarded : Work σ τ α} {plain : Step σ τ α}
  {middle : α → Nat → Prop} {after : β → Nat → Prop}
  {next : α → Work σ τ β} {plainNext : α → Step σ τ β}

theorem bind (h : Faultless before guarded plain middle)
    (hnext : ∀ value, Faultless (middle value) (next value) (plainNext value) after) :
    Faultless before (guarded >>= next) (plain >>= plainNext) after where
  same session hbefore := by
    have hguarded := h.same session hbefore
    rw [Build.run_map] at hguarded ⊢
    rw [run_bind]
    rcases hplain : plain.run session with ⟨error | value, reached⟩
    · rw [hplain] at hguarded
      rw [run_bind_error hguarded, run_bind_error hplain]
      rfl
    · rw [hplain] at hguarded
      rw [run_bind_ok hguarded, run_bind_ok hplain, ← Build.run_map]
      exact (hnext value).same reached (h.kept session value reached hbefore hplain)
  kept session value reached hbefore hrun := by
    obtain ⟨_, _, hplain, hrest⟩ | ⟨_, _, herror⟩ := run_bind_cases hrun
    · exact (hnext _).kept _ _ _ (h.kept _ _ _ hbefore hplain) hrest
    · cases herror

theorem pure {value : α} (h : ∀ position, before position → middle value position) :
    Faultless before (pure value : Work σ τ α) (pure value) middle where
  same _ _ := rfl
  kept session other reached hbefore hrun := by
    obtain ⟨hvalue, rfl⟩ := run_pure hrun
    injection hvalue with hvalue
    exact hvalue ▸ h _ hbefore

/-- A step without anything to guard. -/
theorem plainly (h : ∀ (session : Session σ τ) value reached, before session.target.position →
      plain.run session = (.ok value, reached) → middle value reached.target.position) :
    Faultless before (plainly plain) plain middle where
  same _ _ := rfl
  kept := h

/-- A step that leaves the target where it is. -/
theorem still (h : ∀ session, (plain.run session).2.target = session.target) :
    Faultless before (Guarded.plainly plain) plain (fun _ => before) := by
  refine .plainly fun session value reached hbefore hrun => ?_
  have hreached : (plain.run session).2 = reached := congrArg Prod.snd hrun
  rw [← hreached, h]
  exact hbefore

/-- What holds wherever the target may stand holds. -/
theorem of_fact {fact : Prop} (h : fact → Faultless before guarded plain middle) :
    Faultless (fun position => fact ∧ before position) guarded plain middle where
  same session hboth := (h hboth.1).same session hboth.2
  kept session value reached hboth := (h hboth.1).kept session value reached hboth.2

theorem weaken {earlier : Nat → Prop} (h : Faultless before guarded plain middle)
    (hbefore : ∀ position, earlier position → before position) :
    Faultless earlier guarded plain middle where
  same session hearlier := h.same session (hbefore _ hearlier)
  kept session value reached hearlier := h.kept session value reached (hbefore _ hearlier)

/-- Without a condition on the position the guarded work is the plain step. -/
theorem run_eq (h : Faultless (fun _ => True) guarded plain middle) :
    guarded.run = some <$> plain := by
  funext session
  exact h.same session trivial

end Faultless

/-! ## Writing -/

/-- Writing is not stopped by a bound that the whole piece does not reach. -/
theorem writeFrom_eq (conduct : TargetConduct τ) {bound : Nat} {piece : ByteArray} {done : Nat}
    {target : Target τ} (h : target.position + (piece.size - done) ≤ bound) :
    writeFrom conduct bound piece done target = some (conduct.writeFrom piece done target) := by
  have hinside : ¬ bound < target.position := Nat.not_lt.mpr (Nat.le_of_add_right_le h)
  fun_induction TargetConduct.writeFrom conduct piece done target with
  | case1 done image position trace state hdone =>
    rw [writeFrom, if_neg hinside, if_pos hdone]
  | case2 done image position trace state hdone requested fault next hverdict =>
    rw [writeFrom, if_neg hinside, if_neg hdone]
    dsimp only
    split <;> rename_i hother <;> cases hverdict.symm.trans hother
    rfl
  | case3 done image position trace state hdone requested next hverdict _ ih =>
    rw [writeFrom, if_neg hinside, if_neg hdone]
    dsimp only
    split <;> rename_i hother <;> cases hverdict.symm.trans hother
    exact ih h hinside
  | case4 done image position trace state hdone requested atMost next hverdict accepted bytes
      seen hnone =>
    rw [writeFrom, if_neg hinside, if_neg hdone]
    dsimp only
    split <;> rename_i hother <;> cases hverdict.symm.trans hother
    exact if_pos hnone
  | case5 done image position trace state hdone requested atMost next hverdict accepted bytes
      seen hsome ih =>
    rw [writeFrom, if_neg hinside, if_neg hdone]
    dsimp only
    split <;> rename_i hother <;> cases hverdict.symm.trans hother
    have hnext : position + accepted + (piece.size - (done + accepted)) ≤ bound := by
      dsimp only at h
      omega
    exact (if_neg hsome).trans (ih hnext (Nat.not_lt.mpr (Nat.le_of_add_right_le hnext)))

/-! ## Steps -/

section

variable {conduct : Conduct σ τ} {before : Nat → Prop} {bound : Nat}

/-- A piece is written within a bound, and leaves as much room before it as there
was without the piece. -/
theorem write_faultless (piece : ByteArray) {room rest : Nat} (hroom : piece.size + rest ≤ room) :
    Faultless (· + room ≤ bound) (write conduct bound piece) (Build.write conduct piece)
      (fun _ => (· + rest ≤ bound)) where
  same session hsession := by
    have hwrite : writeFrom conduct.target bound piece 0 session.target =
        some (conduct.target.writeAll piece session.target) := by
      refine writeFrom_eq conduct.target ?_
      omega
    have hrun : (write conduct bound piece).run.run session =
        match writeFrom conduct.target bound piece 0 session.target with
        | some (result, target) => (some <$> Build.raise result, { session with target })
        | none => (.ok none, session) := rfl
    rw [hrun, hwrite, Build.run_map]
    rfl
  kept session value reached hsession hrun := by
    rw [← bind_pure (Build.write conduct piece)] at hrun
    obtain ⟨hok, hpure⟩ | ⟨_, _, hfault, _⟩ := Build.run_onTarget_bind hrun
    · obtain ⟨_, rfl⟩ := run_pure hpure
      have hmoved := conduct.target.position_writeAll hok
      dsimp only
      omega
    · cases hfault

/-- A chunk is written and the guard that follows is met. -/
theorem chunk_faultless (conduct : Conduct σ τ) (bound blocks : Nat) {chunk : ByteArray}
    {room rest : Nat} {fits : Prop} [Decidable fits] (hroom : chunk.size + rest ≤ room)
    (hfits : fits) :
    Faultless (· + room ≤ bound)
      (do
        write conduct bound chunk
        guard fits
        plainly (Build.advance blocks))
      (do
        Build.write conduct chunk
        Build.advance blocks)
      (fun _ => (· + rest ≤ bound)) := by
  refine (write_faultless chunk hroom).bind fun _ => ?_
  rw [guard_bind hfits]
  exact .still fun _ => rfl

/-- A failure that is reported leaves nothing to say of what follows. -/
theorem refusal_faultless {after : α → Nat → Prop} (level : Level) (message : String)
    (error : Error) :
    Faultless before (plainly do Build.report level message; throw error : Work σ τ α)
      (do Build.report level message; throw error) after := by
  refine .plainly fun session value reached _ hrun => ?_
  obtain ⟨herror, _⟩ := Build.run_report_throw hrun
  cases herror

/-- After a move the target stands where it was to go. -/
theorem seek_faultless {offset : Nat} (h : offset ≤ bound) :
    Faultless before (seek conduct bound offset) (Build.seek conduct offset)
      (fun _ position => position = offset) := by
  rw [seek, guard_bind h]
  refine .plainly fun session value reached _ hrun => ?_
  rw [← bind_pure (Build.seek conduct offset)] at hrun
  obtain ⟨moved, hsaw, hpure⟩ | ⟨_, _, hfault, _⟩ := Build.run_seek_bind hrun
  · obtain ⟨_, rfl⟩ := run_pure hpure
    exact hsaw.position
  · cases hfault

/-- No more is gathered than was asked for, and the target stays where it is. -/
theorem gather_faultless (size : Nat) :
    Faultless before (plainly (Build.gather conduct size)) (Build.gather conduct size)
      (fun chunk position => chunk.size ≤ size ∧ before position) := by
  refine .plainly fun session value reached hbefore hrun => ?_
  rw [← bind_pure (Build.gather conduct size)] at hrun
  obtain ⟨chunk, moved, reader, hread, hpure⟩ | ⟨_, _, _, hfault, _⟩ :=
    Build.run_gather_bind hrun
  · obtain ⟨hchunk, rfl⟩ := run_pure hpure
    injection hchunk with hchunk
    subst hchunk
    exact ⟨hread.gathered.size_le, hbefore⟩
  · cases hfault

theorem span?_bare (range : BlockRange) : span? (bare range) = some range.span? := by
  have hplace : (do
      let offset ← word? range.offset
      let bytes ← word? range.byteLength
      let _ ← word? (offset + bytes)
      pure ⟨offset, bytes⟩ : Option Span) = range.span? := by
    unfold word? BlockRange.span?
    by_cases hoffset : range.offset < wordLimit <;>
      by_cases hbytes : range.byteLength < wordLimit <;>
        by_cases hend : range.offset + range.byteLength < wordLimit <;>
          simp [hoffset, hbytes, hend]
  rw [span?, length?_bare, ← hplace]
  rfl

/-- A range that has a place ends at a word. -/
theorem place_faultless (range : BlockRange) :
    Faultless before (place range) (Build.place range : Step σ τ Span)
      (fun span position => (span = ⟨range.offset, range.byteLength⟩ ∧
        blockSize * range.stop < wordLimit) ∧ before position) := by
  unfold place
  rw [span?_bare, present_bind]
  cases hspan : range.span? with
  | some span =>
    have hplace : (Build.place range : Step σ τ Span) = pure span := by
      rw [Build.place, hspan]
    have hend : blockSize * range.stop < wordLimit := by
      rw [← range.offset_add_byteLength]
      exact (BlockRange.words_of_span? (by simp [hspan])).2.2
    rw [hplace]
    exact .pure fun position hbefore => ⟨⟨BlockRange.span?_eq_some hspan, hend⟩, hbefore⟩
  | none =>
    rw [Build.place, hspan]
    exact refusal_faultless _ _ _

theorem range?_bare (range : BlockRange) : range? (bare range) = some range :=
  dif_pos ⟨range.ordered, range.stop_lt⟩

/-- The work on a pair is the work on its range, in the place of the range and
before an end that is a word. -/
theorem placed_faultless (range : BlockRange) {work : BlockRange → Span → Work σ τ Unit}
    {plainWork : Span → Step σ τ Unit} {after : Unit → Nat → Prop}
    (h : blockSize * range.stop < wordLimit →
      Faultless before (work range ⟨range.offset, range.byteLength⟩)
        (plainWork ⟨range.offset, range.byteLength⟩) after) :
    Faultless before
      (do
        let range ← present (range? (bare range))
        let span ← place range
        guard (blockSize * range.stop < wordLimit)
        work range span)
      (Build.place range >>= plainWork) after := by
  rw [range?_bare, present_bind]
  refine (place_faultless range).bind fun span => .of_fact fun hplace => ?_
  obtain ⟨rfl, hend⟩ := hplace
  rw [guard_bind hend]
  exact h hend

end

/-! ## The erase pass -/

section

variable {conduct : Conduct σ τ}

/-- What is left to erase stays ahead of the target and before the bound. -/
theorem eraseBytes_faultless {bound : Nat} (remaining : Nat) :
    Faultless (· + remaining ≤ bound) (eraseBytes conduct bound remaining)
      (Build.eraseBytes conduct remaining) (fun _ _ => True) := by
  induction remaining using Nat.strongRecOn with
  | ind remaining ih =>
    rw [eraseBytes, Build.eraseBytes]
    by_cases hdone : remaining = 0
    · rw [if_pos hdone, if_pos hdone]
      exact .pure fun _ _ => trivial
    · rw [if_neg hdone, if_neg hdone]
      have hchunk := Build.chunkSize_pos
      have hroom : (Image.zeros (min remaining chunkSize)).size +
          (remaining - min remaining chunkSize) ≤ remaining := by
        rw [Image.size_zeros]
        omega
      refine (write_faultless _ hroom).bind fun _ => ?_
      rw [guard_bind (Nat.min_le_left _ _)]
      exact (Faultless.still fun _ => rfl).bind fun _ => ih _ (by omega)

theorem eraseRange_faultless (range : BlockRange) :
    Faultless (fun _ => True) (eraseRange conduct (bare range)) (Build.eraseRange conduct range)
      (fun _ _ => True) := by
  refine placed_faultless range fun hend => ?_
  refine (Faultless.still fun _ => rfl).bind fun _ => ?_
  have hoffset : range.offset ≤ blockSize * range.stop :=
    Nat.mul_le_mul_left blockSize range.ordered
  refine (seek_faultless hoffset).bind fun _ => ?_
  refine (eraseBytes_faultless range.byteLength).weaken fun position hposition => ?_
  rw [hposition, range.offset_add_byteLength]

/-! ## The copy pass -/

/-- Once something of a range is done, what is left of it fits before the bound;
the move that comes with the first chunk makes it fit. -/
theorem copyChunk_faultless (range : BlockRange) {span : Span} {bound done size : Nat}
    (hplace : span.offset + span.length ≤ bound) (hbound : bound < wordLimit)
    (hfits : done + size ≤ span.length) :
    Faultless (fun position => 0 < done → position + (span.length - done) ≤ bound)
      (copyChunk conduct range span bound done size) (Build.copyChunk conduct range span done size)
      (fun _ => (· + (span.length - (done + size)) ≤ bound)) := by
  refine (gather_faultless size).bind fun chunk => .of_fact fun hchunk => ?_
  by_cases hshort : chunk.size < size
  · rw [if_pos hshort, if_pos hshort, guard_bind (by omega)]
    exact refusal_faultless _ _ _
  · rw [if_neg hshort, if_neg hshort]
    have hroom : chunk.size + (span.length - (done + size)) ≤ span.length - done := by omega
    have hword : done + size < wordLimit := by omega
    have hwrite := chunk_faultless conduct bound (size / blockSize) hroom hword
    by_cases hfirst : done = 0
    · rw [if_pos hfirst, if_pos hfirst]
      refine (seek_faultless (Nat.le_of_add_right_le hplace)).bind fun _ => ?_
      refine hwrite.weaken fun position hmoved => ?_
      omega
    · rw [if_neg hfirst, if_neg hfirst]
      exact hwrite.weaken fun position hposition => hposition (Nat.pos_of_ne_zero hfirst)

/-- What is done never gets past the length of the range. -/
theorem copyBytes_faultless (range : BlockRange) {span : Span} {bound done : Nat}
    (hplace : span.offset + span.length ≤ bound) (hbound : bound < wordLimit)
    (hdone : done ≤ span.length) :
    Faultless (fun position => 0 < done → position + (span.length - done) ≤ bound)
      (copyBytes conduct range span bound done) (Build.copyBytes conduct range span done)
      (fun _ _ => True) := by
  fun_induction Build.copyBytes conduct range span done with
  | case1 done hall =>
    rw [copyBytes, guard_bind hdone, if_pos hall]
    exact .pure fun _ _ => trivial
  | case2 done hmore ih =>
    have hnext := Build.add_chunkAt_le (Nat.not_le.mp hmore)
    rw [copyBytes, guard_bind hdone, if_neg hmore]
    exact (copyChunk_faultless range hplace hbound hnext).bind fun _ =>
      (ih hnext).weaken fun _ hposition _ => hposition

theorem copyRange_faultless (range : BlockRange) :
    Faultless (fun _ => True) (copyRange conduct (bare range)) (Build.copyRange conduct range)
      (fun _ _ => True) := by
  refine placed_faultless range fun hend => ?_
  refine (Faultless.still fun _ => rfl).bind fun _ => ?_
  refine (copyBytes_faultless range ?_ hend (Nat.zero_le _)).weaken fun _ _ hpos => ?_
  · exact Nat.le_of_eq range.offset_add_byteLength
  · exact absurd hpos (Nat.lt_irrefl 0)

/-! ## Passes over ranges -/

/-- A pass has no fault if the work on each range has none, and the ranges hold
fewer blocks than the limit. -/
theorem foldlM_counting_faultless {work : Nat × Nat → Work σ τ Unit}
    {plainWork : BlockRange → Step σ τ Unit} {limit blocks : Nat} {ranges : List BlockRange}
    (hwork : ∀ range, Faultless (fun _ => True) (work (bare range)) (plainWork range)
      (fun _ _ => True))
    (hlimit : blocks + Build.blocksIn ranges < limit) :
    Faultless (fun _ => True) ((ranges.map bare).foldlM (counting work limit) blocks)
      (ranges.foldlM (Build.counting plainWork) blocks) (fun _ _ => True) := by
  induction ranges generalizing blocks with
  | nil => exact .pure fun _ _ => trivial
  | cons range ranges ih =>
    rw [Build.blocksIn_cons] at hlimit
    have hrange : Faultless (fun _ => True) (counting work limit blocks (bare range))
        (Build.counting plainWork blocks range)
        (fun count _ => count = blocks + range.length ∧ True) := by
      refine (hwork range).bind fun _ => ?_
      rw [length?_bare, present_bind, guard_bind (by omega)]
      exact .pure fun _ _ => ⟨rfl, trivial⟩
    rw [List.map_cons, List.foldlM_cons, List.foldlM_cons]
    refine hrange.bind fun count => .of_fact fun hcount => ?_
    subst hcount
    exact ih (by omega)

theorem erase_run (conduct : Conduct σ τ) {limit : Nat} {set : RangeSet}
    (hlimit : Build.blocksIn set.ranges < limit) :
    (erase conduct limit set.pairs).run = some <$> Build.eraseRanges conduct 0 set.ranges := by
  rw [Build.eraseRanges_eq_foldlM]
  exact (foldlM_counting_faultless eraseRange_faultless (by omega)).run_eq

theorem copy_run (conduct : Conduct σ τ) {limit : Nat} {set : RangeSet}
    (hlimit : Build.blocksIn set.ranges < limit) :
    (copy conduct limit set.pairs).run = some <$> Build.copyRanges conduct 0 set.ranges := by
  rw [Build.copyRanges_eq_foldlM]
  exact (foldlM_counting_faultless copyRange_faultless (by omega)).run_eq

end

/-! ## Every text -/

/-- Nothing faults. Every text is read with the outcome of plain reading, and the
pairs of a list that is read are in order and within words; its table and its block
counts come out as they are; and a pass over the pairs of either command is the
plain pass, from any session and with any source and target.

The limit of the counts can be `wordLimit` when a set holds fewer blocks than that.
When it does not, the count of a pass may get past the largest word, but with any
limit above the sum nothing else faults. -/
theorem never_faults (text : String) :
    (ofText text).run =
      (TransferList.ofText text).result.map (fun list => some (BareList.ofList list)) ∧
    ∀ list, (TransferList.ofText text).result = .ok list →
      rows (.ofList list) = some (TransferList.Table.rows list) ∧
      ∀ command,
        (∀ pair ∈ (BareList.ofList list).pairs command,
          pair.1 ≤ pair.2 ∧ pair.2 < wordLimit) ∧
        blockCount ((BareList.ofList list).pairs command) =
          some (list.setOf command).blockCount ∧
        ∀ (σ τ : Type) (conduct : Conduct σ τ) (limit : Nat),
          Build.blocksIn (list.setOf command).ranges < limit →
            (erase conduct limit ((BareList.ofList list).pairs command)).run =
              some <$> Build.eraseRanges conduct 0 (list.setOf command).ranges ∧
            (copy conduct limit ((BareList.ofList list).pairs command)).run =
              some <$> Build.copyRanges conduct 0 (list.setOf command).ranges := by
  refine ⟨ofText_agrees text, fun list _ => ⟨rows_ofList list, fun command => ⟨?_, ?_, ?_⟩⟩⟩
  · intro pair hpair
    obtain ⟨range, _, rfl⟩ := List.mem_map.mp hpair
    exact ⟨range.ordered, range.stop_lt⟩
  · exact blockCount_pairs (list.setOf command)
  · intro σ τ conduct limit hlimit
    exact ⟨erase_run conduct hlimit, copy_run conduct hlimit⟩

/-- The last block that has a number has no place in bytes: the pass fails at it,
but does not fault. -/
theorem never_faults_last_block :
    ∃ text list, text = "4\n2\nnew 4,0,1,18446744073709551614,18446744073709551615" ∧
      (TransferList.ofText text).result = .ok list ∧
      (ofText text).run = .ok (some (.ofList list)) ∧
      (BareList.ofList list).pairs .new =
        [(0, 1), (18446744073709551614, 18446744073709551615)] ∧
      blockCount ((BareList.ofList list).pairs .new) = some 2 ∧
      (copy Conduct.willing wordLimit ((BareList.ofList list).pairs .new)).run =
        some <$> Build.copyRanges .willing 0 (list.setOf .new).ranges := by
  have hread : (TransferList.ofText
      "4\n2\nnew 4,0,1,18446744073709551614,18446744073709551615").result =
        .ok ⟨⟨4, by decide⟩, ⟨2, by decide⟩, .empty, ⟨[⟨0, 1, by decide, by decide⟩,
          ⟨18446744073709551614, 18446744073709551615, by decide, by decide⟩]⟩⟩ := by
    decide +kernel
  obtain ⟨hguarded, hlist⟩ :=
    never_faults "4\n2\nnew 4,0,1,18446744073709551614,18446744073709551615"
  obtain ⟨_, hsets⟩ := hlist _ hread
  obtain ⟨_, hcount, hpasses⟩ := hsets .new
  rw [hread] at hguarded
  exact ⟨_, _, rfl, hread, hguarded, rfl, hcount,
    (hpasses Unit Unit .willing wordLimit (by decide)).2⟩

end BlockTransfer.Guarded
