/-
BlockTransfer.Proofs.Steps — what the small steps of a build do to its session.

A step that was run is taken apart from the outside in: `run_bind_cases` of
`Proofs.Sequence` splits a sequence at its first failure, and each small step
has one lemma that says all it can do. `Session.Saw` carries `Target.Saw` to
sessions, and `Session.Same` says that a step only reported something.
-/
import BlockTransfer.Build.Passes
import BlockTransfer.Proofs.Devices
import BlockTransfer.Proofs.Sequence

namespace BlockTransfer

/-- The place of a range that has one. -/
theorem BlockRange.span?_eq_some {range : BlockRange} {span : Span}
    (h : range.span? = some span) : span = ⟨range.offset, range.byteLength⟩ := by
  unfold span? at h
  split at h
  · injection h with h
    exact h.symm
  · cases h

/-- The offset, the length and the end of a range that has a place are words. -/
theorem BlockRange.words_of_span? {range : BlockRange} (h : range.span? ≠ none) :
    range.offset < wordLimit ∧ range.byteLength < wordLimit ∧
      range.offset + range.byteLength < wordLimit := by
  unfold span? at h
  split at h
  · next hwords => exact hwords
  · exact absurd rfl h

theorem BlockRange.offset_lt {range : BlockRange} (h : range.span? ≠ none) :
    range.offset < wordLimit :=
  (words_of_span? h).1

namespace Build

variable {σ τ α β : Type}

/-! ## Sessions -/

/-- Between two moments of a build the target saw these operations, and the
data come from where they came from. -/
structure Session.Saw (before : Session σ τ) (ops : List Operation) (after : Session σ τ) :
    Prop where
  data : after.data = before.data
  target : before.target.Saw ops after.target

/-- Nothing but reports were made. -/
structure Session.Same (before after : Session σ τ) : Prop where
  data : after.data = before.data
  reader : after.reader = before.reader
  target : after.target = before.target

namespace Session

variable {before middle after : Session σ τ} {first second : List Operation}

theorem dataBytes_of_apart {data : ByteArray} (h : before.data = .apart data) :
    before.dataBytes = data := by
  simp [dataBytes, h]

theorem Saw.trans (hfirst : before.Saw first middle) (hsecond : middle.Saw second after) :
    before.Saw (first ++ second) after :=
  ⟨hsecond.data.trans hfirst.data, hfirst.target.trans hsecond.target⟩

theorem Same.saw (h : before.Same after) : before.Saw [] after :=
  ⟨h.data, h.target ▸ .refl before.target⟩

/-- What the target alone has seen, the session has. -/
theorem saw_target {ops : List Operation} {target : Target τ} (h : before.target.Saw ops target) :
    before.Saw ops { before with target } :=
  ⟨rfl, h⟩

theorem Same.trans_saw (hfirst : before.Same middle) (hsecond : middle.Saw second after) :
    before.Saw second after :=
  hfirst.saw.trans hsecond

end Session

/-! ## Reports -/

variable {before after : Session σ τ} {result : Except Error β}

/-- After a report, or a note on the progress, the rest runs as before. -/
theorem run_report_bind {level : Level} {message : String} {f : Unit → Step σ τ β}
    (h : (report level message >>= f).run before = (result, after)) :
    ∃ middle, before.Same middle ∧ (f ()).run middle = (result, after) :=
  ⟨{ before with log := before.log.push ⟨level, .image, message⟩ }, ⟨rfl, rfl, rfl⟩, h⟩

theorem run_advance_bind {blocks : Nat} {f : Unit → Step σ τ β}
    (h : (advance blocks >>= f).run before = (result, after)) :
    ∃ middle, before.Same middle ∧ (f ()).run middle = (result, after) :=
  ⟨{ before with advanced := before.advanced + blocks }, ⟨rfl, rfl, rfl⟩, h⟩

/-- A failure that is reported has done nothing else. -/
theorem run_report_throw {level : Level} {message : String} {error : Error}
    (h : (do report level message; throw error : Step σ τ β).run before = (result, after)) :
    result = .error error ∧ before.Same after := by
  injection h with hresult hafter
  exact ⟨hresult.symm, hafter ▸ ⟨rfl, rfl, rfl⟩⟩

/-! ## Single steps, and what comes after them -/

/-- A range has its place, or is refused. -/
theorem run_place_bind {range : BlockRange} {f : Span → Step σ τ β}
    (h : (place range >>= f).run before = (result, after)) :
    (range.span? ≠ none ∧
      (f ⟨range.offset, range.byteLength⟩).run before = (result, after)) ∨
    (range.span? = none ∧ result = .error (.build (.rangeOverflow range)) ∧
      before.Same after) := by
  cases hspan : range.span? with
  | some span =>
    have hplace : (place range).run before = (.ok span, before) := by
      simp only [place, hspan]
      rfl
    rw [run_bind_ok hplace, BlockRange.span?_eq_some hspan] at h
    exact .inl ⟨by simp, h⟩
  | none =>
    have hplace : ((place range).run before).1 = .error (.build (.rangeOverflow range)) ∧
        before.Same ((place range).run before).2 := by
      simp only [place, hspan]
      exact ⟨rfl, rfl, rfl, rfl⟩
    rw [run_bind_error (Prod.ext hplace.1 rfl)] at h
    injection h with hresult hafter
    exact .inr ⟨rfl, hresult.symm, hafter ▸ hplace.2⟩

/-- Work on the target leaves the rest of a session alone, and is followed by
more only if it succeeds. -/
theorem run_onTarget_bind {work : Target τ → Except Fault Unit × Target τ}
    {f : Unit → Step σ τ β} (h : (onTarget work >>= f).run before = (result, after)) :
    ((work before.target).1 = .ok () ∧
      (f ()).run { before with target := (work before.target).2 } = (result, after)) ∨
    ∃ fault, (work before.target).1 = .error fault ∧ result = .error (.io fault) ∧
      after = { before with target := (work before.target).2 } := by
  have hrun : (onTarget work).run before =
      (raise (work before.target).1, { before with target := (work before.target).2 }) := rfl
  rcases hwork : (work before.target).1 with fault | value
  · rw [hwork] at hrun
    rw [run_bind_error hrun] at h
    injection h with hresult hafter
    exact .inr ⟨fault, rfl, hresult.symm, hafter.symm⟩
  · rw [hwork] at hrun
    rw [run_bind_ok hrun] at h
    exact .inl ⟨rfl, h⟩

/-- A call that is one operation was seen, and is followed by more unless it has
failed; with `P` it does not fail. -/
theorem run_call_bind {work : Target τ → Except Fault Unit × Target τ}
    {call : Option Fault → Operation} {P : Prop}
    (hwork : ∀ target, ∃ fault?, target.Saw [call fault?] (work target).2 ∧
      (work target).1 = TargetConduct.outcome fault? ∧ (P → fault? = none))
    {f : Unit → Step σ τ β} (h : (onTarget work >>= f).run before = (result, after)) :
    (∃ target, before.target.Saw [call none] target ∧
      (f ()).run { before with target } = (result, after)) ∨
    (∃ fault target, result = .error (.io fault) ∧ after = { before with target } ∧
      before.target.Saw [call (some fault)] target ∧ ¬ P) := by
  obtain ⟨fault?, hsaw, houtcome, hsure⟩ := hwork before.target
  obtain ⟨hok, hrest⟩ | ⟨fault, herror, rfl, rfl⟩ := run_onTarget_bind h
  · cases fault? with
    | none => exact .inl ⟨_, hsaw, hrest⟩
    | some fault => cases houtcome.symm.trans hok
  · cases fault? with
    | none => cases houtcome.symm.trans herror
    | some other =>
      obtain rfl : other = fault := by
        injection houtcome.symm.trans herror
      exact .inr ⟨other, _, rfl, rfl, hsaw, fun hP => nomatch hsure hP⟩

theorem run_seek_bind {conduct : Conduct σ τ} {offset : Nat} {f : Unit → Step σ τ β}
    (h : (seek conduct offset >>= f).run before = (result, after)) :
    (∃ target, before.target.Saw [.seek offset none] target ∧
      (f ()).run { before with target } = (result, after)) ∨
    (∃ fault target, result = .error (.io fault) ∧ after = { before with target } ∧
      before.target.Saw [.seek offset (some fault)] target ∧
      ¬ (offset < wordLimit ∧ conduct.target.Reliable)) :=
  run_call_bind (conduct.target.seek_saw offset) h

theorem run_flush_bind {conduct : Conduct σ τ} {f : Unit → Step σ τ β}
    (h : (flush conduct >>= f).run before = (result, after)) :
    (∃ target, before.target.Saw [.flush none] target ∧
      (f ()).run { before with target } = (result, after)) ∨
    (∃ fault target, result = .error (.io fault) ∧ after = { before with target } ∧
      before.target.Saw [.flush (some fault)] target ∧ ¬ conduct.target.Reliable) :=
  run_call_bind conduct.target.flush_saw h

theorem run_write_bind {conduct : Conduct σ τ} {piece : ByteArray} {f : Unit → Step σ τ β}
    (h : (write conduct piece >>= f).run before = (result, after)) :
    (∃ ops reached target, before.target.Saw ops target ∧
      Writing conduct.target piece 0 ops (.ok ()) reached ∧
      (f ()).run { before with target } = (result, after)) ∨
    (∃ ops reached fault target, result = .error (.io fault) ∧ after = { before with target } ∧
      before.target.Saw ops target ∧
      Writing conduct.target piece 0 ops (.error fault) reached) := by
  obtain ⟨ops, reached, hsaw, hwriting⟩ := conduct.target.writeAll_writing piece before.target
  obtain ⟨hok, hrest⟩ | ⟨fault, herror, rfl, rfl⟩ := run_onTarget_bind h
  · exact .inl ⟨ops, reached, _, hsaw, hok ▸ hwriting, hrest⟩
  · exact .inr ⟨ops, reached, fault, _, rfl, rfl, hsaw, herror ▸ hwriting⟩

/-- A session has read on in its data, by so many bytes, to gather a chunk of
some size; this is what it `got` and the reader that it is left with. -/
structure Session.Gathers (session : Session σ τ) (conduct : Conduct σ τ) (size moved : Nat)
    (got : Except Fault ByteArray) (reader : Reader σ) : Prop where
  position : reader.position = session.reader.position + moved
  gathered : conduct.source.Gathered session.dataBytes size ByteArray.empty
    session.reader.position moved got
  ended : ∀ chunk, got = .ok chunk → chunk.size < size →
    conduct.source.Ended session.dataBytes reader
  refused : ∀ fault, got = .error fault →
    ∃ state position count, (conduct.source.onRead state position count).1 = .refused fault

/-- Gathering reads on in the data, and fails only if the source does. When it
gathers too little the source has ended. -/
theorem run_gather_bind {conduct : Conduct σ τ} {size : Nat} {f : ByteArray → Step σ τ β}
    (h : (gather conduct size >>= f).run before = (result, after)) :
    (∃ chunk moved reader, before.Gathers conduct size moved (.ok chunk) reader ∧
      (f chunk).run { before with reader } = (result, after)) ∨
    (∃ fault moved reader, result = .error (.io fault) ∧ after = { before with reader } ∧
      before.Gathers conduct size moved (.error fault) reader) := by
  rcases hgather : conduct.source.gather before.dataBytes size ByteArray.empty before.reader with
    ⟨got, reader⟩
  have hrun : (gather conduct size).run before = (raise got, { before with reader }) := by
    show (raise _, _) = _
    rw [hgather]
  obtain ⟨moved, hposition, hgathered⟩ :=
    conduct.source.gather_gathered before.dataBytes size ByteArray.empty before.reader (by simp)
  rw [hgather] at hposition hgathered
  have hgathers : before.Gathers conduct size moved got reader := by
    refine ⟨hposition, hgathered, ?_, ?_⟩
    · rintro chunk rfl hshort
      exact conduct.source.gather_ended before.dataBytes hgather hshort
    · rintro fault rfl
      exact conduct.source.gather_refused before.dataBytes (congrArg Prod.fst hgather)
  cases got with
  | error fault =>
    rw [run_bind_error hrun] at h
    injection h with hresult hafter
    exact .inr ⟨fault, moved, reader, hresult.symm, hafter.symm, hgathers⟩
  | ok chunk =>
    rw [run_bind_ok hrun] at h
    exact .inl ⟨chunk, moved, reader, hgathers, h⟩

end Build

end BlockTransfer
