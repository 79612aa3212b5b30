/-
BlockTransfer.Proofs.Script — which operations a step lets a target see.

A SCRIPT is a language of operations: the sequences that a target may see if
nothing goes wrong. `Follows` says how a run that may have gone wrong stands to
a script. The target has seen one of the sequences; or it has seen the start of
one up to an operation that failed; or the run was held up for a reason that is
no operation of the target, and the target has seen the start of a sequence.

A step PLAYS a script when each of its runs follows it (`Plays`). Steps one
after the other play the product of their scripts (`Plays.bind`), so the script
of a loop comes from that of its body, whatever source and target it runs with.
-/
import BlockTransfer.Proofs.Steps
import BlockTransfer.Proofs.Transfer
import Mathlib.Computability.Language
import Mathlib.Order.CompletePartialOrder

namespace BlockTransfer.Build

variable {σ τ α β : Type}

/-! ## Following a script -/

/-- Why a run stops between two operations of the target: a range has no place,
or the data for it end too early, or the source refused a read. -/
inductive HeldUp (source : SourceConduct σ) : Error → Prop
  | misplaced {range} (hspan : range.span? = none) : HeldUp source (.build (.rangeOverflow range))
  | short {range available} (hshort : available < range.byteLength) :
      HeldUp source (.build (.shortRead range range.byteLength available))
  | unread {state position size fault}
      (hread : (source.onRead state position size).1 = .refused fault) : HeldUp source (.io fault)

/-- The operations of a run that ends in this way follow a script. None but the
last of them has failed; the last has if the run ends with its fault, and then
it is what the script has there. -/
inductive Follows (source : SourceConduct σ) (script : Language Operation) :
    List Operation → Except Error α → Prop
  | through {ops value} (hsound : ∀ op ∈ ops, op.fault? = none) (hscript : ops ∈ script) :
      Follows source script ops (.ok value)
  | failed {seen next more last fault} (hsound : ∀ op ∈ seen, op.fault? = none)
      (hscript : seen ++ next :: more ∈ script) (hcall : last.call = next.call)
      (hfault : last.fault? = some fault) :
      Follows source script (seen ++ [last]) (.error (.io fault))
  | held {ops more error} (hsound : ∀ op ∈ ops, op.fault? = none) (hscript : ops ++ more ∈ script)
      (hcause : HeldUp source error) : Follows source script ops (.error error)

namespace Follows

variable {source : SourceConduct σ} {script next : Language Operation} {ops rest : List Operation}

theorem mono {result : Except Error α} (h : Follows source script ops result)
    (hle : script ≤ next) : Follows source next ops result := by
  cases h with
  | through hsound hscript => exact .through hsound (hle hscript)
  | failed hsound hscript hcall hfault => exact .failed hsound (hle hscript) hcall hfault
  | held hsound hscript hcause => exact .held hsound (hle hscript) hcause

/-- A run goes on where another one went through. -/
theorem append {value : α} {result : Except Error β}
    (hfirst : Follows source script ops (.ok value))
    (hsecond : Follows source next rest result) :
    Follows source (script * next) (ops ++ rest) result := by
  cases hfirst with
  | through hsound hscript =>
    cases hsecond with
    | through hsound' hscript' =>
      exact .through (List.forall_mem_append.mpr ⟨hsound, hsound'⟩)
        (Language.append_mem_mul hscript hscript')
    | failed hsound' hscript' hcall hfault =>
      have hwhole := Language.append_mem_mul hscript hscript'
      rw [← List.append_assoc] at hwhole ⊢
      exact .failed (List.forall_mem_append.mpr ⟨hsound, hsound'⟩) hwhole hcall hfault
    | held hsound' hscript' hcause =>
      have hwhole := Language.append_mem_mul hscript hscript'
      rw [← List.append_assoc] at hwhole
      exact .held (List.forall_mem_append.mpr ⟨hsound, hsound'⟩) hwhole hcause

/-- A run that ended early does not get to what would come next. -/
theorem append_of_error {error : Error}
    (h : Follows source script ops (.error error : Except Error α)) (hnext : ∃ more, more ∈ next) :
    Follows source (script * next) ops (.error error : Except Error β) := by
  obtain ⟨later, hlater⟩ := hnext
  cases h with
  | failed hsound hscript hcall hfault =>
    have hwhole := Language.append_mem_mul hscript hlater
    rw [List.append_assoc] at hwhole
    exact .failed hsound hwhole hcall hfault
  | held hsound hscript hcause =>
    have hwhole := Language.append_mem_mul hscript hlater
    rw [List.append_assoc] at hwhole
    exact .held hsound hwhole hcause

end Follows

/-! ## Playing a script -/

/-- Every run of a step follows a script, and one that goes through has got
through so many blocks. -/
def Plays (source : SourceConduct σ) (script : Language Operation) (blocks : Nat)
    (step : Step σ τ α) : Prop :=
  ∀ before result after, step.run before = (result, after) →
    ∃ ops, before.Saw ops after ∧ Follows source script ops result ∧
      ∀ value, result = .ok value → after.advanced = before.advanced + blocks

namespace Plays

variable {source : SourceConduct σ} {script next : Language Operation} {blocks more : Nat}

theorem of_le {step : Step σ τ α} (h : Plays source script blocks step) (hle : script ≤ next)
    (hblocks : blocks = more) : Plays source next more step := by
  intro before result after hrun
  obtain ⟨ops, hsaw, hfollows, hadvanced⟩ := h before result after hrun
  exact ⟨ops, hsaw, hfollows.mono hle, hblocks ▸ hadvanced⟩

/-- A sequence plays the product of the scripts of its steps. Of the second step
only those values matter that the first can return. -/
theorem bind {step : Step σ τ α} {rest : α → Step σ τ β} (hstep : Plays source script blocks step)
    (hrest : ∀ before value middle, step.run before = (.ok value, middle) →
      Plays source next more (rest value))
    (hnext : ∃ ops, ops ∈ next) :
    Plays source (script * next) (blocks + more) (step >>= rest) := by
  intro before result after hrun
  obtain ⟨value, middle, hfirst, hsecond⟩ | ⟨error, hfirst, rfl⟩ := run_bind_cases hrun
  · obtain ⟨ops, hsaw, hfollows, hadvanced⟩ := hstep before _ middle hfirst
    obtain ⟨later, hlater, hfollows', hadvanced'⟩ :=
      hrest before value middle hfirst middle result after hsecond
    refine ⟨ops ++ later, hsaw.trans hlater, hfollows.append hfollows', fun other hother => ?_⟩
    rw [hadvanced' other hother, hadvanced value rfl, Nat.add_assoc]
  · obtain ⟨ops, hsaw, hfollows, _⟩ := hstep before _ after hfirst
    exact ⟨ops, hsaw, hfollows.append_of_error hnext, by simp⟩

/-- A step of which the target sees nothing leaves the script to the next. -/
theorem silent_bind {step : Step σ τ α} {rest : α → Step σ τ β} (hstep : Plays source 1 0 step)
    (hrest : ∀ before value middle, step.run before = (.ok value, middle) →
      Plays source next more (rest value))
    (hnext : ∃ ops, ops ∈ next) : Plays source next more (step >>= rest) := by
  have hplays := hstep.bind hrest hnext
  rwa [one_mul, Nat.zero_add] at hplays

end Plays

/-! ## Small steps -/

section

variable {source : SourceConduct σ} {script : Language Operation}

theorem plays_pure (value : α) : Plays source 1 0 (pure value : Step σ τ α) := by
  intro before result after hrun
  obtain ⟨rfl, rfl⟩ := run_pure hrun
  exact ⟨[], ⟨rfl, .refl _⟩, .through (by simp) (by simp), by simp⟩

/-- A change of a session that is none of its target plays nothing. -/
theorem plays_modify {change : Session σ τ → Session σ τ} {blocks : Nat}
    (hdata : ∀ session, (change session).data = session.data)
    (htarget : ∀ session, (change session).target = session.target)
    (hadvanced : ∀ session, (change session).advanced = session.advanced + blocks) :
    Plays source 1 blocks (modify change : Step σ τ Unit) := by
  intro before result after hrun
  injection hrun with hresult hafter
  subst hresult hafter
  refine ⟨[], ⟨hdata before, ?_⟩, .through (by simp) (by simp), fun _ _ => hadvanced before⟩
  rw [htarget before]
  exact .refl _

theorem plays_advance (blocks : Nat) : Plays source 1 blocks (advance blocks : Step σ τ Unit) :=
  plays_modify (fun _ => rfl) (fun _ => rfl) fun _ => rfl

theorem plays_report (level : Level) (message : String) :
    Plays source 1 0 (report level message : Step σ τ Unit) :=
  plays_modify (fun _ => rfl) (fun _ => rfl) fun _ => rfl

/-- A step that gives up plays every script that can be played. -/
theorem plays_throw {error : Error} (hcause : HeldUp source error) (hscript : ∃ ops, ops ∈ script)
    (blocks : Nat) : Plays source script blocks (throw error : Step σ τ α) := by
  intro before result after hrun
  injection hrun with hresult hafter
  subst hresult hafter
  obtain ⟨ops, hops⟩ := hscript
  exact ⟨[], ⟨rfl, .refl _⟩, .held (by simp) hops hcause, by simp⟩

theorem plays_place (range : BlockRange) : Plays source 1 0 (place range : Step σ τ Span) := by
  unfold place
  split
  · exact plays_pure _
  · next hspan =>
    exact (plays_report _ _).silent_bind
      (fun _ _ _ _ => plays_throw (.misplaced hspan) ⟨[], Language.nil_mem_one⟩ 0)
      ⟨[], Language.nil_mem_one⟩

/-- The place of a range is where it is and as long as it is. -/
theorem eq_of_place {range : BlockRange} {span : Span} {before after : Session σ τ}
    (hrun : (place range).run before = (.ok span, after)) :
    span = ⟨range.offset, range.byteLength⟩ := by
  rw [← bind_pure (place range)] at hrun
  obtain ⟨_, hpure⟩ | ⟨_, herror, _⟩ := run_place_bind hrun
  · obtain ⟨hspan, _⟩ := run_pure hpure
    injection hspan
  · cases herror

/-- What a step does to the target is all that it does. -/
theorem plays_onTarget {work : Target τ → Except Fault Unit × Target τ}
    (hwork : ∀ target, ∃ ops, target.Saw ops (work target).2 ∧
      Follows source script ops (raise (work target).1)) :
    Plays source script 0 (onTarget work : Step σ τ Unit) := by
  intro before result after hrun
  obtain ⟨ops, hsaw, hfollows⟩ := hwork before.target
  injection hrun with hresult hafter
  subst hresult hafter
  exact ⟨ops, ⟨rfl, hsaw⟩, hfollows, fun _ _ => rfl⟩

/-- A call that is one operation plays it. -/
theorem plays_call {work : Target τ → Except Fault Unit × Target τ}
    {call : Option Fault → Operation}
    (hwork : ∀ target, ∃ fault?, target.Saw [call fault?] (work target).2 ∧
      (work target).1 = TargetConduct.outcome fault?)
    (hfault : ∀ fault?, (call fault?).fault? = fault?)
    (hcall : ∀ fault?, (call fault?).call = (call none).call) :
    Plays source {[call none]} 0 (onTarget work : Step σ τ Unit) := by
  refine plays_onTarget fun target => ?_
  obtain ⟨fault?, hsaw, houtcome⟩ := hwork target
  refine ⟨_, hsaw, ?_⟩
  rw [houtcome]
  cases fault? with
  | none => exact .through (by simp [hfault]) rfl
  | some fault =>
    have hone : [] ++ call none :: [] ∈ ({[call none]} : Language Operation) := rfl
    exact .failed (List.forall_mem_nil _) hone (hcall _) (hfault _)

end

variable (conduct : Conduct σ τ)

theorem plays_seek (offset : Nat) :
    Plays conduct.source {[.seek offset none]} 0 (seek conduct offset) := by
  refine plays_call (fun target => ?_) (fun _ => rfl) (fun _ => rfl)
  obtain ⟨fault?, hsaw, houtcome, _⟩ := conduct.target.seek_saw offset target
  exact ⟨fault?, hsaw, houtcome⟩

theorem plays_flush : Plays conduct.source {[.flush none]} 0 (flush conduct) := by
  refine plays_call (fun target => ?_) (fun _ => rfl) (fun _ => rfl)
  obtain ⟨fault?, hsaw, houtcome, _⟩ := conduct.target.flush_saw target
  exact ⟨fault?, hsaw, houtcome⟩

/-! ## Chunks -/

/-- The writes that move the bytes of a range from one of them to another. -/
def moving (length start stop : Nat) : Language Operation :=
  {ops | Moved length start ops stop}

theorem moving_mul_le (length start middle stop : Nat) :
    moving length start middle * moving length middle stop ≤ moving length start stop := by
  intro ops hops
  obtain ⟨first, hfirst, second, hsecond, rfl⟩ := Language.mem_mul.mp hops
  exact Moved.trans hfirst hsecond

/-- The writes of a chunk move its bytes. -/
theorem follows_of_writing {piece : ByteArray} {length start reached : Nat}
    {ops : List Operation} {written : Except Fault Unit} (hstart : chunkSize ∣ start)
    (hpiece : piece.size = chunkAt length start)
    (hwriting : Writing conduct.target piece 0 ops written reached) :
    Follows conduct.source (moving length start (start + chunkAt length start)) ops
      (raise written) := by
  obtain ⟨seen, hmoved, hcases⟩ := exists_moved_of_writing hstart hpiece hwriting
  have hsound : ∀ op ∈ seen, op.fault? = none := fun op hop => (hmoved.of_mem op hop).2.1
  obtain ⟨hok, rfl⟩ | ⟨fault, last, herror, rfl, hfault, hreached, hcall⟩ := hcases
  · rw [hwriting.reached_of_ok (Nat.zero_le _) hok, hpiece] at hmoved
    rw [hok]
    exact .through hsound hmoved
  · -- In place of the write that failed, one that takes all would have done.
    have hless : start + reached < length := by
      unfold chunkAt at hreached
      omega
    have hwhole := hmoved.trans (Moved.one hless)
    have hend : start + reached + chunkLeft length (start + reached) =
        start + chunkAt length start := by
      rw [chunkLeft_add hstart hreached]
      omega
    rw [hend] at hwhole
    rw [herror]
    exact .failed hsound hwhole hcall hfault

theorem plays_write {piece : ByteArray} {length start : Nat} (hstart : chunkSize ∣ start)
    (hpiece : piece.size = chunkAt length start) :
    Plays conduct.source (moving length start (start + chunkAt length start)) 0
      (write conduct piece) := by
  refine plays_onTarget fun target => ?_
  obtain ⟨ops, reached, hsaw, hwriting⟩ := conduct.target.writeAll_writing piece target
  exact ⟨ops, hsaw, follows_of_writing conduct hstart hpiece hwriting⟩

end BlockTransfer.Build
