/-
BlockTransfer.Proofs.Events — the events that reading a list and building an
image report.

A failure is the program's own when the program has found something wrong: in a
transfer list, in the ranges or the data of a build, or a missing input. It is
told by one error event, after which nothing is reported any more. A fault of a
device or of the files is not the program's own: it is passed on untold, and no
error event is reported. Work that goes through reports none either. `Told` says
this of a log and a result.

`Reported` adds which levels there may be among the events. For reading it is
said of the log that comes with the result (`Logged.Reports`), and for work on a
state, a session or a scene, of the events that each run adds (`Reports`). What
a piece of work reports before it goes through holds no error event, so the
events of the next piece can follow, and each function needs a line that follows
its definition. Neither a reader nor a build reports a warning.
-/
import BlockTransfer.Build.Plan
import BlockTransfer.Proofs.Turns
import BlockTransfer.TransferList.Parser

namespace BlockTransfer

/-! ## Logs and how the work ended -/

/-- The program has found something wrong, no device or file has failed. -/
def Error.IsOwn : Error → Prop
  | .io _ => False
  | .missingInput _ | .transferList _ | .build _ => True

/-- None of these events is an error event. -/
def Quiet (events : List Event) : Prop :=
  ∀ event ∈ events, event.level ≠ .error

/-- A failure of one's own is told by the last event, which is the only error
event; otherwise no event is one. -/
inductive Told {ε α : Type} (own : ε → Prop) : List Event → Except ε α → Prop
  | through {events value} (hquiet : Quiet events) : Told own events (.ok value)
  | untold {events error} (hquiet : Quiet events) (hown : ¬ own error) :
      Told own events (.error error)
  | told {events last error} (hquiet : Quiet events) (hlast : last.level = .error)
      (hown : own error) : Told own (events ++ [last]) (.error error)

theorem quiet_nil : Quiet [] := by simp [Quiet]

theorem quiet_singleton {event : Event} (h : event.level ≠ .error) : Quiet [event] := by
  simpa [Quiet] using h

theorem Quiet.append {first second : List Event} (hfirst : Quiet first) (hsecond : Quiet second) :
    Quiet (first ++ second) :=
  List.forall_mem_append.mpr ⟨hfirst, hsecond⟩

namespace Told

variable {ε α β : Type} {own : ε → Prop} {first events : List Event}

theorem quiet {value : α} (h : Told own events (.ok value)) : Quiet events := by
  cases h with
  | through hquiet => exact hquiet

/-- Other work has gone through before. -/
theorem prepend {result : Except ε α} (hfirst : Quiet first) (h : Told own events result) :
    Told own (first ++ events) result := by
  cases h with
  | through hquiet => exact .through (hfirst.append hquiet)
  | untold hquiet hown => exact .untold (hfirst.append hquiet) hown
  | told hquiet hlast hown =>
    rw [← List.append_assoc]
    exact .told (hfirst.append hquiet) hlast hown

/-- What was to be returned does not matter to a failure. -/
theorem of_error {error : ε} (h : Told own events (.error error : Except ε α)) :
    Told own events (.error error : Except ε β) := by
  cases h with
  | untold hquiet hown => exact .untold hquiet hown
  | told hquiet hlast hown => exact .told hquiet hlast hown

/-- A failure that was told is told as one that holds it. -/
theorem of_own {ε' : Type} {own' : ε' → Prop} {error : ε} {error' : ε'}
    (h : Told own events (.error error : Except ε α)) (hown : own error) (hown' : own' error') :
    Told own' events (.error error' : Except ε' β) := by
  cases h with
  | untold _ hnot => exact absurd hown hnot
  | told hquiet hlast _ => exact .told hquiet hlast hown'

end Told

/-! ## The levels of events -/

/-- Any level but that of a warning. -/
def Level.IsCalm (level : Level) : Prop := level ≠ .warn

instance : DecidablePred Level.IsCalm := fun level => inferInstanceAs (Decidable (level ≠ .warn))

/-- The warnings among events. -/
def warnings (events : List Event) : List Event :=
  events.filter (·.level = .warn)

theorem warnings_append (first second : List Event) :
    warnings (first ++ second) = warnings first ++ warnings second :=
  List.filter_append first second

theorem warnings_of_calm {events : List Event} (h : ∀ event ∈ events, event.level.IsCalm) :
    warnings events = [] :=
  List.filter_eq_nil_iff.mpr fun event hmem => by simpa [Level.IsCalm] using h event hmem

theorem warnings_singleton {level : Level} {topic : Topic} {message : String}
    (h : level.IsCalm) : warnings [⟨level, topic, message⟩] = [] :=
  warnings_of_calm (by simpa using h)

/-- The events tell how the work ended, and their levels are among these. -/
structure Reported {ε α : Type} (levels : Level → Prop) (own : ε → Prop) (events : List Event)
    (result : Except ε α) : Prop where
  told : Told own events result
  among : ∀ event ∈ events, levels event.level

section

variable {ε α β : Type} {levels : Level → Prop} {own : ε → Prop} {first events : List Event}

theorem reported_nil (value : α) : Reported levels own [] (.ok value : Except ε α) :=
  ⟨.through quiet_nil, by simp⟩

theorem reported_untold {error : ε} (hown : ¬ own error) :
    Reported levels own [] (.error error : Except ε α) :=
  ⟨.untold quiet_nil hown, by simp⟩

theorem reported_singleton {event : Event} (hquiet : event.level ≠ .error)
    (hlevel : levels event.level) (value : α) :
    Reported levels own [event] (.ok value : Except ε α) :=
  ⟨.through (quiet_singleton hquiet), by simpa using hlevel⟩

/-- A failure of one's own that is told by an error event. -/
theorem reported_error {event : Event} {error : ε} (herror : event.level = .error)
    (hlevel : levels .error) (hown : own error) :
    Reported levels own [event] (.error error : Except ε α) :=
  ⟨.told quiet_nil herror hown, by simpa [herror] using hlevel⟩

theorem Reported.prepend {value : α} {result : Except ε β}
    (hfirst : Reported levels own first (.ok value)) (h : Reported levels own events result) :
    Reported levels own (first ++ events) result :=
  ⟨h.told.prepend hfirst.told.quiet, List.forall_mem_append.mpr ⟨hfirst.among, h.among⟩⟩

theorem Reported.of_error {error : ε}
    (h : Reported levels own events (.error error : Except ε α)) :
    Reported levels own events (.error error : Except ε β) :=
  ⟨h.told.of_error, h.among⟩

/-- Whatever the levels are. -/
theorem Told.reported {result : Except ε α} (h : Told own events result) :
    Reported (fun _ => True) own events result :=
  ⟨h, fun _ _ => trivial⟩

end

/-! ## Reading a transfer list -/

/-- Reading that tells each of its failures. -/
def Logged.Tells {ε α : Type} (reading : Logged ε α) : Prop :=
  Told (fun _ => True) reading.log reading.result

/-- Reading that tells each of its failures, with events of these levels. -/
def Logged.Reports {ε α : Type} (levels : Level → Prop) (reading : Logged ε α) : Prop :=
  Reported levels (fun _ => True) reading.log reading.result

namespace Logged

variable {ε α β : Type} {levels : Level → Prop}

theorem Reports.tells {reading : Logged ε α} (h : reading.Reports levels) : reading.Tells :=
  h.told

theorem reports_pure (value : α) : (pure value : Logged ε α).Reports levels :=
  reported_nil value

theorem reports_report {level : Level} {topic : Topic} {message : String} (h : level ≠ .error)
    (hlevel : levels level) : (report level topic message : Logged ε Unit).Reports levels :=
  reported_singleton h hlevel ()

theorem reports_fail (error : ε) (topic : Topic) (message : String) (hlevel : levels .error) :
    (fail error topic message : Logged ε α).Reports levels :=
  reported_error rfl hlevel trivial

theorem Reports.bind {reading : Logged ε α} {rest : α → Logged ε β} (h : reading.Reports levels)
    (hrest : ∀ value, (rest value).Reports levels) : (reading >>= rest).Reports levels := by
  unfold Reports at h
  unfold Reports
  rw [result_bind]
  cases hresult : reading.result with
  | error error =>
    rw [hresult] at h
    rw [log_bind_error rest hresult]
    exact h.of_error
  | ok value =>
    rw [hresult] at h
    rw [log_bind_ok rest hresult]
    exact h.prepend (hrest value)

end Logged

section

open Logged

namespace RangeSet

theorem readInteger_reports (token : List Char) : (readInteger token).Reports Level.IsCalm := by
  unfold readInteger
  split
  · exact reports_pure _
  · exact reports_fail _ _ _ (by decide)

theorem readRange_reports (field : String) (first second : List Char) :
    (readRange field first second).Reports Level.IsCalm := by
  refine (readInteger_reports first).bind fun start =>
    (readInteger_reports second).bind fun stop => ?_
  split
  · exact reports_pure _
  · exact reports_fail _ _ _ (by decide)

theorem readRanges_reports (field : String) (tokens : List (List Char)) :
    (readRanges field tokens).Reports Level.IsCalm := by
  induction tokens using readRanges.induct with
  | case1 first second tokens ih =>
    exact (readRange_reports field first second).bind fun _ => ih.bind fun _ => reports_pure _
  | case2 tokens hfew =>
    rw [readRanges.eq_2 _ _ hfew]
    exact reports_pure _

theorem ofField_reports (field : String) : (ofField field).Reports Level.IsCalm := by
  refine (readInteger_reports _).bind fun count => ?_
  by_cases hodd : count.val % 2 ≠ 0
  · rw [if_pos hodd]
    exact reports_fail _ _ _ (by decide)
  · rw [if_neg hodd]
    split
    · exact reports_fail _ _ _ (by decide)
    · exact (readRanges_reports _ _).bind fun _ => reports_pure _

end RangeSet

namespace TransferList

theorem readHeaderLine_reports {bound : Nat} (positive : 0 < bound) (lines : List (List Char))
    (line : Nat) : (readHeaderLine positive lines line).Reports Level.IsCalm := by
  unfold readHeaderLine
  split
  · exact reports_fail _ _ _ (by decide)
  · split
    · exact reports_pure _
    · exact reports_fail _ _ _ (by decide)

theorem Header.ofLines_reports (lines : List (List Char)) :
    (Header.ofLines lines).Reports Level.IsCalm :=
  (readHeaderLine_reports _ lines 0).bind fun _ =>
    (readHeaderLine_reports _ lines 1).bind fun _ => reports_pure _

theorem readField_reports (command : Command) (line : Nat) (rest : List Char) :
    (readField command line rest).Reports Level.IsCalm := by
  unfold readField
  split
  · exact reports_fail _ _ _ (by decide)
  · exact (RangeSet.ofField_reports _).bind fun _ =>
      (reports_report (by decide) (by decide)).bind fun _ => reports_pure _

theorem readLine_reports (slots : Slots) (line : Nat) (written : List Char) :
    (readLine slots line written).Reports Level.IsCalm := by
  unfold readLine
  split
  · exact (reports_report (by decide) (by decide)).bind fun _ => reports_pure _
  · split
    · exact (reports_report (by decide) (by decide)).bind fun _ => reports_pure _
    · exact (readField_reports _ _ _).bind fun _ => reports_pure _

theorem readLines_reports (slots : Slots) (line : Nat) (lines : List (List Char)) :
    (readLines slots line lines).Reports Level.IsCalm := by
  induction lines generalizing slots line with
  | nil => exact reports_pure _
  | cons written rest ih => exact (readLine_reports slots line written).bind fun _ => ih _ _

theorem Commands.ofLines_reports (lines : List (List Char)) :
    (Commands.ofLines lines).Reports Level.IsCalm :=
  (readLines_reports _ _ _).bind fun _ => reports_pure _

theorem ofText_reports (text : String) : (ofText text).Reports Level.IsCalm :=
  (Header.ofLines_reports _).bind fun _ => (Commands.ofLines_reports _).bind fun _ => reports_pure _

end TransferList

end

/-! ## Work on a state that has a log -/

/-- Each run of the work adds events to the log that tell how it ended. -/
def Tells {S α : Type} (log : S → List Event) (work : ExceptT Error (StateM S) α) : Prop :=
  ∀ before result after, work.run before = (result, after) →
    ∃ events, log after = log before ++ events ∧ Told Error.IsOwn events result

/-- Each run of the work adds events of these levels to the log, which tell how
it ended. -/
def Reports {S α : Type} (levels : Level → Prop) (log : S → List Event)
    (work : ExceptT Error (StateM S) α) : Prop :=
  ∀ before result after, work.run before = (result, after) →
    ∃ events, log after = log before ++ events ∧ Reported levels Error.IsOwn events result

section

variable {S α β : Type} {levels : Level → Prop} {log : S → List Event}

theorem Reports.tells {work : ExceptT Error (StateM S) α} (h : Reports levels log work) :
    Tells log work := fun before result after hrun => by
  obtain ⟨events, hlog, hreported⟩ := h before result after hrun
  exact ⟨events, hlog, hreported.told⟩

theorem reports_pure (value : α) : Reports levels log (pure value) := by
  intro before result after hrun
  obtain ⟨rfl, rfl⟩ := run_pure hrun
  exact ⟨[], by simp, reported_nil value⟩

theorem reports_get : Reports levels log get := by
  intro before result after hrun
  injection hrun with hresult hafter
  subst hresult hafter
  exact ⟨[], by simp, reported_nil _⟩

theorem reports_throw_fault (fault : Fault) :
    Reports levels log (throw (.io fault) : ExceptT Error (StateM S) α) := by
  intro before result after hrun
  injection hrun with hresult hafter
  subst hresult hafter
  exact ⟨[], by simp, reported_untold id⟩

theorem Reports.bind {work : ExceptT Error (StateM S) α} {rest : α → ExceptT Error (StateM S) β}
    (h : Reports levels log work) (hrest : ∀ value, Reports levels log (rest value)) :
    Reports levels log (work >>= rest) := by
  intro before result after hrun
  obtain ⟨value, middle, hfirst, hsecond⟩ | ⟨error, hfirst, rfl⟩ := run_bind_cases hrun
  · obtain ⟨events, hmiddle, hreported⟩ := h before _ middle hfirst
    obtain ⟨more, hafter, hmore⟩ := hrest value middle result after hsecond
    exact ⟨events ++ more, by rw [hafter, hmiddle, List.append_assoc], hreported.prepend hmore⟩
  · obtain ⟨events, hafter, hreported⟩ := h before _ after hfirst
    exact ⟨events, hafter, hreported.of_error⟩

variable {change : S → S} {events : List Event}

theorem reports_modify (hchange : ∀ state, log (change state) = log state ++ events)
    (hreported : Reported levels Error.IsOwn events (.ok ⟨⟩ : Except Error PUnit)) :
    Reports levels log (modify change) := by
  intro before result after hrun
  injection hrun with hresult hafter
  subst hresult hafter
  exact ⟨events, hchange before, hreported⟩

/-- A change that touches no log. -/
theorem reports_silent (hchange : ∀ state, log (change state) = log state) :
    Reports levels log (modify change) := by
  have hnone : ∀ state, log (change state) = log state ++ [] := by simpa using hchange
  exact reports_modify hnone (reported_nil _)

/-- Events are taken over, and the work they come from has failed. -/
theorem reports_modify_throw {error : Error}
    (hchange : ∀ state, log (change state) = log state ++ events)
    (hreported : Reported levels Error.IsOwn events (.error error : Except Error α)) :
    Reports levels log (do modify change; throw error : ExceptT Error (StateM S) α) := by
  intro before result after hrun
  injection hrun with hresult hafter
  subst hresult hafter
  exact ⟨events, hchange before, hreported⟩

/-- Work that reports no warnings leaves those that there are. -/
theorem Reports.warnings_eq {work : ExceptT Error (StateM S) α}
    (h : Reports Level.IsCalm log work) {before after : S} {result : Except Error α}
    (hrun : work.run before = (result, after)) : warnings (log after) = warnings (log before) := by
  obtain ⟨events, hlog, hreported⟩ := h before result after hrun
  rw [hlog, warnings_append, warnings_of_calm hreported.among, List.append_nil]

end

/-! ## Building -/

namespace Build

variable {σ τ α : Type}

/-- The events of a session. -/
def Session.events (session : Session σ τ) : List Event :=
  session.log.toList

theorem report_reports {level : Level} {message : String} (h : level ≠ .error)
    (hcalm : level.IsCalm) :
    Reports Level.IsCalm Session.events (report level message : Step σ τ Unit) :=
  reports_modify (fun _ => Array.toList_push) (reported_singleton h hcalm _)

theorem advance_reports (blocks : Nat) :
    Reports Level.IsCalm Session.events (advance blocks : Step σ τ Unit) :=
  reports_silent fun _ => rfl

/-- A fault of a device is passed on. -/
theorem raise_reported {got : Except Fault α} :
    Reported Level.IsCalm Error.IsOwn [] (raise got) := by
  cases got with
  | ok value => exact reported_nil value
  | error fault => exact reported_untold id

theorem onTarget_reports (work : Target τ → Except Fault Unit × Target τ) :
    Reports Level.IsCalm Session.events (onTarget work : Step σ τ Unit) := by
  intro before result after hrun
  injection hrun with hresult hafter
  subst hresult hafter
  exact ⟨[], (List.append_nil _).symm, raise_reported⟩

theorem place_reports (range : BlockRange) :
    Reports Level.IsCalm Session.events (place range : Step σ τ Span) := by
  unfold place
  split
  · exact reports_pure _
  · exact reports_modify_throw (fun _ => Array.toList_push) (reported_error rfl (by decide) trivial)

theorem eraseBytes_reports (conduct : Conduct σ τ) (remaining : Nat) :
    Reports Level.IsCalm Session.events (eraseBytes conduct remaining) := by
  induction remaining using Nat.strongRecOn with
  | ind remaining ih =>
    rw [eraseBytes]
    split
    · exact reports_pure _
    · have hpos := chunkSize_pos
      exact (onTarget_reports _).bind fun _ => (advance_reports _).bind fun _ => ih _ (by omega)

theorem eraseRange_reports (conduct : Conduct σ τ) (range : BlockRange) :
    Reports Level.IsCalm Session.events (eraseRange conduct range) :=
  (place_reports range).bind fun _ => (report_reports (by decide) (by decide)).bind fun _ =>
    (onTarget_reports _).bind fun _ => eraseBytes_reports conduct _

theorem eraseRanges_reports (conduct : Conduct σ τ) (blocks : Nat) (ranges : List BlockRange) :
    Reports Level.IsCalm Session.events (eraseRanges conduct blocks ranges) := by
  induction ranges generalizing blocks with
  | nil => exact reports_pure _
  | cons range ranges ih => exact (eraseRange_reports conduct range).bind fun _ => ih _

/-- Data that run out are told by the turn that finds them too short. -/
theorem Turn.reported {conduct : Conduct σ τ} {range : BlockRange} {span : Span}
    {done size : Nat} {before after : Session σ τ} {result : Except Error Unit}
    (h : Turn conduct range span done size before result after) :
    ∃ events, after.events = before.events ++ events ∧
      Reported Level.IsCalm Error.IsOwn events result := by
  cases h with
  | short _ _ => exact ⟨_, Array.toList_push, reported_error rfl (by decide) trivial⟩
  | unread _ => exact ⟨[], (List.append_nil _).symm, reported_untold id⟩
  | unmoved _ _ _ _ _ => exact ⟨[], (List.append_nil _).symm, reported_untold id⟩
  | broken _ _ _ _ => exact ⟨[], (List.append_nil _).symm, reported_untold id⟩
  | through _ _ _ _ => exact ⟨[], (List.append_nil _).symm, reported_nil ()⟩

theorem copyBytes_reports (conduct : Conduct σ τ) (range : BlockRange) (span : Span)
    (done : Nat) : Reports Level.IsCalm Session.events (copyBytes conduct range span done) := by
  intro before result after hrun
  have hturns := run_copyBytes hrun
  clear hrun
  induction hturns with
  | full _ => exact ⟨[], (List.append_nil _).symm, reported_nil ()⟩
  | failed _ hturn => exact hturn.reported
  | next _ hturn _ ih =>
    obtain ⟨events, hmiddle, hreported⟩ := hturn.reported
    obtain ⟨more, hafter, hmore⟩ := ih
    exact ⟨events ++ more, by rw [hafter, hmiddle, List.append_assoc], hreported.prepend hmore⟩

theorem copyRange_reports (conduct : Conduct σ τ) (range : BlockRange) :
    Reports Level.IsCalm Session.events (copyRange conduct range) :=
  (place_reports range).bind fun _ => (report_reports (by decide) (by decide)).bind fun _ =>
    copyBytes_reports conduct range _ 0

theorem copyRanges_reports (conduct : Conduct σ τ) (blocks : Nat) (ranges : List BlockRange) :
    Reports Level.IsCalm Session.events (copyRanges conduct blocks ranges) := by
  induction ranges generalizing blocks with
  | nil => exact reports_pure _
  | cons range ranges ih => exact (copyRange_reports conduct range).bind fun _ => ih _

theorem shownOn_reports {bar : ProgressBar} {pass : Step σ τ Nat}
    (h : Reports Level.IsCalm Session.events pass) :
    Reports Level.IsCalm Session.events (shownOn bar pass) :=
  reports_get.bind fun _ => h.bind fun _ => reports_get.bind fun _ => reports_pure _

namespace Plan

variable (plan : Plan) (conduct : Conduct σ τ)

theorem erase_reports : Reports Level.IsCalm Session.events (plan.erase conduct) :=
  shownOn_reports (eraseRanges_reports conduct 0 _)

theorem copy_reports : Reports Level.IsCalm Session.events (plan.copy conduct) :=
  shownOn_reports (copyRanges_reports conduct 0 _)

theorem build_reports : Reports Level.IsCalm Session.events (plan.build conduct) :=
  (report_reports (by decide) (by decide)).bind fun _ => (plan.erase_reports conduct).bind fun _ =>
    (report_reports (by decide) (by decide)).bind fun _ => (plan.copy_reports conduct).bind fun _ =>
      (onTarget_reports _).bind fun _ => reports_pure _

end Plan

end Build

end BlockTransfer
