/-
BlockTransfer.Logged — a result together with the events reported on the way.

The log is part of the value: running one computation after another appends
their logs, and a failure keeps the log up to the failure. So the result of a
computation never depends on its log, which `result_bind` states, and the log
of a sequence is read off by `log_bind_ok` and `log_bind_error`.
-/
import BlockTransfer.Event

namespace BlockTransfer

/-- A log and how the computation that wrote it ended. -/
structure Logged (ε α : Type) where
  log : List Event
  result : Except ε α

namespace Logged

variable {ε α β : Type}

/-- Runs the second computation on the value of the first, if there is one. -/
def andThen (x : Logged ε α) (f : α → Logged ε β) : Logged ε β :=
  match x.result with
  | .error e => ⟨x.log, .error e⟩
  | .ok a => ⟨x.log ++ (f a).log, (f a).result⟩

instance : Monad (Logged ε) where
  pure a := ⟨[], .ok a⟩
  bind := andThen

/-- Reports one event. -/
def report (level : Level) (topic : Topic) (message : String) : Logged ε Unit :=
  ⟨[⟨level, topic, message⟩], .ok ()⟩

/-- Reports an error event and fails. -/
def fail (error : ε) (topic : Topic) (message : String) : Logged ε α :=
  ⟨[⟨.error, topic, message⟩], .error error⟩

@[simp] theorem result_pure (a : α) : (pure a : Logged ε α).result = .ok a := rfl

@[simp] theorem log_pure (a : α) : (pure a : Logged ε α).log = [] := rfl

/-- The result of a sequence is the sequence of the results. -/
theorem result_bind (x : Logged ε α) (f : α → Logged ε β) :
    (x >>= f).result = x.result.bind fun a => (f a).result := by
  show (andThen x f).result = _
  unfold andThen
  cases x.result <;> rfl

/-- What would come after a failure leaves no trace. -/
theorem bind_of_error {x : Logged ε α} {e : ε} (f : α → Logged ε β)
    (h : x.result = .error e) : x >>= f = ⟨x.log, .error e⟩ := by
  show andThen x f = _
  simp [andThen, h]

theorem log_bind_error {x : Logged ε α} {e : ε} (f : α → Logged ε β)
    (h : x.result = .error e) : (x >>= f).log = x.log := by
  rw [bind_of_error f h]

theorem log_bind_ok {x : Logged ε α} {a : α} (f : α → Logged ε β)
    (h : x.result = .ok a) : (x >>= f).log = x.log ++ (f a).log := by
  show (andThen x f).log = _
  simp [andThen, h]

end Logged

end BlockTransfer
