/-
BlockTransfer.Proofs.Sequence — work in sequence on a state.

The steps of a build and the tasks of a run are work of one kind: it goes from
a state to a state, and may fail with an error of the program. A sequence runs
its second piece on what the first has left, or fails where the first fails; so
a run that is known piece by piece is known (`run_bind_ok`, `run_bind_error`),
and one that is given can be taken apart (`run_bind_cases`).
-/
import BlockTransfer.Error

namespace BlockTransfer

variable {S α β : Type} {before after : S} {result : Except Error β}

theorem run_bind_ok {x : ExceptT Error (StateM S) α} {f : α → ExceptT Error (StateM S) β}
    {value : α} {middle : S} (hx : x.run before = (.ok value, middle)) :
    (x >>= f).run before = (f value).run middle := by
  show ExceptT.bind x f before = _
  have hx' : x before = (.ok value, middle) := hx
  simp only [ExceptT.bind, ExceptT.mk, bind, StateT.bind, hx']
  rfl

theorem run_bind_error {x : ExceptT Error (StateM S) α} {f : α → ExceptT Error (StateM S) β}
    {error : Error} (hx : x.run before = (.error error, after)) :
    (x >>= f).run before = (.error error, after) := by
  show ExceptT.bind x f before = _
  have hx' : x before = (.error error, after) := hx
  simp only [ExceptT.bind, ExceptT.mk, bind, StateT.bind, hx']
  rfl

/-- A sequence runs its second piece on what the first has left, or fails where
the first fails. -/
theorem run_bind_cases {x : ExceptT Error (StateM S) α} {f : α → ExceptT Error (StateM S) β}
    (h : (x >>= f).run before = (result, after)) :
    (∃ value middle, x.run before = (.ok value, middle) ∧
      (f value).run middle = (result, after)) ∨
    (∃ error, x.run before = (.error error, after) ∧ result = .error error) := by
  rcases hx : x.run before with ⟨error | value, middle⟩
  · rw [run_bind_error hx] at h
    injection h with hresult hafter
    subst hafter
    exact .inr ⟨error, rfl, hresult.symm⟩
  · rw [run_bind_ok hx] at h
    exact .inl ⟨value, middle, rfl, h⟩

theorem run_pure {value : α} {result : Except Error α}
    (h : (pure value : ExceptT Error (StateM S) α).run before = (result, after)) :
    result = .ok value ∧ after = before := by
  injection h with hresult hafter
  exact ⟨hresult.symm, hafter.symm⟩

end BlockTransfer
