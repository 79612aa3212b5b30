/-
BlockTransfer.Proofs.Concatenation — a pass over ranges that were put one after
the other.

From range to range a pass takes along nothing but its count. All else that
matters is in the session: where the reader stands, what the source and the
target have in store, the trace and the log. So a pass over two sets, one put
after the other, is the pass over the first and then, if that went through, the
pass over the second on the session that was left (`InSequence`), wherever the
ranges are split and whatever fails on either side.

Both passes are one loop, a fold over the ranges whose step counts the blocks
of a range after it has worked on it (`counting`). What holds of a pass over
any ranges is shown of this fold.
-/
import BlockTransfer.Proofs.Passes

namespace BlockTransfer

/-- The ranges of one set, and after them those of another. -/
def RangeSet.append (first second : RangeSet) : RangeSet :=
  ⟨first.ranges ++ second.ranges⟩

instance : Append RangeSet := ⟨RangeSet.append⟩

@[simp] theorem RangeSet.ranges_append (first second : RangeSet) :
    (first ++ second).ranges = first.ranges ++ second.ranges := rfl

namespace Build

variable {σ τ : Type}

/-! ## The loop of both passes -/

/-- Works on a range, and adds its blocks to a count. -/
def counting (work : BlockRange → Step σ τ Unit) (blocks : Nat) (range : BlockRange) :
    Step σ τ Nat := do
  work range
  pure (blocks + range.length)

theorem eraseRanges_eq_foldlM (conduct : Conduct σ τ) (blocks : Nat) (ranges : List BlockRange) :
    eraseRanges conduct blocks ranges = ranges.foldlM (counting (eraseRange conduct)) blocks := by
  induction ranges generalizing blocks with
  | nil => rfl
  | cons range ranges ih => simp [eraseRanges, counting, ih]

theorem copyRanges_eq_foldlM (conduct : Conduct σ τ) (blocks : Nat) (ranges : List BlockRange) :
    copyRanges conduct blocks ranges = ranges.foldlM (counting (copyRange conduct)) blocks := by
  induction ranges generalizing blocks with
  | nil => rfl
  | cons range ranges ih => simp [copyRanges, counting, ih]

section

variable (work : BlockRange → Step σ τ Unit)

/-- Blocks that were counted before are only added. -/
theorem foldlM_counting_add (blocks more : Nat) (ranges : List BlockRange) :
    ranges.foldlM (counting work) (blocks + more) =
      (blocks + ·) <$> ranges.foldlM (counting work) more := by
  induction ranges generalizing more with
  | nil => simp
  | cons range ranges ih => simp [counting, Nat.add_assoc, ih]

variable {work} {ranges : List BlockRange} {blocks : Nat} {before after : Session σ τ}

theorem run_map {α β : Type} (f : α → β) (step : Step σ τ α) (before : Session σ τ) :
    (f <$> step).run before = ((step.run before).1.map f, (step.run before).2) := by
  rcases hrun : step.run before with ⟨error | value, after⟩
  · rw [map_eq_pure_bind, run_bind_error hrun]
    rfl
  · rw [map_eq_pure_bind, run_bind_ok hrun]
    rfl

/-- So the count that a pass begins with has no part in what it does. -/
theorem run_foldlM_counting {result : Except Error Nat}
    (h : (ranges.foldlM (counting work) 0).run before = (result, after)) :
    (ranges.foldlM (counting work) blocks).run before = (result.map (blocks + ·), after) := by
  rw [← Nat.add_zero blocks, foldlM_counting_add, run_map, h]
  rfl

/-- When the loop goes through it has added the blocks of all its ranges. -/
theorem eq_of_foldlM_counting {value : Nat}
    (h : (ranges.foldlM (counting work) blocks).run before = (.ok value, after)) :
    value = blocks + blocksIn ranges := by
  induction ranges generalizing blocks before with
  | nil =>
    obtain ⟨hvalue, _⟩ := run_pure h
    injection hvalue
  | cons range ranges ih =>
    rw [List.foldlM_cons] at h
    obtain ⟨counted, middle, hrange, hrest⟩ | ⟨error, _, herror⟩ := run_bind_cases h
    · obtain ⟨_, _, _, hcounted⟩ | ⟨error, _, herror⟩ := run_bind_cases hrange
      · obtain ⟨hcounted, _⟩ := run_pure hcounted
        injection hcounted with hcounted
        rw [ih hrest, hcounted, blocksIn_cons, Nat.add_assoc]
      · cases herror
    · cases herror

end

/-! ## One pass after another -/

/-- A pass over ranges is one pass and then another one. It fails as the first
does, or as the second does on what the first has left; when both go through,
it ends where the second ends, and counts what both have counted: all blocks of
the ranges. -/
structure InSequence (ranges : List BlockRange) (whole first second : Step σ τ Pass) : Prop where
  first_fails : ∀ before error after, first.run before = (.error error, after) →
    whole.run before = (.error error, after)
  second_fails : ∀ before done middle error after, first.run before = (.ok done, middle) →
    second.run middle = (.error error, after) → whole.run before = (.error error, after)
  through : ∀ before done middle more after, first.run before = (.ok done, middle) →
    second.run middle = (.ok more, after) →
    ∃ all, whole.run before = (.ok all, after) ∧ all.blocks = done.blocks + more.blocks ∧
      all.blocks = blocksIn ranges

/-- A pass that is shown on a bar ends as it would without. -/
theorem exists_run_shownOn {pass : Step σ τ Nat} {before after : Session σ τ}
    {result : Except Error Nat} (bar : ProgressBar) (h : pass.run before = (result, after)) :
    ∃ shown, (shownOn bar pass).run before = (shown, after) ∧ shown.map Pass.blocks = result := by
  rcases hrun : (shownOn bar pass).run before with ⟨shown, other⟩
  have hpass := run_shownOn hrun
  rw [h] at hpass
  injection hpass with hresult hafter
  exact ⟨shown, by rw [hafter], hresult.symm⟩

theorem run_shownOn_error {pass : Step σ τ Nat} {before after : Session σ τ} {error : Error}
    (bar : ProgressBar) (h : pass.run before = (.error error, after)) :
    (shownOn bar pass).run before = (.error error, after) := by
  obtain ⟨shown, hrun, hresult⟩ := exists_run_shownOn bar h
  cases shown with
  | ok pass => cases hresult
  | error other =>
    injection hresult with hresult
    rw [hrun, hresult]

theorem run_shownOn_ok {pass : Step σ τ Nat} {before after : Session σ τ} {blocks : Nat}
    (bar : ProgressBar) (h : pass.run before = (.ok blocks, after)) :
    ∃ shown, (shownOn bar pass).run before = (.ok shown, after) ∧ shown.blocks = blocks := by
  obtain ⟨shown, hrun, hresult⟩ := exists_run_shownOn bar h
  cases shown with
  | ok pass =>
    injection hresult with hresult
    exact ⟨pass, hrun, hresult⟩
  | error other => cases hresult

/-- A pass that goes through has counted the blocks of all its ranges. -/
theorem blocks_of_shownOn {work : BlockRange → Step σ τ Unit} {ranges : List BlockRange}
    {before after : Session σ τ} {bar : ProgressBar} {done : Pass}
    (h : (shownOn bar (ranges.foldlM (counting work) 0)).run before = (.ok done, after)) :
    done.blocks = blocksIn ranges := by
  rw [eq_of_foldlM_counting (run_shownOn h), Nat.zero_add]

theorem inSequence_shownOn (work : BlockRange → Step σ τ Unit) (bar bar' bar'' : ProgressBar)
    (first second : List BlockRange) :
    InSequence (first ++ second)
      (shownOn bar ((first ++ second).foldlM (counting work) 0))
      (shownOn bar' (first.foldlM (counting work) 0))
      (shownOn bar'' (second.foldlM (counting work) 0)) := by
  constructor
  · intro before error after hfirst
    apply run_shownOn_error
    rw [List.foldlM_append]
    exact run_bind_error (run_shownOn hfirst)
  · intro before done middle error after hfirst hsecond
    apply run_shownOn_error
    rw [List.foldlM_append, run_bind_ok (run_shownOn hfirst),
      run_foldlM_counting (run_shownOn hsecond)]
    rfl
  · intro before done middle more after hfirst hsecond
    have hpass : ((first ++ second).foldlM (counting work) 0).run before =
        (.ok (done.blocks + more.blocks), after) := by
      rw [List.foldlM_append, run_bind_ok (run_shownOn hfirst),
        run_foldlM_counting (run_shownOn hsecond)]
      rfl
    obtain ⟨all, hrun, hblocks⟩ := run_shownOn_ok bar hpass
    exact ⟨all, hrun, hblocks, blocks_of_shownOn hrun⟩

/-- Each of the passes over two sets, one put after the other, is the pass over
the first set and then the pass over the second. -/
theorem Plan.passes_in_sequence (conduct : Conduct σ τ) (plan first second : Plan) :
    InSequence (first.eraseSet.ranges ++ second.eraseSet.ranges)
        (erase { plan with eraseSet := first.eraseSet ++ second.eraseSet } conduct)
        (first.erase conduct) (second.erase conduct) ∧
      InSequence (first.newSet.ranges ++ second.newSet.ranges)
        (copy { plan with newSet := first.newSet ++ second.newSet } conduct)
        (first.copy conduct) (second.copy conduct) := by
  simp only [erase, copy, RangeSet.ranges_append, eraseRanges_eq_foldlM, copyRanges_eq_foldlM]
  exact ⟨inSequence_shownOn _ _ _ _ _ _, inSequence_shownOn _ _ _ _ _ _⟩

end Build

end BlockTransfer
