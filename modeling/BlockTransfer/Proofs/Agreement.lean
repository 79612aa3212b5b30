/-
BlockTransfer.Proofs.Agreement — builds of the same that end alike.

What a build does with reliable devices is settled by its fills and the image:
how many bytes of a fill get into the image (`Fill.movable`), at which fill the
build stops (`obstacle?`), and so which image is left (`leftBy`). So two builds
with reliable devices end alike when they are to make the same of the same
image, however their reads and writes are cut up (`Plan.build_agrees`).

A willing target that has no offsets from some limit on is not reliable. But a
build that stays below the limit never gets to know it, step by step
(`Plan.build_below`).
-/
import BlockTransfer.Proofs.Obstacle

namespace BlockTransfer.Build

variable {σ τ : Type} {conduct : Conduct σ τ} {data : ByteArray}

/-! ## What reliable devices leave -/

/-- How many bytes of a fill get into an image when no device fails. None do
without a place; when the data end before the range is full, whole chunks do. -/
def Fill.movable (fill : Fill) : Nat :=
  if fill.range.span? = none then 0
  else if fill.bytes.size < fill.range.byteLength then
    fill.bytes.size / chunkSize * chunkSize
  else fill.bytes.size

theorem Filled.stop_eq {fill : Fill} {ops : List Operation} {result : Except Error Unit}
    {stop : Nat} (hconduct : conduct.Reliable data)
    (h : Filled conduct data fill ops result stop) : stop = fill.movable := by
  unfold Fill.movable
  cases result with
  | ok value =>
    have hfull : fill.bytes.size = fill.range.byteLength := h.full_of_ok
    rw [if_neg h.span?_of_ok, if_neg (by omega), hfull]
    exact h.stop_of_ok
  | error error =>
    obtain ⟨_, hspan, hstop, _⟩ | ⟨_, _, hunreliable⟩ | ⟨available, _, hspan, hshort⟩ :=
      h.error_cases
    · rw [if_pos hspan, hstop]
    · exact absurd hconduct hunreliable
    · have hall : available = fill.bytes.size := hshort.all hconduct
      rw [if_neg hspan, if_pos (hall ▸ hshort.short), hshort.stop_eq, hall]

/-- The image that is left when fills are made in order up to the first that
cannot be made. -/
def leftBy (image : ByteArray) : List Fill → ByteArray
  | [] => image
  | fill :: fills =>
    let next := Image.splice image (fill.bytes.extract 0 fill.movable) fill.offset
    match fill.obstacle? with
    | none => leftBy next fills
    | some _ => next

theorem Course.image_eq {fills : List Fill} {ops : List Operation} {result : Except Error Unit}
    (hconduct : conduct.Reliable data) (h : Course conduct data fills ops result)
    (image : ByteArray) (position : Nat) :
    (replay ops (image, position)).1 = leftBy image fills := by
  induction h generalizing image position with
  | nil => rfl
  | @cons fill fills ops rest result stop hfill _ ih =>
    have hfree : fill.obstacle? = none :=
      (fill.obstacle?_eq_none_iff).mpr ⟨hfill.span?_of_ok, hfill.full_of_ok⟩
    rw [replay_append, leftBy, hfree, ← hfill.stop_eq hconduct, ← hfill.image image position]
    exact ih _ _
  | @stopped fill fills ops error stop hfill =>
    rw [leftBy, hfill.image, hfill.stop_eq hconduct]
    cases hobstacle : fill.obstacle? with
    | none =>
      have hresult := hfill.result_eq hconduct
      rw [hobstacle] at hresult
      cases hresult
    | some other => rfl

theorem Ended.image_eq {fills : List Fill} {ops : List Operation} {result : Except Error Unit}
    (hconduct : conduct.Reliable data) (h : Ended conduct data fills ops result)
    (image : ByteArray) (position : Nat) :
    (replay ops (image, position)).1 = leftBy image fills := by
  cases h with
  | stopped hcourse => exact hcourse.image_eq hconduct image position
  | unflushed _ hunreliable => exact absurd hconduct.target hunreliable
  | flushed hcourse =>
    rw [replay_flush]
    exact hcourse.image_eq hconduct image position

theorem Plan.build_leaves {plan : Plan} {before after : Session σ τ} {result : Except Error Report}
    (hconduct : conduct.Reliable data) (hdata : before.data = .apart data)
    (hrun : (plan.build conduct).run before = (result, after)) :
    after.target.image =
      leftBy before.target.image (plan.fills data before.reader.position) := by
  obtain ⟨ops, hsaw, hended⟩ := Plan.build_ended hdata hrun
  rw [hsaw.target.image, hended.image_eq hconduct]

/-- Two builds that are to make the same of the same image end alike when no
device fails, and leave the same image. -/
theorem Plan.build_agrees {σ' τ' : Type} {plan other : Plan} {conduct' : Conduct σ' τ'}
    {data' : ByteArray} {before after : Session σ τ} {before' after' : Session σ' τ'}
    {result result' : Except Error Report}
    (hconduct : conduct.Reliable data) (hdata : before.data = .apart data)
    (hrun : (plan.build conduct).run before = (result, after))
    (hconduct' : conduct'.Reliable data') (hdata' : before'.data = .apart data')
    (hrun' : (other.build conduct').run before' = (result', after'))
    (hfills : plan.fills data before.reader.position = other.fills data' before'.reader.position)
    (himage : before.target.image = before'.target.image) :
    uncounted result = uncounted result' ∧ after.target.image = after'.target.image := by
  constructor
  · rw [Plan.build_result hconduct hdata hrun, Plan.build_result hconduct' hdata' hrun', hfills]
  · rw [Plan.build_leaves hconduct hdata hrun, Plan.build_leaves hconduct' hdata' hrun', hfills,
      himage]

/-! ## Below the limit of a target -/

/-- A willing target takes a piece at once. -/
theorem writeAll_willing (limit : Nat) {piece : ByteArray} (hpiece : 0 < piece.size)
    (image : ByteArray) (position : Nat) (trace : Array Operation) :
    (TargetConduct.willing limit).writeAll piece ⟨image, position, trace, ()⟩ =
      (.ok (), ⟨Image.splice image piece position, position + piece.size,
        trace.push (.write piece.size (.accepted piece)), ()⟩) := by
  have hwhole : piece.extract 0 (0 + min (piece.size - 0) (piece.size - 0)) = piece := by simp
  rw [TargetConduct.writeAll, TargetConduct.writeFrom, if_neg (Nat.not_le.mpr hpiece)]
  show (if min (piece.size - 0) (piece.size - 0) = 0 then _
    else (TargetConduct.willing limit).writeFrom piece _ _) = _
  rw [if_neg (by omega), TargetConduct.writeFrom, if_pos (by omega), hwhole]
  simp only [Nat.sub_zero, Nat.min_self]

section

variable {source : SourceConduct σ} {low high : Nat}

theorem write_below (low high : Nat) (piece : ByteArray) :
    (write ⟨source, .willing low⟩ piece : Step σ Unit Unit) =
      write ⟨source, .willing high⟩ piece := by
  have hwork : (TargetConduct.willing low).writeAll piece =
      (TargetConduct.willing high).writeAll piece := by
    funext ⟨image, position, trace, _⟩
    by_cases hpiece : 0 < piece.size
    · rw [writeAll_willing low hpiece, writeAll_willing high hpiece]
    · rw [TargetConduct.writeAll, TargetConduct.writeAll, TargetConduct.writeFrom,
        TargetConduct.writeFrom, if_pos (by omega), if_pos (by omega)]
  unfold write
  rw [hwork]

theorem seek_below {offset : Nat} (hle : low ≤ high) (hoffset : offset < low) :
    (seek ⟨source, .willing low⟩ offset : Step σ Unit Unit) =
      seek ⟨source, .willing high⟩ offset := by
  have hwork : (TargetConduct.willing low).seek offset =
      (TargetConduct.willing high).seek offset := by
    funext target
    simp [TargetConduct.seek, TargetConduct.willing, hoffset, Nat.lt_of_lt_of_le hoffset hle]
  unfold seek
  rw [hwork]

/-- What comes after the place of a range has to do with the range. -/
theorem bind_place_congr {range : BlockRange} {f g : Span → Step σ τ Unit}
    (h : f ⟨range.offset, range.byteLength⟩ = g ⟨range.offset, range.byteLength⟩) :
    place range >>= f = place range >>= g := by
  unfold place
  split
  · next span hspan =>
    show f span = g span
    rw [BlockRange.span?_eq_some hspan, h]
  · rfl

theorem eraseBytes_below (low high remaining : Nat) :
    (eraseBytes ⟨source, .willing low⟩ remaining : Step σ Unit Unit) =
      eraseBytes ⟨source, .willing high⟩ remaining := by
  induction remaining using Nat.strongRecOn with
  | ind remaining ih =>
    rw [eraseBytes, eraseBytes]
    by_cases hnone : remaining = 0
    · rw [if_pos hnone, if_pos hnone]
    · have hpos := chunkSize_pos
      rw [if_neg hnone, if_neg hnone]
      dsimp only
      rw [write_below low high, ih _ (by omega)]

theorem eraseRanges_below (hle : low ≤ high) {ranges : List BlockRange}
    (hranges : ∀ range ∈ ranges, range.offset < low) (blocks : Nat) :
    (eraseRanges ⟨source, .willing low⟩ blocks ranges : Step σ Unit Nat) =
      eraseRanges ⟨source, .willing high⟩ blocks ranges := by
  induction ranges generalizing blocks with
  | nil => rfl
  | cons range ranges ih =>
    obtain ⟨hrange, hranges⟩ := List.forall_mem_cons.mp hranges
    have hfirst : (eraseRange ⟨source, .willing low⟩ range : Step σ Unit Unit) =
        eraseRange ⟨source, .willing high⟩ range := by
      refine bind_place_congr ?_
      dsimp only
      rw [seek_below hle hrange, eraseBytes_below low high]
    rw [eraseRanges, eraseRanges, hfirst, ih hranges]

theorem copyChunk_below (hle : low ≤ high) (range : BlockRange) {span : Span}
    (hoffset : span.offset < low) (done size : Nat) :
    (copyChunk ⟨source, .willing low⟩ range span done size : Step σ Unit Unit) =
      copyChunk ⟨source, .willing high⟩ range span done size := by
  simp only [copyChunk, seek_below hle hoffset, write_below low high]
  rfl

theorem copyBytes_below (hle : low ≤ high) (range : BlockRange) {span : Span}
    (hoffset : span.offset < low) (done : Nat) :
    (copyBytes ⟨source, .willing low⟩ range span done : Step σ Unit Unit) =
      copyBytes ⟨source, .willing high⟩ range span done := by
  fun_induction copyBytes (⟨source, .willing low⟩ : Conduct σ Unit) range span done with
  | case1 done hfull => rw [copyBytes, if_pos hfull]
  | case2 done hmore ih =>
    conv => rhs; rw [copyBytes, if_neg hmore]
    rw [copyChunk_below hle range hoffset, ih]

theorem copyRanges_below (hle : low ≤ high) {ranges : List BlockRange}
    (hranges : ∀ range ∈ ranges, range.offset < low) (blocks : Nat) :
    (copyRanges ⟨source, .willing low⟩ blocks ranges : Step σ Unit Nat) =
      copyRanges ⟨source, .willing high⟩ blocks ranges := by
  induction ranges generalizing blocks with
  | nil => rfl
  | cons range ranges ih =>
    obtain ⟨hrange, hranges⟩ := List.forall_mem_cons.mp hranges
    have hfirst : (copyRange ⟨source, .willing low⟩ range : Step σ Unit Unit) =
        copyRange ⟨source, .willing high⟩ range := by
      refine bind_place_congr ?_
      dsimp only
      rw [copyBytes_below hle range hrange]
    rw [copyRanges, copyRanges, hfirst, ih hranges]

/-- A willing target may have fewer offsets, if the ranges of the plan lie below
its limit. -/
theorem Plan.build_below {plan : Plan} (hle : low ≤ high)
    (hranges : ∀ range ∈ plan.ranges, range.offset < low) :
    (plan.build ⟨source, .willing low⟩ : Step σ Unit Report) =
      plan.build ⟨source, .willing high⟩ := by
  obtain ⟨herase, hcopy⟩ := List.forall_mem_append.mp hranges
  unfold Plan.build Plan.erase Plan.copy
  rw [eraseRanges_below hle herase, copyRanges_below hle hcopy]
  rfl

end

end BlockTransfer.Build
