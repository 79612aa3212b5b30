/-
BlockTransfer.Proofs.Course — the ways in which work on fills can go.

The relations here say, for a conduct, which operations a target may see while
fills are made and how that may end; `Proofs.Passes` shows that the passes work
this way. There is one relation for each level of the loops:

* `Pouring`: the bytes of one fill, chunk by chunk, once the target has moved
  to the range;
* `Filled`: one fill, from the check of its range on;
* `Course`: a list of fills in order.

Each records where it stopped. `Course.image_of_ok` says what a course that
goes through makes of an image, and `Course.exists_of_error` takes one that
fails apart, into the fills that were made and the one that was not.
-/
import BlockTransfer.Build.Passes
import BlockTransfer.Proofs.Devices
import BlockTransfer.Proofs.Fill

namespace BlockTransfer.Build

variable {σ τ : Type}

/-! ## One fill, chunk by chunk -/

/-- Why a chunk is missing: the data could not be read, or they end within the
chunk. A reliable source delivers all that there is. -/
inductive Fill.Lacks (conduct : Conduct σ τ) (data : ByteArray) : Fill → Nat → Error → Prop
  | unread {range bytes fits done fault} (hconduct : ¬ conduct.source.Reliable data) :
      Fill.Lacks conduct data (.data range bytes fits) done (.io fault)
  | short {range bytes fits done available} (hleast : done ≤ available)
      (hmost : available < done + chunkAt range.byteLength done)
      (hthere : available ≤ bytes.size)
      (hall : conduct.source.Reliable data → available = bytes.size) :
      Fill.Lacks conduct data (.data range bytes fits) done
        (.build (.shortRead range range.byteLength available))

/-- The writes with which the bytes of a fill get into a target from some byte
on, how that ends, and where it stops. -/
inductive Pouring (conduct : Conduct σ τ) (data : ByteArray) (fill : Fill) :
    Nat → List Operation → Except Error Unit → Nat → Prop
  | full {done} (hdone : fill.range.byteLength ≤ done) :
      Pouring conduct data fill done [] (.ok ()) done
  | chunk {done ops reached rest result stop} (hdone : done < fill.range.byteLength)
      (hthere : done + chunkAt fill.range.byteLength done ≤ fill.bytes.size)
      (hpiece : Writing conduct.target
        (fill.bytes.extract done (done + chunkAt fill.range.byteLength done)) 0 ops (.ok ())
        reached)
      (hrest : Pouring conduct data fill (done + chunkAt fill.range.byteLength done) rest result
        stop) :
      Pouring conduct data fill done (ops ++ rest) result stop
  | broken {done ops fault reached} (hdone : done < fill.range.byteLength)
      (hthere : done + chunkAt fill.range.byteLength done ≤ fill.bytes.size)
      (hpiece : Writing conduct.target
        (fill.bytes.extract done (done + chunkAt fill.range.byteLength done)) 0 ops
        (.error fault) reached) :
      Pouring conduct data fill done ops (.error (.io fault)) (done + reached)
  | lacking {done error} (hpos : 0 < done) (hdone : done < fill.range.byteLength)
      (hlacks : fill.Lacks conduct data done error) :
      Pouring conduct data fill done [] (.error error) done

namespace Pouring

variable {conduct : Conduct σ τ} {data : ByteArray} {fill : Fill} {done stop : Nat}
  {ops : List Operation} {result : Except Error Unit}

theorem isWrite (h : Pouring conduct data fill done ops result stop) :
    ∀ op ∈ ops, op.isWrite := by
  induction h with
  | full _ => simp
  | chunk _ _ hpiece _ ih =>
    intro op hop
    rcases List.mem_append.mp hop with hop | hop
    · exact hpiece.isWrite op hop
    · exact ih op hop
  | broken _ _ hpiece => exact hpiece.isWrite
  | lacking _ _ _ => simp

theorem le_stop (h : Pouring conduct data fill done ops result stop) : done ≤ stop := by
  induction h with
  | full _ => exact Nat.le_refl _
  | chunk _ _ _ _ ih => omega
  | broken _ _ _ => omega
  | lacking _ _ _ => exact Nat.le_refl _

/-- Past the last byte nothing is written, and nothing can go wrong. -/
theorem of_le (h : Pouring conduct data fill done ops result stop)
    (hdone : fill.range.byteLength ≤ done) : ops = [] ∧ result = .ok () := by
  cases h with
  | full _ => exact ⟨rfl, rfl⟩
  | chunk hless _ _ _ => omega
  | broken hless _ _ => omega
  | lacking _ hless _ => omega

/-- What is put into the image is there. -/
theorem stop_le (h : Pouring conduct data fill done ops result stop)
    (hdone : done ≤ fill.bytes.size) : stop ≤ fill.bytes.size := by
  induction h with
  | full _ => exact hdone
  | chunk _ hthere _ _ ih => exact ih hthere
  | broken _ hthere hpiece =>
    have hreached := hpiece.reached_le (Nat.zero_le _)
    rw [ByteArray.size_extract] at hreached
    omega
  | lacking _ _ _ => exact hdone

theorem acceptedBytes_eq (h : Pouring conduct data fill done ops result stop) :
    acceptedBytes ops = fill.bytes.extract done stop := by
  induction h with
  | full _ => simp [acceptedBytes]
  | @chunk done ops reached rest result stop hdone hthere hpiece hrest ih =>
    have hstop := hrest.le_stop
    rw [acceptedBytes_append, ih, hpiece.acceptedBytes_of_ok,
      ByteArray.extract_append_extract, Nat.min_eq_left (by omega), Nat.max_eq_right hstop]
  | @broken done ops fault reached hdone hthere hpiece =>
    have hreached := hpiece.reached_le (Nat.zero_le _)
    rw [ByteArray.size_extract] at hreached
    rw [hpiece.acceptedBytes_eq, ByteArray.extract_extract, Nat.add_zero,
      Nat.min_eq_left (by omega)]
  | lacking _ _ _ => simp [acceptedBytes]

/-- All bytes of the range are there when nothing went wrong. -/
theorem stop_of_ok (h : Pouring conduct data fill done ops result stop)
    (hdone : done ≤ fill.range.byteLength) (hresult : result = .ok ()) :
    stop = fill.range.byteLength := by
  induction h with
  | full hfull => omega
  | chunk hless _ _ _ ih => exact ih (add_chunkAt_le hless) hresult
  | broken _ _ _ => cases hresult
  | lacking _ _ _ => cases hresult

/-- Either a device failed, or a whole number of chunks was moved and the next
one is missing. -/
theorem error_cases (h : Pouring conduct data fill done ops result stop)
    (hdone : chunkSize ∣ done) {error : Error} (hresult : result = .error error) :
    (∃ fault, error = .io fault ∧ ¬ conduct.Reliable data) ∨
      (0 < stop ∧ chunkSize ∣ stop ∧ stop < fill.range.byteLength ∧
        fill.Lacks conduct data stop error) := by
  induction h with
  | full _ => cases hresult
  | @chunk done ops reached rest result stop hless hthere hpiece hrest ih =>
    by_cases hmore : done + chunkAt fill.range.byteLength done < fill.range.byteLength
    · refine ih ?_ hresult
      rw [chunkAt_eq hmore]
      exact Nat.dvd_add hdone (Nat.dvd_refl _)
    · rw [(hrest.of_le (Nat.not_lt.mp hmore)).2] at hresult
      cases hresult
  | @broken done ops fault reached hless hthere hpiece =>
    injection hresult with hresult
    refine .inl ⟨fault, hresult.symm, fun hreliable => ?_⟩
    exact hpiece.not_reliable rfl hreliable.target
  | lacking hpos hless hlacks =>
    injection hresult with hresult
    exact .inr ⟨hpos, hdone, hless, hresult ▸ hlacks⟩

end Pouring

/-! ## One fill -/

/-- Whether the target moves to the range of a fill: for zeros it always does,
for data only when there are any to write. -/
def Fill.Seeks : Fill → Prop
  | .zeros _ => True
  | .data range _ _ => 0 < range.byteLength

/-- The operations with which a fill is made, how that ends, and how many of
its bytes are in the image then. -/
inductive Filled (conduct : Conduct σ τ) (data : ByteArray) (fill : Fill) :
    List Operation → Except Error Unit → Nat → Prop
  | misplaced (hspan : fill.range.span? = none) :
      Filled conduct data fill [] (.error (.build (.rangeOverflow fill.range))) 0
  | idle (hspan : fill.range.span? ≠ none) (hidle : ¬ fill.Seeks) :
      Filled conduct data fill [] (.ok ()) 0
  | lacking {error} (hspan : fill.range.span? ≠ none) (hless : 0 < fill.range.byteLength)
      (hlacks : fill.Lacks conduct data 0 error) :
      Filled conduct data fill [] (.error error) 0
  | unmoved {fault} (hspan : fill.range.span? ≠ none) (hseeks : fill.Seeks)
      (hconduct : ¬ conduct.Reliable data) :
      Filled conduct data fill [.seek fill.offset (some fault)] (.error (.io fault)) 0
  | poured {ops result stop} (hspan : fill.range.span? ≠ none) (hseeks : fill.Seeks)
      (hpouring : Pouring conduct data fill 0 ops result stop) :
      Filled conduct data fill (.seek fill.offset none :: ops) result stop

/-- What is known when the data end within a range: the whole chunks that there
were have been written, and without one the target has seen nothing. -/
structure Fill.RanShort (conduct : Conduct σ τ) (data : ByteArray) (fill : Fill)
    (ops : List Operation) (available stop : Nat) : Prop where
  short : available < fill.range.byteLength
  there : available ≤ fill.bytes.size
  all : conduct.Reliable data → available = fill.bytes.size
  stop_eq : stop = available / chunkSize * chunkSize
  unseen : stop = 0 → ops = []

/-- A missing chunk, seen from the data that there are for the whole range. -/
theorem Fill.Lacks.error_cases {conduct : Conduct σ τ} {data : ByteArray} {fill : Fill}
    {done : Nat} {error : Error} (h : fill.Lacks conduct data done error)
    (hdone : chunkSize ∣ done) (hless : done < fill.range.byteLength) {ops : List Operation}
    (hops : done = 0 → ops = []) :
    (∃ fault, error = .io fault ∧ ¬ conduct.Reliable data) ∨
      ∃ available, error = .build (.shortRead fill.range fill.range.byteLength available) ∧
        fill.RanShort conduct data ops available done := by
  cases h with
  | @unread range bytes fits done fault hconduct =>
    exact .inl ⟨fault, rfl, fun hreliable => hconduct hreliable.source⟩
  | @short range bytes fits done available hleast hmost hthere hall =>
    refine .inr ⟨available, rfl, ?_, hthere, fun hreliable => hall hreliable.source, ?_, hops⟩
    · exact Nat.lt_of_lt_of_le hmost (add_chunkAt_le hless)
    · obtain ⟨chunks, rfl⟩ := hdone
      have hchunk : available < chunkSize * chunks + chunkSize :=
        Nat.lt_of_lt_of_le hmost (Nat.add_le_add_left (Nat.min_le_right _ _) _)
      rw [Nat.mul_comm, Nat.div_eq_of_lt_le (k := chunks) (by rw [Nat.mul_comm]; exact hleast)
        (by rw [Nat.succ_mul, Nat.mul_comm]; exact hchunk)]

namespace Filled

variable {conduct : Conduct σ τ} {data : ByteArray} {fill : Fill} {stop : Nat}
  {ops : List Operation} {result : Except Error Unit}

/-- The image gets the first bytes of the fill, where its range begins. -/
theorem image (h : Filled conduct data fill ops result stop) (image : ByteArray)
    (position : Nat) :
    (replay ops (image, position)).1 =
      Image.splice image (fill.bytes.extract 0 stop) fill.offset := by
  cases h with
  | misplaced _ => simp [replay, Image.splice_of_size_eq_zero]
  | idle _ _ => simp [replay, Image.splice_of_size_eq_zero]
  | lacking _ _ _ => simp [replay, Image.splice_of_size_eq_zero]
  | unmoved _ _ _ => simp [replay, Operation.perform, Image.splice_of_size_eq_zero]
  | poured _ _ hpouring =>
    rw [← List.singleton_append, replay_append, replay_writes hpouring.isWrite,
      hpouring.acceptedBytes_eq]
    rfl

/-- The target accepts the first bytes of the fill. -/
theorem acceptedBytes_eq (h : Filled conduct data fill ops result stop) :
    acceptedBytes ops = fill.bytes.extract 0 stop := by
  cases h with
  | poured _ _ hpouring =>
    have hseek : (Operation.seek fill.offset none).accepted = ByteArray.empty := rfl
    rw [acceptedBytes, hseek, ByteArray.empty_append, hpouring.acceptedBytes_eq]
  | _ => simp [acceptedBytes, Operation.accepted]

theorem stop_le (h : Filled conduct data fill ops result stop) : stop ≤ fill.bytes.size := by
  cases h with
  | poured _ _ hpouring => exact hpouring.stop_le (Nat.zero_le _)
  | _ => exact Nat.zero_le _

/-- Whatever becomes of a fill, nothing changes outside its range. -/
theorem within (h : Filled conduct data fill ops result stop) (image : ByteArray)
    (position : Nat) : Within [fill.range] image (replay ops (image, position)).1 := by
  rw [h.image]
  refine .splice (Nat.le_refl _) ?_ image
  have hsize := fill.size_bytes_le
  have hoffset : fill.offset = fill.range.offset := rfl
  rw [ByteArray.size_extract]
  omega

theorem span?_of_ok (h : Filled conduct data fill ops (.ok ()) stop) :
    fill.range.span? ≠ none := by
  cases h with
  | idle hspan _ => exact hspan
  | poured hspan _ _ => exact hspan

theorem stop_of_ok (h : Filled conduct data fill ops (.ok ()) stop) :
    stop = fill.range.byteLength := by
  cases h with
  | idle _ hidle =>
    cases fill with
    | zeros range => exact absurd trivial hidle
    | data range bytes fits => exact (Nat.eq_zero_of_not_pos hidle).symm
  | poured _ _ hpouring => exact hpouring.stop_of_ok (Nat.zero_le _) rfl

/-- A fill that was made is full. -/
theorem full_of_ok (h : Filled conduct data fill ops (.ok ()) stop) : fill.Full :=
  Nat.le_antisymm fill.size_bytes_le (h.stop_of_ok ▸ h.stop_le)

theorem acceptedBytes_of_ok (h : Filled conduct data fill ops (.ok ()) stop) :
    acceptedBytes ops = fill.bytes := by
  rw [h.acceptedBytes_eq, h.stop_of_ok, ← h.full_of_ok, ByteArray.extract_zero_size]

theorem image_of_ok (h : Filled conduct data fill ops (.ok ()) stop) (image : ByteArray)
    (position : Nat) :
    (replay ops (image, position)).1 = Image.splice image fill.bytes fill.offset := by
  rw [h.image, h.stop_of_ok, ← h.full_of_ok, ByteArray.extract_zero_size]

/-- Nothing is written into an empty range. -/
theorem isWrite_of_empty (h : Filled conduct data fill ops result stop)
    (hempty : fill.range.length = 0) : ∀ op ∈ ops, op.isWrite = false := by
  cases h with
  | poured _ _ hpouring =>
    have hlength : fill.range.byteLength = 0 := fill.range.byteLength_eq_zero_iff.mpr hempty
    rw [(hpouring.of_le (Nat.le_of_eq hlength)).1]
    simp [Operation.isWrite]
  | unmoved _ _ _ => simp [Operation.isWrite]
  | _ => simp

/-- The three ways in which a fill can fail: its range has no place in bytes, a
device fails, or the data end. -/
theorem error_cases {error : Error} (h : Filled conduct data fill ops (.error error) stop) :
    (error = .build (.rangeOverflow fill.range) ∧ fill.range.span? = none ∧ stop = 0 ∧ ops = []) ∨
      (∃ fault, error = .io fault ∧ ¬ conduct.Reliable data) ∨
      ∃ available, error = .build (.shortRead fill.range fill.range.byteLength available) ∧
        fill.range.span? ≠ none ∧ fill.RanShort conduct data ops available stop := by
  cases h with
  | misplaced hspan => exact .inl ⟨rfl, hspan, rfl, rfl⟩
  | @lacking error hspan hless hlacks =>
    have hunseen : 0 = 0 → ([] : List Operation) = [] := fun _ => rfl
    rcases hlacks.error_cases (Nat.dvd_zero _) hless hunseen with
      hio | ⟨available, herror, hshort⟩
    · exact .inr (.inl hio)
    · exact .inr (.inr ⟨available, herror, hspan, hshort⟩)
  | @unmoved fault hspan hseeks hconduct => exact .inr (.inl ⟨fault, rfl, hconduct⟩)
  | poured hspan hseeks hpouring =>
    rcases hpouring.error_cases (Nat.dvd_zero _) rfl with hio | ⟨hpos, hdvd, hless, hlacks⟩
    · exact .inr (.inl hio)
    rcases hlacks.error_cases hdvd hless (fun hzero => absurd hzero (Nat.ne_of_gt hpos)) with
      hio | ⟨available, herror, hshort⟩
    · exact .inr (.inl hio)
    · exact .inr (.inr ⟨available, herror, hspan, hshort⟩)

end Filled

/-! ## Fills in order -/

/-- The operations with which fills are made one after the other, up to the
first that fails. -/
inductive Course (conduct : Conduct σ τ) (data : ByteArray) :
    List Fill → List Operation → Except Error Unit → Prop
  | nil : Course conduct data [] [] (.ok ())
  | cons {fill fills ops rest result stop} (hfill : Filled conduct data fill ops (.ok ()) stop)
      (hrest : Course conduct data fills rest result) :
      Course conduct data (fill :: fills) (ops ++ rest) result
  | stopped {fill fills ops error stop}
      (hfill : Filled conduct data fill ops (.error error) stop) :
      Course conduct data (fill :: fills) ops (.error error)

namespace Course

variable {conduct : Conduct σ τ} {data : ByteArray} {fills more : List Fill}
  {ops rest : List Operation} {result : Except Error Unit}

/-- A course goes on where another one has ended well. -/
theorem append (hfirst : Course conduct data fills ops (.ok ()))
    (hsecond : Course conduct data more rest result) :
    Course conduct data (fills ++ more) (ops ++ rest) result := by
  generalize hok : (Except.ok () : Except Error Unit) = first at hfirst
  induction hfirst with
  | nil => exact hsecond
  | cons hfill _ ih =>
    rw [List.cons_append, List.append_assoc]
    exact .cons hfill (ih hok)
  | stopped _ => cases hok

/-- A course that has failed does not get to what would come next. -/
theorem append_of_error {error : Error} (h : Course conduct data fills ops (.error error))
    (more : List Fill) : Course conduct data (fills ++ more) ops (.error error) := by
  generalize herror : (Except.error error : Except Error Unit) = result at h
  induction h with
  | nil => cases herror
  | cons hfill _ ih => exact .cons hfill (ih herror)
  | stopped hfill => exact .stopped hfill

theorem full_of_ok (h : Course conduct data fills ops (.ok ())) : ∀ fill ∈ fills, fill.Full := by
  generalize hok : (Except.ok () : Except Error Unit) = result at h
  induction h with
  | nil => simp
  | cons hfill _ ih =>
    intro other hmem
    rcases List.mem_cons.mp hmem with rfl | hmem
    · exact hfill.full_of_ok
    · exact ih hok other hmem
  | stopped _ => cases hok

theorem span?_of_ok (h : Course conduct data fills ops (.ok ())) :
    ∀ fill ∈ fills, fill.range.span? ≠ none := by
  generalize hok : (Except.ok () : Except Error Unit) = result at h
  induction h with
  | nil => simp
  | cons hfill _ ih =>
    intro other hmem
    rcases List.mem_cons.mp hmem with rfl | hmem
    · exact hfill.span?_of_ok
    · exact ih hok other hmem
  | stopped _ => cases hok

/-- A course that goes through has its part for each of its fills. -/
theorem exists_of_ok {earlier later : List Fill} {fill : Fill}
    (h : Course conduct data (earlier ++ fill :: later) ops (.ok ())) :
    ∃ first own last stop, ops = first ++ own ++ last ∧
      Course conduct data earlier first (.ok ()) ∧ Filled conduct data fill own (.ok ()) stop ∧
      Course conduct data later last (.ok ()) := by
  induction earlier generalizing ops with
  | nil =>
    cases h with
    | @cons _ _ own last _ stop hfill hrest => exact ⟨[], own, last, stop, rfl, .nil, hfill, hrest⟩
  | cons other earlier ih =>
    cases h with
    | @cons _ _ start rest _ _ hother hrest =>
      obtain ⟨first, own, last, stop, rfl, hearlier, hfill, hlater⟩ := ih hrest
      exact ⟨start ++ first, own, last, stop, by simp, .cons hother hearlier, hfill, hlater⟩

/-- A course that goes through puts all fills into the image. -/
theorem image_of_ok (h : Course conduct data fills ops (.ok ())) (image : ByteArray)
    (position : Nat) : (replay ops (image, position)).1 = applyFills image fills := by
  generalize hok : (Except.ok () : Except Error Unit) = result at h
  induction h generalizing image position with
  | nil => rfl
  | @cons fill fills ops rest result stop hfill hrest ih =>
    rw [replay_append, applyFills_cons, ← hfill.image_of_ok image position]
    exact ih _ _ hok
  | stopped _ => cases hok

/-- Whatever becomes of a course, nothing changes outside its ranges. -/
theorem within (h : Course conduct data fills ops result) (image : ByteArray) (position : Nat) :
    Within (fills.map Fill.range) image (replay ops (image, position)).1 := by
  induction h generalizing image position with
  | nil => exact .refl _ image
  | @cons fill fills ops rest result stop hfill _ ih =>
    rw [replay_append]
    exact ((hfill.within image position).append_right _).trans ((ih _ _).append_left [fill.range])
  | stopped hfill => exact (hfill.within image position).append_right _

/-- A course that fails has made some fills, and has failed at the next. -/
theorem exists_of_error {error : Error} (h : Course conduct data fills ops (.error error)) :
    ∃ made next later madeOps nextOps stop, fills = made ++ next :: later ∧
      ops = madeOps ++ nextOps ∧ Course conduct data made madeOps (.ok ()) ∧
      Filled conduct data next nextOps (.error error) stop := by
  generalize herror : (Except.error error : Except Error Unit) = result at h
  induction h with
  | nil => cases herror
  | @cons fill fills ops rest result stop hfill hrest ih =>
    obtain ⟨made, next, later, madeOps, nextOps, stop, hfills, hops, hmade, hnext⟩ := ih herror
    refine ⟨fill :: made, next, later, ops ++ madeOps, nextOps, stop, ?_, ?_, .cons hfill hmade,
      hnext⟩
    · rw [hfills, List.cons_append]
    · rw [hops, List.append_assoc]
  | @stopped fill fills ops error stop hfill =>
    injection herror with herror
    subst herror
    exact ⟨[], fill, fills, [], ops, stop, rfl, rfl, .nil, hfill⟩

end Course

end BlockTransfer.Build
