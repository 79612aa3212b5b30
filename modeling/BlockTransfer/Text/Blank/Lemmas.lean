/-
BlockTransfer.Text.Blank.Lemmas — what trimming keeps, and which word a line
begins with.

`Padded cs text` and `BeginsWith word line rest` describe texts by their parts:
blanks around something, and blanks, a word and what follows it. Trimming gives
back what blanks were put around (`trim_of_padded`); it is what is left without
the blanks on both sides, whatever stands between them (`Stripped.trim_eq`,
`stripped_trim`). The first word of a line is the one that it begins with
(`nextWord?_eq_some_iff`). Blanks at the end of a line are part of neither
(`trim_append`, `nextWord?_append`).
-/
import BlockTransfer.Text.Blank
import Mathlib.Data.List.Basic
import Mathlib.Data.List.TakeWhile

namespace BlockTransfer.Text

/-- A text without blanks. -/
def IsSolid (cs : List Char) : Prop :=
  ∀ c ∈ cs, isBlank c = false

instance (cs : List Char) : Decidable (IsSolid cs) :=
  List.decidableBAll (fun c => isBlank c = false) cs

/-- Digits are not blank. -/
theorem isBlank_of_isDigit {c : Char} (h : c.isDigit) : isBlank c = false := by
  have hzero : '0'.toNat = 48 := rfl
  have hnine : '9'.toNat = 57 := rfl
  have hrange := Char.isDigit_iff_toNat.mp h
  simp only [isBlank, isListed, blankIntervals, List.any_cons, List.any_nil, Bool.or_eq_false_iff,
    Bool.and_eq_false_iff, decide_eq_false_iff_not, Bool.or_false]
  omega

/-! ## Blanks around a text -/

/-- A text is another one with blanks before and after it, or none. -/
def Padded (cs text : List Char) : Prop :=
  ∃ lead tail, text = lead ++ cs ++ tail ∧ (∀ c ∈ lead, isBlank c) ∧ ∀ c ∈ tail, isBlank c

theorem Padded.refl (cs : List Char) : Padded cs cs :=
  ⟨[], [], by simp, by simp, by simp⟩

theorem trimStart_append {lead cs : List Char} (hlead : ∀ c ∈ lead, isBlank c) :
    trimStart (lead ++ cs) = trimStart cs :=
  List.dropWhile_append_of_pos hlead

theorem trimEnd_append {cs tail : List Char} (htail : ∀ c ∈ tail, isBlank c) :
    trimEnd (cs ++ tail) = trimEnd cs := by
  unfold trimEnd
  rw [List.reverse_append, List.dropWhile_append_of_pos (by simpa using htail)]

theorem trimStart_of_head {c : Char} {cs : List Char} (h : isBlank c = false) :
    trimStart (c :: cs) = c :: cs :=
  List.dropWhile_cons_of_neg (by simp [h])

/-- A text that does not end in a blank has nothing trimmed from its end. -/
theorem trimEnd_of_last {cs : List Char} (h : ∀ c ∈ cs.getLast?, isBlank c = false) :
    trimEnd cs = cs := by
  rw [← List.head?_reverse] at h
  have hkept : cs.reverse.dropWhile isBlank = cs.reverse := by
    cases hreverse : cs.reverse with
    | nil => rfl
    | cons c rest =>
      have hlast : isBlank c = false := h c (by simp [hreverse])
      exact List.dropWhile_cons_of_neg (by simp [hlast])
  rw [trimEnd, hkept, List.reverse_reverse]

/-- What is left of a text without the blanks before and after it. -/
structure Stripped (cs text : List Char) : Prop where
  padded : Padded cs text
  head : ∀ c ∈ cs.head?, isBlank c = false
  last : ∀ c ∈ cs.getLast?, isBlank c = false

theorem Stripped.trim_eq {cs text : List Char} (h : Stripped cs text) : trim text = cs := by
  obtain ⟨lead, tail, rfl, hlead, htail⟩ := h.padded
  rw [trim, List.append_assoc, trimStart_append hlead]
  cases cs with
  | nil =>
    have hnone : trimStart tail = [] := List.dropWhile_eq_nil_iff.mpr htail
    rw [List.nil_append, hnone]
    rfl
  | cons c cs =>
    rw [List.cons_append, trimStart_of_head (h.head c rfl), ← List.cons_append,
      trimEnd_append htail, trimEnd_of_last h.last]

theorem Padded.stripped {cs text : List Char} (h : Padded cs text) (hsolid : IsSolid cs) :
    Stripped cs text where
  padded := h
  head := fun c hc => hsolid c (List.mem_of_mem_head? hc)
  last := fun c hc => hsolid c (List.mem_of_mem_getLast? hc)

/-- Trimming takes away what a text without blanks is padded with. -/
theorem trim_of_padded {cs text : List Char} (h : Padded cs text) (hsolid : IsSolid cs) :
    trim text = cs :=
  (h.stripped hsolid).trim_eq

/-- Blanks at the end of a text are trimmed away with the others. -/
theorem trim_append {cs tail : List Char} (htail : ∀ c ∈ tail, isBlank c) :
    trim (cs ++ tail) = trim cs := by
  have hnone : tail.dropWhile isBlank = [] := List.dropWhile_eq_nil_iff.mpr htail
  unfold trim trimStart
  rw [List.dropWhile_append, hnone]
  split
  · next hempty => rw [List.isEmpty_iff.mp hempty]
  · exact trimEnd_append htail

/-- A text is what is left when its end is trimmed, and blanks. -/
theorem exists_trimEnd (cs : List Char) :
    ∃ tail, cs = trimEnd cs ++ tail ∧ ∀ c ∈ tail, isBlank c := by
  refine ⟨(cs.reverse.takeWhile isBlank).reverse, ?_, fun c hc => ?_⟩
  · rw [trimEnd, ← List.reverse_append, List.takeWhile_append_dropWhile, List.reverse_reverse]
  · exact List.mem_takeWhile_imp (List.mem_reverse.mp hc)

theorem trim_trimEnd (cs : List Char) : trim (trimEnd cs) = trim cs := by
  obtain ⟨tail, hcs, htail⟩ := exists_trimEnd cs
  rw [hcs, trim_append htail, ← hcs]

/-- A text is what is left when it is trimmed, padded. -/
theorem padded_trim (text : List Char) : Padded (trim text) text := by
  obtain ⟨tail, htrimmed, htail⟩ := exists_trimEnd (trimStart text)
  refine ⟨text.takeWhile isBlank, tail, ?_, fun c hc => List.mem_takeWhile_imp hc, htail⟩
  rw [trim, List.append_assoc, ← htrimmed, trimStart, List.takeWhile_append_dropWhile]

/-- Trimming strips a text. -/
theorem stripped_trim (text : List Char) : Stripped (trim text) text where
  padded := padded_trim text
  head := by
    -- The end is trimmed last, and what is left still begins as the whole did.
    obtain ⟨tail, htrimmed, _⟩ := exists_trimEnd (trimStart text)
    have hstart := List.head?_dropWhile_not isBlank text
    rw [← trimStart, htrimmed, ← trim, List.head?_append] at hstart
    intro c hc
    simpa [Option.mem_def.mp hc] using hstart
  last := by
    intro c hc
    have hend := List.head?_dropWhile_not isBlank (trimStart text).reverse
    rw [trim, trimEnd, List.getLast?_reverse] at hc
    simpa [Option.mem_def.mp hc] using hend

/-! ## Words -/

/-- A line begins with a word, blanks may stand before it, and after the word
the line ends or a blank comes. -/
def BeginsWith (word line rest : List Char) : Prop :=
  ∃ lead, line = lead ++ word ++ rest ∧ (∀ c ∈ lead, isBlank c) ∧ ∀ c ∈ rest.head?, isBlank c

/-- What a word is: the first of a line is one, and a line that begins with one
has it as its first. -/
theorem nextWord?_eq_some_iff {line word rest : List Char} :
    nextWord? line = some (word, rest) ↔
      word ≠ [] ∧ IsSolid word ∧ BeginsWith word line rest := by
  constructor
  · intro h
    unfold nextWord? at h
    split at h
    · cases h
    · next c cs hstart =>
      injection h with h
      obtain ⟨rfl, rfl⟩ := Prod.mk.inj h
      have hc : isBlank c = false := by
        have hhead := List.head?_dropWhile_not isBlank line
        rw [← trimStart, hstart] at hhead
        simpa using hhead
      refine ⟨by simp [hc], fun d hd => ?_, line.takeWhile isBlank, ?_, ?_, ?_⟩
      · simpa using List.mem_takeWhile_imp hd
      · rw [List.append_assoc, List.takeWhile_append_dropWhile, ← hstart, trimStart,
          List.takeWhile_append_dropWhile]
      · exact fun d hd => List.mem_takeWhile_imp hd
      · intro d hd
        have hhead := List.head?_dropWhile_not (!isBlank ·) (c :: cs)
        rw [Option.mem_def.mp hd] at hhead
        simpa using hhead
  · rintro ⟨hne, hsolid, lead, rfl, hlead, hrest⟩
    cases word with
    | nil => exact absurd rfl hne
    | cons c word =>
      have hstart : trimStart (lead ++ (c :: word) ++ rest) = c :: (word ++ rest) := by
        rw [List.append_assoc, trimStart_append hlead, List.cons_append]
        exact trimStart_of_head (hsolid c (by simp))
      have hword : ∀ d ∈ c :: word, (!isBlank d) = true := fun d hd => by simp [hsolid d hd]
      -- The word is the longest run without blanks, for a blank comes after it.
      have hstop : rest.takeWhile (!isBlank ·) = [] ∧ rest.dropWhile (!isBlank ·) = rest := by
        cases rest with
        | nil => exact ⟨rfl, rfl⟩
        | cons d rest =>
          have hd : isBlank d = true := hrest d (by simp)
          simp [hd]
      unfold nextWord?
      rw [hstart]
      simp only [← List.cons_append]
      rw [List.takeWhile_append_of_pos hword, List.dropWhile_append_of_pos hword, hstop.1, hstop.2,
        List.append_nil]

/-- A line without words is a line of blanks. -/
theorem nextWord?_eq_none_iff {line : List Char} :
    nextWord? line = none ↔ ∀ c ∈ line, isBlank c := by
  rw [← List.dropWhile_eq_nil_iff, ← trimStart, nextWord?]
  cases trimStart line <;> simp

/-- Blanks at the end of a line belong to what follows its first word. -/
theorem nextWord?_append {line tail : List Char} (htail : ∀ c ∈ tail, isBlank c) :
    nextWord? (line ++ tail) = (nextWord? line).map fun found => (found.1, found.2 ++ tail) := by
  cases hline : nextWord? line with
  | none =>
    have hblank : ∀ c ∈ line, isBlank c := nextWord?_eq_none_iff.mp hline
    exact nextWord?_eq_none_iff.mpr (List.forall_mem_append.mpr ⟨hblank, htail⟩)
  | some found =>
    obtain ⟨word, rest⟩ := found
    obtain ⟨hne, hsolid, lead, rfl, hlead, hrest⟩ := nextWord?_eq_some_iff.mp hline
    refine nextWord?_eq_some_iff.mpr ⟨hne, hsolid, lead, by simp, hlead, ?_⟩
    cases rest with
    | nil => exact fun c hc => htail c (List.mem_of_mem_head? hc)
    | cons c rest => exact hrest

/-- A line begins with one word. -/
theorem BeginsWith.unique {line word rest other more : List Char} (hne : word ≠ [])
    (hsolid : IsSolid word) (h : BeginsWith word line rest) (hne' : other ≠ [])
    (hsolid' : IsSolid other) (h' : BeginsWith other line more) : word = other ∧ rest = more := by
  have hfirst := nextWord?_eq_some_iff.mpr ⟨hne, hsolid, h⟩
  rw [nextWord?_eq_some_iff.mpr ⟨hne', hsolid', h'⟩] at hfirst
  injection hfirst with hfirst
  obtain ⟨rfl, rfl⟩ := Prod.mk.inj hfirst
  exact ⟨rfl, rfl⟩

/-- A blank at the end of a line belongs to what follows its first word. -/
theorem beginsWith_concat_iff {c : Char} (hc : isBlank c) {word line rest : List Char}
    (hne : word ≠ []) (hsolid : IsSolid word) :
    BeginsWith word (line ++ [c]) rest ↔
      ∃ more, rest = more ++ [c] ∧ BeginsWith word line more := by
  constructor
  · rintro ⟨lead, hline, hlead, hrest⟩
    rcases List.eq_nil_or_concat' rest with rfl | ⟨more, d, rfl⟩
    · -- The word would end in the blank.
      obtain ⟨start, last, rfl⟩ := (List.eq_nil_or_concat' word).resolve_left hne
      rw [List.append_nil, ← List.append_assoc] at hline
      have hlast : c = last := List.head_eq_of_cons_eq (List.append_inj' hline rfl).2
      rw [hlast, hsolid last (by simp)] at hc
      cases hc
    · rw [← List.append_assoc] at hline
      obtain ⟨hstart, hlast⟩ := List.append_inj' hline rfl
      obtain rfl : c = d := List.head_eq_of_cons_eq hlast
      refine ⟨more, rfl, lead, hstart, hlead, fun d hd => hrest d ?_⟩
      cases more with
      | nil => cases hd
      | cons first more => exact hd
  · rintro ⟨more, rfl, lead, rfl, hlead, hmore⟩
    refine ⟨lead, by simp, hlead, fun d hd => ?_⟩
    cases more with
    | nil =>
      have hd : d = c := by simpa [eq_comm] using hd
      exact hd ▸ hc
    | cons first more => exact hmore d hd

end BlockTransfer.Text
