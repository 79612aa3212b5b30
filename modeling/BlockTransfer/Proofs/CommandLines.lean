/-
BlockTransfer.Proofs.CommandLines — what the lines of a transfer list give.

A line OPENS a command when its first word is the word of the command, and it
CARRIES a field when the field is the word after that. `Gives command set lines`
says what lines give for a command: the set whose field the first line of the
command carries, or the empty set when there is no such line. Lines before it
that open nothing or the other command, and all lines after it, do not matter.

Reading the lines gives just these sets (`readLines_gives`). The invariant is
`Awaits`: a slot is filled with the set of its command, or it is empty and the
lines to come give that set.
-/
import BlockTransfer.Proofs.RangeEncoding
import BlockTransfer.TransferList.Commands

namespace BlockTransfer

/-- Command words are words, and different. -/
theorem Command.isSolid_word (command : Command) : Text.IsSolid command.word.toList := by
  cases command <;> decide

theorem Command.word_ne_nil (command : Command) : command.word.toList ≠ [] := by
  cases command <;> decide

theorem Command.word_inj {command other : Command}
    (h : command.word.toList = other.word.toList) : command = other := by
  cases command <;> cases other <;> first | rfl | (revert h; decide)

namespace TransferList

/-! ## Lines -/

/-- The first word of a line is the word of the command. -/
def Opens (command : Command) (line : List Char) : Prop :=
  ∃ rest, Text.BeginsWith command.word.toList line rest

/-- The word of a command is the first of a line when the line begins with it. -/
theorem nextWord?_eq_word_iff {command : Command} {line rest : List Char} :
    Text.nextWord? line = some (command.word.toList, rest) ↔
      Text.BeginsWith command.word.toList line rest := by
  rw [Text.nextWord?_eq_some_iff]
  exact ⟨fun h => h.2.2, fun h => ⟨command.word_ne_nil, command.isSolid_word, h⟩⟩

theorem opens_iff {command : Command} {line : List Char} :
    Opens command line ↔ (Text.nextWord? line).map Prod.fst = some command.word.toList := by
  simp [Opens, ← nextWord?_eq_word_iff]

instance (command : Command) (line : List Char) : Decidable (Opens command line) :=
  decidable_of_iff _ opens_iff.symm

/-- A line opens a command, and the word after the word of the command is the
field. -/
def Carries (command : Command) (field line : List Char) : Prop :=
  ∃ rest more, Text.BeginsWith command.word.toList line rest ∧ Text.BeginsWith field rest more

theorem Carries.opens {command : Command} {field line : List Char}
    (h : Carries command field line) : Opens command line := by
  obtain ⟨rest, _, hopens, _⟩ := h
  exact ⟨rest, hopens⟩

/-- A line opens one command. -/
theorem Opens.unique {command other : Command} {line : List Char} (h : Opens command line)
    (hother : Opens other line) : command = other := by
  obtain ⟨_, hword⟩ := h
  obtain ⟨_, hword'⟩ := hother
  exact Command.word_inj (hword.unique command.word_ne_nil command.isSolid_word other.word_ne_nil
    other.isSolid_word hword').1

theorem ofLine?_eq_some_iff {line rest : List Char} {command : Command} :
    Command.ofLine? line = some (command, rest) ↔
      Text.BeginsWith command.word.toList line rest := by
  rw [← nextWord?_eq_word_iff]
  unfold Command.ofLine?
  cases hnext : Text.nextWord? line with
  | none => simp
  | some pair =>
    obtain ⟨word, more⟩ := pair
    have hdistinct : Command.erase.word.toList ≠ Command.new.word.toList := by decide
    simp only [Option.some.injEq, Prod.mk.injEq]
    cases command <;> split <;> simp_all [eq_comm]

theorem ofLine?_eq_none {line : List Char} (h : ∀ command, ¬ Opens command line) :
    Command.ofLine? line = none := by
  cases hline : Command.ofLine? line with
  | none => rfl
  | some pair => exact absurd ⟨pair.2, ofLine?_eq_some_iff.mp hline⟩ (h pair.1)

/-! ## Reading one line -/

theorem Slots.get?_put (slots : Slots) (set : RangeSet) (command other : Command) :
    (slots.put set command).get? other =
      if other = command then some set else slots.get? other := by
  cases command <;> cases other <;> rfl

/-- A field is the first word of what follows the word of a command; what comes
after the field does not matter. -/
theorem readField_of_beginsWith {command : Command} {line : Nat} {field rest more : List Char}
    (hne : field ≠ []) (hsolid : Text.IsSolid field) (h : Text.BeginsWith field rest more) :
    (readField command line rest).result = (RangeSet.ofField (String.ofList field)).result := by
  have hnext : Text.nextWord? rest = some (field, more) :=
    Text.nextWord?_eq_some_iff.mpr ⟨hne, hsolid, h⟩
  simp only [readField, hnext, Logged.result_bind, Logged.result_pure]
  cases (RangeSet.ofField (String.ofList field)).result <;> rfl

/-- A line that opens no command is passed over. -/
theorem readLine_of_not_opens {slots : Slots} {line : Nat} {written : List Char}
    (h : ∀ command, ¬ Opens command written) :
    (readLine slots line written).result = .ok slots := by
  simp only [readLine, ofLine?_eq_none h]
  rfl

/-- So is one that opens a command whose slot is filled, whatever follows. -/
theorem readLine_of_filled {slots : Slots} {line : Nat} {written : List Char} {command : Command}
    {set : RangeSet} (hopens : Opens command written) (hslot : slots.get? command = some set) :
    (readLine slots line written).result = .ok slots := by
  obtain ⟨rest, hword⟩ := hopens
  simp only [readLine, ofLine?_eq_some_iff.mpr hword, hslot]
  rfl

/-- The first line that opens a command fills its slot. -/
theorem readLine_of_carries {slots : Slots} {line : Nat} {written field : List Char}
    {command : Command} {set : RangeSet} (hne : field ≠ []) (hsolid : Text.IsSolid field)
    (hcarries : Carries command field written) (hslot : slots.get? command = none)
    (hread : (RangeSet.ofField (String.ofList field)).result = .ok set) :
    (readLine slots line written).result = .ok (slots.put set command) := by
  obtain ⟨rest, more, hword, hfield⟩ := hcarries
  have hresult : (readField command line rest).result = .ok set := by
    rw [readField_of_beginsWith hne hsolid hfield, hread]
  simp only [readLine, ofLine?_eq_some_iff.mpr hword, hslot, Logged.result_bind, hresult,
    Except.bind, Logged.result_pure]

/-! ## Reading the lines -/

/-- What lines give for a command: the first of them that opens it carries the
field of the set; or none opens it and the set is empty. -/
inductive Gives (command : Command) (set : RangeSet) : List (List Char) → Prop
  | found {line lines} (hcarries : Carries command set.toField.toList line) :
      Gives command set (line :: lines)
  | later {line lines} (hother : ¬ Opens command line) (hlater : Gives command set lines) :
      Gives command set (line :: lines)
  | absent (hempty : set = .empty) : Gives command set []

/-- The slot of a command is filled with its set, or it is empty and the lines
that are to come give the set. -/
def Awaits (slots : Slots) (command : Command) (set : RangeSet) (lines : List (List Char)) :
    Prop :=
  slots.get? command = some set ∨ (slots.get? command = none ∧ Gives command set lines)

/-- The encoding of a set is one word. -/
theorem isSolid_toField (set : RangeSet) :
    set.toField.toList ≠ [] ∧ Text.IsSolid set.toField.toList := by
  have hplain := RangeSet.isPlain_tokens set
  constructor
  · intro hnil
    have htokens := RangeSet.splitAt_of_isPlain (RangeSet.toList_toField set) hplain
    rw [hnil, Text.splitAt_nil] at htokens
    exact (hplain _ (by simp)).ne_nil (List.head_eq_of_cons_eq htokens).symm
  · intro c hc
    rw [RangeSet.toList_toField] at hc
    obtain rfl | ⟨token, hmem, hc⟩ := Text.mem_joinWith hc
    · decide
    · exact Text.isBlank_of_isDigit ((hplain token hmem).digits c hc)

section

variable {slots : Slots} {command : Command} {set : RangeSet} {line : List Char}
  {lines : List (List Char)}

/-- A line that does not open a command changes nothing for it. -/
theorem Awaits.of_not_opens (h : Awaits slots command set (line :: lines))
    (hopens : ¬ Opens command line) : Awaits slots command set lines := by
  obtain hfilled | ⟨hnone, hgives⟩ := h
  · exact .inl hfilled
  · cases hgives with
    | found hcarries => exact absurd hcarries.opens hopens
    | later _ hlater => exact .inr ⟨hnone, hlater⟩

/-- Filling the slot of one command changes nothing for the other. -/
theorem Awaits.put {other : Command} {filled : RangeSet} (h : Awaits slots command set lines)
    (hother : command ≠ other) : Awaits (slots.put filled other) command set lines := by
  unfold Awaits at h ⊢
  rwa [Slots.get?_put, if_neg hother]

end

/-- One line keeps what every command awaits. -/
theorem readLine_awaits {sets : Command → RangeSet} {slots : Slots} {line : List Char}
    {lines : List (List Char)} (number : Nat)
    (hcount : ∀ command, (sets command).count < rangeLimit)
    (h : ∀ command, Awaits slots command (sets command) (line :: lines)) :
    ∃ next, (readLine slots number line).result = .ok next ∧
      ∀ command, Awaits next command (sets command) lines := by
  by_cases hopens : ∃ command, Opens command line
  · obtain ⟨command, hopens⟩ := hopens
    have hothers : ∀ other, other ≠ command → Awaits slots other (sets other) lines :=
      fun other hne => (h other).of_not_opens fun hother => hne (hother.unique hopens)
    obtain hfilled | ⟨hnone, hgives⟩ := h command
    · refine ⟨slots, readLine_of_filled hopens hfilled, fun other => ?_⟩
      by_cases hsame : other = command
      · exact hsame ▸ .inl hfilled
      · exact hothers other hsame
    · cases hgives with
      | later hother _ => exact absurd hopens hother
      | found hcarries =>
        obtain ⟨hne, hsolid⟩ := isSolid_toField (sets command)
        have hread := RangeSet.ofField_toField (hcount command)
        rw [← String.ofList_toList (s := (sets command).toField)] at hread
        refine ⟨_, readLine_of_carries hne hsolid hcarries hnone hread, fun other => ?_⟩
        by_cases hsame : other = command
        · subst hsame
          exact .inl (by rw [Slots.get?_put, if_pos rfl])
        · exact (hothers other hsame).put hsame
  · exact ⟨slots, readLine_of_not_opens (not_exists.mp hopens), fun command =>
      (h command).of_not_opens (not_exists.mp hopens command)⟩

/-- When all lines are read, every slot that is filled has the set of its
command, and the set of every other command is empty. -/
theorem readLines_gives {sets : Command → RangeSet} {slots : Slots} {lines : List (List Char)}
    (number : Nat) (hcount : ∀ command, (sets command).count < rangeLimit)
    (h : ∀ command, Awaits slots command (sets command) lines) :
    ∃ final, (readLines slots number lines).result = .ok final ∧
      ∀ command, (final.get? command).getD .empty = sets command := by
  induction lines generalizing slots number with
  | nil =>
    refine ⟨slots, rfl, fun command => ?_⟩
    obtain hfilled | ⟨hnone, hgives⟩ := h command
    · rw [hfilled, Option.getD_some]
    · cases hgives with
      | absent hempty => rw [hnone, hempty, Option.getD_none]
  | cons line lines ih =>
    obtain ⟨next, hline, hnext⟩ := readLine_awaits number hcount h
    obtain ⟨final, hlines, hfinal⟩ := ih (number + 1) hnext
    refine ⟨final, ?_, hfinal⟩
    simp only [readLines, Logged.result_bind, hline, Except.bind, hlines]

/-! ## Line ends -/

section

variable {command : Command} {word line rest : List Char}

/-- The carriage return that a line end may have is not a part of any word. -/
theorem exists_beginsWith_dropReturn (hne : word ≠ []) (hsolid : Text.IsSolid word)
    (h : Text.BeginsWith word line rest) :
    ∃ more, Text.BeginsWith word (Text.dropReturn line) more ∧
      (rest = more ∨ rest = more ++ ['\r']) := by
  obtain hsame | hreturn := Text.dropReturn_cases line
  · exact ⟨rest, hsame.symm ▸ h, .inl rfl⟩
  · rw [hreturn] at h
    obtain ⟨more, hrest, hmore⟩ := (Text.beginsWith_concat_iff (by decide) hne hsolid).mp h
    exact ⟨more, hmore, .inr hrest⟩

theorem opens_dropReturn_iff : Opens command (Text.dropReturn line) ↔ Opens command line := by
  constructor
  · rintro ⟨rest, h⟩
    obtain hsame | hreturn := Text.dropReturn_cases line
    · exact ⟨rest, hsame ▸ h⟩
    · refine ⟨rest ++ ['\r'], ?_⟩
      rw [hreturn]
      exact (Text.beginsWith_concat_iff (by decide) command.word_ne_nil
        command.isSolid_word).mpr ⟨rest, rfl, h⟩
  · rintro ⟨rest, h⟩
    obtain ⟨more, hmore, _⟩ :=
      exists_beginsWith_dropReturn command.word_ne_nil command.isSolid_word h
    exact ⟨more, hmore⟩

theorem Carries.dropReturn {field : List Char} (hne : field ≠ []) (hsolid : Text.IsSolid field)
    (h : Carries command field line) : Carries command field (Text.dropReturn line) := by
  obtain ⟨rest, more, hword, hfield⟩ := h
  obtain ⟨short, hshort, rfl | rfl⟩ :=
    exists_beginsWith_dropReturn command.word_ne_nil command.isSolid_word hword
  · exact ⟨_, more, hshort, hfield⟩
  · obtain ⟨more', _, hmore'⟩ := (Text.beginsWith_concat_iff (by decide) hne hsolid).mp hfield
    exact ⟨short, more', hshort, hmore'⟩

end

/-- An empty line opens nothing. -/
theorem not_opens_nil (command : Command) : ¬ Opens command [] := by
  rintro ⟨rest, lead, hline, _⟩
  have hword : command.word.toList = [] := by simp_all
  exact command.word_ne_nil hword

/-- What the pieces of a text give, the lines made of them give. -/
theorem Gives.finish {command : Command} {set : RangeSet} {pieces : List (List Char)}
    (h : Gives command set pieces) : Gives command set (Text.finish pieces) := by
  obtain ⟨hne, hsolid⟩ := isSolid_toField set
  induction h with
  | @found line lines hcarries =>
    cases lines with
    | nil =>
      have hline : line.isEmpty = false := by
        cases line with
        | nil => exact absurd hcarries.opens (not_opens_nil command)
        | cons c cs => rfl
      simp only [Text.finish, hline]
      exact .found hcarries
    | cons more lines => exact .found (hcarries.dropReturn hne hsolid)
  | @later line lines hother hlater ih =>
    cases lines with
    | nil =>
      cases hlater with
      | absent hempty =>
        cases line with
        | nil => exact .absent hempty
        | cons c cs => exact .later hother (.absent hempty)
    | cons more lines => exact .later (mt opens_dropReturn_iff.mp hother) ih
  | absent hempty => exact .absent hempty

end TransferList

end BlockTransfer
