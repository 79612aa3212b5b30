/-
BlockTransfer.Proofs.FirstCommand — the first line of each command decides.

Of the lines after the header only two matter, the first that opens the erase
command and the first that opens the new command (`FirstOf`). Each of them says
something for its command (`Says`): the result of reading its field, or that the
field is missing. `Decided lines result` puts this together. When both say a set
these are the sets of the list, and a command without a line has the empty set;
otherwise the one that comes first of those with a fault gives the error.

Reading the commands does just that (`ofLines_result_iff`), so two lists with
the same first lines read the same (`ofLines_congr`). The invariant of the loop
is `Met`: a slot is filled when the first line of its command was met, and with
the set that this line says.
-/
import BlockTransfer.Proofs.CommandLines

namespace BlockTransfer.TransferList

/-! ## First lines and what they say -/

/-- The line with this number is the first after the header that opens the
command. -/
structure FirstOf (command : Command) (lines : List (List Char)) (number : Nat)
    (line : List Char) : Prop where
  after_header : 2 ≤ number
  there : lines[number]? = some line
  opens : Opens command line
  first : ∀ earlier other, 2 ≤ earlier → earlier < number → lines[earlier]? = some other →
    ¬ Opens command other

/-- What a line with this number, when it opens a command, says for it: that
nothing but blanks comes after the word of the command, or what the next word
reads as. -/
inductive Says (command : Command) (number : Nat) (line : List Char) :
    Except Error RangeSet → Prop
  | missing {rest} (hword : Text.BeginsWith command.word.toList line rest)
      (hblank : ∀ c ∈ rest, Text.isBlank c) :
      Says command number line (.error (.missingRangeField command number))
  | field {field} (hne : field ≠ []) (hsolid : Text.IsSolid field)
      (hcarries : Carries command field line) :
      Says command number line (RangeSet.ofField (String.ofList field)).result

/-- The set that lines give a command: the one that its first line says, or the
empty one when there is no such line. -/
inductive Gets (command : Command) (lines : List (List Char)) : RangeSet → Prop
  | said {number line set} (hfirst : FirstOf command lines number line)
      (hsaid : Says command number line (.ok set)) : Gets command lines set
  | absent (hnone : ∀ number line, ¬ FirstOf command lines number line) :
      Gets command lines .empty

/-- What the first lines of the two commands make together. Of two lines with a
fault the one that comes first counts. -/
inductive Decided (lines : List (List Char)) : Except Error Commands → Prop
  | sets {eraseSet newSet} (herase : Gets .erase lines eraseSet) (hnew : Gets .new lines newSet) :
      Decided lines (.ok ⟨eraseSet, newSet⟩)
  | fault {command number line error} (hfirst : FirstOf command lines number line)
      (hsaid : Says command number line (.error error))
      (hbefore : ∀ other earlier line, FirstOf other lines earlier line → earlier < number →
        ∃ set, Says other earlier line (.ok set)) :
      Decided lines (.error error)

/-! ## One outcome -/

section

variable {command : Command} {lines : List (List Char)} {number : Nat} {line : List Char}

theorem FirstOf.unique {other : Nat} {line' : List Char} (h : FirstOf command lines number line)
    (h' : FirstOf command lines other line') : number = other ∧ line = line' := by
  have hnumber : number = other := by
    rcases Nat.lt_trichotomy number other with hless | hsame | hless
    · exact absurd h.opens (h'.first number line h.after_header hless h.there)
    · exact hsame
    · exact absurd h'.opens (h.first other line' h'.after_header hless h'.there)
  subst hnumber
  exact ⟨rfl, Option.some.inj (h.there.symm.trans h'.there)⟩

/-- A line says what reading the rest of it comes to. -/
theorem says_iff {result : Except Error RangeSet} :
    Says command number line result ↔
      ∃ rest, Text.BeginsWith command.word.toList line rest ∧
        (readField command number rest).result = result := by
  constructor
  · rintro (⟨hword, hblank⟩ | ⟨hne, hsolid, rest, more, hword, hfield⟩)
    · refine ⟨_, hword, ?_⟩
      simp only [readField, Text.nextWord?_eq_none_iff.mpr hblank]
      rfl
    · exact ⟨rest, hword, readField_of_beginsWith hne hsolid hfield⟩
  · rintro ⟨rest, hword, rfl⟩
    cases hnext : Text.nextWord? rest with
    | none =>
      have hmissing : (readField command number rest).result =
          .error (.missingRangeField command number) := by
        simp only [readField, hnext]
        rfl
      rw [hmissing]
      exact .missing hword (Text.nextWord?_eq_none_iff.mp hnext)
    | some pair =>
      obtain ⟨hne, hsolid, hfield⟩ := Text.nextWord?_eq_some_iff.mp hnext
      rw [readField_of_beginsWith hne hsolid hfield]
      exact .field hne hsolid ⟨rest, pair.2, hword, hfield⟩

theorem Says.unique {result result' : Except Error RangeSet}
    (h : Says command number line result) (h' : Says command number line result') :
    result = result' := by
  obtain ⟨rest, hword, rfl⟩ := says_iff.mp h
  obtain ⟨rest', hword', rfl⟩ := says_iff.mp h'
  have hrest := (hword.unique command.word_ne_nil command.isSolid_word command.word_ne_nil
    command.isSolid_word hword').2
  rw [hrest]

/-- The first line of a command does not say a set and a fault. -/
theorem Gets.not_fault {set : RangeSet} {error : Error} (h : Gets command lines set)
    (hfirst : FirstOf command lines number line) : ¬ Says command number line (.error error) := by
  intro hfault
  cases h with
  | said hfirst' hsaid =>
    obtain ⟨rfl, rfl⟩ := hfirst.unique hfirst'
    cases hsaid.unique hfault
  | absent hnone => exact hnone number line hfirst

theorem Gets.unique {set set' : RangeSet} (h : Gets command lines set)
    (h' : Gets command lines set') : set = set' := by
  cases h with
  | said hfirst hsaid =>
    cases h' with
    | said hfirst' hsaid' =>
      obtain ⟨rfl, rfl⟩ := hfirst.unique hfirst'
      exact Except.ok.inj (hsaid.unique hsaid')
    | absent hnone => exact absurd hfirst (hnone _ _)
  | absent hnone =>
    cases h' with
    | said hfirst' _ => exact absurd hfirst' (hnone _ _)
    | absent _ => rfl

theorem Decided.unique {result result' : Except Error Commands} (h : Decided lines result)
    (h' : Decided lines result') : result = result' := by
  -- No command gets a set when its first line has a fault.
  have hapart : ∀ {eraseSet newSet command number line error}, Gets .erase lines eraseSet →
      Gets .new lines newSet → FirstOf command lines number line →
      ¬ Says command number line (.error error) := by
    intro eraseSet newSet command number line error herase hnew hfirst
    cases command with
    | erase => exact herase.not_fault hfirst
    | new => exact hnew.not_fault hfirst
  cases h with
  | sets herase hnew =>
    cases h' with
    | sets herase' hnew' => rw [herase.unique herase', hnew.unique hnew']
    | fault hfirst hsaid _ => exact absurd hsaid (hapart herase hnew hfirst)
  | @fault command number line error hfirst hsaid hbefore =>
    cases h' with
    | sets herase hnew => exact absurd hsaid (hapart herase hnew hfirst)
    | @fault command' number' line' error' hfirst' hsaid' hbefore' =>
      rcases Nat.lt_trichotomy number number' with hless | rfl | hless
      · obtain ⟨set, hset⟩ := hbefore' command number line hfirst hless
        cases hset.unique hsaid
      · obtain rfl : line = line' := Option.some.inj (hfirst.there.symm.trans hfirst'.there)
        obtain rfl : command = command' := hfirst.opens.unique hfirst'.opens
        exact congrArg Except.error (Except.error.inj (hsaid.unique hsaid'))
      · obtain ⟨set, hset⟩ := hbefore command' number' line' hfirst' hless
        cases hset.unique hsaid'

end

/-! ## Reading the lines -/

/-- What the slot of a command holds when the lines before a number were read:
the set that the first line of the command says, if it is one of these lines. -/
def Met (command : Command) (lines : List (List Char)) (number : Nat) : Option RangeSet → Prop
  | some set => ∃ earlier line, earlier < number ∧ FirstOf command lines earlier line ∧
      Says command earlier line (.ok set)
  | none => ∀ earlier line, 2 ≤ earlier → earlier < number → lines[earlier]? = some line →
      ¬ Opens command line

section

variable {command : Command} {lines : List (List Char)} {number : Nat} {slot : Option RangeSet}
  {slots : Slots} {line : List Char}

/-- A line that does not open a command changes nothing for it. -/
theorem Met.of_not_opens (h : Met command lines number slot) (hline : lines[number]? = some line)
    (hopens : ¬ Opens command line) : Met command lines (number + 1) slot := by
  cases slot with
  | some set =>
    obtain ⟨earlier, other, hless, hfirst, hsaid⟩ := h
    exact ⟨earlier, other, by omega, hfirst, hsaid⟩
  | none =>
    intro earlier other hafter hless hother
    rcases Nat.lt_or_eq_of_le (Nat.le_of_lt_succ hless) with hbefore | rfl
    · exact h earlier other hafter hbefore hother
    · rw [hline] at hother
      exact Option.some.inj hother ▸ hopens

/-- Nor does any line once the slot is filled. -/
theorem Met.of_filled {set : RangeSet} (h : Met command lines number (some set)) :
    Met command lines (number + 1) (some set) := by
  obtain ⟨earlier, other, hless, hfirst, hsaid⟩ := h
  exact ⟨earlier, other, by omega, hfirst, hsaid⟩

/-- A first line that was met has said a set. -/
theorem Met.exists_set {earlier : Nat} (h : Met command lines number slot)
    (hfirst : FirstOf command lines earlier line) (hless : earlier < number) :
    ∃ set, Says command earlier line (.ok set) := by
  cases slot with
  | some set =>
    obtain ⟨_, _, _, hfirst', hsaid⟩ := h
    obtain ⟨rfl, rfl⟩ := hfirst.unique hfirst'
    exact ⟨set, hsaid⟩
  | none => exact absurd hfirst.opens (h earlier line hfirst.after_header hless hfirst.there)

/-- After the last line every command has got its set. -/
theorem Met.gets (h : Met command lines number slot) (hend : lines.length ≤ number) :
    Gets command lines (slot.getD .empty) := by
  cases slot with
  | some set =>
    obtain ⟨_, _, _, hfirst, hsaid⟩ := h
    exact .said hfirst hsaid
  | none =>
    refine .absent fun earlier line hfirst => ?_
    obtain ⟨hlength, _⟩ := List.getElem?_eq_some_iff.mp hfirst.there
    exact h earlier line hfirst.after_header (by omega) hfirst.there hfirst.opens

/-- A line that opens a command whose slot is empty decides what becomes of it. -/
theorem readLine_of_opens {rest : List Char}
    (hword : Text.BeginsWith command.word.toList line rest) (hslot : slots.get? command = none) :
    (readLine slots number line).result =
      (readField command number rest).result.map (slots.put · command) := by
  simp only [readLine, ofLine?_eq_some_iff.mpr hword, hslot, Logged.result_bind,
    Logged.result_pure]
  cases (readField command number rest).result <;> rfl

/-- One line keeps what was met, or it is the first of its command and has a
fault. -/
theorem readLine_met (hnumber : 2 ≤ number) (hline : lines[number]? = some line)
    (hmet : ∀ command, Met command lines number (slots.get? command)) :
    (∃ next, (readLine slots number line).result = .ok next ∧
      ∀ command, Met command lines (number + 1) (next.get? command)) ∨
    (∃ command error, (readLine slots number line).result = .error error ∧
      FirstOf command lines number line ∧ Says command number line (.error error)) := by
  by_cases hopens : ∃ command, Opens command line
  · obtain ⟨command, hopens⟩ := hopens
    have hothers : ∀ other, other ≠ command →
        Met other lines (number + 1) (slots.get? other) := fun other hne =>
      (hmet other).of_not_opens hline fun hother => hne (hother.unique hopens)
    have hown := hmet command
    cases hslot : slots.get? command with
    | some set =>
      refine .inl ⟨slots, readLine_of_filled hopens hslot, fun other => ?_⟩
      by_cases hsame : other = command
      · subst hsame
        rw [hslot] at hown ⊢
        exact hown.of_filled
      · exact hothers other hsame
    | none =>
      rw [hslot] at hown
      have hfirst : FirstOf command lines number line := ⟨hnumber, hline, hopens, hown⟩
      obtain ⟨rest, hword⟩ := hopens
      have hread : (readLine slots number line).result =
          (readField command number rest).result.map (slots.put · command) :=
        readLine_of_opens hword hslot
      have hsaid : Says command number line (readField command number rest).result :=
        says_iff.mpr ⟨rest, hword, rfl⟩
      cases hresult : (readField command number rest).result with
      | error error =>
        rw [hresult] at hread hsaid
        exact .inr ⟨command, error, hread, hfirst, hsaid⟩
      | ok set =>
        rw [hresult] at hread hsaid
        refine .inl ⟨slots.put set command, hread, fun other => ?_⟩
        rw [Slots.get?_put]
        split
        · next hsame =>
          subst hsame
          exact ⟨number, line, Nat.lt_succ_self number, hfirst, hsaid⟩
        · next hother => exact hothers other hother
  · exact .inl ⟨slots, readLine_of_not_opens (not_exists.mp hopens), fun command =>
      (hmet command).of_not_opens hline (not_exists.mp hopens command)⟩

/-- The lines from a number on: each command gets its set, or they are decided
by the first fault. -/
theorem readLines_met {body : List (List Char)} (hbody : lines.drop number = body)
    (hnumber : 2 ≤ number) (hmet : ∀ command, Met command lines number (slots.get? command)) :
    (∃ final, (readLines slots number body).result = .ok final ∧
      ∀ command, Gets command lines ((final.get? command).getD .empty)) ∨
    (∃ error, (readLines slots number body).result = .error error ∧
      Decided lines (.error error)) := by
  induction body generalizing slots number with
  | nil =>
    exact .inl ⟨slots, rfl, fun command =>
      (hmet command).gets (List.drop_eq_nil_iff.mp hbody)⟩
  | cons line body ih =>
    have hline : lines[number]? = some line := by
      rw [← List.head?_drop, hbody, List.head?_cons]
    have hrest : lines.drop (number + 1) = body := by
      rw [← List.tail_drop, hbody, List.tail_cons]
    simp only [readLines, Logged.result_bind]
    obtain ⟨next, hread, hnext⟩ | ⟨command, error, hread, hfirst, hsaid⟩ :=
      readLine_met hnumber hline hmet
    · rw [hread]
      exact ih hrest (Nat.le_succ_of_le hnumber) hnext
    · rw [hread]
      refine .inr ⟨error, rfl, .fault hfirst hsaid fun other earlier line' hfirst' hless => ?_⟩
      exact (hmet other).exists_set hfirst' hless

end

/-- The commands of a list are decided by its first lines. -/
theorem decided_ofLines (lines : List (List Char)) :
    Decided lines (Commands.ofLines lines).result := by
  have hmet : ∀ command, Met command lines 2 (Slots.empty.get? command) := by
    intro command
    cases command <;> exact fun earlier line hafter hless => absurd hafter (Nat.not_le.mpr hless)
  simp only [Commands.ofLines, Logged.result_bind, Logged.result_pure]
  obtain ⟨final, hread, hgets⟩ | ⟨error, hread, hdecided⟩ := readLines_met rfl (Nat.le_refl 2) hmet
  · rw [hread]
    exact .sets (hgets .erase) (hgets .new)
  · rw [hread]
    exact hdecided

theorem ofLines_result_iff (lines : List (List Char)) (result : Except Error Commands) :
    (Commands.ofLines lines).result = result ↔ Decided lines result :=
  ⟨fun h => h ▸ decided_ofLines lines, fun h => (decided_ofLines lines).unique h⟩

/-! ## Lines that do not matter -/

/-- Lists of lines with the same first lines read the same. -/
theorem ofLines_congr {lines others : List (List Char)}
    (h : ∀ command number line,
      FirstOf command lines number line ↔ FirstOf command others number line) :
    (Commands.ofLines others).result = (Commands.ofLines lines).result := by
  have hgets : ∀ {command set}, Gets command lines set → Gets command others set := by
    rintro command set (⟨hfirst, hsaid⟩ | hnone)
    · exact .said ((h _ _ _).mp hfirst) hsaid
    · exact .absent fun number line hfirst => hnone number line ((h _ _ _).mpr hfirst)
  rw [ofLines_result_iff]
  cases hresult : (Commands.ofLines lines).result with
  | ok commands =>
    cases hresult ▸ decided_ofLines lines with
    | sets herase hnew => exact .sets (hgets herase) (hgets hnew)
  | error error =>
    cases hresult ▸ decided_ofLines lines with
    | fault hfirst hsaid hbefore =>
      exact .fault ((h _ _ _).mp hfirst) hsaid fun other earlier line hother =>
        hbefore other earlier line ((h _ _ _).mpr hother)

section

variable {command : Command} {lines : List (List Char)} {number place : Nat}
  {line written : List Char}

/-- A first line stays the first when another line is replaced, unless the new
line comes to be the first. -/
theorem FirstOf.set (h : FirstOf command lines number line)
    (hold : ∀ old, ¬ FirstOf command lines place old)
    (hnew : ¬ FirstOf command (lines.set place written) place written) :
    FirstOf command (lines.set place written) number line := by
  have hne : place ≠ number := by
    rintro rfl
    exact hold line h
  refine ⟨h.after_header, ?_, h.opens, fun earlier other hafter hless hother hopens => ?_⟩
  · rw [List.getElem?_set_ne hne]
    exact h.there
  by_cases hplace : place = earlier
  · -- The new line would open the command before its first line.
    subst hplace
    obtain ⟨hlength, hset⟩ := List.getElem?_eq_some_iff.mp hother
    obtain rfl : written = other := by simpa using hset
    refine hnew ⟨hafter, hother, hopens, fun before other' hafter' hless' hother' => ?_⟩
    rw [List.getElem?_set_ne (Nat.ne_of_gt hless')] at hother'
    exact h.first before other' hafter' (hless'.trans hless) hother'
  · rw [List.getElem?_set_ne hplace] at hother
    exact h.first earlier other hafter hless hother hopens

/-- Nor does replacing such a line make another one the first. -/
theorem firstOf_set_iff (hold : ∀ old, ¬ FirstOf command lines place old)
    (hnew : ∀ new, ¬ FirstOf command (lines.set place written) place new) :
    FirstOf command lines number line ↔
      FirstOf command (lines.set place written) number line := by
  refine ⟨fun h => h.set hold (hnew written), fun h => ?_⟩
  cases hplace : lines[place]? with
  | none =>
    rwa [List.set_eq_of_length_le (List.getElem?_eq_none_iff.mp hplace)] at h
  | some old =>
    -- The old line is put back.
    have hback : (lines.set place written).set place old = lines := by
      obtain ⟨hlength, rfl⟩ := List.getElem?_eq_some_iff.mp hplace
      rw [List.set_set, List.set_getElem_self]
    rw [← hback]
    exact h.set hnew (by rw [hback]; exact hold old)

end

/-- Only the first line of each command matters: the commands are what these
lines make together, in their order, and stay the same when a line of the header
is replaced, or any other line that is not the first of a command by one that
does not come to be. -/
theorem Commands.ofLines_first_wins (lines : List (List Char)) :
    (∀ result, (Commands.ofLines lines).result = result ↔ Decided lines result) ∧
    (∀ place written, place < 2 →
      (Commands.ofLines (lines.set place written)).result = (Commands.ofLines lines).result) ∧
    ∀ place written, (∀ command old, ¬ FirstOf command lines place old) →
      (∀ command new, ¬ FirstOf command (lines.set place written) place new) →
      (Commands.ofLines (lines.set place written)).result = (Commands.ofLines lines).result := by
  have hset : ∀ place written, (∀ command old, ¬ FirstOf command lines place old) →
      (∀ command new, ¬ FirstOf command (lines.set place written) place new) →
      (Commands.ofLines (lines.set place written)).result =
        (Commands.ofLines lines).result := by
    intro place written hold hnew
    exact ofLines_congr fun command number line => firstOf_set_iff (hold command) (hnew command)
  refine ⟨ofLines_result_iff lines, fun place written hheader => ?_, hset⟩
  have hnone : ∀ lines command line, ¬ FirstOf command lines place line :=
    fun lines command line hfirst => Nat.not_le.mpr hheader hfirst.after_header
  exact hset place written (hnone lines) (hnone _)

/-- Lines of which the first erase line has no field. A later erase line has one,
and a second new line has one that does not read. -/
def unfinishedLines : List (List Char) :=
  ["4", "8", "new 2,0,1", " erase ", "new 3", "erase 2,3,4"].map String.toList

theorem firstOf_new_unfinishedLines : FirstOf .new unfinishedLines 2 "new 2,0,1".toList :=
  ⟨Nat.le_refl 2, rfl, by decide, fun _ _ hafter hless => absurd hafter (Nat.not_le.mpr hless)⟩

theorem firstOf_erase_unfinishedLines : FirstOf .erase unfinishedLines 3 " erase ".toList := by
  refine ⟨by decide, rfl, by decide, fun earlier other hafter hless hother => ?_⟩
  obtain rfl : earlier = 2 := by omega
  obtain rfl : "new 2,0,1".toList = other := Option.some.inj hother
  decide

/-- The missing field is the error, also when an erase line is put in the place
of the second new line. -/
theorem Commands.ofLines_first_wins_unfinished :
    (Commands.ofLines unfinishedLines).result = .error (.missingRangeField .erase 3) ∧
      (Commands.ofLines (unfinishedLines.set 4 "erase 0".toList)).result =
        .error (.missingRangeField .erase 3) := by
  obtain ⟨hdecided, _, hreplaced⟩ := Commands.ofLines_first_wins unfinishedLines
  have hfault : (Commands.ofLines unfinishedLines).result =
      .error (.missingRangeField .erase 3) := by
    refine (hdecided _).mpr (.fault firstOf_erase_unfinishedLines
      (says_iff.mpr ⟨[' '], nextWord?_eq_word_iff.mp (by decide), by rfl⟩)
      fun other earlier line hfirst hless => ?_)
    obtain rfl : earlier = 2 := Nat.le_antisymm (Nat.le_of_lt_succ hless) hfirst.after_header
    obtain rfl : "new 2,0,1".toList = line := Option.some.inj hfirst.there
    obtain rfl : Command.new = other := firstOf_new_unfinishedLines.opens.unique hfirst.opens
    exact ⟨⟨[⟨0, 1, by decide, by decide⟩]⟩,
      says_iff.mpr ⟨" 2,0,1".toList, nextWord?_eq_word_iff.mp (by decide), by decide +kernel⟩⟩
  refine ⟨hfault,
    hfault ▸ hreplaced 4 _ (fun command old hfirst => ?_) fun command new hfirst => ?_⟩
  · cases command with
    | erase => exact absurd (hfirst.unique firstOf_erase_unfinishedLines).1 (by decide)
    | new => exact absurd (hfirst.unique firstOf_new_unfinishedLines).1 (by decide)
  · have herase : Opens .erase " erase ".toList := firstOf_erase_unfinishedLines.opens
    cases command with
    | erase => exact hfirst.first 3 _ (by decide) (by decide) rfl herase
    | new =>
      obtain rfl : "erase 0".toList = new := Option.some.inj hfirst.there
      exact absurd hfirst.opens (by decide)

end TransferList

end BlockTransfer
