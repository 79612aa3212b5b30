/-
BlockTransfer.Proofs.RangeField — the grammar of a range field.

A field is tokens with commas between them. `IsInteger token value` says which
tokens are integers and `Spells tokens ranges` which tokens, taken two by two,
are the ends of ranges. `Reading head values result` is how a field with these
tokens is to be read: one constructor for each of its faults, the later ones
only where the earlier ones are absent, and one for a field without fault.

Reading a field never does anything else (`ofField_result_iff`). It follows the
relation wherever that says something (`ofField_of_reading`), and the relation
says something about all tokens (`exists_reading`).
-/
import BlockTransfer.RangeSet.Field
import BlockTransfer.Text.Blank.Lemmas
import BlockTransfer.Text.Numeral.Lemmas
import BlockTransfer.Text.Split.Lemmas

namespace BlockTransfer.RangeSet

/-! ## Integers -/

/-- A token is an integer: a numeral with blanks around it, of a value that is a
word. -/
def IsInteger (token : List Char) (value : Nat) : Prop :=
  ∃ cs, Text.Padded cs token ∧ Text.IsNumeral cs value ∧ value < wordLimit

/-- There are no blanks in a numeral. -/
theorem isSolid_of_isNumeral {cs : List Char} {value : Nat} (h : Text.IsNumeral cs value) :
    Text.IsSolid cs := by
  obtain ⟨digits, _, hdigits, rfl | rfl, _⟩ := h
  · exact fun c hc => Text.isBlank_of_isDigit (hdigits c hc)
  · intro c hc
    rcases List.mem_cons.mp hc with rfl | hc
    · decide
    · exact Text.isBlank_of_isDigit (hdigits c hc)

theorem isInteger_iff_trim {token : List Char} {value : Nat} :
    IsInteger token value ↔ Text.IsNumeral (Text.trim token) value ∧ value < wordLimit := by
  constructor
  · rintro ⟨cs, hpadded, hnumeral, hvalue⟩
    rw [Text.trim_of_padded hpadded (isSolid_of_isNumeral hnumeral)]
    exact ⟨hnumeral, hvalue⟩
  · rintro ⟨hnumeral, hvalue⟩
    exact ⟨Text.trim token, Text.padded_trim token, hnumeral, hvalue⟩

theorem readInteger_of_isInteger {token : List Char} {value : Nat} (h : IsInteger token value) :
    ∃ hvalue : value < wordLimit, (readInteger token).result = .ok ⟨value, hvalue⟩ := by
  obtain ⟨hnumeral, hvalue⟩ := isInteger_iff_trim.mp h
  have hread : Text.readNumeral wordLimit_pos (Text.trim token) = .ok ⟨value, hvalue⟩ :=
    Text.readNumeral_eq_ok_iff.mpr hnumeral
  refine ⟨hvalue, ?_⟩
  simp only [readInteger, hread, Logged.result_pure]

/-- The error keeps the token as it was found, with its blanks. -/
theorem readInteger_of_not {token : List Char} (h : ∀ value, ¬ IsInteger token value) :
    (readInteger token).result = .error (.invalidInteger (String.ofList token)) := by
  unfold readInteger
  split
  · next value hread =>
    have hinteger := isInteger_iff_trim.mpr ⟨Text.readNumeral_eq_ok_iff.mp hread, value.isLt⟩
    exact absurd hinteger (h value)
  · rfl

/-! ## Pairs of tokens -/

/-- Tokens, taken two by two, are the starts and the ends of ranges. -/
inductive Spells : List (List Char) → List BlockRange → Prop
  | nil : Spells [] []
  | cons {first second tokens} {range : BlockRange} {ranges}
      (hstart : IsInteger first range.start) (hstop : IsInteger second range.stop)
      (hrest : Spells tokens ranges) :
      Spells (first :: second :: tokens) (range :: ranges)

/-- What is wrong with two tokens that are not the ends of a range. -/
inductive PairFault (first second : List Char) : TransferList.Error → Prop
  | start (hstart : ∀ value, ¬ IsInteger first value) :
      PairFault first second (.invalidInteger (String.ofList first))
  | stop {start} (hstart : IsInteger first start) (hstop : ∀ value, ¬ IsInteger second value) :
      PairFault first second (.invalidInteger (String.ofList second))
  | inverted {start stop} (hstart : IsInteger first start) (hstop : IsInteger second stop)
      (hless : stop < start) : PairFault first second (.invertedRange start stop)

theorem Spells.length_eq {tokens : List (List Char)} {ranges : List BlockRange}
    (h : Spells tokens ranges) : tokens.length = 2 * ranges.length := by
  induction h with
  | nil => rfl
  | cons _ _ _ ih =>
    simp only [List.length_cons, ih]
    omega

theorem readRange_of_isInteger (field : String) {first second : List Char} {range : BlockRange}
    (hstart : IsInteger first range.start) (hstop : IsInteger second range.stop) :
    (readRange field first second).result = .ok range := by
  obtain ⟨_, hfirst⟩ := readInteger_of_isInteger hstart
  obtain ⟨_, hsecond⟩ := readInteger_of_isInteger hstop
  simp only [readRange, Logged.result_bind, hfirst, hsecond, Except.bind, range.ordered,
    ↓reduceDIte, Logged.result_pure]

theorem readRange_of_pairFault (field : String) {first second : List Char}
    {error : TransferList.Error} (h : PairFault first second error) :
    (readRange field first second).result = .error error := by
  cases h with
  | start hstart =>
    simp only [readRange, Logged.result_bind, readInteger_of_not hstart, Except.bind]
  | stop hstart hstop =>
    obtain ⟨_, hfirst⟩ := readInteger_of_isInteger hstart
    simp only [readRange, Logged.result_bind, hfirst, readInteger_of_not hstop, Except.bind]
  | inverted hstart hstop hless =>
    obtain ⟨_, hfirst⟩ := readInteger_of_isInteger hstart
    obtain ⟨_, hsecond⟩ := readInteger_of_isInteger hstop
    simp only [readRange, Logged.result_bind, hfirst, hsecond, Except.bind,
      Nat.not_le.mpr hless, ↓reduceDIte]
    rfl

theorem readRanges_of_spells (field : String) {tokens : List (List Char)}
    {ranges : List BlockRange} (h : Spells tokens ranges) :
    (readRanges field tokens).result = .ok ranges := by
  induction h with
  | nil => rfl
  | cons hstart hstop _ ih =>
    simp only [readRanges, Logged.result_bind, readRange_of_isInteger field hstart hstop, ih,
      Except.bind, Logged.result_pure]

/-- The first pair with a fault decides; what comes after it is not read. -/
theorem readRanges_of_pairFault (field : String) {earlier later : List (List Char)}
    {first second : List Char} {ranges : List BlockRange} {error : TransferList.Error}
    (hearlier : Spells earlier ranges) (h : PairFault first second error) :
    (readRanges field (earlier ++ first :: second :: later)).result = .error error := by
  induction hearlier with
  | nil =>
    simp only [List.nil_append, readRanges, Logged.result_bind, readRange_of_pairFault field h,
      Except.bind]
  | cons hstart hstop _ ih =>
    simp only [List.cons_append, readRanges, Logged.result_bind,
      readRange_of_isInteger field hstart hstop, ih, Except.bind]

/-- Two tokens are the ends of a range, or have a fault. -/
theorem spells_or_pairFault (first second : List Char) :
    (∃ range : BlockRange, IsInteger first range.start ∧ IsInteger second range.stop) ∨
      ∃ error, PairFault first second error := by
  by_cases hfirst : ∃ start, IsInteger first start
  · obtain ⟨start, hstart⟩ := hfirst
    by_cases hsecond : ∃ stop, IsInteger second stop
    · obtain ⟨stop, hstop⟩ := hsecond
      rcases Nat.lt_or_ge stop start with hless | hordered
      · exact .inr ⟨_, .inverted hstart hstop hless⟩
      · have hword : stop < wordLimit := (isInteger_iff_trim.mp hstop).2
        exact .inl ⟨⟨start, stop, hordered, hword⟩, hstart, hstop⟩
    · exact .inr ⟨_, .stop hstart (not_exists.mp hsecond)⟩
  · exact .inr ⟨_, .start (not_exists.mp hfirst)⟩

/-- Tokens of an even number spell ranges, or there is a first pair with a fault. -/
theorem exists_spells_or_pairFault {tokens : List (List Char)} (heven : tokens.length % 2 = 0) :
    (∃ ranges, Spells tokens ranges) ∨
      ∃ earlier ranges first second later error, tokens = earlier ++ first :: second :: later ∧
        Spells earlier ranges ∧ PairFault first second error := by
  induction hpairs : tokens.length / 2 generalizing tokens with
  | zero =>
    have hnil : tokens = [] := List.length_eq_zero_iff.mp (by omega)
    exact .inl ⟨[], hnil ▸ .nil⟩
  | succ pairs ih =>
    match tokens, hpairs with
    | first :: second :: tokens, hpairs =>
      simp only [List.length_cons] at heven hpairs
      obtain ⟨range, hstart, hstop⟩ | ⟨error, hfault⟩ := spells_or_pairFault first second
      · obtain ⟨ranges, hranges⟩ | ⟨earlier, ranges, first', second', later, error, rfl, hspells,
          hfault⟩ := @ih tokens (by omega) (by omega)
        · exact .inl ⟨range :: ranges, .cons hstart hstop hranges⟩
        · exact .inr ⟨first :: second :: earlier, range :: ranges, first', second', later, error,
            rfl, .cons hstart hstop hspells, hfault⟩
      · exact .inr ⟨[], [], first, second, tokens, error, rfl, .nil, hfault⟩

/-! ## Fields -/

/-- How a field is read whose first token is `head` and whose other tokens are
`values`. A fault counts only where those above it are absent, and tokens past
the announced ones do not count at all. -/
inductive Reading (head : List Char) (values : List (List Char)) :
    Except TransferList.Error RangeSet → Prop
  | badCount (hcount : ∀ count, ¬ IsInteger head count) :
      Reading head values (.error (.invalidInteger (String.ofList head)))
  | oddCount {count} (hcount : IsInteger head count) (hodd : count % 2 = 1) :
      Reading head values (.error (.oddCount count))
  | tooFew {count} (hcount : IsInteger head count) (heven : count % 2 = 0)
      (hfew : values.length < count) :
      Reading head values (.error (.tooFewValues count values.length))
  | badPair {count earlier ranges first second later error} (hcount : IsInteger head count)
      (heven : count % 2 = 0) (henough : count ≤ values.length)
      (hvalues : values.take count = earlier ++ first :: second :: later)
      (hearlier : Spells earlier ranges) (hfault : PairFault first second error) :
      Reading head values (.error error)
  | good {count ranges} (hcount : IsInteger head count) (heven : count % 2 = 0)
      (henough : count ≤ values.length) (hvalues : Spells (values.take count) ranges) :
      Reading head values (.ok ⟨ranges⟩)

/-- There is a reading for all tokens. -/
theorem exists_reading (head : List Char) (values : List (List Char)) :
    ∃ result, Reading head values result := by
  by_cases hinteger : ∃ count, IsInteger head count
  · obtain ⟨count, hcount⟩ := hinteger
    rcases Nat.mod_two_eq_zero_or_one count with heven | hodd
    · rcases Nat.lt_or_ge values.length count with hfew | henough
      · exact ⟨_, .tooFew hcount heven hfew⟩
      · have hlength : (values.take count).length % 2 = 0 := by
          rw [List.length_take, Nat.min_eq_left henough, heven]
        obtain ⟨ranges, hranges⟩ | ⟨earlier, ranges, first, second, later, error, hvalues,
          hearlier, hfault⟩ := exists_spells_or_pairFault hlength
        · exact ⟨_, .good hcount heven henough hranges⟩
        · exact ⟨_, .badPair hcount heven henough hvalues hearlier hfault⟩
    · exact ⟨_, .oddCount hcount hodd⟩
  · exact ⟨_, .badCount (not_exists.mp hinteger)⟩

/-- A field is read as its tokens demand. -/
theorem ofField_of_reading {field : String} {head : List Char} {values : List (List Char)}
    {result : Except TransferList.Error RangeSet}
    (htokens : Text.splitAt ',' field.toList = head :: values)
    (h : Reading head values result) : (ofField field).result = result := by
  simp only [ofField, htokens, List.headD_cons, List.tail_cons, Logged.result_bind]
  cases h with
  | badCount hcount => simp only [readInteger_of_not hcount, Except.bind]
  | oddCount hcount hodd =>
    obtain ⟨_, hread⟩ := readInteger_of_isInteger hcount
    simp only [hread, Except.bind, hodd, ne_eq, Nat.one_ne_zero, not_false_eq_true, ↓reduceIte]
    rfl
  | tooFew hcount heven hfew =>
    obtain ⟨_, hread⟩ := readInteger_of_isInteger hcount
    simp only [hread, Except.bind, heven, ne_eq, not_true_eq_false, hfew, ↓reduceIte]
    rfl
  | badPair hcount heven henough hvalues hearlier hfault =>
    obtain ⟨_, hread⟩ := readInteger_of_isInteger hcount
    simp only [hread, Except.bind, heven, ne_eq, not_true_eq_false, Nat.not_lt.mpr henough,
      ↓reduceIte, Logged.result_bind, hvalues, readRanges_of_pairFault field hearlier hfault]
  | good hcount heven henough hvalues =>
    obtain ⟨_, hread⟩ := readInteger_of_isInteger hcount
    simp only [hread, Except.bind, heven, ne_eq, not_true_eq_false, Nat.not_lt.mpr henough,
      ↓reduceIte, Logged.result_bind, readRanges_of_spells field hvalues, Logged.result_pure]

/-- The numbers of a set that was read are as many as were announced, so that
their count is a word. -/
theorem two_mul_count_lt {field : String} {set : RangeSet}
    (h : (ofField field).result = .ok set) : 2 * set.count < wordLimit := by
  obtain ⟨head, values, htokens, _, _⟩ := Text.exists_pieces ',' field.toList
  obtain ⟨result, hreading⟩ := exists_reading head values
  rw [ofField_of_reading htokens hreading] at h
  subst h
  cases hreading with
  | good hcount _ henough hvalues =>
    have hlength := hvalues.length_eq
    rw [List.length_take, Nat.min_eq_left henough] at hlength
    obtain ⟨_, _, _, hword⟩ := hcount
    exact hlength ▸ hword

/-- The result of reading a field is the one reading that its tokens have, and
every field has its tokens. -/
theorem ofField_result_iff (field : String) :
    ∃ head values, field.toList = Text.joinWith ',' (head :: values) ∧
      (∀ token ∈ head :: values, ',' ∉ token) ∧
      ∀ result, (ofField field).result = result ↔ Reading head values result := by
  obtain ⟨head, values, htokens, hfield, hfree⟩ := Text.exists_pieces ',' field.toList
  refine ⟨head, values, hfield, hfree, fun result => ⟨?_, ofField_of_reading htokens⟩⟩
  rintro rfl
  obtain ⟨result, hreading⟩ := exists_reading head values
  rwa [ofField_of_reading htokens hreading]

end BlockTransfer.RangeSet
