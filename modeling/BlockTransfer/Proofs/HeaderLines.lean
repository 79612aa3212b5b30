/-
BlockTransfer.Proofs.HeaderLines — integers, in range fields and on the lines of
a header.

Both are read from what is left of a text without the blanks around it. If that
is a numeral of a value below the bound, the value is read; everything else is
refused, a numeral whose value is too large like a text that is no numeral at
all. `IntegerReading` says this for any bound and any error to refuse with. The
value of a numeral is a natural number, so that no number of digits wraps around,
and zeros in front of the digits add nothing to it (`integerReading_digits`).

A line of a header is missing or is read as an integer (`LineReading`), and a
header fails with its first line that fails (`HeaderReading`). The readers do
just that (`integers_read`). When line 0 fails nothing else is looked at: what
the other lines hold changes neither the error nor what is reported.
-/
import BlockTransfer.Proofs.RangeField
import BlockTransfer.TransferList.Header

namespace BlockTransfer

/-! ## Single integers -/

/-- What comes of reading a text as an integer below a bound. A refusal may show
what is left of the text without the blanks around it. -/
inductive IntegerReading (bound : Nat) (text : List Char)
    (refusal : List Char → TransferList.Error) : Except TransferList.Error (Fin bound) → Prop
  | accepted {shown} {value : Fin bound} (hshown : Text.Stripped shown text)
      (hnumeral : Text.IsNumeral shown value) : IntegerReading bound text refusal (.ok value)
  | refused {shown} (hshown : Text.Stripped shown text)
      (hnone : ∀ value, Text.IsNumeral shown value → bound ≤ value) :
      IntegerReading bound text refusal (.error (refusal shown))

section

variable {bound : Nat} {text : List Char} (refusal : List Char → TransferList.Error)
  {result : Except TransferList.Error (Fin bound)}

/-- A text is read in one way, as the numeral that is left when it is trimmed. -/
theorem integerReading_iff (positive : 0 < bound) :
    (Text.readNumeral positive (Text.trim text)).mapError (fun _ => refusal (Text.trim text)) =
      result ↔ IntegerReading bound text refusal result := by
  constructor
  · rintro rfl
    cases hread : Text.readNumeral positive (Text.trim text) with
    | ok value =>
      exact .accepted (Text.stripped_trim text) (Text.readNumeral_eq_ok_iff.mp hread)
    | error why =>
      refine .refused (Text.stripped_trim text) fun value hvalue => Nat.le_of_not_lt fun hless => ?_
      have hok : Text.readNumeral positive (Text.trim text) = .ok ⟨value, hless⟩ :=
        Text.readNumeral_eq_ok_iff.mpr hvalue
      rw [hread] at hok
      cases hok
  · intro h
    cases h with
    | accepted hshown hnumeral =>
      rw [hshown.trim_eq, Text.readNumeral_eq_ok_iff.mpr hnumeral]
      rfl
    | refused hshown hnone =>
      rw [hshown.trim_eq]
      cases hread : Text.readNumeral positive _ with
      | ok value =>
        exact absurd (hnone value (Text.readNumeral_eq_ok_iff.mp hread)) (Nat.not_le.mpr value.isLt)
      | error why => rfl

/-- Digits are accepted if their exact value lies below the bound. -/
theorem integerReading_digits {digits : List Char} (hsome : digits ≠ [])
    (hdigits : ∀ c ∈ digits, c.isDigit) (zeros : Nat) :
    IntegerReading bound (List.replicate zeros '0' ++ digits) refusal
      (if h : Nat.ofDigitChars 10 digits 0 < bound then .ok ⟨Nat.ofDigitChars 10 digits 0, h⟩
      else .error (refusal (List.replicate zeros '0' ++ digits))) := by
  have hall : ∀ c ∈ List.replicate zeros '0' ++ digits, c.isDigit := by
    refine List.forall_mem_append.mpr ⟨fun c hc => ?_, hdigits⟩
    rw [List.eq_of_mem_replicate hc]
    decide
  have hnumeral : Text.IsNumeral (List.replicate zeros '0' ++ digits)
      (Nat.ofDigitChars 10 digits 0) :=
    ⟨_, by simp [hsome], hall, .inl rfl, (Text.ofDigitChars_zeros zeros digits).symm⟩
  have hshown := (Text.Padded.refl _).stripped (RangeSet.isSolid_of_isNumeral hnumeral)
  split
  · exact .accepted hshown hnumeral
  · next hlarge =>
    refine .refused hshown fun value hvalue => ?_
    rw [hvalue.unique hnumeral]
    exact Nat.le_of_not_lt hlarge

end

/-- An integer of a range field is refused with its token as it was found. -/
theorem RangeSet.readInteger_reading {token : List Char}
    {result : Except TransferList.Error (Fin wordLimit)} :
    (readInteger token).result = result ↔
      IntegerReading wordLimit token (fun _ => .invalidInteger (String.ofList token)) result := by
  rw [← integerReading_iff _ wordLimit_pos]
  unfold readInteger
  cases Text.readNumeral wordLimit_pos (Text.trim token) <;> rfl

namespace TransferList

/-! ## Lines of a header -/

/-- What comes of reading an integer below a bound on a line. A refusal shows the
line without the blanks around it. -/
inductive LineReading (bound : Nat) (lines : List (List Char)) (line : Nat) :
    Except Error (Fin bound) → Prop
  | missing (hmissing : lines.length ≤ line) :
      LineReading bound lines line (.error (.missingHeader line))
  | there {written result} (hline : lines[line]? = some written)
      (hreading : IntegerReading bound written
        (fun shown => .invalidHeader line (String.ofList shown)) result) :
      LineReading bound lines line result

theorem readHeaderLine_reading {bound : Nat} (positive : 0 < bound) {lines : List (List Char)}
    {line : Nat} {result : Except Error (Fin bound)} :
    (readHeaderLine positive lines line).result = result ↔ LineReading bound lines line result := by
  cases hline : lines[line]? with
  | none =>
    have hread : (readHeaderLine positive lines line).result = .error (.missingHeader line) := by
      rw [readHeaderLine, hline]
      rfl
    rw [hread]
    constructor
    · rintro rfl
      exact .missing (List.getElem?_eq_none_iff.mp hline)
    · intro h
      cases h with
      | missing => rfl
      | there hwritten => simp [hline] at hwritten
  | some written =>
    have hread : (readHeaderLine positive lines line).result =
        (Text.readNumeral positive (Text.trim written)).mapError
          (fun _ => .invalidHeader line (String.ofList (Text.trim written))) := by
      rw [readHeaderLine, hline]
      dsimp only
      cases Text.readNumeral positive (Text.trim written) <;> rfl
    rw [hread, integerReading_iff fun shown => .invalidHeader line (String.ofList shown)]
    constructor
    · exact .there hline
    · intro h
      cases h with
      | missing hmissing => simp [List.getElem?_eq_none hmissing] at hline
      | there hwritten hreading =>
        obtain rfl : written = _ := Option.some.inj (hline.symm.trans hwritten)
        exact hreading

/-! ## Headers -/

/-- What comes of reading a header: a failure of line 0 comes before any of line 1. -/
inductive HeaderReading (lines : List (List Char)) : Except Error Header → Prop
  | badVersion {error} (hversion : LineReading versionLimit lines 0 (.error error)) :
      HeaderReading lines (.error error)
  | badTotal {version error} (hversion : LineReading versionLimit lines 0 (.ok version))
      (htotal : LineReading wordLimit lines 1 (.error error)) : HeaderReading lines (.error error)
  | good {version totalBlocks} (hversion : LineReading versionLimit lines 0 (.ok version))
      (htotal : LineReading wordLimit lines 1 (.ok totalBlocks)) :
      HeaderReading lines (.ok ⟨version, totalBlocks⟩)

theorem Header.ofLines_reading {lines : List (List Char)} {result : Except Error Header} :
    (Header.ofLines lines).result = result ↔ HeaderReading lines result := by
  simp only [Header.ofLines, Logged.result_bind, Logged.result_pure]
  constructor
  · rintro rfl
    cases hversion : (readHeaderLine versionLimit_pos lines 0).result with
    | error error => exact .badVersion ((readHeaderLine_reading _).mp hversion)
    | ok version =>
      cases htotal : (readHeaderLine wordLimit_pos lines 1).result with
      | error error =>
        exact .badTotal ((readHeaderLine_reading _).mp hversion)
          ((readHeaderLine_reading _).mp htotal)
      | ok totalBlocks =>
        exact .good ((readHeaderLine_reading _).mp hversion) ((readHeaderLine_reading _).mp htotal)
  · intro h
    cases h with
    | badVersion hversion =>
      rw [(readHeaderLine_reading _).mpr hversion]
      rfl
    | badTotal hversion htotal =>
      rw [(readHeaderLine_reading _).mpr hversion]
      simp only [Except.bind, (readHeaderLine_reading _).mpr htotal]
    | good hversion htotal =>
      rw [(readHeaderLine_reading _).mpr hversion]
      simp only [Except.bind, (readHeaderLine_reading _).mpr htotal]

/-- What the other lines hold does not matter where line 0 fails. -/
theorem Header.ofLines_of_badVersion {first : List Char} {rest : List (List Char)} {error : Error}
    (h : LineReading versionLimit (first :: rest) 0 (.error error)) (others : List (List Char)) :
    Header.ofLines (first :: others) = Header.ofLines (first :: rest) := by
  have hline := (readHeaderLine_reading versionLimit_pos).mpr h
  have hsame : readHeaderLine versionLimit_pos (first :: others) 0 =
      readHeaderLine versionLimit_pos (first :: rest) 0 := rfl
  rw [Header.ofLines, Header.ofLines, hsame, Logged.bind_of_error _ hline,
    Logged.bind_of_error _ hline]

/-! ## All integers -/

/-- An integer is a numeral below the bound with blanks around it, in a token as on a
line. A token is refused as it was found and a line without its blanks, and a header
fails with line 0 if that fails, whatever the other lines hold. Digits have their
exact value, however many they are and however many of them are zeros in front. -/
theorem integers_read :
    (∀ token result, (RangeSet.readInteger token).result = result ↔
      IntegerReading wordLimit token (fun _ => .invalidInteger (String.ofList token)) result) ∧
    (∀ (bound : Nat) (positive : 0 < bound) (lines line result),
      (readHeaderLine positive lines line).result = result ↔
        LineReading bound lines line result) ∧
    (∀ lines result, (Header.ofLines lines).result = result ↔ HeaderReading lines result) ∧
    (∀ first rest others error, LineReading versionLimit (first :: rest) 0 (.error error) →
      Header.ofLines (first :: others) = Header.ofLines (first :: rest)) ∧
    ∀ (zeros : Nat) (digits : List Char), digits ≠ [] → (∀ c ∈ digits, c.isDigit) →
      (RangeSet.readInteger (List.replicate zeros '0' ++ digits)).result =
        if h : Nat.ofDigitChars 10 digits 0 < wordLimit then
          .ok ⟨Nat.ofDigitChars 10 digits 0, h⟩
        else .error (.invalidInteger (String.ofList (List.replicate zeros '0' ++ digits))) := by
  refine ⟨fun _ _ => RangeSet.readInteger_reading,
    fun _ positive _ _ _ => readHeaderLine_reading positive, fun _ _ => Header.ofLines_reading,
    fun _ _ others _ h => Header.ofLines_of_badVersion h others,
    fun zeros digits hsome hdigits => ?_⟩
  exact RangeSet.readInteger_reading.mpr (integerReading_digits _ hsome hdigits zeros)

/-- The largest word is read behind thirty zeros and its successor is not. A line
with the number 2^32 is good for a total count of blocks but not for a version,
and as one it fails before a line that holds no integer. -/
theorem integers_read_at_limits :
    (RangeSet.readInteger (List.replicate 30 '0' ++ "18446744073709551615".toList)).result =
        .ok ⟨18446744073709551615, by decide⟩ ∧
      (RangeSet.readInteger (List.replicate 30 '0' ++ "18446744073709551616".toList)).result =
        .error (.invalidInteger "00000000000000000000000000000018446744073709551616") ∧
      (readHeaderLine wordLimit_pos [" +4294967296\r".toList] 0).result =
        .ok ⟨4294967296, by decide⟩ ∧
      (Header.ofLines [" +4294967296\r".toList, "x".toList]).result =
        .error (.invalidHeader 0 "+4294967296") := by
  obtain ⟨_, hlines, hheaders, hothers, hdigits⟩ := integers_read
  have hnumeral : Text.IsNumeral "+4294967296".toList 4294967296 :=
    ⟨"4294967296".toList, by decide, List.all_eq_true.mp (by decide), .inr (by decide), by decide⟩
  have hpadded : Text.Padded "+4294967296".toList " +4294967296\r".toList :=
    ⟨[' '], ['\r'], by decide, List.forall_mem_singleton.mpr (by decide),
      List.forall_mem_singleton.mpr (by decide)⟩
  have hshown := hpadded.stripped (RangeSet.isSolid_of_isNumeral hnumeral)
  have htotal : LineReading wordLimit [" +4294967296\r".toList] 0
      (.ok ⟨4294967296, by decide⟩) :=
    .there rfl (.accepted hshown hnumeral)
  have hversion : LineReading versionLimit [" +4294967296\r".toList] 0
      (.error (.invalidHeader 0 (String.ofList "+4294967296".toList))) :=
    .there rfl (.refused hshown fun value hvalue => (hvalue.unique hnumeral).ge)
  refine ⟨?_, ?_, ?_, ?_⟩
  · exact hdigits 30 "18446744073709551615".toList (by decide) (List.all_eq_true.mp (by decide))
  · exact hdigits 30 "18446744073709551616".toList (by decide) (List.all_eq_true.mp (by decide))
  · exact (hlines wordLimit wordLimit_pos _ _ _).mpr htotal
  · rw [hothers _ _ _ _ hversion]
    exact (hheaders _ _).mpr (.badVersion hversion)

end TransferList

end BlockTransfer
