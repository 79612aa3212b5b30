/-
BlockTransfer.Proofs.RangeEncoding — writing range sets as fields and reading
them back.

What `toField` writes reads as the set that it was written for, as long as the
count of its numbers is a word (`ofField_toField`). The other way round it
depends on the field: many fields read as the same set, with blanks, plus signs
or leading zeros in their tokens, or with tokens past the announced ones. A
CANONICAL field has none of these, and among the fields that read as a set it
is the one that `toField` writes (`toField_eq_iff`).
-/
import BlockTransfer.Proofs.RangeField

namespace BlockTransfer

/-- Sets of fewer ranges than this, the number 2^63, have a count of numbers
that is a word. -/
def rangeLimit : Nat := Nat.pow 2 63

theorem two_mul_rangeLimit : 2 * rangeLimit = wordLimit := by decide

namespace RangeSet

/-! ## Tokens -/

/-- The two ends of each range, in order. -/
def ends (ranges : List BlockRange) : List Nat :=
  ranges.flatMap fun range => [range.start, range.stop]

theorem length_ends (ranges : List BlockRange) : (ends ranges).length = 2 * ranges.length := by
  induction ranges with
  | nil => rfl
  | cons range ranges ih =>
    have hends : ends (range :: ranges) = range.start :: range.stop :: ends ranges := rfl
    rw [hends, List.length_cons, List.length_cons, ih, List.length_cons]
    omega

theorem isInteger_decimal {value : Nat} (h : value < wordLimit) :
    IsInteger (Text.decimal value) value :=
  ⟨_, .refl _, Text.isNumeral_decimal value, h⟩

/-- A plain token is the decimal of the integer that it is. -/
theorem IsInteger.eq_decimal {token : List Char} {value : Nat} (h : IsInteger token value)
    (hplain : Text.IsPlain token) : token = Text.decimal value := by
  obtain ⟨hnumeral, _⟩ := isInteger_iff_trim.mp h
  have htrim : Text.trim token = token :=
    Text.trim_of_padded (.refl token) (isSolid_of_isNumeral hplain.isNumeral)
  exact hplain.eq_decimal (htrim ▸ hnumeral)

theorem spells_decimals (ranges : List BlockRange) :
    Spells ((ends ranges).map Text.decimal) ranges := by
  induction ranges with
  | nil => exact .nil
  | cons range ranges ih =>
    exact .cons (isInteger_decimal (Nat.lt_of_le_of_lt range.ordered range.stop_lt))
      (isInteger_decimal range.stop_lt) ih

/-- Plain tokens spell ranges in one way only. -/
theorem Spells.eq_decimals {tokens : List (List Char)} {ranges : List BlockRange}
    (h : Spells tokens ranges) (hplain : ∀ token ∈ tokens, Text.IsPlain token) :
    tokens = (ends ranges).map Text.decimal := by
  induction h with
  | nil => rfl
  | @cons first second tokens range ranges hstart hstop _ ih =>
    have hrest := ih fun token hmem => hplain token (by simp [hmem])
    rw [hstart.eq_decimal (hplain first (by simp)), hstop.eq_decimal (hplain second (by simp)),
      hrest]
    rfl

theorem toList_toField (set : RangeSet) :
    set.toField.toList = Text.joinWith ','
      (Text.decimal (2 * set.count) :: (ends set.ranges).map Text.decimal) := by
  rw [toField, String.toList_ofList]
  rfl

/-- There is no comma in a plain numeral. -/
theorem not_mem_of_isPlain {token : List Char} (h : Text.IsPlain token) : ',' ∉ token := by
  intro hmem
  have hdigit := h.digits ',' hmem
  revert hdigit
  decide

/-! ## Fields -/

/-- A canonical field: its tokens are plain numerals, and after the first there
are as many of them as it says. -/
def Canonical (field : String) : Prop :=
  ∃ head values, field.toList = Text.joinWith ',' (head :: values) ∧
    (∀ token ∈ head :: values, Text.IsPlain token) ∧ Text.IsNumeral head values.length

/-- The tokens of a canonical field are those it is made of. -/
theorem splitAt_of_isPlain {field : String} {head : List Char} {values : List (List Char)}
    (hfield : field.toList = Text.joinWith ',' (head :: values))
    (hplain : ∀ token ∈ head :: values, Text.IsPlain token) :
    Text.splitAt ',' field.toList = head :: values := by
  rw [hfield]
  exact Text.splitAt_joinWith (by simp) fun token hmem => not_mem_of_isPlain (hplain token hmem)

theorem isPlain_tokens (set : RangeSet) :
    ∀ token ∈ Text.decimal (2 * set.count) :: (ends set.ranges).map Text.decimal,
      Text.IsPlain token := by
  intro token hmem
  rcases List.mem_cons.mp hmem with rfl | hmem
  · exact Text.isPlain_decimal _
  · obtain ⟨value, _, rfl⟩ := List.mem_map.mp hmem
    exact Text.isPlain_decimal value

theorem canonical_toField (set : RangeSet) : Canonical set.toField := by
  refine ⟨_, _, toList_toField set, isPlain_tokens set, ?_⟩
  rw [List.length_map, length_ends]
  exact Text.isNumeral_decimal _

theorem ofField_toField {set : RangeSet} (h : set.count < rangeLimit) :
    (ofField set.toField).result = .ok set := by
  have hword : 2 * set.count < wordLimit := by
    rw [← two_mul_rangeLimit]
    omega
  have hlength : ((ends set.ranges).map Text.decimal).length = 2 * set.count := by
    rw [List.length_map, length_ends]
    rfl
  refine ofField_of_reading (splitAt_of_isPlain (toList_toField set) (isPlain_tokens set)) ?_
  refine .good (isInteger_decimal hword) (Nat.mul_mod_right 2 _) (Nat.le_of_eq hlength.symm) ?_
  rw [List.take_of_length_le (Nat.le_of_eq hlength)]
  exact spells_decimals set.ranges

/-- Of the fields that read as a set, the canonical one is written for it. -/
theorem toField_eq_iff {field : String} {set : RangeSet} (h : (ofField field).result = .ok set) :
    set.toField = field ↔ Canonical field := by
  constructor
  · rintro rfl
    exact canonical_toField set
  · rintro ⟨head, values, hfield, hplain, hcount⟩
    have htokens := splitAt_of_isPlain hfield hplain
    obtain ⟨result, hreading⟩ := exists_reading head values
    rw [ofField_of_reading htokens hreading] at h
    subst h
    cases hreading with
    | @good count ranges hinteger heven henough hvalues =>
      have hall : count = values.length := by
        have hhead := hinteger.eq_decimal (hplain head (by simp))
        rw [hhead] at hcount
        exact (Text.isNumeral_decimal count).unique hcount
      rw [hall, List.take_length] at hvalues
      have hends := hvalues.eq_decimals fun token hmem => hplain token (by simp [hmem])
      have hhead : head = Text.decimal (2 * ranges.length) := by
        rw [← hvalues.length_eq, ← hall]
        exact hinteger.eq_decimal (hplain head (by simp))
      rw [← String.toList_inj, toList_toField, hfield, hhead, hends]
      rfl

/-- Range sets come back from their fields, and fields from their range sets
just when they are canonical. -/
theorem toField_inverse :
    (∀ set : RangeSet, set.count < rangeLimit → (ofField set.toField).result = .ok set) ∧
      ∀ field set, (ofField field).result = .ok set → (set.toField = field ↔ Canonical field) :=
  ⟨fun _ => ofField_toField, fun _ _ => toField_eq_iff⟩

/-- The widest range and an empty one: their field reads back, and so does a
field with a blank, a plus sign, a leading zero and a token too many. -/
theorem toField_inverse_widest :
    ∃ set : RangeSet,
      set.ranges = [⟨0, 18446744073709551615, by decide, by decide⟩, ⟨5, 5, by decide, by decide⟩] ∧
      (ofField set.toField).result = .ok set ∧
      (ofField " 4,+0,018446744073709551615,5,5,x").result = .ok set ∧
      ¬ Canonical " 4,+0,018446744073709551615,5,5,x" := by
  let set : RangeSet := ⟨[⟨0, 18446744073709551615, by decide, by decide⟩,
    ⟨5, 5, by decide, by decide⟩]⟩
  have hread : (ofField " 4,+0,018446744073709551615,5,5,x").result = .ok set := by
    decide +kernel
  refine ⟨set, rfl, toField_inverse.1 set (by decide), hread, ?_⟩
  rw [← toField_inverse.2 _ set hread]
  decide

end RangeSet

end BlockTransfer
