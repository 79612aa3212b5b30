/-
BlockTransfer.Proofs.SizeText — what the text of a size says.

`readBack?` reads a text of a size as a count, in hundredths of a byte. It knows
nothing of rounding: it takes the digits for what they are and multiplies by the
power of 1024 of the suffix.

What is read back from the text of a count is near the count (`Sized`), and it
keeps the order: of two counts the larger one never has a text that reads as a
smaller size, also where the suffix changes (`text_keeps_order`).
-/
import BlockTransfer.ByteSize.Lemmas
import BlockTransfer.Text.Numeral.Lemmas
import Mathlib.Algebra.Order.Group.Abs
import Mathlib.Algebra.Order.Ring.Int

namespace BlockTransfer.ByteSize

/-! ## Reading a size back -/

/-- The number that digits stand for. -/
def readDigits? (digits : List Char) : Option Nat :=
  if digits ≠ [] ∧ digits.all Char.isDigit then some (Nat.ofDigitChars 10 digits 0) else none

/-- The count that a text of a size stands for, in hundredths of a byte: whole
bytes, or a number with two decimals and the suffix of a power of 1024. -/
def readBack? (text : List Char) : Option Nat :=
  match text.reverse with
  | 'B' :: digits => (readDigits? digits.reverse).map (100 * ·)
  | suffix :: units :: tens :: '.' :: digits =>
    match suffixes.idxOf? suffix, readDigits? (digits.reverse ++ [tens, units]) with
    | some power, some hundredths => some (hundredths * 1024 ^ power)
    | _, _ => none
  | _ => none

/-- A text is a number with two decimals, given in hundredths, and the suffix of
a power of 1024. -/
def SaysHundredths (text : List Char) (hundredths power : Nat) : Prop :=
  ∃ whole tens units suffix, text = whole ++ ['.', tens, units, suffix] ∧ Text.IsPlain whole ∧
    tens.isDigit ∧ units.isDigit ∧ suffixes[power]? = some suffix ∧
    hundredths = Nat.ofDigitChars 10 (whole ++ [tens, units]) 0

theorem readDigits?_decimal (n : Nat) : readDigits? (Text.decimal n) = some n := by
  have hplain := Text.isPlain_decimal n
  have hall : (Text.decimal n).all Char.isDigit := List.all_eq_true.mpr hplain.digits
  rw [readDigits?, if_pos ⟨hplain.ne_nil, hall⟩, Text.decimal, Nat.ofDigitChars_ten_toDigits]

theorem readBack?_whole (n : Nat) : readBack? (Text.decimal n ++ ['B']) = some (100 * n) := by
  rw [readBack?, List.reverse_append]
  simp [readDigits?_decimal]

/-- No suffix stands for two powers. -/
theorem idxOf?_suffix {power : Nat} {suffix : Char} (h : suffixes[power]? = some suffix) :
    suffixes.idxOf? suffix = some power := by
  have hall : ∀ power, ∀ hpower : power < suffixes.length,
      suffixes.idxOf? suffixes[power] = some power := by decide
  obtain ⟨hpower, rfl⟩ := List.getElem?_eq_some_iff.mp h
  exact hall power hpower

theorem readBack?_of_says {text : List Char} {hundredths power : Nat} (hpower : 1 ≤ power)
    (h : SaysHundredths text hundredths power) :
    readBack? text = some (hundredths * 1024 ^ power) := by
  obtain ⟨whole, tens, units, suffix, rfl, hplain, htens, hunits, hsuffix, rfl⟩ := h
  have hindex := idxOf?_suffix hsuffix
  have hbytes : suffix ≠ 'B' := by
    rintro rfl
    have hzero : suffixes.idxOf? 'B' = some 0 := by decide
    rw [hzero] at hindex
    injection hindex with hindex
    omega
  have hreverse : (whole ++ ['.', tens, units, suffix]).reverse =
      suffix :: units :: tens :: '.' :: whole.reverse := by simp
  have hdigits : ∀ c ∈ whole ++ [tens, units], c.isDigit = true := by
    simpa [htens, hunits, or_imp, forall_and] using hplain.digits
  have hread : readDigits? (whole ++ [tens, units]) =
      some (Nat.ofDigitChars 10 (whole ++ [tens, units]) 0) :=
    if_pos ⟨by simp, List.all_eq_true.mpr hdigits⟩
  rw [readBack?, hreverse]
  split
  · next hlast => exact absurd (List.cons.inj hlast).1 hbytes
  · next hlast =>
    simp only [List.cons.injEq] at hlast
    obtain ⟨rfl, rfl, rfl, _, rfl⟩ := hlast
    rw [hindex, List.reverse_reverse, hread]
  · next hother => exact absurd rfl (hother _ _ _ _)

/-! ## The text of a count -/

theorem toList_fixedPoint (hundredths : Nat) :
    (fixedPoint hundredths).toList = Text.decimal (hundredths / 100) ++
      ['.', (hundredths / 10 % 10).digitChar, (hundredths % 10).digitChar] := by
  have htens : hundredths % 100 / 10 = hundredths / 10 % 10 := by omega
  have hunits : hundredths % 100 % 10 = hundredths % 10 := by omega
  have hfirst : Nat.toDigits 10 (hundredths / 10 % 10) = [(hundredths / 10 % 10).digitChar] :=
    Nat.toDigits_of_lt_base (by omega)
  have hsecond : Nat.toDigits 10 (hundredths % 10) = [(hundredths % 10).digitChar] :=
    Nat.toDigits_of_lt_base (by omega)
  simp [fixedPoint, toString, Text.decimal, htens, hunits, hfirst, hsecond]

theorem says_fixedPoint {power : Nat} {suffix : Char} (hundredths : Nat)
    (hsuffix : suffixes[power]? = some suffix) :
    SaysHundredths ((fixedPoint hundredths).toList ++ [suffix]) hundredths power := by
  have htens : hundredths / 10 % 10 < 10 := Nat.mod_lt _ (by decide)
  have hunits : hundredths % 10 < 10 := Nat.mod_lt _ (by decide)
  refine ⟨_, _, _, suffix, by rw [toList_fixedPoint, List.append_assoc]; rfl,
    Text.isPlain_decimal _, by simp [Nat.isDigit_digitChar, htens],
    by simp [Nat.isDigit_digitChar, hunits], hsuffix, ?_⟩
  have hzero : '0'.toNat = 48 := rfl
  rw [Nat.ofDigitChars_append, Text.decimal, Nat.ofDigitChars_ten_toDigits, Nat.ofDigitChars_cons,
    Nat.ofDigitChars_cons, Nat.ofDigitChars_nil, Nat.toNat_digitChar_of_lt_ten htens,
    Nat.toNat_digitChar_of_lt_ten hunits]
  omega

/-- What the text of a count says, and the size that it stands for, in
hundredths of a byte. -/
inductive Sized (n : Nat) : List Char → Nat → Prop
  | whole (hsmall : n < 1024) : Sized n (Text.decimal n ++ ['B']) (100 * n)
  | scaled {text hundredths power} (hlarge : 1024 ≤ n)
      (hnumber : SaysHundredths text hundredths power) (hpower : 1 ≤ power ∧ power ≤ 6)
      (hleast : 100 ≤ hundredths) (hmost : hundredths ≤ 102400)
      (htop : power = 6 → hundredths ≤ 1600)
      (hnear : 2 * |(hundredths * 1024 ^ power : Int) - 100 * n| ≤ 1024 ^ power + 204800)
      (hnearer : n ≤ 2 ^ 53 → 2 * |(hundredths * 1024 ^ power : Int) - 100 * n| ≤ 1024 ^ power) :
      Sized n text (hundredths * 1024 ^ power)

theorem text_of_lt {n : Nat} (h : n < 1024) : (text n).toList = Text.decimal n ++ ['B'] := by
  have hpower : exponent (significand n) = 0 := by
    rw [significand_of_lt (by omega)]
    exact (exponent_eq_zero_iff n).mpr h
  simp [text, hpower, toString, Text.decimal]

/-- From 1024 on a count is not measured in bytes. -/
theorem one_le_exponent {n : Nat} (h : 1024 ≤ n) : 1 ≤ exponent (significand n) := by
  have hsignificand : 1024 ≤ significand n := by
    calc 1024 = significand 1024 := by decide
      _ ≤ significand n := significand_mono h
  have hzero := exponent_eq_zero_iff (significand n)
  omega

theorem text_of_le {n : Nat} (h : 1024 ≤ n) :
    text n = fixedPoint (hundredths n) ++
      (suffixes.getD (exponent (significand n)) 'B').toString := by
  have hone := one_le_exponent h
  unfold text
  split
  · next hzero => omega
  · rfl

theorem says_text {n : Nat} (h : 1024 ≤ n) :
    SaysHundredths (text n).toList (hundredths n) (exponent (significand n)) := by
  have hless : exponent (significand n) < suffixes.length :=
    Nat.lt_succ_of_le (exponent_le (significand n))
  have hsuffix : suffixes[exponent (significand n)]? =
      some (suffixes.getD (exponent (significand n)) 'B') := by
    rw [List.getD_eq_getElem?_getD, List.getElem?_eq_getElem hless, Option.getD_some]
  rw [text_of_le h, String.toList_append, Char.toString, String.toList_singleton]
  exact says_fixedPoint _ hsuffix

/-- Two counts of which neither is more than a bound above the other. -/
theorem two_mul_abs_sub_le {a b bound : Nat} (hupper : 2 * a ≤ 2 * b + bound)
    (hlower : 2 * b ≤ 2 * a + bound) : 2 * |(a - b : Int)| ≤ bound := by
  rcases abs_cases (a - b : Int) with ⟨habs, _⟩ | ⟨habs, _⟩ <;> omega

/-- The text of a word says a size that is near it. -/
theorem sized_text {n : Nat} (h : n < wordLimit) :
    Sized n (text n).toList (measure (significand n)) := by
  rcases Nat.lt_or_ge n 1024 with hsmall | hlarge
  · have hsize : measure (significand n) = 100 * n := by
      rw [significand_of_lt (by omega), measure_of_lt hsmall]
    rw [text_of_lt hsmall, hsize]
    exact .whole hsmall
  · have hvalue : significand n ≠ 0 := by
      have hone := one_le_exponent hlarge
      intro hzero
      rw [hzero] at hone
      exact absurd hone (by decide)
    have hmost := exponent_le (significand n)
    have hround := roundQuotient_near (pow_pos_1024 (exponent (significand n)))
      (100 * significand n)
    have hnear := significand_near h
    refine .scaled hlarge (says_text hlarge) ⟨one_le_exponent hlarge, hmost⟩ (le_scaled hvalue) ?_
      (fun htop => scaled_le_of_top htop (significand_le h)) ?_ fun hexact => ?_
    · rcases Nat.lt_or_eq_of_le hmost with hless | htop
      · exact scaled_le hless
      · exact Nat.le_trans (scaled_le_of_top htop (significand_le h)) (by decide)
    · -- Half a unit of the last decimal, and a hundred times what the significand lost.
      exact_mod_cast two_mul_abs_sub_le (by omega) (by omega)
    · have hsame := significand_eq hexact
      exact_mod_cast two_mul_abs_sub_le (by omega) (by omega)

/-- The size that a text says is the one that is read back from it. -/
theorem Sized.readBack? {n size : Nat} {text : List Char} (h : Sized n text size) :
    readBack? text = some size := by
  cases h with
  | whole => exact readBack?_whole n
  | scaled _ hnumber hpower => exact readBack?_of_says hpower.1 hnumber

/-- The text of a word says a size that is near it, and what is read back from
the texts of two words keeps the order of the words, whatever their suffixes. -/
theorem text_keeps_order {n m : Nat} (hle : n ≤ m) (hm : m < wordLimit) :
    ∃ small large, Sized n (text n).toList small ∧ Sized m (text m).toList large ∧
      readBack? (text n).toList = some small ∧ readBack? (text m).toList = some large ∧
      small ≤ large := by
  have hsmall := sized_text (Nat.lt_of_le_of_lt hle hm)
  have hlarge := sized_text hm
  exact ⟨_, _, hsmall, hlarge, hsmall.readBack?, hlarge.readBack?,
    measure_mono (significand_mono hle)⟩

/-- The largest count that is a number of K, and the least that is one of M, are
read back as the same size. -/
theorem text_keeps_order_mega :
    text 1048575 = "1024.00K" ∧ text 1048576 = "1.00M" ∧
      ∃ small large, Sized 1048575 "1024.00K".toList small ∧ Sized 1048576 "1.00M".toList large ∧
        readBack? "1024.00K".toList = some small ∧ readBack? "1.00M".toList = some large ∧
        small ≤ large := by
  have hlast : text 1048575 = "1024.00K" := by decide +kernel
  have hnext : text 1048576 = "1.00M" := by decide +kernel
  have hkept := text_keeps_order (n := 1048575) (m := 1048576) (by decide) (by decide)
  rw [hlast, hnext] at hkept
  exact ⟨hlast, hnext, hkept⟩

end BlockTransfer.ByteSize
