/-
BlockTransfer.Text.Numeral.Lemmas — which texts are numerals, and of what value.

`IsNumeral cs value` is the grammar of numerals. Reading follows it
(`readNumeral_eq_ok_iff`): it accepts the numerals whose value lies below the
bound, however many leading zeros they have, and nothing else.

A numeral is PLAIN when it has no sign and no leading zero. Of all the numerals
with a value exactly one is plain, the one that `decimal` writes
(`isPlain_decimal`, `IsPlain.eq_decimal`).
-/
import BlockTransfer.Text.Numeral
import Mathlib.Data.List.Basic
import Mathlib.Data.List.Induction

namespace BlockTransfer.Text

/-! ## Reading -/

/-- A text is a numeral with a value: ASCII digits, with or without a plus sign
in front of them. -/
def IsNumeral (cs : List Char) (value : Nat) : Prop :=
  ∃ digits, digits ≠ [] ∧ (∀ c ∈ digits, c.isDigit) ∧ (cs = digits ∨ cs = '+' :: digits) ∧
    value = Nat.ofDigitChars 10 digits 0

theorem digit?_eq (c : Char) :
    digit? c = if c.isDigit then some (c.toNat - '0'.toNat) else none := by
  have hdigit : ('0' ≤ c ∧ c ≤ '9') ↔ c.isDigit := by
    rw [Char.isDigit_iff_toNat]
    rfl
  unfold digit?
  exact if_congr hdigit rfl rfl

/-- More digits never make a smaller number. -/
theorem le_ofDigitChars (cs : List Char) (value : Nat) : value ≤ Nat.ofDigitChars 10 cs value := by
  induction cs generalizing value with
  | nil => exact Nat.le_refl value
  | cons c cs ih =>
    rw [Nat.ofDigitChars_cons]
    exact Nat.le_trans (by omega) (ih _)

/-- Zeros in front of digits count for nothing, however many they are. -/
theorem ofDigitChars_zeros (zeros : Nat) (digits : List Char) :
    Nat.ofDigitChars 10 (List.replicate zeros '0' ++ digits) 0 = Nat.ofDigitChars 10 digits 0 := by
  induction zeros with
  | zero => rfl
  | succ zeros ih =>
    rw [List.replicate_succ, List.cons_append, Nat.ofDigitChars_cons]
    exact ih

theorem readDigits_eq_ok_iff {bound : Nat} {value number : Fin bound} {cs : List Char} :
    readDigits value cs = .ok number ↔
      (∀ c ∈ cs, c.isDigit) ∧ number.val = Nat.ofDigitChars 10 cs value := by
  induction cs generalizing value with
  | nil =>
    rw [readDigits, Except.ok.injEq, Nat.ofDigitChars_nil, Fin.ext_iff]
    exact ⟨fun h => ⟨by simp, h.symm⟩, fun h => h.2.symm⟩
  | cons c cs ih =>
    by_cases hdigit : c.isDigit
    · rw [readDigits, digit?_eq, if_pos hdigit, Nat.ofDigitChars_cons, List.forall_mem_cons]
      by_cases hbound : 10 * value.val + (c.toNat - '0'.toNat) < bound
      · simp only [hbound, ↓reduceDIte, ih, hdigit, true_and]
      · -- What the digits so far are worth is past the bound, and so is the whole.
        have hmore := le_ofDigitChars cs (10 * value.val + (c.toNat - '0'.toNat))
        have hnumber := number.isLt
        simp only [hbound, ↓reduceDIte, reduceCtorEq, hdigit, true_and, false_iff, not_and]
        omega
    · rw [readDigits, digit?_eq, if_neg hdigit]
      simp [hdigit]

/-- A numeral has one value. -/
theorem IsNumeral.unique {cs : List Char} {value other : Nat} (h : IsNumeral cs value)
    (hother : IsNumeral cs other) : value = other := by
  obtain ⟨digits, _, hdigits, hcs, rfl⟩ := h
  obtain ⟨others, _, hothers, hcs', rfl⟩ := hother
  have hplus : ('+').isDigit = false := by decide
  have hsame : digits = others := by
    rcases hcs with rfl | rfl <;> rcases hcs' with hcs' | hcs'
    · exact hcs'
    · exact absurd (hdigits '+' (by simp [hcs'])) (by simp [hplus])
    · exact absurd (hothers '+' (by simp [← hcs'])) (by simp [hplus])
    · exact List.tail_eq_of_cons_eq hcs'
  rw [hsame]

/-- Reading accepts the numerals whose value lies below the bound. -/
theorem readNumeral_eq_ok_iff {bound : Nat} {positive : 0 < bound} {cs : List Char}
    {number : Fin bound} :
    readNumeral positive cs = .ok number ↔ IsNumeral cs number.val := by
  have hplus : ('+').isDigit = false := by decide
  constructor
  · intro h
    unfold readNumeral at h
    split at h
    · cases h
    · cases h
    · next digits hdigits =>
      obtain ⟨hall, hvalue⟩ := readDigits_eq_ok_iff.mp h
      exact ⟨digits, fun hnil => hdigits (by rw [hnil]), hall, .inr rfl, hvalue⟩
    · next hnil _ _ =>
      obtain ⟨hall, hvalue⟩ := readDigits_eq_ok_iff.mp h
      exact ⟨cs, hnil, hall, .inl rfl, hvalue⟩
  · rintro ⟨digits, hnil, hall, rfl | rfl, hvalue⟩
    · have hread : readNumeral positive cs = readDigits ⟨0, positive⟩ cs := by
        unfold readNumeral
        split
        · exact absurd rfl hnil
        · exact absurd (hall '+' (by simp)) (by simp [hplus])
        · exact absurd (hall '+' (by simp)) (by simp [hplus])
        · rfl
      rw [hread]
      exact readDigits_eq_ok_iff.mpr ⟨hall, hvalue⟩
    · have hread : readNumeral positive ('+' :: digits) = readDigits ⟨0, positive⟩ digits := by
        cases digits with
        | nil => exact absurd rfl hnil
        | cons c cs => rfl
      rw [hread]
      exact readDigits_eq_ok_iff.mpr ⟨hall, hvalue⟩

/-! ## Writing -/

/-- A plain numeral: only digits, and no zero in front of others. -/
structure IsPlain (cs : List Char) : Prop where
  ne_nil : cs ≠ []
  digits : ∀ c ∈ cs, c.isDigit
  leading : cs.head? = some '0' → cs = ['0']

/-- What a plain numeral says. -/
theorem IsPlain.isNumeral {cs : List Char} (h : IsPlain cs) :
    IsNumeral cs (Nat.ofDigitChars 10 cs 0) :=
  ⟨cs, h.ne_nil, h.digits, .inl rfl, rfl⟩

/-- The first digit of a number is that of its tenth, unless it is the only one. -/
theorem head?_decimal {n : Nat} (h : 10 ≤ n) : (decimal n).head? = (decimal (n / 10)).head? := by
  rw [decimal, decimal, Nat.toDigits_of_base_le (by decide) h,
    List.head?_append_of_ne_nil _ Nat.toDigits_ne_nil]

theorem head?_decimal_ne_zero {n : Nat} (h : 0 < n) : (decimal n).head? ≠ some '0' := by
  induction n using Nat.strongRecOn with
  | ind n ih =>
    by_cases hsmall : n < 10
    · rw [decimal, Nat.toDigits_of_lt_base hsmall]
      intro hzero
      have hchar : n.digitChar = '0' := Option.some.inj hzero
      have hvalue := Nat.toNat_digitChar_of_lt_ten hsmall
      rw [hchar] at hvalue
      simp at hvalue
      omega
    · rw [head?_decimal (Nat.not_lt.mp hsmall)]
      exact ih (n / 10) (by omega) (by omega)

theorem isPlain_decimal (n : Nat) : IsPlain (decimal n) where
  ne_nil := Nat.toDigits_ne_nil
  digits := fun _ hc => Nat.isDigit_of_mem_toDigits (by decide) (by decide) hc
  leading := by
    intro hzero
    rcases Nat.eq_zero_or_pos n with rfl | hpos
    · exact Nat.toDigits_zero 10
    · exact absurd hzero (head?_decimal_ne_zero hpos)

theorem isNumeral_decimal (n : Nat) : IsNumeral (decimal n) n := by
  have h := (isPlain_decimal n).isNumeral
  rwa [decimal, Nat.ofDigitChars_ten_toDigits] at h

theorem decimal_inj {n m : Nat} : decimal n = decimal m ↔ n = m :=
  ⟨fun h => (isNumeral_decimal n).unique (h ▸ isNumeral_decimal m), congrArg decimal⟩

/-- A numeral that does not begin with a zero is not zero. -/
theorem ofDigitChars_pos {c : Char} {cs : List Char} (hdigit : c.isDigit) (hzero : c ≠ '0') :
    0 < Nat.ofDigitChars 10 (c :: cs) 0 := by
  have hrange := Char.isDigit_iff_toNat.mp hdigit
  have hnot : c.toNat ≠ '0'.toNat := fun h => hzero (Char.toNat_inj.mp h)
  rw [Nat.ofDigitChars_cons]
  refine Nat.lt_of_lt_of_le ?_ (le_ofDigitChars cs _)
  omega

/-- A digit is the character of its value. -/
theorem digitChar_of_isDigit {c : Char} (h : c.isDigit) :
    c.toNat - '0'.toNat < 10 ∧ (c.toNat - '0'.toNat).digitChar = c := by
  have hzero : '0'.toNat = 48 := rfl
  have hnine : '9'.toNat = 57 := rfl
  have hrange := Char.isDigit_iff_toNat.mp h
  have hless : c.toNat - '0'.toNat < 10 := by omega
  refine ⟨hless, Char.toNat_inj.mp ?_⟩
  rw [Nat.toNat_digitChar_of_lt_ten hless]
  omega

/-- Writing the value of a plain numeral gives the numeral back. -/
theorem decimal_ofDigitChars {cs : List Char} (h : IsPlain cs) :
    decimal (Nat.ofDigitChars 10 cs 0) = cs := by
  induction cs using List.reverseRecOn with
  | nil => exact absurd rfl h.ne_nil
  | append_singleton cs c ih =>
    obtain ⟨hless, hchar⟩ := digitChar_of_isDigit (h.digits c (by simp))
    rw [Nat.ofDigitChars_append, Nat.ofDigitChars_cons, Nat.ofDigitChars_nil]
    cases hcs : cs with
    | nil =>
      rw [Nat.ofDigitChars_nil, Nat.mul_zero, Nat.zero_add, decimal,
        Nat.toDigits_of_lt_base hless, hchar]
      rfl
    | cons first more =>
      -- The digits before the last are plain as well, and not zero.
      rw [← hcs]
      have hfirst : first ≠ '0' := by
        rintro rfl
        have hshort := h.leading (by simp [hcs])
        simp [hcs] at hshort
      have hplain : IsPlain cs :=
        ⟨by simp [hcs], fun d hd => h.digits d (by simp [hd]), by simp [hcs, hfirst]⟩
      have hpos : 0 < Nat.ofDigitChars 10 cs 0 := by
        rw [hcs]
        exact ofDigitChars_pos (hplain.digits first (by simp [hcs])) hfirst
      have htens : (10 * Nat.ofDigitChars 10 cs 0 + (c.toNat - '0'.toNat)) / 10 =
          Nat.ofDigitChars 10 cs 0 := by omega
      have hunits : (10 * Nat.ofDigitChars 10 cs 0 + (c.toNat - '0'.toNat)) % 10 =
          c.toNat - '0'.toNat := by omega
      rw [decimal, Nat.toDigits_of_base_le (by decide) (by omega), htens, hunits, hchar,
        ← decimal, ih hplain]

/-- Only one numeral with a value is plain. -/
theorem IsPlain.eq_decimal {cs : List Char} {value : Nat} (h : IsPlain cs)
    (hvalue : IsNumeral cs value) : cs = decimal value := by
  rw [hvalue.unique h.isNumeral, decimal_ofDigitChars h]

example : IsNumeral "+007".toList 7 :=
  ⟨"007".toList, by decide, List.all_eq_true.mp (by decide), .inr (by decide), by decide⟩

end BlockTransfer.Text
