/-
BlockTransfer.ByteSize.Lemmas — how far the two roundings of a size go, and that
they keep the order.

Rounding a quotient is off by half a unit at most (`roundQuotient_near`), and it
keeps the order (`roundQuotient_mono`). So a quotient that lies between two
whole numbers is rounded to one between them (`le_roundQuotient`,
`roundQuotient_le`), and that is all the bounds need.

The significand of a count lies between the powers of two around the count
(`pow_log2_le_significand`, `significand_le_pow`), which is why a rounding that
takes a count to the next power of two does not take it past a larger count. In
the same way a size that is rounded up to the next power of 1024 is still not
above any size that is measured by that power (`measure_mono`).
-/
import BlockTransfer.ByteSize
import BlockTransfer.BlockRange
import Mathlib.Algebra.Ring.Nat

namespace BlockTransfer.ByteSize

/-! ## Rounding a quotient -/

section

variable {n m d bound : Nat}

/-- A quotient is rounded down or up. -/
theorem roundQuotient_cases (n d : Nat) :
    (roundQuotient n d = n / d ∧ 2 * (n % d) ≤ d) ∨
      (roundQuotient n d = n / d + 1 ∧ d ≤ 2 * (n % d)) := by
  unfold roundQuotient
  dsimp only
  split
  · exact .inr ⟨rfl, by omega⟩
  · exact .inl ⟨rfl, by omega⟩

/-- Rounding is off by half a unit at most. -/
theorem roundQuotient_near (hd : 0 < d) (n : Nat) :
    2 * n ≤ 2 * (roundQuotient n d * d) + d ∧ 2 * (roundQuotient n d * d) ≤ 2 * n + d := by
  have hsplit := Nat.div_add_mod' n d
  have hless := Nat.mod_lt n hd
  obtain ⟨hround, hrest⟩ | ⟨hround, hrest⟩ := roundQuotient_cases n d
  · rw [hround]
    omega
  · rw [hround, Nat.add_mul]
    omega

/-- Of two counts with the same quotient the larger one is rounded up if the
smaller one is. -/
theorem roundQuotient_mono (h : n ≤ m) : roundQuotient n d ≤ roundQuotient m d := by
  have hquotients : n / d ≤ m / d := Nat.div_le_div_right h
  rcases Nat.lt_or_eq_of_le hquotients with hless | hsame
  · obtain ⟨hn, _⟩ | ⟨hn, _⟩ := roundQuotient_cases n d <;>
      obtain ⟨hm, _⟩ | ⟨hm, _⟩ := roundQuotient_cases m d <;> omega
  · have hn := Nat.div_add_mod' n d
    have hm := Nat.div_add_mod' m d
    rw [← hsame] at hm
    have hrests : n % d ≤ m % d := by omega
    unfold roundQuotient
    dsimp only
    rw [← hsame]
    split <;> split <;> omega

theorem roundQuotient_mul (hd : 0 < d) (m : Nat) : roundQuotient (m * d) d = m := by
  obtain ⟨hround, _⟩ | ⟨_, hrest⟩ := roundQuotient_cases (m * d) d
  · rw [hround, Nat.mul_div_cancel m hd]
  · rw [Nat.mul_mod_left] at hrest
    omega

theorem roundQuotient_le (hd : 0 < d) (h : n ≤ bound * d) : roundQuotient n d ≤ bound :=
  Nat.le_trans (roundQuotient_mono h) (Nat.le_of_eq (roundQuotient_mul hd bound))

theorem le_roundQuotient (hd : 0 < d) (h : bound * d ≤ n) : bound ≤ roundQuotient n d :=
  Nat.le_trans (Nat.le_of_eq (roundQuotient_mul hd bound).symm) (roundQuotient_mono h)

end

/-! ## Fifty-three significant bits -/

section

variable {n m : Nat}

/-- The unit in which a count of 53 bits or more is rounded. -/
def unit (n : Nat) : Nat := 2 ^ (n.log2 - 52)

theorem unit_pos (n : Nat) : 0 < unit n := Nat.two_pow_pos _

theorem significand_of_lt (h : n < 2 ^ 53) : significand n = n := if_pos h

theorem significand_of_le (h : 2 ^ 53 ≤ n) : significand n = roundQuotient n (unit n) * unit n :=
  if_neg (Nat.not_lt.mpr h)

/-- The powers of two around a count are whole numbers of its units. -/
theorem pow_log2_eq (h : 2 ^ 53 ≤ n) :
    2 ^ n.log2 = 2 ^ 52 * unit n ∧ 2 ^ (n.log2 + 1) = 2 ^ 53 * unit n := by
  have hlog : 53 ≤ n.log2 := (Nat.le_log2 (by omega)).mpr h
  rw [unit, ← Nat.pow_add, ← Nat.pow_add]
  exact ⟨congrArg _ (by omega), congrArg _ (by omega)⟩

theorem pow_log2_le_significand (h : n ≠ 0) : 2 ^ n.log2 ≤ significand n := by
  rcases Nat.lt_or_ge n (2 ^ 53) with hsmall | hlarge
  · rw [significand_of_lt hsmall]
    exact Nat.log2_self_le h
  · have hpow := (pow_log2_eq hlarge).1
    rw [significand_of_le hlarge, hpow]
    refine Nat.mul_le_mul_right _ (le_roundQuotient (unit_pos n) ?_)
    rw [← hpow]
    exact Nat.log2_self_le h

theorem significand_le_pow (n : Nat) : significand n ≤ 2 ^ (n.log2 + 1) := by
  rcases Nat.lt_or_ge n (2 ^ 53) with hsmall | hlarge
  · rw [significand_of_lt hsmall]
    exact Nat.le_of_lt Nat.lt_log2_self
  · have hpow := (pow_log2_eq hlarge).2
    rw [significand_of_le hlarge, hpow]
    refine Nat.mul_le_mul_right _ (roundQuotient_le (unit_pos n) ?_)
    rw [← hpow]
    exact Nat.le_of_lt Nat.lt_log2_self

theorem log2_mono (h : n ≤ m) : n.log2 ≤ m.log2 := by
  by_cases hn : n = 0
  · simp [hn]
  · exact (Nat.le_log2 (by omega)).mpr (Nat.le_trans (Nat.log2_self_le hn) h)

theorem significand_mono (h : n ≤ m) : significand n ≤ significand m := by
  by_cases hn : n = 0
  · rw [hn, significand_of_lt (by decide)]
    exact Nat.zero_le _
  rcases Nat.lt_or_eq_of_le (log2_mono h) with hless | hsame
  · -- There is a power of two between the counts, and no rounding passes it.
    calc significand n ≤ 2 ^ (n.log2 + 1) := significand_le_pow n
      _ ≤ 2 ^ m.log2 := Nat.pow_le_pow_right (by decide) hless
      _ ≤ significand m := pow_log2_le_significand (by omega)
  · have hbits : n < 2 ^ 53 ↔ m < 2 ^ 53 := by
      rw [← Nat.log2_lt hn, ← Nat.log2_lt (by omega), hsame]
    have hunits : unit n = unit m := by rw [unit, unit, hsame]
    rcases Nat.lt_or_ge n (2 ^ 53) with hsmall | hlarge
    · rw [significand_of_lt hsmall, significand_of_lt (hbits.mp hsmall)]
      exact h
    · rw [significand_of_le hlarge, significand_of_le (by omega), hunits]
      exact Nat.mul_le_mul_right _ (roundQuotient_mono h)

/-- Up to 2^53 nothing is lost. -/
theorem significand_eq (h : n ≤ 2 ^ 53) : significand n = n := by
  rcases Nat.lt_or_eq_of_le h with hless | rfl
  · exact significand_of_lt hless
  · rfl

/-- The significand of a word is off by 2^10 at most. -/
theorem significand_near (h : n < wordLimit) :
    n ≤ significand n + 2 ^ 10 ∧ significand n ≤ n + 2 ^ 10 := by
  rcases Nat.lt_or_ge n (2 ^ 53) with hsmall | hlarge
  · rw [significand_of_lt hsmall]
    omega
  · have hlog : n.log2 < 64 := (Nat.log2_lt (by omega)).mpr h
    have hunit : unit n ≤ 2 ^ 11 := Nat.pow_le_pow_right (by decide) (by omega)
    have hnear := roundQuotient_near (unit_pos n) n
    rw [significand_of_le hlarge]
    omega

/-- A word may be rounded up to 2^64. -/
theorem significand_le (h : n < wordLimit) : significand n ≤ 2 ^ 64 := by
  calc significand n ≤ significand (2 ^ 64) := significand_mono (Nat.le_of_lt h)
    _ = 2 ^ 64 := by decide

end

/-! ## Hundredths of a power of 1024 -/

section

variable {value other : Nat}

/-- A value in hundredths of a byte, when it is rounded to hundredths of its
power of 1024. -/
def measure (value : Nat) : Nat :=
  roundQuotient (100 * value) (1024 ^ exponent value) * 1024 ^ exponent value

theorem exponent_le (value : Nat) : exponent value ≤ 6 := Nat.min_le_right _ _

theorem exponent_mono (h : value ≤ other) : exponent value ≤ exponent other := by
  have hlogs := log2_mono h
  unfold exponent
  omega

theorem exponent_eq_zero_iff (value : Nat) : exponent value = 0 ↔ value < 1024 := by
  have hlimit : value < 2 ^ 10 ↔ value < 1024 := Iff.rfl
  by_cases hzero : value = 0
  · simp [hzero, exponent]
  · rw [← hlimit, ← Nat.log2_lt hzero]
    simp only [exponent, suffixes, List.length_cons, List.length_nil]
    omega

theorem pow_exponent_le (h : value ≠ 0) : 1024 ^ exponent value ≤ value := by
  have hlog : 10 * exponent value ≤ value.log2 := by
    unfold exponent
    omega
  calc 1024 ^ exponent value = 2 ^ (10 * exponent value) := (Nat.pow_mul 2 10 _).symm
    _ ≤ 2 ^ value.log2 := Nat.pow_le_pow_right (by decide) hlog
    _ ≤ value := Nat.log2_self_le h

/-- Where there is a larger suffix, a value lies below the next power. -/
theorem lt_pow_exponent (h : exponent value < 6) : value < 1024 ^ (exponent value + 1) := by
  have hlog : value.log2 + 1 ≤ 10 * (exponent value + 1) := by
    unfold exponent suffixes at *
    simp only [List.length_cons, List.length_nil] at *
    omega
  calc value < 2 ^ (value.log2 + 1) := Nat.lt_log2_self
    _ ≤ 2 ^ (10 * (exponent value + 1)) := Nat.pow_le_pow_right (by decide) hlog
    _ = 1024 ^ (exponent value + 1) := Nat.pow_mul 2 10 _

theorem pow_pos_1024 (power : Nat) : 0 < 1024 ^ power := Nat.pow_pos (by decide)

/-- A value is at least a whole of its power of 1024. -/
theorem le_scaled (h : value ≠ 0) : 100 ≤ roundQuotient (100 * value) (1024 ^ exponent value) :=
  le_roundQuotient (pow_pos_1024 _) (Nat.mul_le_mul_left 100 (pow_exponent_le h))

/-- Where there is a larger suffix, rounding goes up to the next power at most. -/
theorem scaled_le (h : exponent value < 6) :
    roundQuotient (100 * value) (1024 ^ exponent value) ≤ 100 * 1024 := by
  have hvalue := Nat.le_of_lt (lt_pow_exponent h)
  refine roundQuotient_le (pow_pos_1024 _) ?_
  rw [Nat.pow_succ'] at hvalue
  rw [Nat.mul_assoc]
  exact Nat.mul_le_mul_left 100 hvalue

/-- At the largest suffix a word is sixteen wholes at most. -/
theorem scaled_le_of_top (h : exponent value = 6) (hvalue : value ≤ 2 ^ 64) :
    roundQuotient (100 * value) (1024 ^ exponent value) ≤ 1600 := by
  rw [h]
  exact roundQuotient_le (pow_pos_1024 _) (by omega)

theorem measure_mono (h : value ≤ other) : measure value ≤ measure other := by
  by_cases hzero : value = 0
  · subst hzero
    exact Nat.zero_le _
  rcases Nat.lt_or_eq_of_le (exponent_mono h) with hless | hsame
  · -- There is a power of 1024 between the values, and no rounding passes it.
    have hbound := exponent_le other
    calc measure value ≤ 100 * 1024 * 1024 ^ exponent value :=
          Nat.mul_le_mul_right _ (scaled_le (by omega))
      _ = 100 * 1024 ^ (exponent value + 1) := by rw [Nat.pow_succ', Nat.mul_assoc]
      _ ≤ 100 * 1024 ^ exponent other :=
          Nat.mul_le_mul_left 100 (Nat.pow_le_pow_right (by decide) hless)
      _ ≤ measure other := Nat.mul_le_mul_right _ (le_scaled (by omega))
  · unfold measure
    rw [hsame]
    exact Nat.mul_le_mul_right _ (roundQuotient_mono (Nat.mul_le_mul_left 100 h))

/-- Values below 1024 are exact. -/
theorem measure_of_lt (h : value < 1024) : measure value = 100 * value := by
  have hpower := (exponent_eq_zero_iff value).mpr h
  have hround := roundQuotient_mul Nat.one_pos (100 * value)
  rw [Nat.mul_one] at hround
  rw [measure, hpower, Nat.pow_zero, Nat.mul_one, hround]

end

end BlockTransfer.ByteSize
