import GuestSandbox.Proofs.Number.Digits
import GuestSandbox.Proofs.Number.Numeral
import Mathlib.Data.Nat.Log

namespace GuestSandbox.Number

variable {n : Nat}

-- A number below 2 ^ 53 is moved up until its mantissa is full.
theorem scaled_bounds {places : Nat} (positive : n ≠ 0) (full : n.log2 + places = 52) :
    leastFull ≤ n * 2 ^ places ∧ n * 2 ^ places < 2 * leastFull := by
  have low : 2 ^ n.log2 ≤ n := Nat.log2_self_le positive
  have high : n < 2 ^ (n.log2 + 1) := Nat.lt_log2_self
  constructor
  · calc leastFull = 2 ^ n.log2 * 2 ^ places := by rw [← Nat.pow_add, full]; rfl
      _ ≤ n * 2 ^ places := Nat.mul_le_mul_right _ low
  · calc n * 2 ^ places < 2 ^ (n.log2 + 1) * 2 ^ places := Nat.mul_lt_mul_of_pos_right high (Nat.two_pow_pos _)
      _ = 2 * leastFull := by rw [← Nat.pow_add, Nat.add_right_comm, full]; rfl

theorem exists_whole (least : 1 ≤ n) (greatest : n ≤ 2 ^ 53) :
    ∃ x : Binary64, x.Canonical ∧ x.negative = false ∧ x.magnitude = n := by
  rcases Nat.lt_or_eq_of_le greatest with below | rfl
  · have positive : n ≠ 0 := Nat.one_le_iff_ne_zero.mp least
    have bits : n.log2 < 53 := (Nat.log2_lt positive).mpr below
    obtain ⟨places, full⟩ : ∃ places, n.log2 + places = 52 := ⟨52 - n.log2, by omega⟩
    obtain ⟨enough, room⟩ := scaled_bounds positive full
    have low : leastExponent ≤ -(places : Int) := by rw [leastExponent]; omega
    have high : -(places : Int) ≤ greatestExponent := by rw [greatestExponent]; omega
    refine ⟨⟨false, n * 2 ^ places, -places⟩, ⟨room, low, high, .inl enough⟩, rfl, ?_⟩
    rw [Binary64.magnitude, zpow_neg, zpow_natCast, Nat.cast_mul, Nat.cast_pow, Nat.cast_two]
    exact mul_inv_cancel_right₀ (by positivity) _
  · refine ⟨⟨false, leastFull, 1⟩, ⟨by decide, by decide, by decide, .inl le_rfl⟩, rfl, ?_⟩
    norm_num [Binary64.magnitude, leastFull]

theorem reads_digits (least : 1 ≤ n) (greatest : n ≤ 2 ^ 53) :
    ∃ x : Binary64, Reads (digits n) (.finite x) ∧ x.value = n := by
  obtain ⟨x, canonical, positive, exact⟩ := exists_whole least greatest
  have plain : ∀ c ∈ digits n ++ (none : Option (List Char)).getD [], c.isDigit = true := fun c member =>
    isDigit_of_mem_digits (by simpa using member)
  have nearest := Figure.nearest_self canonical
  rw [positive, exact] at nearest
  let numeral : Numeral := ⟨digits n, none, none, plain, by simp⟩
  have chars : numeral.chars = digits n := by simp [numeral, Numeral.chars]
  have value : numeral.value = n := by
    simp [numeral, Numeral.value, Numeral.digits, Numeral.places]
  refine ⟨x, ?_, by rw [Binary64.value, positive, exact, if_neg Bool.false_ne_true]⟩
  rw [← chars]
  exact .numeral .unwritten numeral _ (by rwa [value])

end GuestSandbox.Number
