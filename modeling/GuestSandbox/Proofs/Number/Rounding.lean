import GuestSandbox.Number.Figure
import Mathlib.Algebra.Order.Field.Power
import Mathlib.Algebra.Order.Floor.Semifield
import Mathlib.Data.Nat.Cast.Order.Field
import Mathlib.Data.Rat.Floor
import Mathlib.Tactic.FieldSimp
import Mathlib.Tactic.Linarith
import Mathlib.Tactic.NormNum
import Mathlib.Tactic.Positivity
import Mathlib.Tactic.Ring

-- The rounding is to the nearest number there is, and of two equally near to the one with an even mantissa; from half a
-- unit past the greatest number on it is infinite. The numbers are compared as rationals.

namespace GuestSandbox.Number

-- An integer next to a rational: no other integer is nearer, and it is even where another one is as near.
structure RoundsTo (r : ℚ) (m : ℕ) : Prop where
  near : |(m : ℚ) - r| ≤ 1 / 2
  even : |(m : ℚ) - r| = 1 / 2 → m % 2 = 0

namespace RoundsTo

variable {r : ℚ} {m : ℕ}

theorem far (rounds : RoundsTo r m) {k : ℕ} (other : k ≠ m) : 1 / 2 ≤ |(k : ℚ) - r| := by
  have apart : (1 : ℚ) ≤ |(k : ℚ) - m| := by
    have whole : (1 : ℤ) ≤ |(k : ℤ) - m| := Int.one_le_abs (sub_ne_zero.mpr (Nat.cast_injective.ne other))
    exact_mod_cast whole
  have near := rounds.near
  have path := abs_sub_le (k : ℚ) r m
  rw [abs_sub_comm r] at path
  linarith

theorem le (rounds : RoundsTo r m) {k : ℕ} (low : (k : ℚ) ≤ r) : k ≤ m := by
  have near := (abs_le.mp rounds.near).1
  have next : (k : ℚ) < m + 1 := by linarith
  exact Nat.lt_succ_iff.mp (by exact_mod_cast next)

theorem ge (rounds : RoundsTo r m) {k : ℕ} (high : r < k) : m ≤ k := by
  have near := (abs_le.mp rounds.near).2
  have next : (m : ℚ) < k + 1 := by linarith
  exact Nat.lt_succ_iff.mp (by exact_mod_cast next)

theorem eq_iff (rounds : RoundsTo r m) {k : ℕ} (even : k % 2 = 0) (positive : 0 < k) (high : r < k) :
    m = k ↔ (k : ℚ) - 1 / 2 ≤ r := by
  constructor
  · rintro rfl
    linarith [(abs_le.mp rounds.near).2]
  · intro half
    have low := rounds.near
    have bound := rounds.ge high
    by_contra other
    obtain ⟨j, rfl⟩ : ∃ j, k = j + 1 := ⟨k - 1, by omega⟩
    have before : m = j := by
      have least : j ≤ m := rounds.le (by push_cast at half; linarith)
      omega
    subst before
    push_cast at half high
    have tie : |(m : ℚ) - r| = 1 / 2 := by
      refine le_antisymm low ?_
      rw [abs_sub_comm, abs_of_nonneg] <;> linarith
    have evenToo := rounds.even tie
    omega

end RoundsTo

theorem roundDiv_even {num den : ℕ} (positive : 0 < den)
    (tie : 2 * num = 2 * (roundDiv num den * den) + den ∨ 2 * (roundDiv num den * den) = 2 * num + den) :
    roundDiv num den % 2 = 0 := by
  have split : num / den * den + num % den = num := by rw [Nat.mul_comm]; exact Nat.div_add_mod num den
  have small := Nat.mod_lt num positive
  have next : (num / den + 1) * den = num / den * den + den := Nat.succ_mul _ _
  unfold roundDiv at tie ⊢
  dsimp only at tie ⊢
  split at tie
  · omega
  · split at tie
    · rw [next] at tie
      omega
    · rw [if_neg ‹_›, if_neg ‹_›]
      omega

theorem roundDiv_rounds (num : ℕ) {den : ℕ} (positive : 0 < den) : RoundsTo (num / den) (roundDiv num den) := by
  have den_pos : (0 : ℚ) < den := by exact_mod_cast positive
  have scale : |(roundDiv num den : ℚ) - num / den| = |(roundDiv num den * den : ℚ) - num| / den := by
    rw [← abs_of_pos den_pos, ← abs_div, abs_of_pos den_pos]
    congr 1
    field_simp
  obtain ⟨low, high⟩ := roundDiv_near num den positive
  have lowQ : (2 : ℚ) * num ≤ 2 * (roundDiv num den * den) + den := by exact_mod_cast low
  have highQ : (2 : ℚ) * (roundDiv num den * den) ≤ 2 * num + den := by exact_mod_cast high
  constructor
  · rw [scale, div_le_iff₀ den_pos, abs_le]
    constructor <;> linarith
  · intro tie
    rw [scale, div_eq_iff den_pos.ne'] at tie
    refine roundDiv_even positive ?_
    rcases abs_choice ((roundDiv num den * den : ℚ) - num) with same | negated
    · right
      have exact : (2 : ℚ) * (roundDiv num den * den) = 2 * num + den := by linarith
      exact_mod_cast exact
    · left
      have exact : (2 : ℚ) * num = 2 * (roundDiv num den * den) + den := by linarith
      exact_mod_cast exact

namespace Binary64

def magnitude (x : Binary64) : ℚ := x.mantissa * 2 ^ x.exponent

def value (x : Binary64) : ℚ := if x.negative then -x.magnitude else x.magnitude

-- Every finite number in the one form it has: 53 bits, fewer only at the least exponent.
structure Canonical (x : Binary64) : Prop where
  below : x.mantissa < 2 * leastFull
  least : leastExponent ≤ x.exponent
  greatest : x.exponent ≤ greatestExponent
  full : leastFull ≤ x.mantissa ∨ x.exponent = leastExponent

-- No number is nearer, and where another is as near the mantissa is even.
structure Nearest (q : ℚ) (x : Binary64) : Prop where
  canonical : x.Canonical
  closest : ∀ y : Binary64, y.Canonical → |x.magnitude - q| ≤ |y.magnitude - q|
  even : ∀ y : Binary64, y.Canonical → y.magnitude ≠ x.magnitude → |y.magnitude - q| = |x.magnitude - q| →
    x.mantissa % 2 = 0

-- Half a unit past the greatest number.
def overflow : ℚ := (2 * leastFull - 1 / 2) * 2 ^ greatestExponent

variable {x y : Binary64} {q : ℚ} {e : ℤ} {m : ℕ}

theorem magnitude_nonneg (x : Binary64) : 0 ≤ x.magnitude := by unfold magnitude; positivity

-- Below the exponent all numbers are less than the least full mantissa makes.
theorem Canonical.magnitude_lt (canonical : x.Canonical) (lower : x.exponent < e) : x.magnitude < leastFull * 2 ^ e := by
  have bits : (x.mantissa : ℚ) < 2 * leastFull := by exact_mod_cast canonical.below
  calc x.magnitude
    _ < 2 * leastFull * 2 ^ x.exponent := mul_lt_mul_of_pos_right bits (by positivity)
    _ = leastFull * 2 ^ (x.exponent + 1) := by rw [zpow_add_one₀ two_ne_zero]; ring
    _ ≤ leastFull * 2 ^ e := by gcongr; exacts [one_le_two, lower]

theorem magnitude_multiple (higher : e ≤ x.exponent) :
    x.magnitude = (x.mantissa * 2 ^ (x.exponent - e).toNat : ℕ) * 2 ^ e := by
  have places : x.exponent = (x.exponent - e).toNat + e := by omega
  rw [magnitude, Nat.cast_mul, Nat.cast_pow, Nat.cast_two, mul_assoc, ← zpow_natCast, ← zpow_add₀ two_ne_zero, ← places]

theorem abs_scale (a b : ℚ) (e : ℤ) : |a * 2 ^ e - b| = |a - b / 2 ^ e| * 2 ^ e := by
  have power : (0 : ℚ) < 2 ^ e := by positivity
  calc |a * 2 ^ e - b|
    _ = |(a - b / 2 ^ e) * 2 ^ e| := by congr 1; field_simp
    _ = |a - b / 2 ^ e| * 2 ^ e := by rw [abs_mul, abs_of_pos power]

-- The integer next to `q / 2 ^ e` beats every number, the ones between the integers being all below the full mantissas.
theorem Canonical.not_nearer (canonical : y.Canonical) (full : leastFull ≤ q / 2 ^ e ∨ e = leastExponent)
    (rounds : RoundsTo (q / 2 ^ e) m) (other : y.magnitude ≠ m * 2 ^ e) :
    |(m : ℚ) * 2 ^ e - q| ≤ |y.magnitude - q| ∧ (|y.magnitude - q| = |(m : ℚ) * 2 ^ e - q| → m % 2 = 0) := by
  have power : (0 : ℚ) < 2 ^ e := by positivity
  rcases le_or_gt e y.exponent with higher | lower
  · rw [magnitude_multiple higher] at other ⊢
    have far : 1 / 2 ≤ |((y.mantissa * 2 ^ (y.exponent - e).toNat : ℕ) : ℚ) - q / 2 ^ e| :=
      rounds.far fun same => other (congrArg (fun k : ℕ => (k : ℚ) * 2 ^ e) same)
    rw [abs_scale, abs_scale]
    refine ⟨mul_le_mul_of_nonneg_right (rounds.near.trans far) power.le, fun tie => rounds.even ?_⟩
    exact le_antisymm rounds.near (far.trans_eq (mul_right_cancel₀ power.ne' tie))
  · have many : (leastFull : ℚ) ≤ q / 2 ^ e := by
      refine full.resolve_right fun least => ?_
      have := canonical.least
      omega
    have small := canonical.magnitude_lt lower
    have enough : (leastFull : ℚ) * 2 ^ e ≤ q := (le_div_iff₀ power).mp many
    have best : |(m : ℚ) * 2 ^ e - q| ≤ |(leastFull : ℚ) * 2 ^ e - q| := by
      rcases eq_or_ne leastFull m with rfl | apart
      · exact le_rfl
      · rw [abs_scale, abs_scale]
        exact mul_le_mul_of_nonneg_right (rounds.near.trans (rounds.far apart)) power.le
    have worse : |(leastFull : ℚ) * 2 ^ e - q| < |y.magnitude - q| := by
      rw [abs_of_nonpos (by linarith), abs_of_nonpos (by linarith)]
      linarith
    exact ⟨(best.trans_lt worse).le, fun tie => absurd tie (best.trans_lt worse).ne'⟩

theorem Nearest.of_rounds (canonical : x.Canonical) (exact : x.magnitude = m * 2 ^ e)
    (parity : m % 2 = 0 → x.mantissa % 2 = 0) (full : leastFull ≤ q / 2 ^ e ∨ e = leastExponent)
    (rounds : RoundsTo (q / 2 ^ e) m) : x.Nearest q where
  canonical := canonical
  closest y other := by
    rcases eq_or_ne y.magnitude (m * 2 ^ e) with same | apart
    · rw [exact, same]
    · rw [exact]
      exact (other.not_nearer full rounds apart).1
  even y other apart tie := by
    rw [exact] at apart tie
    exact parity ((other.not_nearer full rounds apart).2 tie)

-- A smaller exponent means a smaller number, the mantissa at the greater one being full.
theorem Canonical.lt_of_exponent (canonical : x.Canonical) (other : y.Canonical) (less : x.exponent < y.exponent) :
    x.magnitude < y.magnitude := by
  have full : leastFull ≤ y.mantissa := other.full.resolve_right fun least => by have := canonical.least; omega
  have fullQ : (leastFull : ℚ) ≤ y.mantissa := by exact_mod_cast full
  exact (canonical.magnitude_lt less).trans_le (mul_le_mul_of_nonneg_right fullQ (by positivity))

theorem Canonical.eq_of_magnitude (canonical : x.Canonical) (other : y.Canonical) (same : x.magnitude = y.magnitude) :
    x.mantissa = y.mantissa ∧ x.exponent = y.exponent := by
  have exponents : x.exponent = y.exponent := by
    rcases lt_trichotomy x.exponent y.exponent with less | equal | more
    · exact absurd same (canonical.lt_of_exponent other less).ne
    · exact equal
    · exact absurd same (other.lt_of_exponent canonical more).ne'
  refine ⟨?_, exponents⟩
  unfold magnitude at same
  rw [exponents] at same
  exact_mod_cast mul_right_cancel₀ (by positivity : (2 : ℚ) ^ y.exponent ≠ 0) same

-- After a number with an even mantissa comes the one with the next mantissa.
theorem Canonical.next (canonical : x.Canonical) (even : x.mantissa % 2 = 0) :
    Canonical ⟨x.negative, x.mantissa + 1, x.exponent⟩ where
  below := by
    have := canonical.below
    unfold leastFull at *
    dsimp only
    omega
  least := canonical.least
  greatest := canonical.greatest
  full := canonical.full.imp_left Nat.le_succ_of_le

theorem Canonical.next_le (canonical : x.Canonical) (other : y.Canonical) (less : x.magnitude < y.magnitude) :
    magnitude ⟨x.negative, x.mantissa + 1, x.exponent⟩ ≤ y.magnitude := by
  have power : (0 : ℚ) < 2 ^ x.exponent := by positivity
  rcases le_or_gt x.exponent y.exponent with higher | lower
  · rw [magnitude_multiple higher] at less ⊢
    have before := Nat.cast_lt.mp ((mul_lt_mul_iff_left₀ power).mp less)
    exact mul_le_mul_of_nonneg_right (by exact_mod_cast before) power.le
  · exact absurd less (other.lt_of_exponent canonical lower).not_gt

-- Two numbers as near as each other cannot both be even: the one after the lower would be nearer, or be the higher.
theorem Nearest.magnitude_le (nearest : x.Nearest q) (other : y.Nearest q) : y.magnitude ≤ x.magnitude := by
  by_contra more
  have less : x.magnitude < y.magnitude := not_le.mp more
  have tie : |x.magnitude - q| = |y.magnitude - q| :=
    le_antisymm (nearest.closest y other.canonical) (other.closest x nearest.canonical)
  have middle : q - x.magnitude = y.magnitude - q := by
    rcases abs_eq_abs.mp tie with same | opposite <;> linarith
  have even := nearest.even y other.canonical less.ne' tie.symm
  have evenToo := other.even x nearest.canonical less.ne tie
  have next := nearest.canonical.next even
  have bound := nearest.canonical.next_le other.canonical less
  rcases bound.lt_or_eq with between | same
  · have grown : x.magnitude < magnitude ⟨x.negative, x.mantissa + 1, x.exponent⟩ := by
      refine mul_lt_mul_of_pos_right ?_ (by positivity)
      exact_mod_cast Nat.lt_succ_self x.mantissa
    have nearer := nearest.closest _ next
    rw [abs_of_nonpos (by linarith : x.magnitude - q ≤ 0)] at nearer
    rcases le_abs.mp nearer with above | below <;> linarith
  · have mantissas := (next.eq_of_magnitude other.canonical same).1
    dsimp only at mantissas
    omega

theorem Nearest.unique (nearest : x.Nearest q) (other : y.Nearest q) (signs : x.negative = y.negative) : x = y := by
  have same : x.magnitude = y.magnitude :=
    le_antisymm (other.magnitude_le nearest) (nearest.magnitude_le other)
  obtain ⟨mantissas, exponents⟩ := nearest.canonical.eq_of_magnitude other.canonical same
  cases x
  cases y
  simp_all

theorem floor_eq (x : Binary64) : x.floor = ⌊x.magnitude⌋₊ := by
  have ratio : (x.quotient.1 / x.quotient.2 : ℚ) = x.magnitude := by
    unfold quotient magnitude
    split
    · rename_i lower
      obtain ⟨places, same⟩ : ∃ places : ℕ, x.exponent = -places := ⟨x.exponent.natAbs, by omega⟩
      rw [same, Int.natAbs_neg, Int.natAbs_natCast, Nat.pow_eq, zpow_neg, zpow_natCast, div_eq_mul_inv]
      push_cast
      rfl
    · rename_i higher
      obtain ⟨places, same⟩ : ∃ places : ℕ, x.exponent = places := ⟨x.exponent.natAbs, by omega⟩
      rw [same, Int.natAbs_natCast, Nat.pow_eq, zpow_natCast, Nat.cast_one, div_one]
      push_cast
      rfl
  rw [floor, ← ratio, Nat.floor_div_eq_div]

-- With 53 bits before the point there is nothing behind it.
theorem Canonical.lt_floor_iff (canonical : x.Canonical) {n : ℕ} (large : 2 * leastFull ≤ n) :
    n < x.floor ↔ (n : ℚ) < x.magnitude := by
  rw [floor_eq]
  constructor
  · intro less
    exact (Nat.cast_lt.mpr less).trans_le (Nat.floor_le x.magnitude_nonneg)
  · intro less
    have full : (2 * leastFull : ℚ) ≤ n := by exact_mod_cast large
    have whole : 0 ≤ x.exponent := by
      by_contra negative
      have small := canonical.magnitude_lt (not_le.mp negative)
      rw [zpow_zero, mul_one] at small
      have : (0 : ℚ) ≤ leastFull := by positivity
      linarith
    have multiple := magnitude_multiple whole
    rw [zpow_zero, mul_one] at multiple
    rw [multiple] at less ⊢
    rw [Nat.floor_natCast]
    exact Nat.cast_lt.mp less

theorem scaled_spec (num : ℕ) {den : ℕ} (positive : 0 < den) (e : ℤ) :
    0 < (scaled num den e).2 ∧ ((scaled num den e).1 / (scaled num den e).2 : ℚ) = num / den / 2 ^ e := by
  have den_ne : (den : ℚ) ≠ 0 := by exact_mod_cast positive.ne'
  unfold scaled
  split
  · rename_i lower
    refine ⟨positive, ?_⟩
    obtain ⟨places, rfl⟩ : ∃ places : ℕ, e = -places := ⟨e.natAbs, by omega⟩
    simp only [Int.natAbs_neg, Int.natAbs_natCast, Nat.pow_eq, Nat.cast_mul, Nat.cast_pow, Nat.cast_two, zpow_neg,
      zpow_natCast]
    field_simp
  · rename_i higher
    obtain ⟨places, rfl⟩ : ∃ places : ℕ, e = places := ⟨e.natAbs, by omega⟩
    refine ⟨Nat.mul_pos positive (Nat.pow_pos two_pos), ?_⟩
    simp only [Int.natAbs_natCast, Nat.pow_eq, Nat.cast_mul, Nat.cast_pow, Nat.cast_two, zpow_natCast]
    field_simp

theorem scaled_div_lt_iff (num : ℕ) {den : ℕ} (positive : 0 < den) (e : ℤ) (k : ℕ) :
    (scaled num den e).1 / (scaled num den e).2 < k ↔ (num / den / 2 ^ e : ℚ) < k := by
  obtain ⟨scaled_pos, ratio⟩ := scaled_spec num positive e
  rw [Nat.div_lt_iff_lt_mul scaled_pos, ← ratio, div_lt_iff₀ (by exact_mod_cast scaled_pos)]
  exact_mod_cast Iff.rfl

theorem log2_bounds {n : ℕ} (positive : 0 < n) : (2 : ℚ) ^ (n.log2 : ℤ) ≤ n ∧ (n : ℚ) < 2 ^ (n.log2 + 1 : ℤ) := by
  have low : 2 ^ n.log2 ≤ n := Nat.log2_self_le positive.ne'
  have high : n < 2 ^ (n.log2 + 1) := Nat.lt_log2_self
  rw [show (n.log2 + 1 : ℤ) = ((n.log2 + 1 : ℕ) : ℤ) by push_cast; rfl, zpow_natCast, zpow_natCast]
  exact ⟨by exact_mod_cast low, by exact_mod_cast high⟩

-- The bits of numerator and denominator give the scale but for one place.
theorem ratio_bounds {num den : ℕ} (positive : 0 < num) (den_pos : 0 < den) :
    (leastFull : ℚ) ≤ num / den / 2 ^ ((num.log2 : ℤ) - den.log2 - 53) ∧
      (num / den / 2 ^ ((num.log2 : ℤ) - den.log2 - 53) : ℚ) < 4 * leastFull := by
  obtain ⟨numLow, numHigh⟩ := log2_bounds positive
  obtain ⟨denLow, denHigh⟩ := log2_bounds den_pos
  have denQ : (0 : ℚ) < den := by exact_mod_cast den_pos
  have full : (leastFull : ℚ) = 2 ^ (52 : ℤ) := by norm_num [leastFull]
  have fourFull : (4 * leastFull : ℚ) = 2 ^ (54 : ℤ) := by norm_num [leastFull]
  rw [div_div, fourFull, full, le_div_iff₀ (by positivity), div_lt_iff₀ (by positivity)]
  constructor
  · calc (2 : ℚ) ^ (52 : ℤ) * (den * 2 ^ ((num.log2 : ℤ) - den.log2 - 53))
      _ ≤ 2 ^ (52 : ℤ) * (2 ^ (den.log2 + 1 : ℤ) * 2 ^ ((num.log2 : ℤ) - den.log2 - 53)) := by gcongr
      _ = 2 ^ (num.log2 : ℤ) := by
        rw [← zpow_add₀ two_ne_zero, ← zpow_add₀ two_ne_zero]
        congr 1
        ring
      _ ≤ num := numLow
  · calc (num : ℚ)
      _ < 2 ^ (num.log2 + 1 : ℤ) := numHigh
      _ = 2 ^ (54 : ℤ) * (2 ^ (den.log2 : ℤ) * 2 ^ ((num.log2 : ℤ) - den.log2 - 53)) := by
        rw [← zpow_add₀ two_ne_zero, ← zpow_add₀ two_ne_zero]
        congr 1
        ring
      _ ≤ 2 ^ (54 : ℤ) * (den * 2 ^ ((num.log2 : ℤ) - den.log2 - 53)) := by gcongr

-- The scale at which the ratio has 53 bits before the point, or fewer at the least exponent.
theorem exponentFor_spec {num den : ℕ} (positive : 0 < num) (den_pos : 0 < den) :
    leastExponent ≤ exponentFor num den ∧ (num / den / 2 ^ exponentFor num den : ℚ) < 2 * leastFull ∧
      ((leastFull : ℚ) ≤ num / den / 2 ^ exponentFor num den ∨ exponentFor num den = leastExponent) := by
  obtain ⟨low, high⟩ := ratio_bounds positive den_pos
  unfold exponentFor
  dsimp only
  generalize (num.log2 : ℤ) - den.log2 - 53 = start at low high ⊢
  have small := scaled_div_lt_iff num den_pos start (2 * leastFull)
  rw [Nat.cast_mul, Nat.cast_two] at small
  set exact : ℤ := if (scaled num den start).1 / (scaled num den start).2 < 2 * leastFull then start else start + 1
    with chosen
  have fits : (num / den / 2 ^ exact : ℚ) < 2 * leastFull ∧ (leastFull : ℚ) ≤ num / den / 2 ^ exact := by
    rw [chosen]
    split
    · rename_i less
      exact ⟨small.mp less, low⟩
    · rename_i more
      have many := not_lt.mp (small.not.mp more)
      rw [zpow_add_one₀ two_ne_zero, ← div_div]
      constructor <;> linarith
  rcases le_total leastExponent exact with within | under
  · rw [max_eq_right within]
    exact ⟨within, fits.1, .inl fits.2⟩
  · rw [max_eq_left under]
    refine ⟨le_rfl, lt_of_le_of_lt ?_ fits.1, .inr rfl⟩
    gcongr
    exact one_le_two

end Binary64

-- A figure is the number nearest to `q`, or infinite where `q` lies past the greatest.
def Figure.Nearest (negative : Bool) (q : ℚ) : Figure → Prop
  | .finite x => x.negative = negative ∧ q < Binary64.overflow ∧ x.Nearest q
  | .infinite sign => sign = negative ∧ Binary64.overflow ≤ q
  | .notANumber => False

variable {negative : Bool} {q : ℚ} {e : ℤ} {m num den : ℕ}

theorem Figure.Nearest.unique {figure other : Figure} (nearest : figure.Nearest negative q)
    (nearestToo : other.Nearest negative q) : figure = other := by
  cases figure <;> cases other
  case finite.finite x y =>
    obtain ⟨sign, _, closest⟩ := nearest
    obtain ⟨signToo, _, closestToo⟩ := nearestToo
    rw [closest.unique closestToo (sign.trans signToo.symm)]
  case finite.infinite => exact absurd nearestToo.2 (not_le.mpr nearest.2.1)
  case infinite.finite => exact absurd nearest.2 (not_le.mpr nearestToo.2.1)
  case infinite.infinite => rw [nearest.1, nearestToo.1]
  all_goals first | exact nearest.elim | exact nearestToo.elim

theorem zpow_two_mono {e f : ℤ} (le : e ≤ f) : (2 : ℚ) ^ e ≤ 2 ^ f := zpow_le_zpow_right₀ one_le_two le

theorem Binary64.Canonical.magnitude_lt_overflow {x : Binary64} (canonical : x.Canonical) : x.magnitude < overflow := by
  have bits : (x.mantissa : ℚ) + 1 ≤ 2 * leastFull := by exact_mod_cast canonical.below
  calc x.magnitude
    _ < (2 * leastFull - 1 / 2) * 2 ^ x.exponent := mul_lt_mul_of_pos_right (by linarith) (by positivity)
    _ ≤ overflow := by
      refine mul_le_mul_of_nonneg_left (zpow_two_mono canonical.greatest) ?_
      norm_num [leastFull]

theorem Figure.nearest_self {x : Binary64} (canonical : x.Canonical) :
    (Figure.finite x).Nearest x.negative x.magnitude := by
  have exact : |x.magnitude - x.magnitude| = 0 := by rw [sub_self, abs_zero]
  refine ⟨rfl, canonical.magnitude_lt_overflow, canonical, fun y _ => by rw [exact]; exact abs_nonneg _, ?_⟩
  intro y _ other tie
  rw [exact, abs_eq_zero] at tie
  exact absurd (sub_eq_zero.mp tie) other

theorem Figure.nearest_fitting (least : leastExponent ≤ e) (full : leastFull ≤ q / 2 ^ e ∨ e = leastExponent)
    (rounds : RoundsTo (q / 2 ^ e) m) (fits : m < 2 * leastFull) (room : q / 2 ^ e < 2 * leastFull - 1 / 2) :
    ((if greatestExponent < e then none else some ⟨negative, m, e⟩).elim (.infinite negative) .finite : Figure).Nearest
      negative q := by
  have power : (0 : ℚ) < 2 ^ e := by positivity
  split
  · rename_i past
    have many := full.resolve_right fun equal => by rw [equal] at past; exact absurd past (by decide)
    rw [le_div_iff₀ power] at many
    refine ⟨rfl, le_trans ?_ many⟩
    calc (2 * leastFull - 1 / 2 : ℚ) * 2 ^ greatestExponent
      _ ≤ 2 * leastFull * 2 ^ greatestExponent := by gcongr; linarith
      _ = leastFull * 2 ^ (greatestExponent + 1) := by rw [zpow_add_one₀ two_ne_zero]; ring
      _ ≤ leastFull * 2 ^ e := mul_le_mul_of_nonneg_left (zpow_two_mono past) (by positivity)
  · rename_i within
    have canonical : Binary64.Canonical ⟨negative, m, e⟩ := ⟨fits, least, not_lt.mp within, full.imp_left rounds.le⟩
    refine ⟨rfl, ((div_lt_iff₀ power).mp room).trans_le ?_, .of_rounds canonical rfl id full rounds⟩
    refine mul_le_mul_of_nonneg_left (zpow_two_mono (not_lt.mp within)) ?_
    norm_num [leastFull]

-- A mantissa of 54 bits is the least full one at the next exponent.
theorem Figure.nearest_carried (least : leastExponent ≤ e) (full : leastFull ≤ q / 2 ^ e ∨ e = leastExponent)
    (rounds : RoundsTo (q / 2 ^ e) (2 * leastFull)) (below : q / 2 ^ e < 2 * leastFull)
    (enough : (2 * leastFull - 1 / 2 : ℚ) ≤ q / 2 ^ e) :
    ((if greatestExponent < e + 1 then none else some ⟨negative, leastFull, e + 1⟩).elim (.infinite negative)
      .finite : Figure).Nearest negative q := by
  have power : (0 : ℚ) < 2 ^ e := by positivity
  have same : (leastFull * 2 ^ (e + 1) : ℚ) = 2 * leastFull * 2 ^ e := by rw [zpow_add_one₀ two_ne_zero]; ring
  split
  · rename_i past
    refine ⟨rfl, le_trans (mul_le_mul_of_nonneg_left (zpow_two_mono (Int.lt_add_one_iff.mp past)) ?_)
      ((le_div_iff₀ power).mp enough)⟩
    norm_num [leastFull]
  · rename_i within
    have canonical : Binary64.Canonical ⟨negative, leastFull, e + 1⟩ :=
      ⟨show leastFull < 2 * leastFull by decide, le_add_of_le_of_nonneg least zero_le_one, not_lt.mp within, .inl le_rfl⟩
    have exact : Binary64.magnitude ⟨negative, leastFull, e + 1⟩ = (2 * leastFull : ℕ) * 2 ^ e := by
      rw [Binary64.magnitude, same, Nat.cast_mul, Nat.cast_two]
    have evenFull : leastFull % 2 = 0 := by decide
    refine ⟨rfl, ((div_lt_iff₀ power).mp below).trans_le ?_, .of_rounds canonical exact (fun _ => evenFull) full rounds⟩
    rw [← same]
    refine mul_le_mul ?_ (zpow_two_mono (not_lt.mp within)) (by positivity) ?_ <;> norm_num [leastFull]

theorem Figure.nearest_zero_of_small (small : |q| < 2 ^ (leastExponent - 1)) :
    (Figure.finite ⟨negative, 0, leastExponent⟩).Nearest negative q := by
  have power : (0 : ℚ) < 2 ^ leastExponent := by positivity
  have half : |q / 2 ^ leastExponent| < 1 / 2 := by
    rw [abs_div, abs_of_pos power, div_lt_iff₀ power]
    rwa [zpow_sub_one₀ two_ne_zero, mul_comm, ← one_div] at small
  have rounds : RoundsTo (q / 2 ^ leastExponent) 0 := ⟨by simpa using half.le, fun _ => rfl⟩
  have room : q / 2 ^ leastExponent < 2 * leastFull - 1 / 2 := by
    refine ((le_abs_self _).trans_lt half).trans_le ?_
    norm_num [leastFull]
  exact nearest_fitting le_rfl (.inr rfl) rounds (by decide) room

theorem Figure.nearest_ratio (negative : Bool) (num : ℕ) (den_pos : 0 < den) :
    ((Binary64.nearest negative num den).elim (.infinite negative) .finite : Figure).Nearest negative (num / den) := by
  unfold Binary64.nearest
  split
  · rename_i zero
    rw [beq_iff_eq.mp zero, Nat.cast_zero, zero_div]
    exact nearest_zero_of_small (by rw [abs_zero]; positivity)
  · rename_i nonzero
    have positive : 0 < num := Nat.pos_of_ne_zero fun zero => nonzero (beq_iff_eq.mpr zero)
    obtain ⟨least, below, full⟩ := Binary64.exponentFor_spec positive den_pos
    obtain ⟨scaled_pos, ratio⟩ := Binary64.scaled_spec num den_pos (exponentFor num den)
    have rounds := roundDiv_rounds (scaled num den (exponentFor num den)).1 scaled_pos
    rw [ratio] at rounds
    have belowToo : (num / den / 2 ^ exponentFor num den : ℚ) < (2 * leastFull : ℕ) := by exact_mod_cast below
    have carries := rounds.eq_iff (by decide) (by decide) belowToo
    rw [Nat.cast_mul, Nat.cast_two] at carries
    dsimp only
    split
    · rename_i carry
      rw [beq_iff_eq.mp carry] at rounds
      exact nearest_carried least full rounds below (carries.mp (beq_iff_eq.mp carry))
    · rename_i fits
      have apart : roundDiv _ _ ≠ 2 * leastFull := fun carry => fits (beq_iff_eq.mpr carry)
      have room := not_le.mp (carries.not.mp apart)
      exact nearest_fitting least full rounds (lt_of_le_of_ne (rounds.ge belowToo) apart) room

theorem overflow_le : Binary64.overflow ≤ 10 ^ (309 : ℤ) := by
  have integers : 2 * leastFull * 2 ^ 971 ≤ 10 ^ 309 := by decide +kernel
  calc Binary64.overflow
    _ ≤ 2 * leastFull * 2 ^ greatestExponent := by unfold Binary64.overflow; gcongr; linarith
    _ ≤ 10 ^ (309 : ℤ) := by
      rw [greatestExponent]
      exact_mod_cast integers

theorem underflow_lt : (10 : ℚ) ^ (-331 : ℤ) < 2 ^ (leastExponent - 1) := by
  have integers : 2 ^ 1075 < 10 ^ 331 := by decide +kernel
  rw [show leastExponent - 1 = -1075 from rfl, zpow_neg, zpow_neg, inv_lt_inv₀ (by positivity) (by positivity)]
  exact_mod_cast integers

theorem lt_pow_length_toDigits (n : ℕ) : n < 10 ^ (Nat.toDigits 10 n).length :=
  (Nat.length_toDigits_le_iff (by decide) (List.length_pos_of_ne_nil Nat.toDigits_ne_nil)).mp le_rfl

-- A power of ten goes to the numerator or to the denominator.
theorem Figure.nearest_decimalRatio (negative : Bool) (significand : ℕ) (power : ℤ) :
    ((if power < 0 then Binary64.nearest negative significand (Nat.pow 10 power.natAbs)
      else Binary64.nearest negative (significand * Nat.pow 10 power.natAbs) 1).elim
        (.infinite negative) .finite : Figure).Nearest negative (significand * 10 ^ power) := by
  split
  · rename_i lower
    obtain ⟨places, rfl⟩ : ∃ places : ℕ, power = -places := ⟨power.natAbs, by omega⟩
    have ratio := nearest_ratio negative significand (Nat.pow_pos (by decide) : 0 < 10 ^ places)
    rw [Int.natAbs_neg]
    rwa [Nat.cast_pow, ← zpow_natCast, Nat.cast_ofNat, div_eq_mul_inv, ← zpow_neg] at ratio
  · rename_i higher
    obtain ⟨places, rfl⟩ : ∃ places : ℕ, power = places := ⟨power.natAbs, by omega⟩
    have ratio := nearest_ratio negative (significand * 10 ^ places) one_pos
    rwa [Nat.cast_mul, Nat.cast_pow, ← zpow_natCast, Nat.cast_ofNat, Nat.cast_one, div_one] at ratio

-- Powers of ten outside the range are past the greatest number, or nearer to nothing than to the least one.
theorem Figure.nearest_ofDecimal (negative : Bool) (significand : ℕ) (power : ℤ) :
    (Figure.ofDecimal negative significand power).Nearest negative (significand * 10 ^ power) := by
  unfold ofDecimal
  split
  · rename_i zero
    rw [beq_iff_eq.mp zero, Nat.cast_zero, zero_mul]
    exact nearest_zero_of_small (by rw [abs_zero]; positivity)
  · rename_i nonzero
    have positive : (1 : ℚ) ≤ significand := by
      exact_mod_cast Nat.pos_of_ne_zero fun zero => nonzero (beq_iff_eq.mpr zero)
    split
    · rename_i large
      refine ⟨rfl, ?_⟩
      calc Binary64.overflow
        _ ≤ 1 * 10 ^ (309 : ℤ) := by rw [one_mul]; exact overflow_le
        _ ≤ significand * 10 ^ power :=
          mul_le_mul positive (zpow_le_zpow_right₀ (by norm_num) large.le) (by positivity) (by positivity)
    · split
      · rename_i tiny
        refine nearest_zero_of_small ?_
        have digits : (significand : ℚ) < 10 ^ ((Nat.toDigits 10 significand).length : ℤ) := by
          rw [zpow_natCast]
          exact_mod_cast lt_pow_length_toDigits significand
        rw [abs_of_nonneg (by positivity)]
        calc (significand * 10 ^ power : ℚ)
          _ ≤ 10 ^ ((Nat.toDigits 10 significand).length : ℤ) * 10 ^ power := by gcongr
          _ = 10 ^ (power + (Nat.toDigits 10 significand).length) := by rw [← zpow_add₀ (by norm_num), add_comm]
          _ ≤ 10 ^ (-331 : ℤ) := zpow_le_zpow_right₀ (by norm_num) (by omega)
          _ < 2 ^ (leastExponent - 1) := underflow_lt
      · rename_i within
        have nearest := nearest_decimalRatio negative significand power
        dsimp only
        generalize (if power < 0 then _ else _ : Option Binary64) = rounded at nearest ⊢
        cases rounded <;> exact nearest

end GuestSandbox.Number
