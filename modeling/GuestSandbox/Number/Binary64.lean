-- Finite binary64 numbers, held exactly as `mantissa · 2 ^ exponent`, so that rounding is integer arithmetic.

namespace GuestSandbox.Number

structure Binary64 where
  negative : Bool
  mantissa : Nat
  exponent : Int
deriving Repr, DecidableEq, Inhabited

-- The integer nearest to a quotient; of two equally near the even one.
def roundDiv (num den : Nat) : Nat :=
  let quotient := num / den
  let left := num % den
  if 2 * left < den then quotient else if den < 2 * left then quotient + 1 else quotient + quotient % 2

-- A mantissa has 53 bits; this is the least one that uses them all.
def leastFull : Nat := 0x10000000000000

def leastExponent : Int := -1074
def greatestExponent : Int := 971

def scaled (num den : Nat) (exponent : Int) : Nat × Nat :=
  if exponent < 0 then (num * Nat.pow 2 exponent.natAbs, den) else (num, den * Nat.pow 2 exponent.natAbs)

def exponentFor (num den : Nat) : Int :=
  let low : Int := (num.log2 : Int) - den.log2 - 53
  let (n, d) := scaled num den low
  max leastExponent (if n / d < 2 * leastFull then low else low + 1)

def Binary64.nearest (negative : Bool) (num den : Nat) : Option Binary64 :=
  if num == 0 then some ⟨negative, 0, leastExponent⟩
  else
    let exponent := exponentFor num den
    let (n, d) := scaled num den exponent
    let mantissa := roundDiv n d
    let (mantissa, exponent) := if mantissa == 2 * leastFull then (leastFull, exponent + 1) else (mantissa, exponent)
    if greatestExponent < exponent then none else some ⟨negative, mantissa, exponent⟩

def Binary64.isZero (x : Binary64) : Bool := x.mantissa == 0

def Binary64.quotient (x : Binary64) : Nat × Nat :=
  if x.exponent < 0 then (x.mantissa, Nat.pow 2 x.exponent.natAbs) else (x.mantissa * Nat.pow 2 x.exponent.natAbs, 1)

def Binary64.floor (x : Binary64) : Nat := x.quotient.1 / x.quotient.2

def Binary64.ofNat (n : Nat) : Option Binary64 := Binary64.nearest false n 1

def Binary64.mul (x y : Binary64) : Option Binary64 :=
  Binary64.nearest (x.negative != y.negative) (x.quotient.1 * y.quotient.1) (x.quotient.2 * y.quotient.2)

def Binary64.div (x y : Binary64) : Option Binary64 :=
  Binary64.nearest (x.negative != y.negative) (x.quotient.1 * y.quotient.2) (x.quotient.2 * y.quotient.1)

def Binary64.negate (x : Binary64) : Binary64 := { x with negative := !x.negative }

theorem roundDiv_near (num den : Nat) (positive : 0 < den) :
    2 * num ≤ 2 * (roundDiv num den * den) + den ∧ 2 * (roundDiv num den * den) ≤ 2 * num + den := by
  have split : num / den * den + num % den = num := by rw [Nat.mul_comm]; exact Nat.div_add_mod num den
  have small := Nat.mod_lt num positive
  have next : (num / den + 1) * den = num / den * den + den := Nat.succ_mul _ _
  unfold roundDiv
  dsimp only
  split
  · omega
  · split
    · rw [next]; omega
    · rcases Nat.mod_two_eq_zero_or_one (num / den) with even | odd
      · rw [even, Nat.add_zero]; omega
      · rw [odd, next]; omega

end GuestSandbox.Number
