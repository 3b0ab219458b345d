import GuestSandbox.Number.Figure
import Mathlib.Algebra.Group.Nat.Defs
import Std.Data.String.ToNat

namespace GuestSandbox.Number

def digits (n : Nat) : List Char := (toString n).toList

theorem isDigit_of_mem_digits {n : Nat} {c : Char} (member : c ∈ digits n) : c.isDigit = true := by
  rw [digits, Nat.toString_eq_repr, Nat.toList_repr] at member
  exact Nat.isDigit_of_mem_toDigits (by decide) (by decide) member

theorem digits_injective {m n : Nat} (same : digits m = digits n) : m = n :=
  Nat.repr_injective (String.toList_inj.mp same)

theorem takeWhile_digits {n : Nat} {c : Char} (other : c.isDigit = false) (rest : List Char) :
    (digits n ++ c :: rest).takeWhile Char.isDigit = digits n := by
  rw [List.takeWhile_append_of_pos fun _ => isDigit_of_mem_digits]
  simp [other]

theorem takeWhile_digits_reverse {n : Nat} {c : Char} (other : c.isDigit = false) (before : List Char) :
    (before ++ c :: digits n).reverse.takeWhile Char.isDigit = (digits n).reverse := by
  have every : ∀ d ∈ (digits n).reverse, d.isDigit = true := fun d member =>
    isDigit_of_mem_digits (List.mem_reverse.mp member)
  rw [List.reverse_append, List.reverse_cons, List.append_assoc, List.takeWhile_append_of_pos every]
  simp [other]

@[simp] theorem digits_ne_nil (n : Nat) : digits n ≠ [] := by
  rw [digits, Nat.toString_eq_repr, Nat.toList_repr]
  exact Nat.toDigits_ne_nil

theorem length_digits_le {n places : Nat} (some : 0 < places) (small : n < 10 ^ places) : (digits n).length ≤ places :=
  (Nat.length_repr_le_iff some).mpr small

@[simp] theorem digitsValue_digits (n : Nat) : digitsValue (digits n) = n := by
  have value : digitsValue (digits n) = Nat.ofDigitChars 10 (Nat.toDigits 10 n) 0 := by
    rw [digits, Nat.toString_eq_repr, Nat.toList_repr, Nat.ofDigitChars_eq_foldl]
    rfl
  rw [value, Nat.ofDigitChars_ten_toDigits]

end GuestSandbox.Number
