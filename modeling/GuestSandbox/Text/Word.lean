import GuestSandbox.Text.WordTable

namespace GuestSandbox.Text

-- A character that can stand in a word. ASCII is decided here, so that the table is read for other characters only.
def isWord (c : Char) : Bool :=
  if c.toNat < 128 then c.isAlphanum || c == '_' else wordRanges.contains c

theorem isWord_of_isAlphanum (c : Char) (plain : c.isAlphanum = true) : isWord c = true := by
  have small : c.toNat < 128 := by
    delta Char.isAlphanum Char.isAlpha Char.isUpper Char.isLower Char.isDigit at plain
    simp only [Bool.or_eq_true, Bool.and_eq_true, decide_eq_true_eq, ge_iff_le, UInt32.le_iff_toNat_le] at plain
    have ends : ('Z' : Char).val.toNat = 90 ∧ ('z' : Char).val.toNat = 122 ∧ ('9' : Char).val.toNat = 57 := by decide
    change c.val.toNat < 128
    omega
  simp [isWord, small, plain]

end GuestSandbox.Text
