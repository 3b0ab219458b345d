import GuestSandbox.Proofs.Text.Trimming
import Mathlib.Data.List.Infix

-- Texts that differ in the case of letters only, and one text in another whatever the case of letters. In ASCII a letter
-- has one lower-case form, and blanks have none.

namespace GuestSandbox.Text

def Ascii (cs : List Char) : Prop := ∀ c ∈ cs, c.toNat < 128

instance (cs : List Char) : Decidable (Ascii cs) := List.decidableBAll _ _

def SameLetters (one other : List Char) : Prop := one.map Char.toLower = other.map Char.toLower

instance (one other : List Char) : Decidable (SameLetters one other) := inferInstanceAs (Decidable (_ = _))

def Mentions (text part : List Char) : Prop := ∃ here, here <:+: text ∧ SameLetters here part

theorem toNat_toLower (c : Char) : c.toLower.toNat = if 65 ≤ c.toNat ∧ c.toNat ≤ 90 then c.toNat + 32 else c.toNat := by
  have bounds : c.val ≥ 'A'.val ∧ c.val ≤ 'Z'.val ↔ 65 ≤ c.toNat ∧ c.toNat ≤ 90 := by
    simp only [UInt32.le_iff_toNat_le, ge_iff_le]
    rfl
  unfold Char.toLower
  split
  · rename_i upper
    obtain ⟨low, high⟩ := bounds.mp upper
    rw [if_pos ⟨low, high⟩]
    change (c.val + 32).toNat = c.toNat + 32
    rw [UInt32.toNat_add]
    change (c.toNat + 32) % 2 ^ 32 = c.toNat + 32
    omega
  · rename_i other
    rw [if_neg (bounds.not.mp other)]

theorem isBlank_toLower (c : Char) : isBlank c.toLower = isBlank c := by
  unfold isBlank
  rw [toNat_toLower]
  split
  · rename_i upper
    dsimp only
    rw [Bool.eq_iff_iff]
    simp only [Bool.or_eq_true, Bool.and_eq_true, decide_eq_true_eq, beq_iff_eq]
    omega
  · rfl

theorem toNat_toLower_lt_iff (c : Char) : c.toLower.toNat < 128 ↔ c.toNat < 128 := by
  rw [toNat_toLower]
  split <;> omega

theorem ascii_map_toLower_iff {cs : List Char} : Ascii (cs.map Char.toLower) ↔ Ascii cs := by
  simp only [Ascii, List.forall_mem_map, toNat_toLower_lt_iff]

variable {one other text middle part : List Char}

theorem SameLetters.ascii (same : SameLetters one other) (ascii : Ascii other) : Ascii one := by
  rw [← ascii_map_toLower_iff, same, ascii_map_toLower_iff]
  exact ascii

theorem SameLetters.trimChars (same : SameLetters one other) : SameLetters (trimChars one) (trimChars other) := by
  rw [SameLetters, ← trimChars_map isBlank_toLower, ← trimChars_map isBlank_toLower, same]

theorem mentions_iff : Mentions text part ↔ part.map Char.toLower <:+: text.map Char.toLower := by
  rw [List.infix_map_iff]
  exact exists_congr fun here => and_congr_right fun _ => eq_comm

theorem Mentions.trans (outer : Mentions text middle) (inner : Mentions middle part) : Mentions text part := by
  rw [mentions_iff] at *
  exact inner.trans outer

-- A trimmed part is never in the blanks around a text.
theorem Mentions.trimChars (mentions : Mentions text (trimChars part)) :
    Mentions (Text.trimChars text) (Text.trimChars part) := by
  rw [mentions_iff, ← trimChars_map isBlank_toLower] at *
  rw [← trimChars_map isBlank_toLower]
  exact infix_trimChars_of_solid mentions (trimChars_head_solid _) (trimChars_last_solid _)

theorem trimChars_eq_nil {cs : List Char} (blank : ∀ c ∈ cs, isBlank c = true) : Text.trimChars cs = [] := by
  rw [Text.trimChars, List.dropWhile_eq_nil_iff.mpr blank]
  rfl

end GuestSandbox.Text
