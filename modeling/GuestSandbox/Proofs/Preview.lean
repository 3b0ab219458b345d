import GuestSandbox.Json.Parser
import GuestSandbox.Proofs.Report
import Mathlib.Data.String.Basic

-- What is left of a result whose text has too many bytes. The limit counts bytes, and the beginning that stays counts
-- characters: as many as the limit has bytes, but never more than a preview holds.

namespace GuestSandbox.Report

def previewRoom (maxBytes : Nat) : Nat := min maxBytes previewLength

def marker (output : String) : Json := .obj [("output", .str output), ("truncated", .bool true)]

structure Preview (text : String) (maxBytes : Nat) (output : String) : Prop where
  beginning : output.toList <+: text.toList
  characters : output.length ≤ previewRoom maxBytes
  bytes : output.utf8ByteSize ≤ 4 * previewRoom maxBytes
  ascii : (∀ c ∈ output.toList, c.toNat < 128) → output.utf8ByteSize ≤ maxBytes
  full : previewRoom maxBytes < text.length →
    output.length = previewRoom maxBytes ∧ output.utf8ByteSize < text.utf8ByteSize

theorem utf8Len_le (cs : List Char) : String.utf8Len cs ≤ 4 * cs.length := by
  induction cs with
  | nil => exact Nat.le_refl _
  | cons c rest ih =>
    have widest := c.utf8Size_le_four
    rw [String.utf8Len_cons, List.length_cons]
    omega

theorem utf8Len_of_ascii {cs : List Char} (ascii : ∀ c ∈ cs, c.toNat < 128) : String.utf8Len cs = cs.length := by
  induction cs with
  | nil => rfl
  | cons c rest ih =>
    obtain ⟨first, others⟩ := List.forall_mem_cons.mp ascii
    have narrow : c.utf8Size = 1 := Char.utf8Size_eq_one_iff.mpr (UInt32.le_iff_toNat_le.mpr (Nat.le_of_lt_succ first))
    rw [String.utf8Len_cons, List.length_cons, ih others, narrow]

theorem utf8Len_take_lt {cs : List Char} {count : Nat} (more : count < cs.length) :
    String.utf8Len (cs.take count) < String.utf8Len cs := by
  have whole : String.utf8Len cs = String.utf8Len (cs.take count) + String.utf8Len (cs.drop count) := by
    rw [← String.utf8Len_append, List.take_append_drop]
  rw [List.drop_eq_getElem_cons more, String.utf8Len_cons] at whole
  have wide := (cs[count]).utf8Size_pos
  omega

theorem utf8ByteSize_firstChars (text : String) (count : Nat) :
    (firstChars text count).utf8ByteSize = String.utf8Len (text.toList.take count) := String.utf8ByteSize_ofList _

theorem firstChars_preview (text : String) (maxBytes : Nat) :
    Preview text maxBytes (firstChars text (previewRoom maxBytes)) := by
  have length : (text.toList.take (previewRoom maxBytes)).length ≤ previewRoom maxBytes := List.length_take_le _ _
  have room : previewRoom maxBytes ≤ maxBytes := Nat.min_le_left _ _
  constructor
  case beginning =>
    rw [firstChars, String.toList_ofList]
    exact List.take_prefix _ _
  case characters => rwa [firstChars, String.length_ofList]
  case bytes =>
    rw [utf8ByteSize_firstChars]
    exact Nat.le_trans (utf8Len_le _) (Nat.mul_le_mul_left 4 length)
  case ascii =>
    intro ascii
    rw [firstChars, String.toList_ofList] at ascii
    rw [utf8ByteSize_firstChars, utf8Len_of_ascii ascii]
    exact Nat.le_trans length room
  case full =>
    intro more
    rw [← String.length_toList] at more
    constructor
    · rw [firstChars, String.length_ofList, List.length_take_of_le (Nat.le_of_lt more)]
    · rw [utf8ByteSize_firstChars, ← String.utf8Len_toList]
      exact utf8Len_take_lt more

-- A result comes back as it is where its text has no more bytes than allowed, and in its place stands otherwise a marker
-- with a beginning of the text. Only a result that is that marker itself looks the same either way.
theorem fit_previews (value : Json) (text : String) (maxBytes : Nat) :
    (text.utf8ByteSize ≤ maxBytes ∧ fit value text maxBytes = value ∨
      maxBytes < text.utf8ByteSize ∧ ∃ output, fit value text maxBytes = marker output ∧ Preview text maxBytes output) ∧
    (fit value text maxBytes = value ↔
      text.utf8ByteSize ≤ maxBytes ∨ value = marker (firstChars text (previewRoom maxBytes))) := by
  rcases Nat.lt_or_ge maxBytes text.utf8ByteSize with long | fits
  · have cut : fit value text maxBytes = marker (firstChars text (previewRoom maxBytes)) := fit_of_long long
    refine ⟨.inr ⟨long, _, cut, firstChars_preview text maxBytes⟩, ?_⟩
    rw [cut]
    constructor
    · exact fun same => .inr same.symm
    · rintro (fits | same)
      · exact absurd fits (Nat.not_le.mpr long)
      · exact same.symm
  · have whole : fit value text maxBytes = value := if_pos fits
    exact ⟨.inl ⟨fits, whole⟩, fun _ => .inl fits, fun _ => whole⟩

-- Characters outside ASCII take the beginning past the limit, and a text of few characters is its own beginning.
theorem fit_past_limit :
    (Json.parse "\"éééé\"" = .ok (.str "éééé") ∧ 4 < "\"éééé\"".utf8ByteSize ∧
      fit (.str "éééé") "\"éééé\"" 4 = marker "\"ééé" ∧ "\"ééé".utf8ByteSize = 7) ∧
    (Json.parse "\"é\"" = .ok (.str "é") ∧ 3 < "\"é\"".utf8ByteSize ∧
      fit (.str "é") "\"é\"" 3 = marker "\"é\"") := by
  refine ⟨⟨?_, by decide, ?_, by decide⟩, ?_, by decide, ?_⟩
  · rfl
  · rfl
  · rfl
  · rfl

end GuestSandbox.Report
