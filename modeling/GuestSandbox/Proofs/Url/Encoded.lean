import GuestSandbox.Proofs.Text.ByteOrder
import GuestSandbox.Url.Percent

-- Percent-encoded text. Encoding leaves only characters that it would not change, so encoding again changes nothing.

namespace GuestSandbox.Url

theorem forall_ascii {P : Char → Prop} (each : ∀ n < 128, P (Char.ofNat n)) {c : Char} (ascii : c.toNat < 128) :
    P c := by
  have fact := each c.toNat ascii
  rwa [Char.ofNat_toNat] at fact

def isKept (inSet : Char → Bool) (c : Char) : Bool := c.toNat < 128 && !inSet c

def escapeChars : List Char := "%0123456789ABCDEF".toList

variable {inSet : Char → Bool} {c : Char} {cs : List Char}

theorem isKept_ascii (kept : isKept inSet c = true) : c.toNat < 128 := by
  simpa using (Bool.and_eq_true_iff.mp kept).1

theorem forall_kept {P : Char → Prop} (each : ∀ n < 128, isKept inSet (Char.ofNat n) = true → P (Char.ofNat n))
    (kept : isKept inSet c = true) : P c :=
  forall_ascii (P := fun c => isKept inSet c = true → P c) each (isKept_ascii kept) kept

theorem isKept_outside (kept : isKept inSet c = true) : inSet c = false := by
  simpa using (Bool.and_eq_true_iff.mp kept).2

theorem encodeChar_of_isKept (kept : isKept inSet c = true) : encodeChar inSet c = [c] := by
  rw [encodeChar, if_pos (isKept_ascii kept), isKept_outside kept]
  rfl

theorem encode_of_isKept (kept : ∀ c ∈ cs, isKept inSet c = true) : encode inSet cs = cs := by
  induction cs with
  | nil => rfl
  | cons c rest ih =>
    obtain ⟨first, others⟩ := List.forall_mem_cons.mp kept
    rw [encode, List.flatMap_cons, encodeChar_of_isKept first]
    exact congrArg (c :: ·) (ih others)

theorem mem_percentByte {b : UInt8} (member : c ∈ percentByte b) : c ∈ escapeChars := by
  have digit : ∀ n < 16, upperHexDigit n ∈ escapeChars := by decide
  have byte : b.toNat < 256 := b.toNat_lt
  simp only [percentByte, List.mem_cons, List.not_mem_nil, or_false] at member
  rcases member with rfl | rfl | rfl
  · decide
  · exact digit _ (by omega)
  · exact digit _ (by omega)

theorem mem_encode (member : c ∈ encode inSet cs) : c ∈ cs ∧ isKept inSet c = true ∨ c ∈ escapeChars := by
  obtain ⟨d, listed, inside⟩ := List.mem_flatMap.mp member
  unfold encodeChar at inside
  split at inside
  · rename_i ascii
    split at inside
    · exact .inr (mem_percentByte inside)
    · rename_i outside
      obtain rfl := List.mem_singleton.mp inside
      exact .inl ⟨listed, by simp [isKept, ascii, outside]⟩
  · obtain ⟨byte, _, inByte⟩ := List.mem_flatMap.mp inside
    exact .inr (mem_percentByte inByte)

-- A set that takes no character of an escape leaves encoded text alone.
theorem isKept_of_mem_encode (escapes : escapeChars.all (isKept inSet) = true) (member : c ∈ encode inSet cs) :
    isKept inSet c = true := by
  rcases mem_encode member with ⟨_, kept⟩ | escape
  · exact kept
  · exact List.all_eq_true.mp escapes c escape

theorem encodeChar_ne_nil (inSet : Char → Bool) (c : Char) : encodeChar inSet c ≠ [] := by
  unfold encodeChar
  split
  · split <;> exact List.cons_ne_nil _ _
  · have bytes : Text.utf8 (String.ofList [c]) = String.utf8EncodeChar c := by
      rw [Text.utf8_eq_flatMap, String.toList_ofList, List.flatMap_singleton]
    obtain ⟨byte, rest, same⟩ := List.exists_cons_of_ne_nil (show String.utf8EncodeChar c ≠ [] by simp)
    rw [bytes, same]
    exact List.cons_ne_nil _ _

theorem encode_ne_nil (filled : cs ≠ []) : encode inSet cs ≠ [] := by
  obtain ⟨c, rest, rfl⟩ := List.exists_cons_of_ne_nil filled
  rw [encode, List.flatMap_cons]
  exact List.append_ne_nil_of_left_ne_nil (encodeChar_ne_nil inSet c) _

def isVisible (c : Char) : Bool := 0x20 < c.toNat && c.toNat < 0x7F

end GuestSandbox.Url
