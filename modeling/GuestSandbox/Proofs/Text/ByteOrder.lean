import GuestSandbox.Text.Utf8
import Mathlib.Order.Defs.LinearOrder
import Mathlib.Tactic.SplitIfs

-- Texts are ordered like their bytes: the order by code points is that of the encoded texts.

namespace GuestSandbox.Text

theorem toList_loop (bytes : ByteArray) (index : Nat) (done : Bytes) :
    ByteArray.toList.loop bytes index done = done.reverse ++ bytes.data.toList.drop index := by
  fun_induction ByteArray.toList.loop bytes index done with
  | case1 index done inside ih =>
    have here : index < bytes.data.toList.length := by simpa using inside
    rw [ih, List.drop_eq_getElem_cons here]
    simp [ByteArray.get!, getElem!_pos bytes.data index inside]
  | case2 index done past =>
    rw [List.drop_of_length_le (by simpa using past)]
    simp

theorem utf8_eq_flatMap (text : String) : utf8 text = text.toList.flatMap String.utf8EncodeChar := by
  rw [utf8, ByteArray.toList, toList_loop]
  simp [← String.utf8Encode_toList, List.utf8Encode]

-- The bytes of two characters differ before either ends, and in the order of the characters. More bytes mean a greater
-- first byte, and as many hold the digits of the code point to the base of 64.
theorem utf8EncodeChar_lt {c d : Char} (less : c < d) (left right : Bytes) :
    String.utf8EncodeChar c ++ left < String.utf8EncodeChar d ++ right := by
  have order : c.val.toNat < d.val.toNat := less
  have greatest : d.val.toNat < 0x110000 := by
    rcases d.valid with low | ⟨_, high⟩
    · have below : d.val.toNat < 0xD800 := low
      omega
    · exact high
  unfold String.utf8EncodeChar
  dsimp only
  generalize c.val.toNat = n at *
  generalize d.val.toNat = m at *
  simp only [show (4096 : Nat) = 64 * 64 by rfl, show (262144 : Nat) = 64 * 64 * 64 by rfl, ← Nat.div_div_eq_div_mul]
  split_ifs <;>
    simp only [List.cons_append, List.nil_append, List.cons_lt_cons_iff, UInt8.lt_iff_toNat_lt, ← UInt8.toNat_inj,
      UInt8.toNat_ofNat'] <;>
    omega

theorem append_lt_append_left {left right : Bytes} (less : left < right) (front : Bytes) :
    front ++ left < front ++ right := by
  induction front with
  | nil => exact less
  | cons byte front ih => simpa using ih

theorem flatMap_lt {cs ds : List Char} (less : cs < ds) :
    cs.flatMap String.utf8EncodeChar < ds.flatMap String.utf8EncodeChar := by
  induction less with
  | @nil d ds =>
    have filled : String.utf8EncodeChar d ≠ [] := by simp
    obtain ⟨byte, rest, same⟩ := List.exists_cons_of_ne_nil filled
    simp [same]
  | rel smaller => exact utf8EncodeChar_lt smaller _ _
  | cons less ih => exact append_lt_append_left ih _

theorem utf8_lt_iff {one other : String} : utf8 one < utf8 other ↔ one < other := by
  have keeps {a b : String} (less : a < b) : utf8 a < utf8 b := by
    rw [utf8_eq_flatMap, utf8_eq_flatMap]
    exact flatMap_lt (String.lt_iff.mp less)
  constructor
  · intro bytes
    rcases Std.lt_trichotomy one other with less | rfl | more
    · exact less
    · exact absurd bytes (List.lt_irrefl _)
    · exact absurd (List.lt_trans bytes (keeps more)) (List.lt_irrefl _)
  · exact keeps

end GuestSandbox.Text
