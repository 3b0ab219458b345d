import GuestSandbox.Envelope
import GuestSandbox.Proofs.Number.Digits

-- The text of a delivery tells under which number it is delivered, whatever the outcome is.

namespace GuestSandbox

namespace Delivery

open Number

theorem toJson_ok (id : UInt32) (value : Json) : (Delivery.mk id (.ok value)).toJson =
    .obj [("id", .ofNat id.toNat), ("ok", .bool true), ("value", value)] := by
  have order : ¬ "ok" < "id" ∧ ¬ "value" < "id" ∧ ¬ "value" < "ok" := by decide
  simp only [toJson, Json.ofFields, Json.sortFields, List.foldl, Json.insertField, order, String.reduceEq, if_false]

theorem toJson_error (id : UInt32) (failure : Failure) : (Delivery.mk id (.error failure)).toJson =
    .obj [("error", .str failure.message), ("id", .ofNat id.toNat), ("ok", .bool false)] := by
  have order : ¬ "ok" < "id" ∧ "error" < "id" := by decide
  simp only [toJson, Json.ofFields, Json.sortFields, List.foldl, Json.insertField, order, String.reduceEq, if_false,
    if_true]

theorem text_ok (id : UInt32) (value : Json) :
    (Delivery.mk id (.ok value)).text.toList =
      "\x7b\"id\":".toList ++
        (digits id.toNat ++ ',' :: ("\"ok\":true,\"value\":" ++ value.text ++ "\x7d").toList) := by
  simp [text, toJson_ok, Json.text, Json.fieldsText, Json.ofNat, Json.Num.text, Json.quote, Json.escaped, digits]

theorem text_error (id : UInt32) (failure : Failure) :
    (Delivery.mk id (.error failure)).text.toList =
      (("\x7b\"error\":" ++ Json.quote failure.message ++ ",\"id\"").toList ++ ':' :: digits id.toNat) ++
        ",\"ok\":false\x7d".toList := by
  simp [text, toJson_error, Json.text, Json.fieldsText, Json.ofNat, Json.Num.text, Json.quote, Json.escaped, digits]

theorem id_of_text {one other : Delivery} (same : one.text = other.text) : one.id = other.id := by
  obtain ⟨id, outcome⟩ := one
  obtain ⟨id', outcome'⟩ := other
  have chars := congrArg String.toList same
  have number : id.toNat = id'.toNat := by
    cases outcome with
    | ok value => cases outcome' with
      | ok value' =>
        rw [text_ok, text_ok] at chars
        have digits := congrArg (List.takeWhile Char.isDigit) (List.append_cancel_left chars)
        rw [takeWhile_digits rfl, takeWhile_digits rfl] at digits
        exact digits_injective digits
      | error failure' =>
        rw [text_ok, text_error] at chars
        simp at chars
    | error failure => cases outcome' with
      | ok value' =>
        rw [text_ok, text_error] at chars
        simp at chars
      | error failure' =>
        rw [text_error, text_error] at chars
        have digits := congrArg (fun left => left.reverse.takeWhile Char.isDigit) (List.append_cancel_right chars)
        simp only [takeWhile_digits_reverse (show (':').isDigit = false from rfl)] at digits
        exact digits_injective (List.reverse_inj.mp digits)
  exact UInt32.toNat_inj.mp number

end Delivery

end GuestSandbox
