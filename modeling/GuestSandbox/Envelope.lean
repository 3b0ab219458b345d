import GuestSandbox.Failure
import GuestSandbox.Json.Value

namespace GuestSandbox

-- The answer of a host function: a value, the number of an operation whose outcome follows later, or a refusal.
inductive Envelope where
  | value (json : Json)
  | pending (id : UInt32)
  | refused (text : String)
deriving Repr, Inhabited

def Envelope.toJson : Envelope → Json
  | .value json => .ofFields [("ok", .bool true), ("value", json)]
  | .pending id => .ofFields [("ok", .bool true), ("pending", .ofNat id.toNat)]
  | .refused text => .ofFields [("ok", .bool false), ("error", .str text)]

def Envelope.text (envelope : Envelope) : String := envelope.toJson.text

structure Delivery where
  id : UInt32
  outcome : Except Failure Json

def Delivery.toJson (delivery : Delivery) : Json :=
  match delivery.outcome with
  | .ok value => .ofFields [("id", .ofNat delivery.id.toNat), ("ok", .bool true), ("value", value)]
  | .error failure =>
    .ofFields [("id", .ofNat delivery.id.toNat), ("ok", .bool false), ("error", .str failure.message)]

def Delivery.text (delivery : Delivery) : String := delivery.toJson.text

end GuestSandbox
