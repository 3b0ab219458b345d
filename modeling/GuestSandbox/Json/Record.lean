import GuestSandbox.Json.Value

-- Typed values from JSON. A record is an object with its fields by name, where other fields do not matter, or a
-- list of its fields in their order; a list may leave out fields at its end but has none too many.

namespace GuestSandbox.Json

def bool? : Json → Option Bool
  | .bool b => some b
  | _ => none

def text? : Json → Option String
  | .str s => some s
  | _ => none

def word? (bits : Nat) : Json → Option Nat
  | .num (.nat n) => if n < Nat.pow 2 bits then some n else none
  | _ => none

def int64? : Json → Option Int
  | .num (.nat n) => if n < 0x8000000000000000 then some n else none
  | .num (.negative n) => if n ≤ 0x8000000000000000 then some (-n) else none
  | _ => none

def list? {α : Type} (decode : Json → Option α) : Json → Option (List α)
  | .arr items => items.mapM decode
  | _ => none

def optional? {α : Type} (decode : Json → Option α) : Json → Option (Option α)
  | .null => some none
  | value => (decode value).map some

def textMap? : Json → Option (List (String × String))
  | .obj fields => fields.mapM fun (name, value) => value.text?.map fun text => (name, text)
  | _ => none

-- A name out of a fixed set, as a text or as the only field of an object, without a value of its own.
def named? {α : Type} (ofName : String → Option α) : Json → Option α
  | .str name => ofName name
  | .obj [(name, .null)] => ofName name
  | _ => none

def record? (names : List String) : Json → Option (String → Option Json)
  | .obj fields => some fun name => fields.lookup name
  | .arr items =>
    if items.length ≤ names.length then some fun name => (names.zip items).lookup name else none
  | _ => none

def need {α : Type} (field : String → Option Json) (name : String) (decode : Json → Option α) : Option α :=
  (field name).bind decode

def orElse {α : Type} (field : String → Option Json) (name : String) (decode : Json → Option α) (otherwise : α) :
    Option α :=
  match field name with
  | none => some otherwise
  | some value => decode value

end GuestSandbox.Json
