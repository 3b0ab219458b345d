import GuestSandbox.Json.Typed

-- What guest code reports at its end: an object whose field `state` says which other field matters. The state is read
-- from the text as it comes; the other fields are kept as values and looked at afterwards, so a fault in them has no
-- place in the text.

namespace GuestSandbox

inductive Ending where
  | fulfilled (json : Option String)
  | rejected (error : String)
  | pending
deriving Repr, DecidableEq

namespace Ending

inductive State where
  | fulfilled
  | rejected
  | pending
deriving Repr, DecidableEq

def State.all : List State := [.fulfilled, .rejected, .pending]

def State.name : State → String
  | .fulfilled => "fulfilled"
  | .rejected => "rejected"
  | .pending => "pending"

inductive Content where
  | fields (fields : List (String × Json))
  | items (items : List Json)
deriving Repr

open Json (Fault Read)

def readState (left : List Char) : Read State :=
  match Json.dropBlank left with
  | [] => .error (.here .endOfValue [])
  | '"' :: rest => match Json.readString rest [] with
    | .error fault => .error fault
    | .ok (name, left) => match State.all.find? (·.name == String.ofList name) with
      | some state => .ok (state, left)
      | none => .error (.here (.mismatch ("unknown variant `" ++ String.ofList name
          ++ "`, expected one of `fulfilled`, `rejected`, `pending`")) left)
  | left => Json.mismatch "variant identifier" left

def depthInside : Nat := Json.greatestDepth - 1

def readFields : Nat → Bool → Option State → List (String × Json) → List Char → Read (State × Content)
  | 0, _, _, _, left => .error (.here .endOfObject left)
  | fuel + 1, first, state, done, left => match Json.nextField first left with
    | .error fault => .error fault
    | .ok (.closed left) => match state with
      | some state => .ok ((state, .fields done.reverse), left)
      | none => .error (.here (.mismatch "missing field `state`") left)
    | .ok (.more left) => match Json.readString left [] with
      | .error fault => .error fault
      | .ok (name, left) =>
        if String.ofList name == "state" then
          if state.isSome then .error (.here (.mismatch "duplicate field `state`") (Json.behindObject left))
          else match Json.readColon left with
            | .error fault => .error fault
            | .ok left => match readState left with
              | .error fault => .error fault
              | .ok (state, left) => readFields fuel false (some state) done left
        else match Json.readColon left with
          | .error fault => .error fault
          | .ok left => match Json.readValue (Json.callsFor left) depthInside left with
            | .error fault => .error fault
            | .ok (value, left) => readFields fuel false state ((String.ofList name, value) :: done) left

def readItems (left : List Char) : Read (State × Content) :=
  match Json.nextItem true left with
  | .error fault => .error fault
  | .ok (.closed left) => .error (.here (.mismatch "missing field `state`") left)
  | .ok (.more left) => match readState left with
    | .error fault => .error fault
    | .ok (state, left) =>
      (Json.readItems (Json.callsFor left) depthInside false [] left).map fun (items, left) =>
        ((state, .items items), left)

def readParts (left : List Char) : Read (State × Content) :=
  match Json.dropBlank left with
  | [] => .error (.here .endOfValue [])
  | '[' :: left => readItems left
  | '\x7b' :: left => readFields (Json.callsFor left) true none [] left
  | left => Json.mismatch "internally tagged enum GuestOutcome" left

def text? : Json → Except String String
  | .str text => .ok text
  | value => .error (Json.wrongType value "a string")

def optionalText? : Json → Except String (Option String)
  | .null => .ok none
  | value => (text? value).map some

-- The value of the one field with a name, if it is there. A fault of the first such field is found before a second
-- field.
def onlyField {α : Type} (name : String) (decode : Json → Except String α) (found : Option α) :
    List (String × Json) → Except String (Option α)
  | [] => .ok found
  | (other, value) :: rest =>
    if other == name then
      if found.isSome then .error ("duplicate field `" ++ name ++ "`")
      else match decode value with
        | .error message => .error message
        | .ok value => onlyField name decode (some value) rest
    else onlyField name decode found rest

def onlyItem {α : Type} (variant : String) (decode : Json → Except String α) : List Json → Except String α
  | [] => .error ("invalid length 0, expected struct variant GuestOutcome::" ++ variant ++ " with 1 element")
  | value :: rest => match decode value with
    | .error message => .error message
    | .ok value =>
      if rest.isEmpty then .ok value
      else .error ("invalid length " ++ toString (rest.length + 1) ++ ", expected 1 element in sequence")

def ofParts : State → Content → Except String Ending
  | .fulfilled, .fields fields =>
    (onlyField "json" optionalText? none fields).map fun found => .fulfilled (found.getD none)
  | .fulfilled, .items items => (onlyItem "Fulfilled" optionalText? items).map .fulfilled
  | .rejected, .fields fields => match onlyField "error" text? none fields with
    | .error message => .error message
    | .ok none => .error "missing field `error`"
    | .ok (some text) => .ok (.rejected text)
  | .rejected, .items items => (onlyItem "Rejected" text? items).map .rejected
  | .pending, .fields _ => .ok .pending
  | .pending, .items items =>
    if items.isEmpty then .ok .pending
    else .error ("invalid length " ++ toString items.length ++ ", expected 0 elements in sequence")

def read (text : String) : Except String Ending :=
  match readParts text.toList with
  | .error fault => .error (fault.message text)
  | .ok ((state, content), left) => match ofParts state content with
    | .error message => .error message
    | .ok outcome => (Json.finish (.ok (outcome, left))).mapError fun fault => fault.message text

end Ending

end GuestSandbox
