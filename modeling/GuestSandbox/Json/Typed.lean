import GuestSandbox.Json.Parser
import GuestSandbox.Text.Quoted

namespace GuestSandbox.Json

def described : Json → String
  | .null => "null"
  | .bool true => "boolean `true`"
  | .bool false => "boolean `false`"
  | .num (.real x) => "floating point `" ++ x.text ++ "`"
  | .num n => "integer `" ++ n.text ++ "`"
  | .str s => "string " ++ Text.quoted s
  | .arr _ => "sequence"
  | .obj _ => "map"

def wrongType (value : Json) (expected : String) : String :=
  "invalid type: " ++ described value ++ ", expected " ++ expected

-- The fault for a value of the wrong type. A list or an object is not read: its beginning is enough.
def mismatch {α : Type} (expected : String) (left : List Char) : Read α :=
  let wrong (value : Json) (left : List Char) : Read α := .error (.here (.mismatch (wrongType value expected)) left)
  match left with
  | '[' :: _ => wrong (.arr []) left
  | '\x7b' :: _ => wrong (.obj []) left
  | _ => match readValue 1 0 left with
    | .ok (value, left) => wrong value left
    | .error fault => .error fault

def readText (left : List Char) : Read String :=
  match dropBlank left with
  | [] => .error (.here .endOfValue [])
  | '"' :: left => (readString left []).map fun (cs, left) => (String.ofList cs, left)
  | left => mismatch "a string" left

def readOptional {α : Type} (read : List Char → Read α) (left : List Char) : Read (Option α) :=
  match dropBlank left with
  | 'n' :: rest => (readWord ['u', 'l', 'l'] rest).map fun left => (none, left)
  | left => (read left).map fun (value, left) => (some value, left)

def readInteger (left : List Char) : Read Int :=
  let judge (read : Except Fault (Num × List Char)) : Read Int :=
    match read with
    | .error fault => .error fault
    | .ok (.nat n, left) =>
      if n < 0x8000000000000000 then .ok (n, left)
      else .error (.here (.mismatch ("invalid value: integer `" ++ toString n ++ "`, expected i64")) left)
    | .ok (.negative n, left) => .ok (-n, left)
    | .ok (n, left) => .error (.here (.mismatch (wrongType (.num n) "i64")) left)
  match dropBlank left with
  | [] => .error (.here .endOfValue [])
  | '-' :: rest => judge (readNumber false rest)
  | c :: rest => if c.isDigit then judge (readNumber true (c :: rest)) else mismatch "i64" (c :: rest)

def readTextEntries : Nat → Bool → List (String × String) → List Char → Read (List (String × String))
  | 0, _, _, left => .error (.here .endOfObject left)
  | fuel + 1, first, done, left => match nextField first left with
    | .error fault => .error fault
    | .ok (.closed left) => .ok (done.reverse, left)
    | .ok (.more left) => match readString left [] with
      | .error fault => .error fault
      | .ok (name, left) => match readColon left with
        | .error fault => .error fault
        | .ok left => match readText left with
          | .error fault => .error fault
          | .ok (value, left) => readTextEntries fuel false ((String.ofList name, value) :: done) left

def readTextMap (left : List Char) : Read (List (String × String)) :=
  match dropBlank left with
  | [] => .error (.here .endOfValue [])
  | '\x7b' :: left => readTextEntries (callsFor left) true [] left
  | left => mismatch "a map" left

-- A fault that belongs to a whole object is placed behind it: past blanks, and past its end if that stands there.
def behindObject (left : List Char) : List Char :=
  match dropBlank left with
  | '\x7d' :: left => left
  | left => left

end GuestSandbox.Json
