import GuestSandbox.Json.Lexeme

-- Reading whole JSON values.
-- Values nest, so the readers call each other; the number of characters that are left bounds the calls.

namespace GuestSandbox.Json

abbrev Read (α : Type) := Except Fault (α × List Char)

def greatestDepth : Nat := 127

inductive Next where
  | closed (left : List Char)
  | more (left : List Char)
deriving Repr

def nextItem (first : Bool) (left : List Char) : Except Fault Next :=
  match dropBlank left with
  | [] => .error (.here .endOfList [])
  | ']' :: left => .ok (.closed left)
  | c :: rest =>
    if first then .ok (.more (c :: rest))
    else if c = ',' then match dropBlank rest with
      | [] => .error (.here .endOfValue [])
      | ']' :: rest => .error (.next .trailingComma (']' :: rest))
      | rest => .ok (.more rest)
    else .error (.next .expectedListCommaOrEnd (c :: rest))

def nextField (first : Bool) (left : List Char) : Except Fault Next :=
  match dropBlank left with
  | [] => .error (.here .endOfObject [])
  | '\x7d' :: left => .ok (.closed left)
  | c :: rest =>
    if first then
      if c = '"' then .ok (.more rest) else .error (.next .keyMustBeString (c :: rest))
    else if c = ',' then match dropBlank rest with
      | [] => .error (.here .endOfValue [])
      | '"' :: rest => .ok (.more rest)
      | '\x7d' :: rest => .error (.next .trailingComma ('\x7d' :: rest))
      | rest => .error (.next .keyMustBeString rest)
    else .error (.next .expectedObjectCommaOrEnd (c :: rest))

def readColon (left : List Char) : Except Fault (List Char) :=
  match dropBlank left with
  | [] => .error (.here .endOfObject [])
  | ':' :: left => .ok left
  | left => .error (.next .expectedColon left)

mutual
def readValue : Nat → Nat → List Char → Read Json
  | 0, _, left => .error (.here .endOfValue left)
  | fuel + 1, depth, left => match dropBlank left with
    | [] => .error (.here .endOfValue [])
    | 'n' :: rest => (readWord ['u', 'l', 'l'] rest).map fun left => (.null, left)
    | 't' :: rest => (readWord ['r', 'u', 'e'] rest).map fun left => (.bool true, left)
    | 'f' :: rest => (readWord ['a', 'l', 's', 'e'] rest).map fun left => (.bool false, left)
    | '-' :: rest => (readNumber false rest).map fun (n, left) => (.num n, left)
    | '"' :: rest => (readString rest []).map fun (cs, left) => (.str (String.ofList cs), left)
    | '[' :: rest => match depth with
      | 0 => .error (.next .tooDeep ('[' :: rest))
      | depth + 1 => (readItems fuel depth true [] rest).map fun (items, left) => (.arr items, left)
    | '\x7b' :: rest => match depth with
      | 0 => .error (.next .tooDeep ('\x7b' :: rest))
      | depth + 1 => (readFields fuel depth true [] rest).map fun (fields, left) => (ofFields fields, left)
    | c :: rest =>
      if c.isDigit then (readNumber true (c :: rest)).map fun (n, left) => (.num n, left)
      else .error (.next .expectedValue (c :: rest))

def readItems : Nat → Nat → Bool → List Json → List Char → Read (List Json)
  | 0, _, _, _, left => .error (.here .endOfList left)
  | fuel + 1, depth, first, done, left => match nextItem first left with
    | .error fault => .error fault
    | .ok (.closed left) => .ok (done.reverse, left)
    | .ok (.more left) => match readValue fuel depth left with
      | .error fault => .error fault
      | .ok (item, left) => readItems fuel depth false (item :: done) left

def readFields : Nat → Nat → Bool → List (String × Json) → List Char → Read (List (String × Json))
  | 0, _, _, _, left => .error (.here .endOfObject left)
  | fuel + 1, depth, first, done, left => match nextField first left with
    | .error fault => .error fault
    | .ok (.closed left) => .ok (done.reverse, left)
    | .ok (.more left) => match readString left [] with
      | .error fault => .error fault
      | .ok (name, left) => match readColon left with
        | .error fault => .error fault
        | .ok left => match readValue fuel depth left with
          | .error fault => .error fault
          | .ok (value, left) => readFields fuel depth false ((String.ofList name, value) :: done) left
end

def nextSkipped (first : Bool) (left : List Char) : Except Fault Next :=
  match dropBlank left with
  | [] => .error (.here .endOfList [])
  | ']' :: left => .ok (.closed left)
  | c :: rest =>
    if first then .ok (.more (c :: rest))
    else if c = ',' then .ok (.more rest)
    else .error (.next .expectedListCommaOrEnd (c :: rest))

def nextSkippedField (first : Bool) (left : List Char) : Except Fault Next :=
  let name (left : List Char) : Except Fault Next := match dropBlank left with
    | [] => .error (.here .endOfObject [])
    | '"' :: left => .ok (.more left)
    | left => .error (.next .keyMustBeString left)
  match dropBlank left with
  | [] => .error (.here .endOfObject [])
  | '\x7d' :: left => .ok (.closed left)
  | c :: rest =>
    if first then name (c :: rest)
    else if c = ',' then name rest
    else .error (.next .expectedObjectCommaOrEnd (c :: rest))

-- Passing over a value checks its form but not its depth, its escapes' meaning or the size of its numbers.
mutual
def skipValue : Nat → List Char → Except Fault (List Char)
  | 0, left => .error (.here .endOfValue left)
  | fuel + 1, left => match dropBlank left with
    | [] => .error (.here .endOfValue [])
    | 'n' :: rest => readWord ['u', 'l', 'l'] rest
    | 't' :: rest => readWord ['r', 'u', 'e'] rest
    | 'f' :: rest => readWord ['a', 'l', 's', 'e'] rest
    | '-' :: rest => skipNumber rest
    | '"' :: rest => skipString rest
    | '[' :: rest => skipItems fuel true rest
    | '\x7b' :: rest => skipFields fuel true rest
    | c :: rest => if c.isDigit then skipNumber (c :: rest) else .error (.next .expectedValue (c :: rest))

def skipItems : Nat → Bool → List Char → Except Fault (List Char)
  | 0, _, left => .error (.here .endOfList left)
  | fuel + 1, first, left => match nextSkipped first left with
    | .error fault => .error fault
    | .ok (.closed left) => .ok left
    | .ok (.more left) => match skipValue fuel left with
      | .error fault => .error fault
      | .ok left => skipItems fuel false left

def skipFields : Nat → Bool → List Char → Except Fault (List Char)
  | 0, _, left => .error (.here .endOfObject left)
  | fuel + 1, first, left => match nextSkippedField first left with
    | .error fault => .error fault
    | .ok (.closed left) => .ok left
    | .ok (.more left) => match skipString left with
      | .error fault => .error fault
      | .ok left => match readColon left with
        | .error fault => .error fault
        | .ok left => match skipValue fuel left with
          | .error fault => .error fault
          | .ok left => skipFields fuel false left
end

def finish {α : Type} (read : Read α) : Except Fault α :=
  match read with
  | .error fault => .error fault
  | .ok (value, left) => match dropBlank left with
    | [] => .ok value
    | left => .error (.next .trailingCharacters left)

-- Each character opens at most one list or object, and that takes two calls.
def callsFor (left : List Char) : Nat := 2 * left.length + 2

def parseChars (text : List Char) : Except Fault Json := finish (readValue (callsFor text) greatestDepth text)

def parse (text : String) : Except String Json :=
  match parseChars text.toList with
  | .ok value => .ok value
  | .error fault => .error (fault.message text)

end GuestSandbox.Json
