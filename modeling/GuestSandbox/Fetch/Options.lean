import GuestSandbox.Json.Record
import GuestSandbox.Json.Typed

-- The options of a guest's fetch. They are taken as they come; whether they make sense is decided when the request is
-- prepared.

namespace GuestSandbox

structure FetchOptions where
  method : Option String := none
  headers : List (String × String) := []
  body : Option String := none
  redirect : Option String := none
  maxRedirects : Option Int := none
deriving Repr, DecidableEq, Inhabited

namespace FetchOptions

inductive Field where
  | method
  | headers
  | body
  | redirect
  | maxRedirects
deriving Repr, DecidableEq

def Field.all : List Field := [.method, .headers, .body, .redirect, .maxRedirects]

def Field.name : Field → String
  | .method => "method"
  | .headers => "headers"
  | .body => "body"
  | .redirect => "redirect"
  | .maxRedirects => "maxRedirects"

def fieldNames : List String := Field.all.map Field.name

def ofJson? (json : Json) : Option FetchOptions := do
  let field ← json.record? fieldNames
  let method ← Json.orElse field "method" (Json.optional? Json.text?) none
  let headers ← Json.orElse field "headers" Json.textMap? []
  let body ← Json.orElse field "body" (Json.optional? Json.text?) none
  let redirect ← Json.orElse field "redirect" (Json.optional? Json.text?) none
  let maxRedirects ← Json.orElse field "maxRedirects" (Json.optional? Json.int64?) none
  some ⟨method, headers, body, redirect, maxRedirects⟩

open Json (Fault Read)

def readField (options : FetchOptions) (left : List Char) : Field → Read FetchOptions
  | .method => (Json.readOptional Json.readText left).map fun (v, left) => ({ options with method := v }, left)
  | .headers => (Json.readTextMap left).map fun (v, left) => ({ options with headers := Json.sortFields v }, left)
  | .body => (Json.readOptional Json.readText left).map fun (v, left) => ({ options with body := v }, left)
  | .redirect => (Json.readOptional Json.readText left).map fun (v, left) => ({ options with redirect := v }, left)
  | .maxRedirects =>
    (Json.readOptional Json.readInteger left).map fun (v, left) => ({ options with maxRedirects := v }, left)

def readObject : Nat → Bool → List Field → FetchOptions → List Char → Read FetchOptions
  | 0, _, _, _, left => .error (.here .endOfObject left)
  | fuel + 1, first, seen, options, left => match Json.nextField first left with
    | .error fault => .error fault
    | .ok (.closed left) => .ok (options, left)
    | .ok (.more left) => match Json.readString left [] with
      | .error fault => .error fault
      | .ok (name, left) =>
        match Field.all.find? (·.name == String.ofList name) with
        | none => match Json.readColon left with
          | .error fault => .error fault
          | .ok left => match Json.skipValue (Json.callsFor left) left with
            | .error fault => .error fault
            | .ok left => readObject fuel false seen options left
        | some field =>
          if seen.contains field then
            .error (.here (.mismatch ("duplicate field `" ++ field.name ++ "`")) (Json.behindObject left))
          else match Json.readColon left with
            | .error fault => .error fault
            | .ok left => match readField options left field with
              | .error fault => .error fault
              | .ok (options, left) => readObject fuel false (field :: seen) options left

-- After the last field of a list nothing but its end may follow.
def closeList (left : List Char) : Except Fault (List Char) :=
  match Json.dropBlank left with
  | [] => .error (.here .endOfList [])
  | ']' :: left => .ok left
  | ',' :: left => match Json.dropBlank left with
    | ']' :: rest => .error (.next .trailingComma (']' :: rest))
    | rest => .error (.next .trailingCharacters rest)
  | left => .error (.next .trailingCharacters left)

def readList (first : Bool) (options : FetchOptions) (left : List Char) : List Field → Read FetchOptions
  | [] => (closeList left).map fun left => (options, left)
  | field :: fields => match Json.nextItem first left with
    | .error fault => .error fault
    | .ok (.closed left) => .ok (options, left)
    | .ok (.more left) => match readField options left field with
      | .error fault => .error fault
      | .ok (options, left) => readList false options left fields

def readOptions (left : List Char) : Read FetchOptions :=
  match Json.dropBlank left with
  | [] => .error (.here .endOfValue [])
  | '[' :: left => readList true {} left Field.all
  | '\x7b' :: left => readObject (Json.callsFor left) true [] {} left
  | left => Json.mismatch "struct FetchInit" left

def readChars (text : List Char) : Except Fault FetchOptions := Json.finish (readOptions text)

def read (text : String) : Except String FetchOptions :=
  match readChars text.toList with
  | .ok options => .ok options
  | .error fault => .error (fault.message text)

def toJson (options : FetchOptions) : Json :=
  .ofFields [("method", .ofOption .str options.method), ("headers", .ofTextMap options.headers),
    ("body", .ofOption .str options.body), ("redirect", .ofOption .str options.redirect),
    ("maxRedirects", .ofOption .ofInt options.maxRedirects)]

end FetchOptions

end GuestSandbox
