import GuestSandbox.Json.Record
import GuestSandbox.Text.Lowercase
import GuestSandbox.Text.Utf8

namespace GuestSandbox

inductive Method where
  | get
  | post
  | put
  | delete
  | patch
  | head
  | options
deriving Repr, DecidableEq, Inhabited

namespace Method

def all : List Method := [.get, .post, .put, .delete, .patch, .head, .options]

def name : Method → String
  | .get => "GET"
  | .post => "POST"
  | .put => "PUT"
  | .delete => "DELETE"
  | .patch => "PATCH"
  | .head => "HEAD"
  | .options => "OPTIONS"

def ofName? (name : String) : Option Method := all.find? (·.name == name)

-- The upper-case form of a character where it lies in ASCII. A character with any other form is in no method's name.
def asciiUpper (c : Char) : List Char :=
  match c with
  | 'ß' => ['S', 'S']
  | 'ı' => ['I']
  | 'ſ' => ['S']
  | '\uFB00' => ['F', 'F']
  | '\uFB01' => ['F', 'I']
  | '\uFB02' => ['F', 'L']
  | '\uFB03' => ['F', 'F', 'I']
  | '\uFB04' => ['F', 'F', 'L']
  | '\uFB05' => ['S', 'T']
  | '\uFB06' => ['S', 'T']
  | c => [c.toUpper]

def read? (text : String) : Option Method := ofName? (String.ofList (text.toList.flatMap asciiUpper))

end Method

inductive Redirect where
  | follow
  | manual
  | error
deriving Repr, DecidableEq, Inhabited

def Redirect.name : Redirect → String
  | .follow => "follow"
  | .manual => "manual"
  | .error => "error"

def Redirect.ofName? (name : String) : Option Redirect := [Redirect.follow, .manual, .error].find? (·.name == name)

abbrev Headers := List (String × String)

structure Request where
  method : Method
  url : String
  headers : Headers
  body : Option String
  redirect : Redirect
  maxRedirects : Nat
  bodyLimit : Nat
deriving Repr, DecidableEq, Inhabited

def Request.download (url : String) (bodyLimit maxRedirects : Nat) : Request :=
  ⟨.get, url, [], none, .follow, maxRedirects, bodyLimit⟩

structure Response where
  status : Nat
  headers : Headers
  body : Text.Bytes
  finalUrl : String
deriving Repr, DecidableEq, Inhabited

namespace Response

def isSuccess (response : Response) : Bool := 200 ≤ response.status && response.status < 300

def text (response : Response) : String := Text.decodeUtf8 response.body

def size (response : Response) : Nat := response.body.length

end Response

def mergeHeader (name value : String) (headers : Headers) : Headers :=
  match headers.lookup name with
  | some earlier => Json.insertField name (earlier ++ ", " ++ value) headers
  | none => Json.insertField name value headers

def mergeHeaders (headers : Headers) : Headers :=
  headers.foldl (fun merged header => mergeHeader (Text.lower header.1) header.2 merged) []

structure Reply where
  status : Nat
  ok : Bool
  headers : Headers
  bodyText : String
  finalUrl : String
deriving Repr, DecidableEq, Inhabited

namespace Reply

def ofResponse (response : Response) : Reply :=
  ⟨response.status, response.isSuccess, mergeHeaders response.headers, response.text, response.finalUrl⟩

def toJson (reply : Reply) : Json :=
  .ofFields [("status", .ofNat reply.status), ("ok", .bool reply.ok), ("headers", .ofTextMap reply.headers),
    ("bodyText", .str reply.bodyText), ("finalUrl", .str reply.finalUrl)]

def ofJson? (json : Json) : Option Reply := do
  let field ← json.record? ["status", "ok", "headers", "bodyText", "finalUrl"]
  let status ← Json.need field "status" (Json.word? 16)
  let ok ← Json.need field "ok" Json.bool?
  let headers ← Json.need field "headers" Json.textMap?
  let bodyText ← Json.need field "bodyText" Json.text?
  let finalUrl ← Json.need field "finalUrl" Json.text?
  some ⟨status, ok, headers, bodyText, finalUrl⟩

end Reply

end GuestSandbox
