import GuestSandbox.Failure
import GuestSandbox.Json.Record

namespace GuestSandbox

namespace Report

def messageLength : Nat := 600
def previewLength : Nat := 2000

def firstChars (text : String) (count : Nat) : String := String.ofList (text.toList.take count)

def before? (mark : List Char) : List Char → Option (List Char)
  | [] => if mark.isEmpty then some [] else none
  | c :: rest => if mark.isPrefixOf (c :: rest) then some [] else (before? mark rest).map (c :: ·)

-- Stack frames begin on a line of their own, four blanks and `at`.
def withoutFrames (cs : List Char) : List Char :=
  match before? "\n    at ".toList cs with
  | some front => front
  | none => (before? "\n    at".toList cs).getD cs

def tidy (text : String) : String :=
  String.ofList ((Text.trimChars (withoutFrames text.toList)).take messageLength)

def fit (value : Json) (text : String) (maxBytes : Nat) : Json :=
  if text.utf8ByteSize ≤ maxBytes then value
  else .ofFields [("truncated", .bool true), ("output", .str (firstChars text (min maxBytes previewLength)))]

end Report

structure Reported where
  code : FailureCode
  message : String
deriving Repr, DecidableEq

def Reported.ofFailure (failure : Failure) : Reported := ⟨failure.code, Report.tidy failure.message⟩

def Reported.toJson (reported : Reported) : Json :=
  .ofFields [("code", .str reported.code.name), ("message", .str reported.message)]

def FailureCode.ofJson? : Json → Option FailureCode := Json.named? FailureCode.ofName?

def Reported.ofJson? (json : Json) : Option Reported := do
  let field ← json.record? ["code", "message"]
  let code ← Json.need field "code" FailureCode.ofJson?
  let message ← Json.need field "message" Json.text?
  some ⟨code, message⟩

end GuestSandbox
