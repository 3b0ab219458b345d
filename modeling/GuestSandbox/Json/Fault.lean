import GuestSandbox.Text.Utf8

-- Where and why a JSON text was refused.
-- A reader works on the characters that are left, so a fault keeps those and how many bytes past their beginning
-- it points; line and column are counted in bytes once the whole text is at hand.

namespace GuestSandbox.Json

inductive Cause where
  | endOfList
  | endOfObject
  | endOfString
  | endOfValue
  | expectedColon
  | expectedListCommaOrEnd
  | expectedObjectCommaOrEnd
  | expectedIdent
  | expectedValue
  | invalidEscape
  | invalidNumber
  | numberOutOfRange
  | controlCharacter
  | keyMustBeString
  | loneSurrogate
  | trailingComma
  | trailingCharacters
  | unexpectedEndOfEscape
  | tooDeep
  | mismatch (text : String)
deriving Repr, DecidableEq, Inhabited

def Cause.message : Cause → String
  | .endOfList => "EOF while parsing a list"
  | .endOfObject => "EOF while parsing an object"
  | .endOfString => "EOF while parsing a string"
  | .endOfValue => "EOF while parsing a value"
  | .expectedColon => "expected `:`"
  | .expectedListCommaOrEnd => "expected `,` or `]`"
  | .expectedObjectCommaOrEnd => "expected `,` or `\x7d`"
  | .expectedIdent => "expected ident"
  | .expectedValue => "expected value"
  | .invalidEscape => "invalid escape"
  | .invalidNumber => "invalid number"
  | .numberOutOfRange => "number out of range"
  | .controlCharacter => "control character (\\u0000-\\u001F) found while parsing a string"
  | .keyMustBeString => "key must be a string"
  | .loneSurrogate => "lone leading surrogate in hex escape"
  | .trailingComma => "trailing comma"
  | .trailingCharacters => "trailing characters"
  | .unexpectedEndOfEscape => "unexpected end of hex escape"
  | .tooDeep => "recursion limit exceeded"
  | .mismatch text => text

structure Fault where
  cause : Cause
  left : List Char
  ahead : Nat
deriving Repr, DecidableEq, Inhabited

def Fault.here (cause : Cause) (left : List Char) : Fault := ⟨cause, left, 0⟩

def Fault.next (cause : Cause) (left : List Char) : Fault := ⟨cause, left, 1⟩

def byteCount (cs : List Char) : Nat := cs.foldl (fun count c => count + c.utf8Size) 0

def Fault.offset (fault : Fault) (text : List Char) : Nat :=
  min (byteCount text) (byteCount text - byteCount fault.left + fault.ahead)

def lineFeed : UInt8 := 10

-- Lines count from one; the column is the number of bytes since the last line end.
def lineAndColumn (bytes : Text.Bytes) : Nat × Nat :=
  (1 + bytes.count lineFeed, (bytes.reverse.takeWhile (· != lineFeed)).length)

def Fault.message (fault : Fault) (text : String) : String :=
  let (line, column) := lineAndColumn ((Text.utf8 text).take (fault.offset text.toList))
  fault.cause.message ++ " at line " ++ toString line ++ " column " ++ toString column

end GuestSandbox.Json
