import GuestSandbox.Text.CodeRanges
import GuestSandbox.Text.Utf8

-- Percent encoding: a byte as a percent sign and two hexadecimal digits.
-- Which ASCII characters are written that way depends on the part of the URL; other characters always are.

namespace GuestSandbox.Url

def isControl (c : Char) : Bool := c.toNat < 0x20 || c.toNat == 0x7F

def inFragmentSet (c : Char) : Bool := isControl c || c == ' ' || c == '"' || c == '<' || c == '>' || c == '`'

def inQuerySet (c : Char) : Bool := isControl c || c == ' ' || c == '"' || c == '#' || c == '<' || c == '>'

def inSpecialQuerySet (c : Char) : Bool := inQuerySet c || c == '\''

def inPathSet (c : Char) : Bool := inFragmentSet c || c == '#' || c == '?' || c == '\x7b' || c == '\x7d'

def inUserinfoSet (c : Char) : Bool :=
  inPathSet c || c == '/' || c == ':' || c == ';' || c == '=' || c == '@' || c == '[' || c == '\\' || c == ']'
    || c == '^' || c == '|'

def upperHexDigit (n : Nat) : Char := Char.ofNat (if n < 10 then 0x30 + n else 0x37 + n)

def percentByte (b : UInt8) : List Char := ['%', upperHexDigit (b.toNat / 16), upperHexDigit (b.toNat % 16)]

def encodeChar (inSet : Char → Bool) (c : Char) : List Char :=
  if c.toNat < 128 then
    if inSet c then percentByte c.toNat.toUInt8 else [c]
  else (Text.utf8 (String.ofList [c])).flatMap percentByte

def encode (inSet : Char → Bool) (cs : List Char) : List Char := cs.flatMap (encodeChar inSet)

-- A percent sign without two hexadecimal digits after it stands for itself.
def decodePercent : List UInt8 → List UInt8
  | [] => []
  | b :: rest =>
    if b.toNat == 0x25 then match rest with
      | high :: low :: rest =>
        match Text.hexDigit? (Char.ofNat high.toNat), Text.hexDigit? (Char.ofNat low.toNat) with
        | some h, some l => (16 * h + l).toUInt8 :: decodePercent rest
        | _, _ => b :: decodePercent (high :: low :: rest)
      | short => b :: decodePercent short
    else b :: decodePercent rest

end GuestSandbox.Url
