-- Bytes and text.
-- Reading bytes as text never fails: bytes that begin no character, or whose character breaks off, give one
-- replacement character for the whole broken piece.

namespace GuestSandbox.Text

abbrev Bytes := List UInt8

def utf8 (text : String) : Bytes := text.toUTF8.toList

inductive Reading where
  | ready
  | within (low high : UInt8) (more value : Nat)
deriving Repr, DecidableEq

def replacement : Char := '\uFFFD'

-- The first byte of a character decides how many follow and what the second may be, which rules out overlong
-- forms, surrogates and code points past the last one.
def openByte (b : UInt8) : List Char × Reading :=
  let n := b.toNat
  if n < 0x80 then ([Char.ofNat n], .ready)
  else if n < 0xC2 then ([replacement], .ready)
  else if n < 0xE0 then ([], .within 0x80 0xBF 0 (n - 0xC0))
  else if n == 0xE0 then ([], .within 0xA0 0xBF 1 0)
  else if n == 0xED then ([], .within 0x80 0x9F 1 0xD)
  else if n < 0xF0 then ([], .within 0x80 0xBF 1 (n - 0xE0))
  else if n == 0xF0 then ([], .within 0x90 0xBF 2 0)
  else if n < 0xF4 then ([], .within 0x80 0xBF 2 (n - 0xF0))
  else if n == 0xF4 then ([], .within 0x80 0x8F 2 4)
  else ([replacement], .ready)

def decodeFrom : Reading → Bytes → List Char
  | .ready, [] => []
  | .within _ _ _ _, [] => [replacement]
  | .ready, b :: rest => (openByte b).1 ++ decodeFrom (openByte b).2 rest
  | .within low high more value, b :: rest =>
    if low ≤ b && b ≤ high then
      let value := 64 * value + (b.toNat - 0x80)
      match more with
      | 0 => Char.ofNat value :: decodeFrom .ready rest
      | left + 1 => decodeFrom (.within 0x80 0xBF left value) rest
    else replacement :: (openByte b).1 ++ decodeFrom (openByte b).2 rest

def decodeUtf8 (bytes : Bytes) : String := String.ofList (decodeFrom .ready bytes)

end GuestSandbox.Text
