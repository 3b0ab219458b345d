import GuestSandbox.Text.HiddenTable

-- Text as messages quote it: between double quotes, with an escape for every character that would not be seen.

namespace GuestSandbox.Text

def isHidden (c : Char) : Bool :=
  if c.toNat < 128 then c.toNat < 0x20 || c.toNat == 0x7F else hiddenRanges.contains c

def lowerHexDigits (code : Nat) : List Char := Nat.toDigits 16 code

def quotedChar (quote : Char) (c : Char) : List Char :=
  if c == '\x00' then ['\\', '0']
  else if c == '\t' then ['\\', 't']
  else if c == '\r' then ['\\', 'r']
  else if c == '\n' then ['\\', 'n']
  else if c == '\\' || c == quote then ['\\', c]
  else if isHidden c then '\\' :: 'u' :: '\x7b' :: lowerHexDigits c.toNat ++ ['\x7d']
  else [c]

def quotedWith (quote : Char) (cs : List Char) : List Char := quote :: cs.flatMap (quotedChar quote) ++ [quote]

def quoted (text : String) : String := String.ofList (quotedWith '"' text.toList)

def quotedOne (c : Char) : String := String.ofList (quotedWith '\'' [c])

end GuestSandbox.Text
