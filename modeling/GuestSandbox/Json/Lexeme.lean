import GuestSandbox.Json.Fault
import GuestSandbox.Json.Value
import GuestSandbox.Text.CodeRanges

-- The pieces of JSON text: blanks, words, strings and numbers.
-- Each reader gets the characters that are left and gives back a value with what is left after it.

namespace GuestSandbox.Json

def dropBlank : List Char → List Char
  | c :: rest => if c == ' ' || c == '\n' || c == '\t' || c == '\r' then dropBlank rest else c :: rest
  | [] => []

def readWord : List Char → List Char → Except Fault (List Char)
  | [], left => .ok left
  | _ :: _, [] => .error (.here .endOfValue [])
  | expected :: word, c :: left =>
    if c = expected then readWord word left else .error (.next .expectedIdent (c :: left))

def simpleEscape? (c : Char) : Option Char :=
  match c with
  | '"' => some '"'
  | '\\' => some '\\'
  | '/' => some '/'
  | 'b' => some '\x08'
  | 'f' => some '\x0c'
  | 'n' => some '\n'
  | 'r' => some '\r'
  | 't' => some '\t'
  | _ => none

def unit? (a b c d : Char) : Option Nat :=
  match Text.hexDigit? a, Text.hexDigit? b, Text.hexDigit? c, Text.hexDigit? d with
  | some a, some b, some c, some d => some (((a * 16 + b) * 16 + c) * 16 + d)
  | _, _, _, _ => none

-- Why four hexadecimal digits could not be read: the escape is four bytes long, whatever they are.
def unitFault (left : List Char) : Fault :=
  if byteCount left < 4 then .here .endOfString [] else ⟨.invalidEscape, left, 4⟩

def isHighUnit (n : Nat) : Bool := 0xD800 ≤ n && n ≤ 0xDBFF
def isLowUnit (n : Nat) : Bool := 0xDC00 ≤ n && n ≤ 0xDFFF

def joinUnits (high low : Nat) : Char := Char.ofNat ((high - 0xD800) * 0x400 + (low - 0xDC00) + 0x10000)

def readString : List Char → List Char → Except Fault (List Char × List Char)
  | [], _ => .error (.here .endOfString [])
  | '"' :: left, done => .ok (done.reverse, left)
  | '\\' :: escape, done => match escape with
    | [] => .error (.here .endOfString [])
    | 'u' :: digits => match digits with
      | a :: b :: c :: d :: left => match unit? a b c d with
        | none => .error (unitFault (a :: b :: c :: d :: left))
        | some high =>
          if isLowUnit high then .error (.here .loneSurrogate left)
          else if isHighUnit high then match left with
            | '\\' :: 'u' :: second => match second with
              | e :: f :: g :: h :: left => match unit? e f g h with
                | none => .error (unitFault (e :: f :: g :: h :: left))
                | some low =>
                  if isLowUnit low then readString left (joinUnits high low :: done)
                  else .error (.here .loneSurrogate left)
              | short => .error (unitFault short)
            | '\\' :: [] => .error (.here .endOfString [])
            | '\\' :: other => .error (.next .unexpectedEndOfEscape other)
            | [] => .error (.here .endOfString [])
            | other => .error (.next .unexpectedEndOfEscape other)
          else readString left (Char.ofNat high :: done)
      | short => .error (unitFault short)
    | c :: left => match simpleEscape? c with
      | some plain => readString left (plain :: done)
      | none => .error (.next .invalidEscape (c :: left))
  | c :: left, done =>
    if c.toNat < 0x20 then .error (.next .controlCharacter (c :: left)) else readString left (c :: done)

def skipString : List Char → Except Fault (List Char)
  | [] => .error (.here .endOfString [])
  | '"' :: left => .ok left
  | '\\' :: escape => match escape with
    | [] => .error (.here .endOfString [])
    | 'u' :: digits => match digits with
      | a :: b :: c :: d :: left => match unit? a b c d with
        | none => .error (unitFault (a :: b :: c :: d :: left))
        | some _ => skipString left
      | short => .error (unitFault short)
    | c :: left => if (simpleEscape? c).isSome then skipString left else .error (.next .invalidEscape (c :: left))
  | c :: left => if c.toNat < 0x20 then .error (.here .controlCharacter (c :: left)) else skipString left

def greatestWord : Nat := 0xFFFFFFFFFFFFFFFF

def digitOf (c : Char) : Nat := c.toNat - 0x30

def takeDigits (value taken : Nat) : List Char → Nat × Nat × List Char
  | [] => (value, taken, [])
  | c :: left =>
    if c.isDigit && 10 * value + digitOf c ≤ greatestWord then takeDigits (10 * value + digitOf c) (taken + 1) left
    else (value, taken, c :: left)

def dropDigits (left : List Char) : List Char := left.dropWhile Char.isDigit

def startsWithDigit : List Char → Bool
  | c :: _ => c.isDigit
  | [] => false

-- Multiplies or divides by a power of ten that is itself rounded, in steps of at most `10 ^ 308` downwards.
def scaleTen (x : Number.Binary64) (power : Int) : Nat → Option Number.Binary64
  | 0 => none
  | fuel + 1 =>
    if power.natAbs ≤ 308 then do
      let ten ← Number.Binary64.ofNat (Nat.pow 10 power.natAbs)
      if power < 0 then x.div ten else x.mul ten
    else if x.isZero then some x
    else if 0 < power then none
    else do
      let ten ← Number.Binary64.ofNat (Nat.pow 10 308)
      let less ← x.div ten
      scaleTen less (power + 308) fuel

-- A word times a power of ten. Three steps of `10 ^ 308` take every word to zero.
def realOf (positive : Bool) (significand : Nat) (power : Int) : Option Number.Binary64 := do
  let x ← Number.Binary64.ofNat significand
  let scaled ← scaleTen x power 8
  some (if positive then scaled else scaled.negate)

def finishReal (positive : Bool) (significand : Nat) (power : Int) (left : List Char) :
    Except Fault (Num × List Char) :=
  match realOf positive significand power with
  | some x => .ok (.real x, left)
  | none => .error (.here .numberOutOfRange left)

def greatestPower : Int := 0x7FFFFFFF

def takePower (value : Nat) : List Char → Nat × Option (List Char) × List Char
  | [] => (value, none, [])
  | c :: left =>
    if c.isDigit then
      if greatestPower < 10 * value + digitOf c then (value, some left, left)
      else takePower (10 * value + digitOf c) left
    else (value, none, c :: left)

def clampPower (power : Int) : Int := max (-greatestPower - 1) (min greatestPower power)

def isPowerMark (c : Char) : Bool := c == 'e' || c == 'E'

def readPower (positive : Bool) (significand : Nat) (start : Int) (left : List Char) :
    Except Fault (Num × List Char) :=
  let (up, left) := match left with
    | '+' :: left => (true, left)
    | '-' :: left => (false, left)
    | left => (true, left)
  match left with
  | [] => .error (.here .endOfValue [])
  | c :: rest =>
    if !c.isDigit then .error (.next .invalidNumber (c :: rest))
    else match takePower (digitOf c) rest with
      | (_, some past, _) =>
        if significand != 0 && up then .error (.here .numberOutOfRange past)
        else .ok (.real ⟨!positive, 0, Number.leastExponent⟩, dropDigits past)
      | (power, none, left) =>
        finishReal positive significand (clampPower (if up then start + power else start - power)) left

def readPowerOrEnd (positive : Bool) (significand : Nat) (power : Int) (left : List Char) :
    Except Fault (Num × List Char) :=
  match left with
  | c :: rest =>
    if isPowerMark c then readPower positive significand power rest else finishReal positive significand power left
  | [] => finishReal positive significand power []

def readFraction (positive : Bool) (significand : Nat) (start : Int) (left : List Char) :
    Except Fault (Num × List Char) :=
  let (significand, taken, left) := takeDigits significand 0 left
  if startsWithDigit left then readPowerOrEnd positive significand (start - taken) (dropDigits left)
  else if taken == 0 then
    .error (match left with
      | [] => .here .endOfValue []
      | _ => .next .invalidNumber left)
  else readPowerOrEnd positive significand (start - taken) left

def finishNumber (positive : Bool) (significand : Nat) (left : List Char) : Except Fault (Num × List Char) :=
  let whole : Except Fault (Num × List Char) :=
    if positive then .ok (.nat significand, left)
    else if 0 < significand && significand ≤ 0x8000000000000000 then .ok (.negative significand, left)
    else finishReal false significand 0 left
  match left with
  | '.' :: rest => readFraction positive significand 0 rest
  | c :: rest => if isPowerMark c then readPower positive significand 0 rest else whole
  | [] => whole

def readNumber (positive : Bool) (left : List Char) : Except Fault (Num × List Char) :=
  match left with
  | [] => .error (.here .endOfValue [])
  | '0' :: rest =>
    if startsWithDigit rest then .error (.next .invalidNumber rest) else finishNumber positive 0 rest
  | c :: rest =>
    if !c.isDigit then .error (.next .invalidNumber left)
    else
      let (significand, _, after) := takeDigits (digitOf c) 1 rest
      if startsWithDigit after then
        let past := dropDigits after
        let power : Int := after.length - past.length
        match past with
        | '.' :: fraction => readFraction positive significand power fraction
        | _ => readPowerOrEnd positive significand power past
      else finishNumber positive significand after

def skipPower (left : List Char) : Except Fault (List Char) :=
  let left := match left with
    | '+' :: left => left
    | '-' :: left => left
    | left => left
  if startsWithDigit left then .ok (dropDigits left) else .error (.next .invalidNumber left)

def skipPowerOrEnd (left : List Char) : Except Fault (List Char) :=
  match left with
  | c :: rest => if isPowerMark c then skipPower rest else .ok left
  | [] => .ok []

def skipNumber (left : List Char) : Except Fault (List Char) :=
  let whole : Except Fault (List Char) := match left with
    | '0' :: rest => if startsWithDigit rest then .error (.next .invalidNumber rest) else .ok rest
    | _ => if startsWithDigit left then .ok (dropDigits left) else .error (.next .invalidNumber left)
  match whole with
  | .error fault => .error fault
  | .ok ('.' :: fraction) =>
    if startsWithDigit fraction then skipPowerOrEnd (dropDigits fraction) else .error (.next .invalidNumber fraction)
  | .ok rest => skipPowerOrEnd rest

end GuestSandbox.Json
