-- Punycode: a label as its ASCII characters followed by the places and values of the others, in base 36 with
-- digits whose weight adapts to the values seen so far.

namespace GuestSandbox.Url.Punycode

def digitChar (digit : Nat) : Char := Char.ofNat (if digit < 26 then 0x61 + digit else 0x16 + digit)

def digit? (c : Char) : Option Nat :=
  if 'a' ≤ c && c ≤ 'z' then some (c.toNat - 0x61)
  else if 'A' ≤ c && c ≤ 'Z' then some (c.toNat - 0x41)
  else if '0' ≤ c && c ≤ '9' then some (c.toNat - 0x16)
  else none

def firstCode : Nat := 128
def firstBias : Nat := 72

-- A digit below this value is the last one of its number.
def threshold (place bias : Nat) : Nat :=
  if place ≤ bias + 1 then 1 else if bias + 26 ≤ place then 26 else place - bias

def shrink : Nat → Nat → Nat → Nat × Nat
  | 0, delta, place => (delta, place)
  | fuel + 1, delta, place => if 455 < delta then shrink fuel (delta / 35) (place + 36) else (delta, place)

def adapt (delta count : Nat) (first : Bool) : Nat :=
  let start := if first then delta / 700 else delta / 2
  let (delta, place) := shrink 64 (start + start / count) 0
  place + 36 * delta / (delta + 38)

-- A number as digits, least first. Values fit 64 bits, and each digit divides by ten at least.
def numberDigits (bias : Nat) : Nat → Nat → Nat → List Char
  | 0, _, _ => []
  | fuel + 1, place, value =>
    let t := threshold place bias
    if value < t then [digitChar value]
    else digitChar (t + (value - t) % (36 - t)) :: numberDigits bias fuel (place + 36) ((value - t) / (36 - t))

structure Encoding where
  done : List Char
  delta : Nat
  bias : Nat
  handled : Nat

def Encoding.see (basic code : Nat) (e : Encoding) (other : Nat) : Encoding :=
  if other < code then { e with delta := e.delta + 1 }
  else if other == code then
    ⟨e.done ++ numberDigits e.bias 32 36 e.delta, 0, adapt e.delta (e.handled + 1) (e.handled == basic), e.handled + 1⟩
  else e

def Encoding.run (label : List Nat) (basic : Nat) : List Nat → Nat → Encoding → Encoding
  | [], _, e => e
  | code :: rest, next, e =>
    let e := { e with delta := e.delta + (code - next) * (e.handled + 1) }
    let e := label.foldl (Encoding.see basic code) e
    Encoding.run label basic rest (code + 1) { e with delta := e.delta + 1 }

def insertCode (code : Nat) : List Nat → List Nat
  | [] => [code]
  | other :: rest =>
    if code < other then code :: other :: rest
    else if code == other then other :: rest
    else other :: insertCode code rest

def encode (label : List Nat) : List Char :=
  let basic := label.filter (· < firstCode)
  let codes := (label.filter (firstCode ≤ ·)).foldl (fun sorted code => insertCode code sorted) []
  let start := basic.map Char.ofNat ++ (if basic.isEmpty then [] else ['-'])
  (Encoding.run label basic.length codes firstCode ⟨start, 0, firstBias, basic.length⟩).done

-- Digits read so far: where the last number ended, the number so far with its weight and place, the next code.
structure Decoding where
  done : List Nat
  last : Nat
  index : Nat
  weight : Nat
  place : Nat
  code : Nat
  bias : Nat
  open_ : Bool

-- No code point is larger, and no index can pass what 32 bits hold.
def greatestCode : Nat := 0x10FFFF

def Decoding.take (d : Decoding) (digit : Nat) : Option Decoding :=
  let index := d.index + digit * d.weight
  if 0x100000000 ≤ index then none
  else
    let t := threshold d.place d.bias
    if digit < t then
      let count := d.done.length + 1
      let code := d.code + index / count
      let at_ := index % count
      if greatestCode < code || (0xD800 ≤ code && code ≤ 0xDFFF) then none
      else some ⟨d.done.take at_ ++ code :: d.done.drop at_, at_ + 1, at_ + 1, 1, 36, code,
        adapt (index - d.last) count (d.last == 0), false⟩
    else some { d with index := index, weight := d.weight * (36 - t), place := d.place + 36, open_ := true }

def Decoding.run : Decoding → List Char → Option Decoding
  | d, [] => some d
  | d, c :: rest => do
    let digit ← digit? c
    let d ← d.take digit
    Decoding.run d rest

def splitLastHyphen (cs : List Char) : List Char × List Char :=
  if cs.contains '-' then
    ((cs.reverse.dropWhile (· != '-')).drop 1 |>.reverse, (cs.reverse.takeWhile (· != '-')).reverse)
  else ([], cs)

def decode (cs : List Char) : Option (List Nat) := do
  let (basic, digits) := splitLastHyphen cs
  if basic.any (128 ≤ ·.toNat) then none
  let d ← Decoding.run ⟨basic.map Char.toNat, 0, 0, 1, 36, firstCode, firstBias, false⟩ digits
  if d.open_ then none else some d.done

end GuestSandbox.Url.Punycode
