import GuestSandbox.Text.CodeRanges

-- Network addresses as hosts: the many spellings of an IPv4 address, and IPv6 addresses with one elided run.

namespace GuestSandbox.Url

def ipv4Number? (part : List Char) : Option Nat :=
  let digits (base : Nat) (cs : List Char) : Option Nat :=
    cs.foldl (fun value c => do
      let v ← value
      let d ← Text.hexDigit? c
      if d < base then some (base * v + d) else none) (some 0)
  match part with
  | [] => none
  | '0' :: 'x' :: rest => digits 16 rest
  | '0' :: 'X' :: rest => digits 16 rest
  | '0' :: c :: rest => digits 8 (c :: rest)
  | cs => digits 10 cs

def dottedParts (host : List Char) : List (List Char) :=
  let parts := Text.partsBetween (· == '.') host
  if 1 < parts.length && parts.getLast? == some [] then parts.dropLast else parts

-- A host whose last part is a number is an address or nothing.
def endsInNumber (host : List Char) : Bool :=
  match (dottedParts host).getLast? with
  | some last => (!last.isEmpty && last.all Char.isDigit) || (ipv4Number? last).isSome
  | none => false

-- The parts before the last are bytes; the last fills the bytes that remain.
def ipv4Address? (host : List Char) : Option Nat := do
  let parts := dottedParts host
  if 4 < parts.length then none
  let numbers ← parts.mapM ipv4Number?
  let last ← numbers.getLast?
  let front := numbers.dropLast
  if Nat.pow 256 (4 - front.length) ≤ last || front.any (255 < ·) then none
  some (front.foldl (fun value n => 256 * value + n) 0 * Nat.pow 256 (4 - front.length) + last)

def ipv4Text (address : Nat) : List Char :=
  let byte (shift : Nat) : List Char := Nat.toDigits 10 (address / shift % 256)
  byte 0x1000000 ++ '.' :: byte 0x10000 ++ '.' :: byte 256 ++ '.' :: byte 1

def ipv4Pieces? (cs : List Char) : Option (List Nat) := do
  let bytes ← (Text.partsBetween (· == '.') cs).mapM fun part =>
    if part.isEmpty || !part.all Char.isDigit || (1 < part.length && part.head? == some '0') then none
    else
      let value := part.foldl (fun value c => 10 * value + (c.toNat - 0x30)) 0
      if 255 < value then none else some value
  match bytes with
  | [a, b, c, d] => some [256 * a + b, 256 * c + d]
  | _ => none

def ipv6Pieces? (cs : List Char) : Option (List Nat) :=
  let parts := Text.partsBetween (· == ':') cs
  let piece (part : List Char) : Option Nat :=
    if part.isEmpty || 4 < part.length || !part.all (fun c => (Text.hexDigit? c).isSome) then none
    else some (Text.hexNumber part)
  match parts.getLast? with
  | none => none
  | some last =>
    if last.contains '.' then do
      let front ← parts.dropLast.mapM piece
      let address ← ipv4Pieces? last
      some (front ++ address)
    else parts.mapM piece

def splitElision : List Char → Option (List Char × List Char)
  | ':' :: ':' :: rest => some ([], rest)
  | c :: rest => (splitElision rest).map fun (before, after) => (c :: before, after)
  | [] => none

def ipv6Address? (cs : List Char) : Option (List Nat) := do
  match splitElision cs with
  | none =>
    let pieces ← ipv6Pieces? cs
    if pieces.length = 8 then some pieces else none
  | some (before, after) =>
    if before.contains '.' then none
    let front ← if before.isEmpty then some [] else ipv6Pieces? before
    let back ← if after.isEmpty then some [] else ipv6Pieces? after
    if front.length + back.length < 8 then
      some (front ++ List.replicate (8 - (front.length + back.length)) 0 ++ back)
    else none

def zeroRun (pieces : List Nat) : Nat := (pieces.takeWhile (· == 0)).length

def longestZeroRun (pieces : List Nat) : Nat × Nat :=
  (List.range pieces.length).foldl
    (fun best start => let run := zeroRun (pieces.drop start); if best.2 < run then (start, run) else best) (0, 0)

def joinWith (mark : Char) : List (List Char) → List Char
  | [] => []
  | [part] => part
  | part :: rest => part ++ mark :: joinWith mark rest

def piecesText (pieces : List Nat) : List Char := joinWith ':' (pieces.map (Nat.toDigits 16))

-- The longest run of two or more zero pieces is elided.
def ipv6Text (pieces : List Nat) : List Char :=
  let (start, run) := longestZeroRun pieces
  if run < 2 then piecesText pieces
  else piecesText (pieces.take start) ++ ':' :: ':' :: piecesText (pieces.drop (start + run))

end GuestSandbox.Url
