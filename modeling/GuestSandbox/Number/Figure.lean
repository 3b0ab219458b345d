import GuestSandbox.Number.Binary64

-- Decimal text as a number: an optional sign, digits with an optional point, an optional exponent; or one of the
-- words for infinity and for no number. The value is the nearest binary64 number.

namespace GuestSandbox.Number

inductive Figure where
  | finite (value : Binary64)
  | infinite (negative : Bool)
  | notANumber
deriving Repr, DecidableEq

def digitValue (c : Char) : Nat := c.toNat - 0x30

def digitsValue (digits : List Char) : Nat := digits.foldl (fun value c => 10 * value + digitValue c) 0

-- The value of `significand · 10 ^ power`. Powers far outside the range are settled before any power of ten is
-- built: a number of `n` digits is less than `10 ^ n`, and half the least number is more than `10 ^ (-324)`.
def Figure.ofDecimal (negative : Bool) (significand : Nat) (power : Int) : Figure :=
  if significand == 0 then .finite ⟨negative, 0, leastExponent⟩
  else if 309 < power then .infinite negative
  else if power + (Nat.toDigits 10 significand).length < -330 then .finite ⟨negative, 0, leastExponent⟩
  else
    let rounded := if power < 0 then Binary64.nearest negative significand (Nat.pow 10 power.natAbs)
      else Binary64.nearest negative (significand * Nat.pow 10 power.natAbs) 1
    match rounded with
    | some value => .finite value
    | none => .infinite negative

def splitSign : List Char → Bool × List Char
  | '-' :: rest => (true, rest)
  | '+' :: rest => (false, rest)
  | cs => (false, cs)

def readPower : List Char → Option Int
  | [] => some 0
  | c :: rest =>
    if c == 'e' || c == 'E' then
      let (negative, digits) := splitSign rest
      if digits.isEmpty || !digits.all Char.isDigit then none
      else some (if negative then -(digitsValue digits : Int) else digitsValue digits)
    else none

def readDigits (negative : Bool) (cs : List Char) : Option Figure :=
  let whole := cs.takeWhile Char.isDigit
  let (fraction, rest) := match cs.dropWhile Char.isDigit with
    | '.' :: rest => (rest.takeWhile Char.isDigit, rest.dropWhile Char.isDigit)
    | rest => ([], rest)
  if whole.isEmpty && fraction.isEmpty then none
  else (readPower rest).map fun power =>
    .ofDecimal negative (digitsValue (whole ++ fraction)) (power - fraction.length)

def readWord (negative : Bool) (cs : List Char) : Option Figure :=
  let word := String.ofList (cs.map Char.toLower)
  if word == "inf" || word == "infinity" then some (.infinite negative)
  else if word == "nan" then some .notANumber
  else none

def Figure.read? (cs : List Char) : Option Figure :=
  let (negative, body) := splitSign cs
  match readDigits negative body with
  | some figure => some figure
  | none => readWord negative body

end GuestSandbox.Number
