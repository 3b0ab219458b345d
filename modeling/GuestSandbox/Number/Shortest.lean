import GuestSandbox.Number.Binary64

-- The decimal text of a binary64 number: the fewest digits that read back as the number, of those the nearest to
-- it, laid out positionally unless it is very large or very small.

namespace GuestSandbox.Number

-- Magnitudes over one divisor: the number itself and the two ends of the interval that rounds to it.
-- The lower neighbour is only half a step away where the mantissa is the least of its exponent.
structure Interval where
  value : Nat
  low : Nat
  high : Nat
  den : Nat
  closed : Bool
deriving Repr

def Binary64.interval (x : Binary64) : Interval :=
  let low := if x.mantissa == leastFull && leastExponent < x.exponent then 4 * x.mantissa - 1 else 4 * x.mantissa - 2
  let (up, down) :=
    if x.exponent < 2 then (1, Nat.pow 2 (2 - x.exponent).natAbs) else (Nat.pow 2 (x.exponent - 2).natAbs, 1)
  ⟨4 * x.mantissa * up, low * up, (4 * x.mantissa + 2) * up, down, x.mantissa % 2 == 0⟩

def Interval.holds (i : Interval) (n : Nat) : Bool :=
  if i.closed then i.low ≤ n && n ≤ i.high else i.low < n && n < i.high

def Interval.onGrid (i : Interval) (power : Int) : Option Nat :=
  let step := if power < 0 then i.den else i.den * Nat.pow 10 power.natAbs
  let scale := if power < 0 then Nat.pow 10 power.natAbs else 1
  let wide : Interval := ⟨i.value * scale, i.low * scale, i.high * scale, step, i.closed⟩
  let below := wide.value / step
  match wide.holds (below * step), wide.holds ((below + 1) * step) with
  | true, true => some (roundDiv wide.value step)
  | true, false => some below
  | false, true => some (below + 1)
  | false, false => none

def Interval.search (i : Interval) : Nat → Int → Nat × Int
  | 0, power => (i.value / i.den, power)
  | fuel + 1, power => match i.onGrid power with
    | some digits => (digits, power)
    | none => i.search fuel (power - 1)

-- Digits and power of ten. Seventeen digits always suffice; the search starts a little above the first of them.
def Binary64.shortest (x : Binary64) : Nat × Int :=
  let top : Int := (x.exponent + x.mantissa.log2 + 1) * 30103 / 100000 + 2
  x.interval.search 25 top

structure DecimalLayout where
  longestWhole : Int
  longestZeros : Int

def plainLayout : DecimalLayout := ⟨16, 5⟩

def zeros (n : Int) : List Char := List.replicate n.toNat '0'

def DecimalLayout.render (layout : DecimalLayout) (digits : List Char) (power : Int) : List Char :=
  let point : Int := digits.length + power
  if 0 ≤ power && point ≤ layout.longestWhole then digits ++ zeros power ++ ['.', '0']
  else if 0 < point && point ≤ layout.longestWhole then digits.take point.toNat ++ '.' :: digits.drop point.toNat
  else if -layout.longestZeros < point && point ≤ 0 then '0' :: '.' :: zeros (-point) ++ digits
  else
    let exponent := 'e' :: (toString (point - 1)).toList
    match digits with
    | [only] => only :: exponent
    | first :: rest => first :: '.' :: rest ++ exponent
    | [] => exponent

def Binary64.text (x : Binary64) : String :=
  let body := if x.isZero then ['0', '.', '0'] else plainLayout.render (Nat.toDigits 10 x.shortest.1) x.shortest.2
  String.ofList (if x.negative then '-' :: body else body)

end GuestSandbox.Number
