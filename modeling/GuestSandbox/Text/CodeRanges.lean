-- Sets of characters written as ranges of code points.
-- A table is a text of hexadecimal ranges, `41-5A` or `B5`, apart by spaces or line ends.

namespace GuestSandbox.Text

structure CodeRange where
  first : Nat
  last : Nat
deriving Repr, DecidableEq

abbrev CodeRanges := List CodeRange

def hexDigit? (c : Char) : Option Nat :=
  if '0' ≤ c && c ≤ '9' then some (c.toNat - 0x30)
  else if 'A' ≤ c && c ≤ 'F' then some (c.toNat - 0x37)
  else if 'a' ≤ c && c ≤ 'f' then some (c.toNat - 0x57)
  else none

def hexNumber (digits : List Char) : Nat :=
  digits.foldl (fun value c => 16 * value + (hexDigit? c).getD 0) 0

def partsBetween (isMark : Char → Bool) : List Char → List (List Char)
  | [] => [[]]
  | c :: rest =>
    if isMark c then [] :: partsBetween isMark rest
    else match partsBetween isMark rest with
      | [] => [[c]]
      | part :: parts => (c :: part) :: parts

def words (text : String) : List (List Char) :=
  (partsBetween (fun c => c == ' ' || c == '\n') text.toList).filter (fun part => !part.isEmpty)

def CodeRange.ofWord (word : List Char) : CodeRange :=
  match partsBetween (· == '-') word with
  | [first, last] => ⟨hexNumber first, hexNumber last⟩
  | _ => ⟨hexNumber word, hexNumber word⟩

def CodeRange.contains (range : CodeRange) (code : Nat) : Bool := range.first ≤ code && code ≤ range.last

def CodeRanges.ofText (text : String) : CodeRanges := (words text).map CodeRange.ofWord

def CodeRanges.contains (ranges : CodeRanges) (c : Char) : Bool := ranges.any (·.contains c.toNat)

end GuestSandbox.Text
