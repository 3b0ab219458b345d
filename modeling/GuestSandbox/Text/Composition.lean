import GuestSandbox.Text.CompositionTable

-- Canonical composition: marks in the order of their classes, and every pair that has a composite joined.

namespace GuestSandbox.Text

def combiningClass (code : Nat) : Nat :=
  match combiningRows.find? (·.range.contains code) with
  | some row => row.value
  | none => 0

def syllableBase : Nat := 0xAC00
def leadBase : Nat := 0x1100
def vowelBase : Nat := 0x1161
def tailBase : Nat := 0x11A7
def leadCount : Nat := 19
def vowelCount : Nat := 21
def tailCount : Nat := 28

def isSyllable (code : Nat) : Bool := syllableBase ≤ code && code < syllableBase + leadCount * vowelCount * tailCount

def splitSyllable (code : Nat) : List Nat :=
  let index := code - syllableBase
  let tail := index % tailCount
  [leadBase + index / (vowelCount * tailCount), vowelBase + index % (vowelCount * tailCount) / tailCount]
    ++ (if tail == 0 then [] else [tailBase + tail])

def decomposed : Nat → Nat → List Nat
  | 0, code => [code]
  | fuel + 1, code =>
    if isSyllable code then splitSyllable code
    else match composites.find? (·.whole == code) with
      | some whole => decomposed fuel whole.first ++ decomposed fuel whole.second
      | none => [code]

def compose? (first second : Nat) : Option Nat :=
  if leadBase ≤ first && first < leadBase + leadCount && vowelBase ≤ second && second < vowelBase + vowelCount then
    some (syllableBase + ((first - leadBase) * vowelCount + (second - vowelBase)) * tailCount)
  else if isSyllable first && (first - syllableBase) % tailCount == 0 && tailBase < second
      && second < tailBase + tailCount then
    some (first + (second - tailBase))
  else (composites.find? (fun whole => whole.first == first && whole.second == second)).map (·.whole)

-- A mark goes before marks of a greater class, never past a character that starts anew.
def insertMark (code : Nat) : List (Nat × Nat) → List (Nat × Nat)
  | [] => [(code, combiningClass code)]
  | (other, rank) :: rest =>
    if combiningClass code < rank then (code, combiningClass code) :: (other, rank) :: rest
    else (other, rank) :: insertMark code rest

-- Marks collected since the last starter, each with its class, and what came before, latest first.
structure MarkRun where
  done : List (Nat × Nat)
  marks : List (Nat × Nat)

def MarkRun.flush (o : MarkRun) : List (Nat × Nat) := o.marks.reverse ++ o.done

def MarkRun.add (o : MarkRun) (code : Nat) : MarkRun :=
  if combiningClass code == 0 then ⟨(code, 0) :: o.flush, []⟩ else ⟨o.done, insertMark code o.marks⟩

def ordered (codes : List Nat) : List (Nat × Nat) := (codes.foldl MarkRun.add ⟨[], []⟩).flush.reverse

-- The last starter with the characters kept after it. A character joins the starter unless one kept between them
-- has the same or a greater class.
structure Composing where
  done : List Nat
  starter : Option Nat
  kept : List Nat
  lastClass : Nat

def Composing.close (c : Composing) : List Nat :=
  match c.starter with
  | some starter => c.kept ++ starter :: c.done
  | none => c.kept ++ c.done

def Composing.add (c : Composing) (item : Nat × Nat) : Composing :=
  let (code, rank) := item
  let joined := match c.starter with
    | some starter => if c.kept.isEmpty || c.lastClass < rank then compose? starter code else none
    | none => none
  match joined with
  | some whole => { c with starter := some whole }
  | none =>
    if rank == 0 then ⟨c.close, some code, [], 0⟩
    else { c with kept := code :: c.kept, lastClass := rank }

def composed (codes : List Nat) : List Nat :=
  ((ordered (codes.flatMap (decomposed 4))).foldl Composing.add ⟨[], none, [], 0⟩).close.reverse

end GuestSandbox.Text
