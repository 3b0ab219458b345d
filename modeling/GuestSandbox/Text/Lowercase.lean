import GuestSandbox.Text.LowercaseTable

-- Lower case of a text. A capital sigma at the end of a word has a lower-case form of its own, so the text before
-- and after a character takes part in its mapping.

namespace GuestSandbox.Text

def lowerChar (c : Char) : List Char :=
  if c.toNat < 128 then [c.toLower]
  else if c == 'İ' then ['i', '\u0307']
  else match lowercaseRows.findSome? (·.replace? c.toNat) with
    | some code => [Char.ofNat code]
    | none => [c]

def meetsCased (cs : List Char) : Bool :=
  match cs.dropWhile caseIgnorableRanges.contains with
  | c :: _ => casedRanges.contains c
  | [] => false

def lowerFrom (before : List Char) : List Char → List Char
  | [] => []
  | c :: rest =>
    (if c == 'Σ' then (if meetsCased before && !meetsCased rest then ['ς'] else ['σ']) else lowerChar c)
      ++ lowerFrom (c :: before) rest

def lowerChars (cs : List Char) : List Char := lowerFrom [] cs

def lower (text : String) : String := String.ofList (lowerChars text.toList)

theorem lowerFrom_ascii (before cs : List Char) (ascii : ∀ c ∈ cs, c.toNat < 128) :
    lowerFrom before cs = cs.map Char.toLower := by
  induction cs generalizing before with
  | nil => rfl
  | cons c rest ih =>
    have small := ascii c (by simp)
    have notSigma : (c == 'Σ') = false := by
      rw [beq_eq_false_iff_ne]
      rintro rfl
      exact absurd small (by decide)
    simp [lowerFrom, notSigma, lowerChar, small, ih (c :: before) (fun d member => ascii d (by simp [member]))]

theorem lowerChars_ascii (cs : List Char) (ascii : ∀ c ∈ cs, c.toNat < 128) :
    lowerChars cs = cs.map Char.toLower := lowerFrom_ascii [] cs ascii

end GuestSandbox.Text
