import GuestSandbox.Text.Blank
import GuestSandbox.Text.Start
import GuestSandbox.Text.Word

-- The imports that can be read off a module's text. Nothing is parsed: an import is found by its shape, wherever it
-- stands, and only where its specifier is written out between quotes.

namespace GuestSandbox.Imports

def isQuote (c : Char) : Bool := c == '"' || c == '\''

def dropBlanks (cs : List Char) : List Char := cs.dropWhile Text.isBlank

def quotedStart? : List Char → Option (List Char × List Char)
  | [] => none
  | first :: rest =>
    if !isQuote first then none
    else match rest.takeWhile (!isQuote ·), rest.dropWhile (!isQuote ·) with
      | c :: text, _ :: after => some (c :: text, after)
      | _, _ => none

def isClauseChar (c : Char) : Bool := Text.isWord c || Text.isBlank c || ['$', '*', '\x7b', '\x7d', ','].contains c

-- The clause has to end in `from`, blanks aside, and has to have something in front of it, be it a blank.
def endsInFrom (clause : List Char) : Bool :=
  match Text.afterStart? ['m', 'o', 'r', 'f'] (dropBlanks clause.reverse) with
  | some (_ :: _) => true
  | _ => false

def withClause? (cs : List Char) : Option (List Char × List Char) :=
  if endsInFrom (cs.takeWhile isClauseChar) then quotedStart? (cs.dropWhile isClauseChar) else none

def bare? (cs : List Char) : Option (List Char × List Char) := quotedStart? (dropBlanks cs)

def called? (cs : List Char) : Option (List Char × List Char) :=
  match dropBlanks cs with
  | '(' :: rest => match quotedStart? (dropBlanks rest) with
    | some (text, after) => match dropBlanks after with
      | ')' :: after => some (text, after)
      | _ => none
    | none => none
  | _ => none

def importStart? (cs : List Char) : Option (List Char × List Char) :=
  match Text.afterStart? "import".toList cs with
  | some rest => (withClause? rest).or ((bare? rest).or (called? rest))
  | none => (Text.afterStart? "export".toList cs).bind withClause?

theorem dropWhile_length (p : Char → Bool) (cs : List Char) : (cs.dropWhile p).length ≤ cs.length :=
  (List.dropWhile_sublist p).length_le

theorem quotedStart?_shorter {cs text after : List Char} (found : quotedStart? cs = some (text, after)) :
    after.length < cs.length := by
  cases cs with
  | nil => cases found
  | cons first rest =>
    have bound := dropWhile_length (!isQuote ·) rest
    by_cases quote : isQuote first = true
    · simp only [quotedStart?, quote, Bool.not_true, Bool.false_eq_true, if_false] at found
      split at found
      · rename_i ends
        simp only [Option.some.injEq, Prod.mk.injEq] at found
        rw [ends, List.length_cons, found.2] at bound
        simp only [List.length_cons]
        omega
      · cases found
    · simp [quotedStart?, quote] at found

theorem withClause?_shorter {cs text after : List Char} (found : withClause? cs = some (text, after)) :
    after.length < cs.length := by
  unfold withClause? at found
  split at found
  · exact Nat.lt_of_lt_of_le (quotedStart?_shorter found) (dropWhile_length _ _)
  · cases found

theorem bare?_shorter {cs text after : List Char} (found : bare? cs = some (text, after)) :
    after.length < cs.length :=
  Nat.lt_of_lt_of_le (quotedStart?_shorter found) (dropWhile_length _ _)

theorem called?_shorter {cs text after : List Char} (found : called? cs = some (text, after)) :
    after.length < cs.length := by
  unfold called? at found
  split at found
  · rename_i rest opened
    have bound := dropWhile_length Text.isBlank cs
    rw [show cs.dropWhile Text.isBlank = '(' :: rest from opened] at bound
    split at found
    · rename_i inner behind quoted
      split at found
      · rename_i last closed
        cases found
        have one := quotedStart?_shorter quoted
        have two := dropWhile_length Text.isBlank rest
        have three := dropWhile_length Text.isBlank behind
        rw [show behind.dropWhile Text.isBlank = ')' :: after from closed] at three
        simp only [dropBlanks, List.length_cons] at *
        omega
      · cases found
    · cases found
  · cases found

theorem importStart?_shorter {cs text after : List Char} (found : importStart? cs = some (text, after)) :
    after.length < cs.length := by
  have behind {start rest : List Char} (split : Text.afterStart? start cs = some rest) : rest.length ≤ cs.length := by
    rw [Text.afterStart?_iff.mp split]; simp
  unfold importStart? at found
  split at found
  · rename_i rest split
    refine Nat.lt_of_lt_of_le ?_ (behind split)
    rcases Option.or_eq_some_iff.mp found with clause | ⟨_, other⟩
    · exact withClause?_shorter clause
    · rcases Option.or_eq_some_iff.mp other with alone | ⟨_, call⟩
      · exact bare?_shorter alone
      · exact called?_shorter call
  · obtain ⟨rest, split, clause⟩ := Option.bind_eq_some_iff.mp found
    exact Nat.lt_of_lt_of_le (withClause?_shorter clause) (behind split)

-- The character in front of an import must not make its keyword part of a longer name or of a property.
def isBoundary (c : Char) : Bool := !(Text.isWord c || c == '$' || c == '.')

def specifiersFrom (fresh : Bool) : List Char → List (List Char)
  | [] => []
  | c :: rest =>
    match _shape : if fresh then importStart? (c :: rest) else none with
    | some (text, after) => text :: specifiersFrom false after
    | none => specifiersFrom (isBoundary c) rest
  termination_by cs => cs.length
  decreasing_by
    · split at _shape
      · exact importStart?_shorter _shape
      · cases _shape
    · simp

def specifiers (source : String) : List String := ((specifiersFrom true source.toList).map String.ofList).eraseDups

def handedOn? (cs : List Char) : Option (List Char) :=
  match dropBlanks cs with
  | '*' :: rest => some rest
  | '\x7b' :: rest => match rest.dropWhile (· != '\x7d') with
    | _ :: rest => some rest
    | [] => none
  | _ => none

def reexportStart? (cs : List Char) : Option (List Char) := do
  let rest ← Text.afterStart? "export".toList cs
  let rest ← handedOn? rest
  let rest ← Text.afterStart? "from".toList (dropBlanks rest)
  let found ← quotedStart? (dropBlanks rest)
  some found.1

def firstReexport? : List Char → Option (List Char)
  | [] => none
  | c :: rest => (reexportStart? (c :: rest)).or (firstReexport? rest)

def reexport? (source : String) : Option String := (firstReexport? source.toList).map String.ofList

end GuestSandbox.Imports
