import GuestSandbox.Report

namespace GuestSandbox

inductive ConsoleLevel where
  | log
  | warn
  | error
deriving Repr, DecidableEq, Inhabited

def ConsoleLevel.name : ConsoleLevel → String
  | .log => "log"
  | .warn => "warn"
  | .error => "error"

def ConsoleLevel.ofName? (name : String) : Option ConsoleLevel :=
  [ConsoleLevel.log, .warn, .error].find? (·.name == name)

structure ConsoleLine where
  level : ConsoleLevel
  message : String
deriving Repr, DecidableEq

def ConsoleLine.toJson (line : ConsoleLine) : Json :=
  .ofFields [("level", .str line.level.name), ("message", .str line.message)]

def ConsoleLine.ofJson? (json : Json) : Option ConsoleLine := do
  let field ← json.record? ["level", "message"]
  let level ← Json.need field "level" (Json.named? ConsoleLevel.ofName?)
  let message ← Json.need field "message" Json.text?
  some ⟨level, message⟩

structure Console where
  maxLines : Nat
  lines : List ConsoleLine := []
  dropped : Nat := 0
deriving Repr, DecidableEq

namespace Console

def lineLength : Nat := 2000

def isFull (console : Console) : Bool := console.maxLines ≤ console.lines.length

-- A line that finds no room is counted and nothing else.
def push (console : Console) (level : ConsoleLevel) (text : String) : Console :=
  if console.isFull then { console with dropped := console.dropped + 1 }
  else { console with lines := console.lines ++ [⟨level, Report.firstChars text lineLength⟩] }

@[simp] theorem push_maxLines (console : Console) (level : ConsoleLevel) (text : String) :
    (console.push level text).maxLines = console.maxLines := by
  unfold push
  split <;> rfl

theorem push_lines (console : Console) (level : ConsoleLevel) (text : String) :
    (console.push level text).lines =
      (console.lines ++ [ConsoleLine.mk level (String.ofList (text.toList.take 2000))]).take
        (max console.maxLines console.lines.length) := by
  unfold push isFull
  by_cases full : console.maxLines ≤ console.lines.length
  · rw [Nat.max_eq_right full]
    simp [full]
  · simp only [full, decide_false, Bool.false_eq_true, if_false, Report.firstChars, lineLength]
    refine (List.take_of_length_le ?_).symm
    simp only [List.length_append, List.length_cons, List.length_nil]
    omega

end Console

end GuestSandbox
