import GuestSandbox.Run.Engine
import GuestSandbox.Text.Start

-- An engine whose behaviour is picked by the code it runs. Code that begins with `throw:` fails with the rest of it,
-- `pending` always has jobs left, and anything else is the JSON text of the result.

namespace GuestSandbox

structure Scripted where
  code : String := ""
  functions : List String := []
deriving Repr, DecidableEq, Inhabited

namespace Scripted

def engineName : String := "scripted"

def create (memoryBytes : Nat) : Except EngineFault Scripted :=
  if memoryBytes = 0 then .error (.engine "memory limit too small") else .ok {}

def install (name : String) (state : Scripted) : Scripted := { state with functions := state.functions ++ [name] }

def run (code : String) (state : Scripted) : Except EngineFault String × Scripted :=
  match Text.afterStart? "throw:".toList code.toList with
  | some message => (.error (.guest (String.ofList message)), state)
  | none => (.ok "", { state with code })

def outcome (state : Scripted) : Json := .ofFields [("state", .str "fulfilled"), ("json", .str state.code)]

def call (name argument : String) (state : Scripted) : Except EngineFault String × Scripted :=
  if name == Entry.run.name then state.run argument
  else if name == Entry.finish.name then (.ok state.outcome.text, state)
  else (.ok "", state)

def hasJobs (state : Scripted) : Bool := state.code == "pending"

def runJobs (greatest : Nat) (state : Scripted) : Nat := if state.hasJobs then greatest else 0

def engine : Engine Scripted where
  name := engineName
  create memoryBytes _ := create memoryBytes
  install function state := (.ok (), state.install function.name)
  eval _ state := .done (.ok (), state)
  call entry argument state := .done (state.call entry.name argument)
  hasJobs := hasJobs
  runJobs greatest state := .done (.ok (state.runJobs greatest), state)
  dispose := id

end Scripted

structure EngineCounts where
  created : Nat := 0
  disposed : Nat := 0
  jobsRunLast : Nat := 0
deriving Repr, DecidableEq, Inhabited

def EngineCounts.add (counts : EngineCounts) : EngineCall × Bool → EngineCounts
  | (.create _ _, true) => { counts with created := counts.created + 1, jobsRunLast := 0 }
  | (.runJobs _, _) => { counts with jobsRunLast := counts.jobsRunLast + 1 }
  | (.dispose, _) => { counts with disposed := counts.disposed + 1 }
  | _ => counts

def EngineCounts.after (counts : EngineCounts) (calls : List (EngineCall × Bool)) : EngineCounts :=
  calls.foldl add counts

end GuestSandbox
