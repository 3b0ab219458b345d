import GuestSandbox.Failure

namespace GuestSandbox

inductive Entry where
  | init
  | run
  | settle
  | finish
deriving Repr, DecidableEq, Inhabited

def Entry.name : Entry → String
  | .init => "__init"
  | .run => "__run"
  | .settle => "__settle"
  | .finish => "__finish"

def resultName : String := "__result"

inductive EngineFault where
  | guest (text : String)
  | engine (text : String)
deriving Repr, DecidableEq, Inhabited

def EngineFault.failure : EngineFault → Failure
  | .guest text => .guest text
  | .engine text => .engine text

-- One call of an engine by a run. Asking whether jobs are left is not one of them: it changes nothing.
inductive EngineCall where
  | create (memoryBytes stackBytes : Nat)
  | install (name : String)
  | eval (script : String)
  | call (entry : Entry) (argument : String)
  | runJobs (greatest : Nat)
  | dispose
deriving Repr, DecidableEq

end GuestSandbox
