import GuestSandbox.Console
import GuestSandbox.Envelope
import GuestSandbox.Fetch.Options
import GuestSandbox.HostCall
import GuestSandbox.Package.Inventory
import GuestSandbox.Policy
import GuestSandbox.Text.Quoted

-- The host's side of the host functions. Every call is counted before anything else about it is looked at. What takes
-- time is not done here: it is queued under a number, and its outcome is delivered later by the run.

namespace GuestSandbox

inductive HostOperation where
  | pkgInstall (spec : String)
  | fetch (url : String) (options : FetchOptions)
deriving Repr, DecidableEq

def HostOperation.function : HostOperation → HostCall
  | .pkgInstall _ => .pkgInstall
  | .fetch _ _ => .fetch

structure Deferred where
  id : UInt32
  operation : HostOperation
deriving Repr, DecidableEq

-- `inventory` is what guest code gets to see of the installed packages.
structure Gate where
  policy : Policy
  inventory : Inventory
  console : Console
  hostCalls : Nat := 0
  nextId : UInt32 := 1
  queue : List Deferred := []

namespace Gate

def start (policy : Policy) (inventory : Inventory) : Gate :=
  { policy, inventory, console := { maxLines := policy.execMaxLogLines } }

def count (gate : Gate) : Gate := { gate with hostCalls := gate.hostCalls + 1 }

def isExhausted (gate : Gate) : Bool := gate.policy.execMaxHostCalls < gate.hostCalls

-- Numbers are words and go round.
def enqueue (gate : Gate) (operation : HostOperation) : Envelope × Gate :=
  (.pending gate.nextId,
    { gate with nextId := gate.nextId + 1, queue := gate.queue ++ [⟨gate.nextId, operation⟩] })

def readOptions (text : String) : Except String FetchOptions :=
  if Text.trim text == "" then .ok {} else FetchOptions.read text

def serve (gate : Gate) (first second : String) : HostCall → Envelope × Gate
  | .log => match ConsoleLevel.ofName? first with
    | none => (.refused ("unsupported log level " ++ Text.quoted first), gate)
    | some level => (.value .null, { gate with console := gate.console.push level second })
  | .pkgInstall =>
    if gate.policy.pkgInstallEnabled then gate.enqueue (.pkgInstall first)
    else (.refused Failure.pkgInstallDisabled.message, gate)
  | .pkgList => (.value (.arr (gate.inventory.records.map PackageRecord.toJson)), gate)
  | .fetch =>
    if gate.policy.netFetchEnabled then match readOptions second with
      | .ok options => gate.enqueue (.fetch first options)
      | .error message => (.refused ("invalid fetch init: " ++ message), gate)
    else (.refused Failure.netFetchDisabled.message, gate)

def call (gate : Gate) (function : HostCall) (first second : String) : Envelope × Gate :=
  let gate := gate.count
  if gate.isExhausted then (.refused (Failure.hostCallLimit gate.policy.execMaxHostCalls).message, gate)
  else gate.serve first second function

def callNamed (gate : Gate) (name first second : String) : Envelope × Gate :=
  match HostCall.ofName? name with
  | some function => gate.call function first second
  | none => (.refused ("unknown host function " ++ name), gate)

def takeWaiting (gate : Gate) : List Deferred × Gate := (gate.queue, { gate with queue := [] })

def hasWaiting (gate : Gate) : Bool := !gate.queue.isEmpty

def showInventory (gate : Gate) (inventory : Inventory) : Gate := { gate with inventory }

def takeConsole (gate : Gate) : List ConsoleLine × Gate :=
  (gate.console.lines, { gate with console := { maxLines := gate.policy.execMaxLogLines } })

@[simp] theorem serve_hostCalls (gate : Gate) (first second : String) (function : HostCall) :
    (gate.serve first second function).2.hostCalls = gate.hostCalls := by
  unfold serve
  repeat' split
  all_goals rfl

@[simp] theorem call_hostCalls (gate : Gate) (function : HostCall) (first second : String) :
    (gate.call function first second).2.hostCalls = gate.hostCalls + 1 := by
  simp only [call]
  split
  · rfl
  · exact serve_hostCalls _ _ _ _

end Gate

end GuestSandbox
