import GuestSandbox.Gate
import GuestSandbox.Fetch.Accounted
import GuestSandbox.Module.Loading
import GuestSandbox.Package.Installing

namespace GuestSandbox

-- `elapsed` is the time that guest code has taken, in milliseconds.
structure RunState where
  journal : Journal := {}
  tally : Tally := {}
  inventory : Inventory
  library : Library
  gate : Gate
  elapsed : Nat := 0

namespace RunState

def start (policy : Policy) (host : PackageHost) (inventory : Inventory) : RunState :=
  { inventory, library := .empty host, gate := .start policy inventory }

def record (run : RunState) (event : Event) : RunState := { run with journal := run.journal.record event }

def ask (run : RunState) (function : HostCall) (first second : String) : Envelope × RunState :=
  let (reply, gate) := run.gate.call function first second
  (reply, { run with gate, journal := run.journal.record (.asked function first second reply) })

def accounts (run : RunState) : Fetch.Accounts := ⟨run.journal, run.tally⟩

def withAccounts (accounts : Fetch.Accounts) (run : RunState) : RunState :=
  { run with journal := accounts.journal, tally := accounts.tally }

def installing (run : RunState) : Installing := ⟨run.journal, run.inventory, run.tally⟩

def withInstalling (installing : Installing) (run : RunState) : RunState :=
  { run with journal := installing.journal, inventory := installing.inventory, tally := installing.tally }

def loading (run : RunState) : Loading := ⟨run.journal, run.library⟩

def withLoading (loading : Loading) (run : RunState) : RunState :=
  { run with journal := loading.journal, library := loading.library }

def showInventory (run : RunState) : RunState := { run with gate := run.gate.showInventory run.inventory }

def within (left : Option Nat) (run : RunState) : RunState := { run with journal := run.journal.within left }

end RunState

end GuestSandbox
