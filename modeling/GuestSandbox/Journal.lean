import GuestSandbox.Envelope
import GuestSandbox.Fetch.Message
import GuestSandbox.HostCall
import GuestSandbox.Package.Inventory
import GuestSandbox.Run.EngineCall

namespace GuestSandbox

inductive Event where
  | sent (request : Request)
  | persisted (inventory : Inventory)
  | asked (function : HostCall) (first second : String) (reply : Envelope)
  | engine (call : EngineCall) (succeeded : Bool)

namespace Event

def request? : Event → Option Request
  | .sent request => some request
  | _ => none

def inventory? : Event → Option Inventory
  | .persisted inventory => some inventory
  | _ => none

def engineCall? : Event → Option (EngineCall × Bool)
  | .engine call succeeded => some (call, succeeded)
  | _ => none

end Event

-- `left` bounds how long the exchanges of the operation under way may still take together, if anything does.
structure Journal where
  events : List Event := []
  left : Option Nat := none

namespace Journal

def record (journal : Journal) (event : Event) : Journal := { journal with events := journal.events ++ [event] }

def sent (journal : Journal) : List Request := journal.events.filterMap Event.request?
def persisted (journal : Journal) : List Inventory := journal.events.filterMap Event.inventory?
def engineCalls (journal : Journal) : List (EngineCall × Bool) := journal.events.filterMap Event.engineCall?

def spend (journal : Journal) (ms : Nat) : Option Journal :=
  match journal.left with
  | none => some journal
  | some left => if ms ≤ left then some { journal with left := some (left - ms) } else none

def within (journal : Journal) (left : Option Nat) : Journal := { journal with left }

@[simp] theorem sent_record (journal : Journal) (event : Event) :
    (journal.record event).sent = journal.sent ++ event.request?.toList := by
  cases event <;> simp [sent, record, Event.request?]

@[simp] theorem persisted_record (journal : Journal) (event : Event) :
    (journal.record event).persisted = journal.persisted ++ event.inventory?.toList := by
  cases event <;> simp [persisted, record, Event.inventory?]

@[simp] theorem engineCalls_record (journal : Journal) (event : Event) :
    (journal.record event).engineCalls = journal.engineCalls ++ event.engineCall?.toList := by
  cases event <;> simp [engineCalls, record, Event.engineCall?]

theorem spend_events {journal after : Journal} {ms : Nat} (spent : journal.spend ms = some after) :
    after.events = journal.events := by
  unfold spend at spent
  split at spent
  · cases spent; rfl
  · split at spent
    · cases spent; rfl
    · cases spent

end Journal

end GuestSandbox
