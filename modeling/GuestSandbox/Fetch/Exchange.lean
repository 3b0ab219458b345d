import GuestSandbox.Journal
import GuestSandbox.Operation

-- Exchanges with the network. Every request of a run goes through `exchange`.

namespace GuestSandbox

-- How one exchange goes if nobody ends it: the time it takes, none where it never ends, and what comes of it.
structure Attempt where
  takes : Option Nat
  outcome : Except String Response

-- The other side of the network. It may answer a request differently each time, so it knows the requests sent before.
abbrev Network := List Request → Request → Attempt

def Network.disabled : Network := fun _ _ => ⟨some 0, .error "Fetch not available"⟩

namespace Attempt

def takesLonger (attempt : Attempt) (ms : Nat) : Bool :=
  match attempt.takes with
  | none => true
  | some takes => ms < takes

def waited (attempt : Attempt) (timeoutMs : Nat) : Nat :=
  match attempt.takes with
  | none => timeoutMs
  | some takes => min takes timeoutMs

end Attempt

def exchange (net : Network) (request : Request) (timeoutMs : Nat) : Operation Journal (Except Failure Response) :=
  fun journal =>
    let attempt := net journal.sent request
    let journal := journal.record (.sent request)
    match journal.spend (attempt.waited timeoutMs) with
    | none => .error .cut journal
    | some journal =>
      if attempt.takesLonger timeoutMs then .ok (.error (.requestTimeout request.url timeoutMs)) journal
      else match attempt.outcome with
        | .ok response => .ok (.ok response) journal
        | .error text => .ok (.error (.network text)) journal

end GuestSandbox
