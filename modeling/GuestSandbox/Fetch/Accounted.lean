import GuestSandbox.Fetch.Exchange
import GuestSandbox.Fetch.Prepared
import GuestSandbox.Tally

-- A guest's fetch with its accounts: requests are counted before they are sent, bytes and errors afterwards.

namespace GuestSandbox.Fetch

structure Accounts where
  journal : Journal
  tally : Tally

def Accounts.count (accounts : Accounts) (change : Tally → Tally) : Accounts :=
  { accounts with tally := change accounts.tally }

def oneRequestMore (tally : Tally) : Tally := { tally with fetchRequests := tally.fetchRequests + 1 }
def oneErrorMore (tally : Tally) : Tally := { tally with fetchErrors := Tally.wrapped (tally.fetchErrors + 1) }
def bytesMore (size : Nat) (tally : Tally) : Tally :=
  { tally with fetchBytes := Tally.wrapped (tally.fetchBytes + size) }

def accept (url : String) (options : FetchOptions) (policy : Policy) (tally : Tally) : Except Failure Request :=
  if !policy.netFetchEnabled then .error .netFetchDisabled
  else match plan url options policy with
    | .error failure => .error failure
    | .ok request =>
      if policy.netMaxRequestsPerRun ≤ tally.fetchRequests then .error (.requestLimit policy.netMaxRequestsPerRun)
      else .ok request

-- What the guest gets of an exchange, with the counters after it. Bytes count even where they break the budget.
def settle (policy : Policy) (tally : Tally) : Except Failure Response → Except Failure Reply × Tally
  | .error failure => (.error failure, oneErrorMore tally)
  | .ok response =>
    if policy.netMaxResponseBytes < response.size then
      (.error (.responseTooLarge response.size policy.netMaxResponseBytes), oneErrorMore tally)
    else
      let tally := bytesMore response.size tally
      if policy.netMaxTotalDownloadBytes < tally.fetchBytes then
        (.error (.downloadBudget policy.netMaxTotalDownloadBytes), tally)
      else (.ok (Reply.ofResponse response), tally)

def carryOut (net : Network) (url : String) (options : FetchOptions) (policy : Policy) : Operation Accounts Reply := do
  let request ← Operation.ofExcept (accept url options policy (← get).tally)
  modify (·.count oneRequestMore)
  let outcome ← (exchange net request policy.netRequestTimeoutMs).on Accounts.journal
    (fun journal accounts => { accounts with journal })
  let (result, tally) := settle policy (← get).tally outcome
  modify (·.count fun _ => tally)
  Operation.ofExcept result

end GuestSandbox.Fetch
