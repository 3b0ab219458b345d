import GuestSandbox.Json.Record

namespace GuestSandbox

structure Tally where
  hostCalls : Nat := 0
  fetchRequests : Nat := 0
  fetchBytes : Nat := 0
  fetchErrors : Nat := 0
  packageInstalls : Nat := 0
deriving Repr, DecidableEq, Inhabited

namespace Tally

-- Counters are words and go round past the greatest one.
def wrapped (n : Nat) : Nat := n % 0x10000000000000000

def fieldNames : List String := ["hostCalls", "fetchRequests", "fetchBytes", "fetchErrors", "packageInstalls"]

def toFields (tally : Tally) : List (String × Json) :=
  fieldNames.zip ([tally.hostCalls, tally.fetchRequests, tally.fetchBytes, tally.fetchErrors,
    tally.packageInstalls].map Json.ofNat)

def toJson (tally : Tally) : Json := .ofFields tally.toFields

def ofJson? (json : Json) : Option Tally := do
  let field ← json.record? fieldNames
  let hostCalls ← Json.need field "hostCalls" (Json.word? 64)
  let fetchRequests ← Json.need field "fetchRequests" (Json.word? 64)
  let fetchBytes ← Json.need field "fetchBytes" (Json.word? 64)
  let fetchErrors ← Json.need field "fetchErrors" (Json.word? 64)
  let packageInstalls ← Json.need field "packageInstalls" (Json.word? 64)
  some ⟨hostCalls, fetchRequests, fetchBytes, fetchErrors, packageInstalls⟩

end Tally

end GuestSandbox
