import GuestSandbox.Fetch.Exchange

namespace GuestSandbox

-- `answers` is looked up by the whole URL; a later entry for the same URL hides an earlier one.
structure RouteTable where
  answers : List (String × Nat × String) := []
  delayMs : Nat := 0
deriving Repr, DecidableEq, Inhabited

namespace RouteTable

def add (table : RouteTable) (url : String) (status : Nat) (body : String) : RouteTable :=
  { table with answers := (url, status, body) :: table.answers }

def delayed (table : RouteTable) (ms : Nat) : RouteTable := { table with delayMs := ms }

def missing : Nat × String := (404, "not found")

def plainText : Headers := [("content-type", "text/plain")]

def answer (table : RouteTable) (request : Request) : Response :=
  let (status, body) := (table.answers.lookup request.url).getD missing
  { status, headers := plainText, body := Text.utf8 body, finalUrl := request.url }

def network (table : RouteTable) : Network := fun _ request => ⟨some table.delayMs, .ok (table.answer request)⟩

end RouteTable

end GuestSandbox
