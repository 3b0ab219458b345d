import GuestSandbox.Digest
import GuestSandbox.Fetch.Exchange
import GuestSandbox.Module.Imports
import GuestSandbox.Module.Specifier
import GuestSandbox.Package.Spec
import GuestSandbox.Tally

namespace GuestSandbox

structure Installing where
  journal : Journal
  inventory : Inventory
  tally : Tally

-- A package of the inventory, with the text of its entry module where that has just been downloaded.
structure Obtained where
  record : PackageRecord
  source : Option String
deriving Repr, DecidableEq

namespace Installing

def download (net : Network) (policy : Policy) (url : String) : Operation Journal Response := do
  let request := Request.download url policy.pkgMaxModuleBytes policy.maxRedirects
  Operation.ofExcept (← exchange net request policy.pkgInstallTimeoutMs)

def follow (host : PackageHost) (index : Url) (target : String) : Except UrlError Url :=
  if Specifier.isRooted target.toList then host.rooted target else index.join target

def entryUrl (host : PackageHost) (spec : String) (resolved : Url) (index : String) : Except Failure Url :=
  let found : Except Failure Url := match Imports.reexport? index with
    | none => .ok resolved
    | some target => match follow host resolved target with
      | .ok url => .ok url
      | .error error =>
        .error (.unresolved spec ("bad entry " ++ Text.quoted target ++ ": " ++ error.message))
  match found with
  | .error failure => .error failure
  | .ok entry =>
    if host.serves entry then .ok entry
    else .error (.unresolved spec ("entry " ++ entry.text ++ " is not on the package CDN"))

def accepted (spec what : String) (response : Response) : Except Failure Response :=
  if response.isSuccess then .ok response
  else .error (.unresolved spec (what ++ " returned HTTP " ++ toString response.status))

def recordOf (policy : Policy) (spec stamp : String) (resolved entry : Url) (response : Response) :
    Except Failure (PackageRecord × String) :=
  if policy.pkgMaxModuleBytes < response.size then
    .error (.moduleTooLarge entry.text response.size policy.pkgMaxModuleBytes)
  else
    .ok ({ spec, resolvedUrl := resolved.text, entryUrl := entry.text,
           sha256 := Digest.hexText (Digest.sha256 response.body), sizeBytes := response.size.toUInt64, installedAt := stamp },
         response.text)

def find (net : Network) (policy : Policy) (host : PackageHost) (stamp spec : String) :
    Operation Journal (PackageRecord × String) := do
  let place ← Operation.ofExcept ((host.indexOf spec).mapError fun error => .unresolved spec error.message)
  let index ← download net policy place.text
  let index ← Operation.ofExcept (accepted spec "index" index)
  let resolved := (Url.parse index.finalUrl).toOption.getD place
  let entry ← Operation.ofExcept (entryUrl host spec resolved index.text)
  if entry.text == resolved.text then Operation.ofExcept (recordOf policy spec stamp resolved entry index)
  else do
    let response ← download net policy entry.text
    let response ← Operation.ofExcept (accepted spec "entry" response)
    Operation.ofExcept (recordOf policy spec stamp resolved entry response)

-- Inventory, counter and the caller's copy of the inventory change together.
def add (installing : Installing) (record : PackageRecord) : Installing :=
  let inventory := installing.inventory.insert record
  { journal := installing.journal.record (.persisted inventory)
    inventory
    tally := { installing.tally with packageInstalls := installing.tally.packageInstalls + 1 } }

def obtain (net : Network) (policy : Policy) (host : PackageHost) (stamp text : String) :
    Operation Installing Obtained := do
  let spec ← Operation.ofExcept (PackageSpec.read text policy)
  let installing ← get
  match installing.inventory.get? spec with
  | some record => pure ⟨record, none⟩
  | none =>
    if policy.pkgMaxInstallsPerRun ≤ installing.tally.packageInstalls then
      Operation.fail (.installLimit policy.pkgMaxInstallsPerRun)
    else do
      let (record, source) ← (find net policy host stamp spec).on Installing.journal
        fun journal installing => { installing with journal }
      modify (·.add record)
      pure ⟨record, some source⟩

end Installing

end GuestSandbox
