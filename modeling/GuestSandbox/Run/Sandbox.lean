import GuestSandbox.Run.State

namespace GuestSandbox

-- `stamp` is the time written into new records; `clock` says how much time beside that of guest code has passed once
-- certain things have happened in a run.
structure Sandbox where
  policy : Policy
  host : PackageHost := .standard
  net : Network
  stamp : String
  clock : List Event → Nat := fun _ => 0

namespace Sandbox

variable {α : Type}

def fetch (sandbox : Sandbox) (url : String) (options : FetchOptions) : Operation RunState Json := do
  let reply ← (Fetch.carryOut sandbox.net url options sandbox.policy).on RunState.accounts RunState.withAccounts
  pure reply.toJson

def gather (sandbox : Sandbox) (entry : Url) (known : Option String) : Operation RunState Nat :=
  (Loading.gather sandbox.net sandbox.policy entry known).on RunState.loading RunState.withLoading

def link (sandbox : Sandbox) (installed : Obtained) : Operation RunState Json :=
  match Url.parse installed.record.entryUrl with
  | .error error => Operation.fail (.moduleMissing (installed.record.entryUrl ++ ": " ++ error.message))
  | .ok entry => do
    modify fun run => { run with library := run.library.withAlias installed.record.spec entry.text }
    let _ ← sandbox.gather entry installed.source
    pure installed.record.toJson

def install (sandbox : Sandbox) (spec : String) : Operation RunState Json := do
  let installed ← (Installing.obtain sandbox.net sandbox.policy sandbox.host sandbox.stamp spec).on
    RunState.installing RunState.withInstalling
  if installed.source.isSome then modify RunState.showInventory
  sandbox.link installed

def carryOut (sandbox : Sandbox) : HostOperation → Operation RunState Json
  | .pkgInstall spec => sandbox.install spec
  | .fetch url options => sandbox.fetch url options

def timeTaken (sandbox : Sandbox) (run : RunState) : Nat := run.elapsed + sandbox.clock run.journal.events

def timeout (sandbox : Sandbox) : Failure := .timeout sandbox.policy.execTimeoutMs

-- An operation with what is left of the run's time. Its own failure is a value here; running out of time ends the run.
def inTime (sandbox : Sandbox) (operation : Operation RunState α) : Operation RunState (Except Failure α) :=
  fun run =>
  match operation (run.within (some (sandbox.policy.execTimeoutMs - sandbox.timeTaken run))) with
  | .ok value after => .ok (.ok value) (after.within none)
  | .error (.failed failure) after => .ok (.error failure) (after.within none)
  | .error .cut after => .error (.failed sandbox.timeout) (after.within none)

-- The time of a run is told in whole milliseconds, rounded down. Where it has come to the limit, some part of a
-- millisecond more has passed, so the run is past its limit.
def stillInTime (sandbox : Sandbox) : Operation RunState Unit := fun run =>
  if sandbox.policy.execTimeoutMs ≤ sandbox.timeTaken run then .error (.failed sandbox.timeout) run else .ok () run

def obtain (sandbox : Sandbox) : Target → Operation RunState (Except Failure Unit)
  | .package spec =>
    if sandbox.policy.pkgInstallEnabled then sandbox.inTime (discard (sandbox.install spec))
    else pure (.error .pkgInstallDisabled)
  | .hosted url => sandbox.inTime (discard (sandbox.gather url none))

def obtainImport (sandbox : Sandbox) (specifier : String) : Operation RunState Unit :=
  match Specifier.target sandbox.host none specifier with
  | .error _ => pure ()
  | .ok target => do
    match ← sandbox.obtain target with
    | .ok () => pure ()
    | .error failure =>
      modify fun run => { run with library := run.library.withFailure target.moduleName failure.message }

-- Installs or downloads what code imports, before the code starts. A failure is kept under the module's name until the
-- code imports it; only running out of time ends the run here.
def obtainImports (sandbox : Sandbox) : List String → Operation RunState Unit
  | [] => pure ()
  | specifier :: rest => do
    sandbox.obtainImport specifier
    sandbox.obtainImports rest

end Sandbox

end GuestSandbox
