import GuestSandbox.Module.Imports
import GuestSandbox.Run.Bootstrap
import GuestSandbox.Run.Engine
import GuestSandbox.Run.Ending
import GuestSandbox.Run.Result
import GuestSandbox.Run.Sandbox

namespace GuestSandbox

namespace Execution

variable {σ α : Type}

def hosted (operation : Operation RunState α) : Operation (Execution σ) α := operation.on Execution.run withRun

def installAll (engine : Engine σ) : List HostCall → Operation (Execution σ) Unit
  | [] => pure ()
  | function :: rest => do
    install engine function
    installAll engine rest

def takeWaiting : Operation (Execution σ) (List Deferred) := fun execution =>
  let (requests, gate) := execution.run.gate.takeWaiting
  .ok requests (execution.withRun { execution.run with gate })

def deliverAll (sandbox : Sandbox) (engine : Engine σ) : List Deferred → Operation (Execution σ) Unit
  | [] => pure ()
  | request :: rest => do
    let outcome ← hosted (sandbox.inTime (sandbox.carryOut request.operation))
    let _ ← call engine .settle (Delivery.text ⟨request.id, outcome⟩)
    deliverAll sandbox engine rest

def roundJobs : Nat := 256

def isIdle (engine : Engine σ) (execution : Execution σ) : Bool :=
  !execution.run.gate.hasWaiting && !engine.hasJobs execution.engine

def round (sandbox : Sandbox) (engine : Engine σ) : Operation (Execution σ) Unit := do
  let requests ← takeWaiting
  deliverAll sandbox engine requests
  let _ ← runJobs engine roundJobs
  hosted sandbox.stillInTime

-- Rounds of deliveries and of guest jobs, until nothing is left to do or no round is left.
def untilIdle (sandbox : Sandbox) (engine : Engine σ) : Nat → Operation (Execution σ) Unit
  | 0 => do
    if isIdle engine (← get) then pure () else Operation.fail (.pendingJobs sandbox.policy.execMaxHostCalls)
  | rounds + 1 => do
    if isIdle engine (← get) then pure ()
    else
      round sandbox engine
      untilIdle sandbox engine rounds

def conclude (policy : Policy) (finished : String) : Except Failure Json :=
  match Ending.read finished with
  | .error message => .error (.engine ("malformed run outcome: " ++ message))
  | .ok (.fulfilled none) => .ok .null
  | .ok (.fulfilled (some text)) => match Json.parse text with
    | .error message => .error (.engine ("malformed result: " ++ message))
    | .ok value => .ok (Report.fit value text policy.execMaxOutputBytes)
  | .ok (.rejected error) => .error (.guest error)
  | .ok .pending => .error (.guest "result promise never settled")

def opening (sandbox : Sandbox) (engine : Engine σ) (input : RunInput) : Operation (Execution σ) Unit := do
  installAll engine HostCall.all
  eval engine bootstrap
  let _ ← call engine .init input.input.text
  hosted (sandbox.obtainImports (Imports.specifiers input.code))
  let _ ← call engine .run input.code
  hosted sandbox.stillInTime

def course (sandbox : Sandbox) (engine : Engine σ) (input : RunInput) : Operation (Execution σ) Json := do
  opening sandbox engine input
  untilIdle sandbox engine sandbox.policy.execMaxHostCalls
  let finished ← call engine .finish ""
  Operation.ofExcept (conclude sandbox.policy finished)

end Execution

structure Finished (σ : Type) where
  result : RunResult
  journal : Journal := {}
  engine : Option σ := none

namespace Sandbox

variable {σ : Type}

-- An engine that was interrupted says so in its own words; every report of a timeout is the same.
def uniform (sandbox : Sandbox) (failure : Failure) : Failure :=
  match failure with
  | .timeout ms => .timeout ms
  | other => if other.code = .timeout then sandbox.timeout else other

def stopFailure (sandbox : Sandbox) : Stop → Failure
  | .failed failure => failure
  | .cut => sandbox.timeout

def report (sandbox : Sandbox) (outcome : Except Failure Json) (run : RunState) : RunResult :=
  let stats := { run.tally with hostCalls := run.gate.hostCalls }
  let logs := run.gate.takeConsole.1
  match outcome with
  | .ok result => .success result logs stats
  | .error failure => .failure (sandbox.uniform failure) logs stats

-- An instance that was created is disposed of, however the run ends.
def dispose (sandbox : Sandbox) (engine : Engine σ) (outcome : Except Failure Json) (execution : Execution σ) :
    Finished σ :=
  let last := execution.dispose engine
  { result := sandbox.report outcome last.run, journal := last.run.journal, engine := some last.engine }

def begun (sandbox : Sandbox) (inventory : Inventory) (succeeded : Bool) : RunState :=
  (RunState.start sandbox.policy sandbox.host inventory).record
    (.engine (.create sandbox.policy.memoryBytes sandbox.policy.stackBytes) succeeded)

def runOn (sandbox : Sandbox) (engine : Engine σ) (input : RunInput) (inventory : Inventory) : Finished σ :=
  match engine.create sandbox.policy.memoryBytes sandbox.policy.stackBytes with
  | .error fault =>
    let run := sandbox.begun inventory false
    { result := sandbox.report (.error fault.failure) run, journal := run.journal }
  | .ok state =>
    match Execution.course sandbox engine input ⟨sandbox.begun inventory true, state⟩ with
    | .ok result execution => sandbox.dispose engine (.ok result) execution
    | .error stop execution => sandbox.dispose engine (.error (sandbox.stopFailure stop)) execution

def run (sandbox : Sandbox) (engine : Engine σ) (input : RunInput) (inventory : Inventory) : Finished σ :=
  if !sandbox.policy.codeExecEnabled then { result := .refusal .codeExecDisabled }
  else if Text.trim input.code == "" then { result := .refusal (.invalidInput "code must be non-empty text") }
  else sandbox.runOn engine input inventory

def runRequest (sandbox : Sandbox) (engine : Engine σ) (request : Json) (inventory : Inventory) : Finished σ :=
  if !sandbox.policy.codeExecEnabled then { result := .refusal .codeExecDisabled }
  else match RunInput.ofRequest request with
    | .error failure => { result := .refusal failure }
    | .ok input => sandbox.run engine input inventory

end Sandbox

end GuestSandbox
