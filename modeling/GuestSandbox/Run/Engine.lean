import GuestSandbox.Run.Guest

namespace GuestSandbox

-- An engine by its instances' states. Guest code runs when a script is evaluated, a function is called or jobs are run;
-- a failing step also says what became of the instance.
structure Engine (σ : Type) where
  name : String
  create : (memoryBytes stackBytes : Nat) → Except EngineFault σ
  install : HostCall → σ → Except EngineFault Unit × σ
  eval : String → σ → Guest (Except EngineFault Unit × σ)
  call : Entry → String → σ → Guest (Except EngineFault String × σ)
  hasJobs : σ → Bool
  runJobs : Nat → σ → Guest (Except EngineFault Nat × σ)
  dispose : σ → σ

structure Execution (σ : Type) where
  run : RunState
  engine : σ

namespace Execution

variable {σ α : Type}

def withRun (run : RunState) (execution : Execution σ) : Execution σ := { execution with run }

def step (call : EngineCall) (guest : σ → Guest (Except EngineFault α × σ)) : Operation (Execution σ) α :=
  fun execution =>
  let ((result, engine), run) := (guest execution.engine).play execution.run
  match result with
  | .ok value => .ok value ⟨run.record (.engine call true), engine⟩
  | .error fault => .error (.failed fault.failure) ⟨run.record (.engine call false), engine⟩

def install (engine : Engine σ) (function : HostCall) : Operation (Execution σ) Unit :=
  step (.install function.name) fun state => .done (engine.install function state)

def eval (engine : Engine σ) (script : String) : Operation (Execution σ) Unit :=
  step (.eval script) (engine.eval script)

def call (engine : Engine σ) (entry : Entry) (argument : String) : Operation (Execution σ) String :=
  step (.call entry argument) (engine.call entry argument)

def runJobs (engine : Engine σ) (greatest : Nat) : Operation (Execution σ) Nat :=
  step (.runJobs greatest) (engine.runJobs greatest)

-- Disposing of an instance cannot fail.
def dispose (engine : Engine σ) (execution : Execution σ) : Execution σ :=
  ⟨execution.run.record (.engine .dispose true), engine.dispose execution.engine⟩

end Execution

end GuestSandbox
