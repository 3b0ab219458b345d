import GuestSandbox.Proofs.Run.Endings
import GuestSandbox.Proofs.Run.Happenings
import GuestSandbox.Proofs.Run.Phases

-- What guest code may put off under a policy. A run carries out nothing else, so what permitted operations keep a run
-- keeps, but for what it does to obtain the imports of its code.

namespace GuestSandbox

open Operation Relation RunState

def Policy.permits (policy : Policy) : HostOperation → Bool
  | .pkgInstall _ => policy.pkgInstallEnabled
  | .fetch _ _ => policy.netFetchEnabled

namespace Gate

structure Permitted (policy : Policy) (gate : Gate) : Prop where
  samePolicy : gate.policy = policy
  waiting : ∀ deferred ∈ gate.queue, policy.permits deferred.operation = true

namespace Permitted

variable {policy : Policy} {gate : Gate}

theorem start (policy : Policy) (inventory : Inventory) : Permitted policy (.start policy inventory) := ⟨rfl, nofun⟩

theorem enqueue {operation : HostOperation} (permitted : Permitted policy gate)
    (may : policy.permits operation = true) : Permitted policy (gate.enqueue operation).2 := by
  refine ⟨permitted.samePolicy, fun deferred member => ?_⟩
  rcases List.mem_append.mp member with old | new
  · exact permitted.waiting deferred old
  · rw [List.mem_singleton.mp new]
    exact may

theorem serve (permitted : Permitted policy gate) (first second : String) (function : HostCall) :
    Permitted policy (gate.serve first second function).2 := by
  have same := permitted.samePolicy
  cases function with
  | log =>
    simp only [Gate.serve]
    split
    · exact permitted
    · exact ⟨same, permitted.waiting⟩
  | pkgInstall =>
    simp only [Gate.serve]
    split
    · rename_i enabled
      exact permitted.enqueue (same ▸ enabled)
    · exact permitted
  | pkgList => exact permitted
  | fetch =>
    simp only [Gate.serve]
    split
    · rename_i enabled
      split
      · exact permitted.enqueue (same ▸ enabled)
      · exact permitted
    · exact permitted

theorem call (permitted : Permitted policy gate) (function : HostCall) (first second : String) :
    Permitted policy (gate.call function first second).2 := by
  have counted : Permitted policy gate.count := ⟨permitted.samePolicy, permitted.waiting⟩
  simp only [Gate.call]
  split
  · exact counted
  · exact counted.serve first second function

theorem took (permitted : Permitted policy gate) : Permitted policy gate.takeWaiting.2 := ⟨permitted.samePolicy, nofun⟩

end Permitted

end Gate

namespace RunState

variable {policy : Policy} {run after : RunState}

theorem permitted_of_plays (permitted : run.gate.Permitted policy) (step : run.Plays after) :
    after.gate.Permitted policy := by
  cases step with
  | asked function first second => exact permitted.call function first second
  | slept ms => exact permitted

theorem permitted_of_played (plays : ReflTransGen Plays run after) (permitted : run.gate.Permitted policy) :
    after.gate.Permitted policy := by
  induction plays with
  | refl => exact permitted
  | tail _ step ih => exact permitted_of_plays ih step

theorem permitted_of_works {limits : Policy} (permitted : run.gate.Permitted policy) (step : run.Works limits after) :
    after.gate.Permitted policy := by
  cases step with
  | supplies step => cases step with
    | traffic sends => exact permitted
    | counted installs => exact permitted
    | stored library => exact permitted
  | installed absent room => exact ⟨permitted.samePolicy, permitted.waiting⟩

theorem permitted_after {α : Type} {limits : Policy} {operation : Operation RunState α}
    (works : Moves (Works limits) operation) (permitted : run.gate.Permitted policy) :
    (operation.after run).gate.Permitted policy :=
  works.keeps (fun run => run.gate.Permitted policy) (fun _ _ step kept => permitted_of_works kept step) permitted

end RunState

structure Sandbox.Keeps (sandbox : Sandbox) (holds : RunState → Prop) : Prop where
  plays : ∀ run after, Plays run after → holds run → holds after
  called : ∀ run call succeeded, holds run → holds (run.record (.engine call succeeded))
  took : ∀ run : RunState, holds run → holds { run with gate := run.gate.takeWaiting.2 }
  carries : ∀ operation, sandbox.policy.permits operation = true →
    ∀ run, holds run → holds ((sandbox.inTime (sandbox.carryOut operation)).after run)

theorem Sandbox.Keeps.played {sandbox : Sandbox} {holds : RunState → Prop} (keeps : sandbox.Keeps holds)
    {run after : RunState} (plays : ReflTransGen Plays run after) (begun : holds run) : holds after := by
  induction plays with
  | refl => exact begun
  | tail _ step ih => exact keeps.plays _ _ step ih

namespace Execution

variable {σ α : Type} (sandbox : Sandbox) (engine : Engine σ) (input : RunInput)

-- A property of the run, where nothing waits that is not permitted.
structure Holding (holds : RunState → Prop) (execution : Execution σ) : Prop where
  holds : holds execution.run
  permitted : execution.run.gate.Permitted sandbox.policy

abbrev Keeping (holds : RunState → Prop) (operation : Operation (Execution σ) α) : Prop :=
  Leads (Holding sandbox holds) operation (fun _ => Holding sandbox holds) (Holding sandbox holds)

def equipping : Operation (Execution σ) Unit := do
  installAll engine HostCall.all
  eval engine bootstrap
  let _ ← call engine .init input.input.text

def playing : Operation (Execution σ) Json := do
  let _ ← call engine .run input.code
  hosted sandbox.stillInTime
  untilIdle sandbox engine sandbox.policy.execMaxHostCalls
  let finished ← call engine .finish ""
  Operation.ofExcept (conclude sandbox.policy finished)

theorem course_parts : course sandbox engine input =
    equipping engine input >>= fun _ =>
      hosted (sandbox.obtainImports (Imports.specifiers input.code)) >>= fun _ => playing sandbox engine input := by
  simp [course, opening, equipping, playing, bind_assoc]

variable {sandbox} {holds : RunState → Prop}

theorem hosted_keeping {operation : Operation RunState α} (works : Moves (Works sandbox.policy) operation)
    (kept : ∀ run, holds run → holds (operation.after run)) :
    Keeping sandbox holds (hosted operation : Operation (Execution σ) α) := by
  refine .of_after (fun execution holding => ?_) fun _ same => same
  rw [hosted_after]
  exact ⟨kept execution.run holding.holds, permitted_after works holding.permitted⟩

theorem stillInTime_keeping : Keeping sandbox holds (hosted sandbox.stillInTime : Operation (Execution σ) Unit) := by
  refine hosted_keeping sandbox.stillInTime_works fun run begun => ?_
  exact (sandbox.stillInTime_moves fun _ _ => False).keeps holds (fun _ _ never => never.elim) begun

variable (keeps : sandbox.Keeps holds)
include keeps

theorem step_keeping (call : EngineCall) (guest : σ → Guest (Except EngineFault α × σ)) :
    Keeping sandbox holds (step call guest) := by
  refine .of_after (fun execution holding => ?_) fun _ same => same
  obtain ⟨played, succeeded, plays, recorded⟩ := step_after call guest execution
  have permitted : played.gate.Permitted sandbox.policy := permitted_of_played plays holding.permitted
  constructor
  · rw [recorded]
    exact keeps.called played call succeeded (keeps.played plays holding.holds)
  · rw [recorded]
    exact permitted

theorem installAll_keeping (functions : List HostCall) : Keeping sandbox holds (installAll engine functions) := by
  induction functions with
  | nil => exact .pure ()
  | cons function rest ih => exact .bind (step_keeping keeps _ _) fun _ => ih

theorem equipping_keeping : Keeping sandbox holds (equipping engine input) := by
  refine .bind (installAll_keeping engine keeps _) fun _ => .bind (step_keeping keeps _ _) fun _ => ?_
  exact .bind (step_keeping keeps _ _) fun _ => .pure _

theorem deliverAll_keeping {requests : List Deferred}
    (permitted : ∀ request ∈ requests, sandbox.policy.permits request.operation = true) :
    Keeping sandbox holds (deliverAll sandbox engine requests) := by
  induction requests with
  | nil => exact .pure ()
  | cons request rest ih =>
    obtain ⟨may, others⟩ := List.forall_mem_cons.mp permitted
    refine .bind (hosted_keeping (sandbox.inTime_works (sandbox.carryOut_works _)) (keeps.carries _ may)) fun outcome => ?_
    exact .bind (step_keeping keeps _ _) fun _ => ih others

-- What a round takes from the queue is what was put there, so all of it is permitted.
theorem round_keeping : Keeping sandbox holds (round sandbox engine) := by
  intro execution holding
  have took : Holding sandbox holds (takeWaiting.after execution) := ⟨keeps.took _ holding.holds, holding.permitted.took⟩
  have rest : Keeping sandbox holds (deliverAll sandbox engine execution.run.gate.queue >>= fun _ =>
      runJobs engine roundJobs >>= fun _ => hosted sandbox.stillInTime) := by
    refine .bind (deliverAll_keeping engine keeps holding.permitted.waiting) fun _ => ?_
    exact .bind (step_keeping keeps _ _) fun _ => stillInTime_keeping
  exact rest _ took

theorem untilIdle_keeping (rounds : Nat) : Keeping sandbox holds (untilIdle sandbox engine rounds) := by
  induction rounds with
  | zero =>
    refine .get_bind fun execution => ?_
    split
    · exact .pure _
    · exact .fail _
  | succ rounds ih =>
    refine .get_bind fun execution => ?_
    split
    · exact .pure _
    · exact .bind (round_keeping engine keeps) fun _ => ih

theorem playing_keeping : Keeping sandbox holds (playing sandbox engine input) := by
  refine .bind (step_keeping keeps _ _) fun _ => .bind stillInTime_keeping fun _ => ?_
  refine .bind (untilIdle_keeping engine keeps _) fun _ => .bind (step_keeping keeps _ _) fun finished => ?_
  exact .ofExcept _

variable (imports : ∀ specifier run, holds run → holds ((sandbox.obtainImport specifier).after run))
include imports

omit keeps in
theorem obtainImports_keeping (specifiers : List String) :
    Keeping sandbox holds (hosted (sandbox.obtainImports specifiers) : Operation (Execution σ) Unit) := by
  induction specifiers with
  | nil => exact .pure ()
  | cons specifier rest ih =>
    rw [Sandbox.obtainImports, hosted_bind]
    exact .bind (hosted_keeping (sandbox.obtainImport_works specifier) (imports specifier)) fun _ => ih

theorem course_keeping : Keeping sandbox holds (course sandbox engine input) := by
  rw [course_parts]
  refine .bind (equipping_keeping engine input keeps) fun _ => .bind (obtainImports_keeping imports _) fun _ => ?_
  exact playing_keeping engine input keeps

end Execution

-- What holds of a fresh run, and is kept as long as only permitted operations are carried out, holds of the last state
-- of the run.
theorem Sandbox.Keeps.run_holds {σ : Type} {sandbox : Sandbox} {holds : RunState → Prop} (keeps : sandbox.Keeps holds)
    (engine : Engine σ) (input : RunInput) (inventory : Inventory)
    (start : holds (.start sandbox.policy sandbox.host inventory))
    (imports : ∀ specifier run, holds run → holds ((sandbox.obtainImport specifier).after run)) :
    let finished := sandbox.run engine input inventory
    ∃ last, holds last ∧ finished.journal = last.journal ∧
      finished.result.stats = { last.tally with hostCalls := last.gate.hostCalls } := by
  intro finished
  obtain ⟨last, ⟨held, _⟩, left⟩ := sandbox.run_keeps engine input inventory
    (fun run => holds run ∧ run.gate.Permitted sandbox.policy) ⟨start, .start sandbox.policy inventory⟩
    (fun run call succeeded kept => ⟨keeps.called run call succeeded kept.1, kept.2⟩)
    (fun fresh begun =>
      have ended := (Execution.course_keeping engine input keeps imports).after_of ⟨begun.1, begun.2⟩
      ⟨ended.holds, ended.permitted⟩)
  exact ⟨last, held, left⟩

end GuestSandbox
