import GuestSandbox.Proofs.Steps
import GuestSandbox.Run.Execution

namespace GuestSandbox.Sandbox

open Operation

variable {σ : Type} (sandbox : Sandbox) (engine : Engine σ) (input : RunInput) (inventory : Inventory)

def Begins (sandbox : Sandbox) (input : RunInput) : Prop :=
  sandbox.policy.codeExecEnabled = true ∧ Text.trim input.code ≠ ""

-- A run does not begin, or there is no instance of its engine, or its course comes to a result or is stopped.
inductive Leaves : Finished σ → Prop where
  | refused {failure : Failure} (unbegun : ¬sandbox.Begins input) (early : failure.code ≠ .timeout) :
      Leaves { result := .refusal failure }
  | engineless {fault : EngineFault} (begins : sandbox.Begins input)
      (missing : engine.create sandbox.policy.memoryBytes sandbox.policy.stackBytes = .error fault) :
      Leaves { result := sandbox.report (.error fault.failure) (sandbox.begun inventory false),
               journal := (sandbox.begun inventory false).journal }
  | concluded {fresh : σ} {result : Json} {last : Execution σ} (begins : sandbox.Begins input)
      (created : engine.create sandbox.policy.memoryBytes sandbox.policy.stackBytes = .ok fresh)
      (ran : Execution.course sandbox engine input ⟨sandbox.begun inventory true, fresh⟩ = .ok result last) :
      Leaves (sandbox.dispose engine (.ok result) last)
  | stopped {fresh : σ} {stop : Stop} {last : Execution σ} (begins : sandbox.Begins input)
      (created : engine.create sandbox.policy.memoryBytes sandbox.policy.stackBytes = .ok fresh)
      (ran : Execution.course sandbox engine input ⟨sandbox.begun inventory true, fresh⟩ = .error stop last) :
      Leaves (sandbox.dispose engine (.error (sandbox.stopFailure stop)) last)

theorem run_leaves : sandbox.Leaves engine input inventory (sandbox.run engine input inventory) := by
  unfold run
  split
  · rename_i disabled
    exact .refused (fun begins => by simp [begins.1] at disabled) nofun
  · rename_i enabled
    split
    · rename_i blank
      exact .refused (fun begins => begins.2 (beq_iff_eq.mp blank)) nofun
    · rename_i filled
      have begins : sandbox.Begins input := ⟨by simpa using enabled, by simpa using filled⟩
      unfold runOn
      split
      · exact .engineless begins (by assumption)
      · split
        · exact .concluded begins (by assumption) (by assumption)
        · exact .stopped begins (by assumption) (by assumption)

-- What holds of a fresh run and is kept by the calls of its engine and by its course holds of the last state of the run,
-- which is what it reports and leaves behind.
theorem run_keeps (holds : RunState → Prop) (start : holds (.start sandbox.policy sandbox.host inventory))
    (called : ∀ run call succeeded, holds run → holds (run.record (.engine call succeeded)))
    (course : ∀ fresh : Execution σ, holds fresh.run → holds ((Execution.course sandbox engine input).after fresh).run) :
    let finished := sandbox.run engine input inventory
    ∃ last, holds last ∧ finished.journal = last.journal ∧
      finished.result.stats = { last.tally with hostCalls := last.gate.hostCalls } := by
  have leaves := sandbox.run_leaves engine input inventory
  generalize sandbox.run engine input inventory = finished at leaves
  have ended {fresh : σ} (execution : Execution σ)
      (ran : (Execution.course sandbox engine input).after ⟨sandbox.begun inventory true, fresh⟩ = execution) :
      holds (execution.run.record (.engine .dispose true)) := by
    rw [← ran]
    exact called _ _ _ (course _ (called _ _ _ start))
  cases leaves with
  | refused _ _ => exact ⟨_, start, rfl, rfl⟩
  | engineless _ _ => exact ⟨_, called _ _ false start, rfl, rfl⟩
  | concluded _ _ ran => exact ⟨_, ended _ (after_of_ok ran), rfl, rfl⟩
  | stopped _ _ ran => exact ⟨_, ended _ (after_of_error ran), rfl, rfl⟩

end GuestSandbox.Sandbox
