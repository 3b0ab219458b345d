import GuestSandbox.Proofs.Steps
import GuestSandbox.Proofs.Wording
import GuestSandbox.Run.Execution

namespace GuestSandbox

namespace Sandbox

variable {σ : Type} {sandbox : Sandbox} {engine : Engine σ} {input : RunInput} {inventory : Inventory}

def EndsIn (sandbox : Sandbox) (engine : Engine σ) (input : RunInput) (inventory : Inventory) (failure : Failure) : Prop :=
  sandbox.policy.codeExecEnabled = true ∧ Text.trim input.code ≠ "" ∧ ∃ state last,
    engine.create sandbox.policy.memoryBytes sandbox.policy.stackBytes = .ok state ∧
      Execution.course sandbox engine input ⟨sandbox.begun inventory true, state⟩ = .error (.failed failure) last

theorem EndsIn.reported {failure : Failure} (ends : sandbox.EndsIn engine input inventory failure) :
    (sandbox.run engine input inventory).result.error = some (.ofFailure (sandbox.uniform failure)) := by
  obtain ⟨enabled, filled, state, last, created, ended⟩ := ends
  simp only [run, enabled, Bool.not_true, Bool.false_eq_true, if_false, beq_iff_eq, filled, runOn, created, ended]
  rfl

def reportOf (sandbox : Sandbox) (code : FailureCode) (text : String) : Reported :=
  if code = .timeout then .ofFailure sandbox.timeout else ⟨code, Report.tidy text⟩

theorem ofFailure_uniform_guest (sandbox : Sandbox) (text : String) :
    Reported.ofFailure (sandbox.uniform (.guest text)) = sandbox.reportOf (.ofText text) text := by
  unfold uniform reportOf
  by_cases timeout : FailureCode.ofText text = .timeout
  · rw [if_pos timeout]
    exact congrArg Reported.ofFailure (if_pos timeout)
  · rw [if_neg timeout]
    exact congrArg Reported.ofFailure (if_neg timeout)

theorem reportOf_eq_iff {code : FailureCode} {text : String} :
    sandbox.reportOf code text = ⟨.executionError, Report.tidy text⟩ ↔ code = .executionError := by
  unfold reportOf
  by_cases timeout : code = .timeout
  · rw [if_pos timeout, timeout]
    constructor
    · intro same
      cases congrArg Reported.code same
    · nofun
  · rw [if_neg timeout, Reported.mk.injEq, and_iff_left rfl]

-- A failure without a code of its own is handed back to guest code, and its exception is what the run ends in. It is
-- reported as what it is if no text that it tells from outside holds a token, and else by the first token among these
-- texts.
theorem reported_uncaught {failure : Failure} (general : failure.code = .executionError) {id : UInt32} {text : String}
    (told : (Delivery.mk id (.error failure)).toJson.field? "error" = some (.str text))
    (ends : sandbox.EndsIn engine input inventory (.guest ("Error: " ++ text))) :
    (sandbox.run engine input inventory).result.error =
        some (sandbox.reportOf (.ofTexts failure.outside) ("Error: " ++ failure.message)) ∧
      ((sandbox.run engine input inventory).result.error =
          some ⟨.executionError, Report.tidy ("Error: " ++ failure.message)⟩ ↔
        ∀ outside ∈ failure.outside, ∀ token ∈ FailureCode.tokens, ¬token.1.toList <:+: outside.toList) := by
  have message : text = failure.message := by
    rw [Delivery.toJson_error] at told
    cases told
    rfl
  subst message
  have reported := ends.reported
  rw [ofFailure_uniform_guest, Failure.ofText_thrown general] at reported
  refine ⟨reported, ?_⟩
  rw [reported, Option.some.injEq, reportOf_eq_iff]
  exact FailureCode.ofTexts_eq_executionError_iff

end Sandbox

-- Guest code that fetches one URL and catches nothing: what the fetch fails with is what the run ends in.
def Engine.relaying (url : String) : Engine String where
  name := "relaying"
  create _ _ := .ok ""
  install _ state := (.ok (), state)
  eval _ state := .done (.ok (), state)
  call entry argument state := match entry with
    | .init => .done (.ok "", state)
    | .run => .ask .fetch url "" fun _ => .done (.ok "", state)
    | .settle =>
      let told := ((Json.parse argument).toOption.bind (Json.field? "error")).bind Json.text?
      .done (.ok "", told.getD state)
    | .finish =>
      .done (.ok (Json.ofFields [("state", .str "rejected"), ("error", .str ("Error: " ++ state))]).text, state)
  hasJobs _ := false
  runJobs _ state := .done (.ok 0, state)
  dispose := id

namespace Sandbox

-- What relaying code ends in is found by a test, since a course itself cannot be compared.
theorem endsIn_of_failure? {sandbox : Sandbox} {url : String} {failure : Failure}
    (enabled : sandbox.policy.codeExecEnabled = true)
    (tested : (Execution.course sandbox (.relaying url) ⟨"1", .null⟩).failure? ⟨sandbox.begun .empty true, ""⟩ = some failure) :
    sandbox.EndsIn (.relaying url) ⟨"1", .null⟩ .empty failure := by
  obtain ⟨last, ended⟩ := Operation.error_of_failure? tested
  exact ⟨enabled, by decide +kernel, "", last, rfl, ended⟩

theorem reported_uncaught_reset :
    let sandbox : Sandbox := { policy := {}, net := fun _ _ => ⟨some 0, .error "connection reset"⟩, stamp := "" }
    let failure : Failure := .network "connection reset"
    failure.code = .executionError ∧
      (∃ after, sandbox.carryOut (.fetch "https://api.test/" {}) (.start {} .standard .empty) =
        .error (.failed failure) after) ∧
      (Delivery.mk 1 (.error failure)).toJson.field? "error" = some (.str "network error: connection reset") ∧
      sandbox.EndsIn (.relaying "https://api.test/") ⟨"1", .null⟩ .empty
        (.guest ("Error: " ++ "network error: connection reset")) ∧
      (sandbox.run (.relaying "https://api.test/") ⟨"1", .null⟩ .empty).result.error =
        some ⟨.executionError, "Error: network error: connection reset"⟩ := by
  intro sandbox failure
  have told : (Delivery.mk 1 (.error failure)).toJson.field? "error" = some (.str "network error: connection reset") := by
    rw [Delivery.toJson_error]
    rfl
  have ends : sandbox.EndsIn (.relaying "https://api.test/") ⟨"1", .null⟩ .empty
      (.guest ("Error: " ++ "network error: connection reset")) := endsIn_of_failure? rfl (by decide +kernel)
  have reported := (reported_uncaught rfl told ends).1
  refine ⟨rfl, Operation.error_of_failure? (by decide +kernel), told, ends, reported.trans ?_⟩
  decide +kernel

-- The network says that it was interrupted, and the report says that the time was up.
theorem reported_uncaught_interrupted :
    let sandbox : Sandbox := { policy := {}, net := fun _ _ => ⟨some 0, .error "connection interrupted"⟩, stamp := "" }
    let failure : Failure := .network "connection interrupted"
    let error := (sandbox.run (.relaying "https://api.test/") ⟨"1", .null⟩ .empty).result.error
    failure.code = .executionError ∧
      (∃ after, sandbox.carryOut (.fetch "https://api.test/" {}) (.start {} .standard .empty) =
        .error (.failed failure) after) ∧
      sandbox.EndsIn (.relaying "https://api.test/") ⟨"1", .null⟩ .empty (.guest ("Error: " ++ failure.message)) ∧
      error = some ⟨.timeout, "TIMEOUT: execution exceeded 2000ms"⟩ ∧
      error ≠ some ⟨.executionError, Report.tidy ("Error: " ++ failure.message)⟩ := by
  intro sandbox failure error
  have ends : sandbox.EndsIn (.relaying "https://api.test/") ⟨"1", .null⟩ .empty
      (.guest ("Error: " ++ failure.message)) := endsIn_of_failure? rfl (by decide +kernel)
  have reported : error = some ⟨.timeout, "TIMEOUT: execution exceeded 2000ms"⟩ := ends.reported.trans (by decide +kernel)
  refine ⟨rfl, Operation.error_of_failure? (by decide +kernel), ends, reported, ?_⟩
  rw [reported]
  decide

end Sandbox

end GuestSandbox
