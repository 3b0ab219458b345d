import GuestSandbox.Proofs.Steps
import GuestSandbox.Run.Execution

namespace GuestSandbox.Execution

open Operation

variable {σ α : Type}

inductive Breaks (sandbox : Sandbox) : Stop → Prop where
  | fault (fault : EngineFault) : Breaks sandbox (.failed fault.failure)
  | late : Breaks sandbox (.failed sandbox.timeout)

def Unspent (stop : Stop) : Prop := ∀ rounds, stop ≠ .failed (.pendingJobs rounds)

theorem Breaks.unspent {sandbox : Sandbox} {stop : Stop} (breaks : Breaks sandbox stop) : Unspent stop := by
  intro rounds
  cases breaks with
  | fault fault => cases fault <;> simp [EngineFault.failure]
  | late => simp [Sandbox.timeout]

variable (sandbox : Sandbox) (engine : Engine σ)

theorem step_breaks (call : EngineCall) (guest : σ → Guest (Except EngineFault α × σ)) :
    Stops (Breaks sandbox) (step call guest) := by
  intro execution stop last ran
  unfold step at ran
  generalize (guest execution.engine).play execution.run = ended at ran
  obtain ⟨⟨result, engine⟩, run⟩ := ended
  cases result with
  | ok value => cases ran
  | error fault =>
    cases ran
    exact .fault fault

theorem inTime_breaks (operation : Operation RunState α) : Stops (Breaks sandbox) (sandbox.inTime operation) := by
  intro run stop last ran
  unfold Sandbox.inTime at ran
  split at ran
  · cases ran
  · cases ran
  · cases ran
    exact .late

theorem stillInTime_breaks : Stops (Breaks sandbox) sandbox.stillInTime := by
  intro run stop last ran
  unfold Sandbox.stillInTime at ran
  split at ran
  · cases ran
    exact .late
  · cases ran

theorem deliverAll_breaks (requests : List Deferred) : Stops (Breaks sandbox) (deliverAll sandbox engine requests) := by
  induction requests with
  | nil => exact .pure _
  | cons request rest ih =>
    exact .bind (inTime_breaks sandbox _).on fun outcome => .bind (step_breaks sandbox _ _) fun _ => ih

theorem takeWaiting_breaks : Stops (Breaks sandbox) (takeWaiting : Operation (Execution σ) (List Deferred)) := by
  intro execution stop last ran
  cases ran

theorem round_breaks : Stops (Breaks sandbox) (round sandbox engine) := by
  refine .bind (takeWaiting_breaks sandbox) fun requests => .bind (deliverAll_breaks sandbox engine requests) fun _ => ?_
  exact .bind (step_breaks sandbox _ _) fun _ => (stillInTime_breaks sandbox).on

theorem isIdle_iff {engine : Engine σ} {execution : Execution σ} :
    isIdle engine execution = true ↔ execution.run.gate.queue = [] ∧ engine.hasJobs execution.engine = false := by
  simp [isIdle, Gate.hasWaiting]

inductive Rounds : Nat → Execution σ → Execution σ → Prop where
  | none (execution : Execution σ) : Rounds 0 execution execution
  | more {rounds : Nat} {start middle last : Execution σ} (busy : isIdle engine start = false)
      (ran : round sandbox engine start = .ok () middle) (rest : Rounds rounds middle last) :
      Rounds (rounds + 1) start last

-- How the rounds after a start end, with the number of rounds that had begun: nothing is left to do, the budget of
-- rounds is spent, or a round breaks off.
inductive Drains (budget : Nat) (start : Execution σ) : Nat → EStateM.Result Stop (Execution σ) Unit → Prop where
  | idle {rounds : Nat} {last : Execution σ} (ran : Rounds sandbox engine rounds start last)
      (idle : isIdle engine last = true) : Drains budget start rounds (.ok () last)
  | spent {last : Execution σ} (ran : Rounds sandbox engine budget start last) (busy : isIdle engine last = false) :
      Drains budget start budget (.error (.failed (.pendingJobs sandbox.policy.execMaxHostCalls)) last)
  | broken {rounds : Nat} {stop : Stop} {middle last : Execution σ} (ran : Rounds sandbox engine rounds start middle)
      (busy : isIdle engine middle = false) (broke : round sandbox engine middle = .error stop last) :
      Drains budget start (rounds + 1) (.error stop last)

variable {sandbox engine} {budget rounds : Nat} {start middle last : Execution σ}

theorem Drains.after {result : EStateM.Result Stop (Execution σ) Unit} (busy : isIdle engine start = false)
    (ran : round sandbox engine start = .ok () middle) (drains : Drains sandbox engine budget middle rounds result) :
    Drains sandbox engine (budget + 1) start (rounds + 1) result := by
  cases drains with
  | idle rest idle => exact .idle (.more busy ran rest) idle
  | spent rest still => exact .spent (.more busy ran rest) still
  | broken rest still broke => exact .broken (.more busy ran rest) still broke

theorem untilIdle_of_idle (idle : isIdle engine start = true) (budget : Nat) :
    untilIdle sandbox engine budget start = .ok () start := by
  cases budget with
  | zero =>
    rw [untilIdle, get_bind, if_pos idle]
    rfl
  | succ budget =>
    rw [untilIdle, get_bind, if_pos idle]
    rfl

theorem untilIdle_zero (busy : isIdle engine start = false) : untilIdle sandbox engine 0 start =
    .error (.failed (.pendingJobs sandbox.policy.execMaxHostCalls)) start := by
  rw [untilIdle, get_bind, if_neg (Bool.eq_false_iff.mp busy)]
  rfl

theorem untilIdle_succ (busy : isIdle engine start = false) : untilIdle sandbox engine (budget + 1) start =
    (round sandbox engine >>= fun _ => untilIdle sandbox engine budget) start := by
  rw [untilIdle, get_bind, if_neg (Bool.eq_false_iff.mp busy)]

theorem untilIdle_drains (sandbox : Sandbox) (engine : Engine σ) (budget : Nat) (start : Execution σ) :
    ∃ rounds ≤ budget, Drains sandbox engine budget start rounds (untilIdle sandbox engine budget start) := by
  induction budget generalizing start with
  | zero =>
    refine ⟨0, Nat.le_refl _, ?_⟩
    cases idle : isIdle engine start with
    | true =>
      rw [untilIdle_of_idle idle]
      exact .idle (.none start) idle
    | false =>
      rw [untilIdle_zero idle]
      exact .spent (.none start) idle
  | succ budget ih =>
    cases idle : isIdle engine start with
    | true =>
      rw [untilIdle_of_idle idle]
      exact ⟨0, Nat.zero_le _, .idle (.none start) idle⟩
    | false =>
      rw [untilIdle_succ idle]
      cases ran : round sandbox engine start with
      | ok _ middle =>
        rw [bind_of_ok ran]
        obtain ⟨rounds, bound, drains⟩ := ih middle
        exact ⟨rounds + 1, Nat.succ_le_succ bound, drains.after idle ran⟩
      | error stop last =>
        rw [bind_of_error ran]
        exact ⟨1, Nat.succ_le_succ (Nat.zero_le _), .broken (.none start) idle ran⟩

theorem Rounds.spent (ran : Rounds sandbox engine budget start last) (busy : isIdle engine last = false) :
    untilIdle sandbox engine budget start =
      .error (.failed (.pendingJobs sandbox.policy.execMaxHostCalls)) last := by
  induction ran with
  | none start => exact untilIdle_zero busy
  | more begun ran rest ih =>
    rw [untilIdle_succ begun, bind_of_ok ran]
    exact ih busy

-- The rounds are reported as spent exactly where as many as the budget have run and something is left to do.
theorem untilIdle_spent_iff :
    untilIdle sandbox engine budget start = .error (.failed (.pendingJobs sandbox.policy.execMaxHostCalls)) last ↔
      Rounds sandbox engine budget start last ∧ isIdle engine last = false := by
  refine ⟨fun spent => ?_, fun ⟨ran, busy⟩ => ran.spent busy⟩
  obtain ⟨rounds, _, drains⟩ := untilIdle_drains sandbox engine budget start
  rw [spent] at drains
  cases drains with
  | spent ran busy => exact ⟨ran, busy⟩
  | broken ran busy broke => exact absurd rfl ((round_breaks sandbox engine _ _ _ broke).unspent _)

end GuestSandbox.Execution
