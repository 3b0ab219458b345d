import GuestSandbox.Proofs.Run.Happenings
import GuestSandbox.Proofs.Run.Rounds
import Mathlib.Data.Prod.Lex

-- The course of a run as a machine that makes one call of the engine, or one operation of the host, at a time. What
-- runs do at any point is stated over the points that the machine comes to.

namespace GuestSandbox.Execution

open Operation Relation

-- What a run does next. `left` is still to be gone through, and `rounds` is how many rounds may still begin.
inductive Phase where
  | installing (left : List HostCall)
  | bootstrapping
  | initialising
  | importing (left : List String)
  | starting
  | checking (rounds : Nat)
  | resting (rounds : Nat)
  | serving (left : List Deferred) (rounds : Nat)
  | settling (delivery : Delivery) (left : List Deferred) (rounds : Nat)
  | working (rounds : Nat)
  | finishing
  | concluding (finished : String)

inductive Turn where
  | goes (phase : Phase)
  | ends (result : Json)

structure Point (σ : Type) where
  phase : Phase
  execution : Execution σ

variable {σ α : Type} (sandbox : Sandbox) (engine : Engine σ) (input : RunInput)

def Phase.next : Phase → Operation (Execution σ) Turn
  | .installing [] => pure (.goes .bootstrapping)
  | .installing (function :: left) => do
    install engine function
    pure (.goes (.installing left))
  | .bootstrapping => do
    eval engine bootstrap
    pure (.goes .initialising)
  | .initialising => do
    let _ ← call engine .init input.input.text
    pure (.goes (.importing (Imports.specifiers input.code)))
  | .importing [] => pure (.goes .starting)
  | .importing (specifier :: left) => do
    hosted (sandbox.obtainImport specifier)
    pure (.goes (.importing left))
  | .starting => do
    let _ ← call engine .run input.code
    pure (.goes (.checking sandbox.policy.execMaxHostCalls))
  | .checking rounds => do
    hosted sandbox.stillInTime
    pure (.goes (.resting rounds))
  | .resting 0 => do
    if isIdle engine (← get) then pure (.goes .finishing)
    else Operation.fail (.pendingJobs sandbox.policy.execMaxHostCalls)
  | .resting (rounds + 1) => do
    if isIdle engine (← get) then pure (.goes .finishing)
    else do
      let requests ← takeWaiting
      pure (.goes (.serving requests rounds))
  | .serving [] rounds => pure (.goes (.working rounds))
  | .serving (request :: left) rounds => do
    let outcome ← hosted (sandbox.inTime (sandbox.carryOut request.operation))
    pure (.goes (.settling ⟨request.id, outcome⟩ left rounds))
  | .settling delivery left rounds => do
    let _ ← call engine .settle delivery.text
    pure (.goes (.serving left rounds))
  | .working rounds => do
    let _ ← runJobs engine roundJobs
    pure (.goes (.checking rounds))
  | .finishing => do
    let finished ← call engine .finish ""
    pure (.goes (.concluding finished))
  | .concluding finished => do
    let result ← Operation.ofExcept (conclude sandbox.policy finished)
    pure (.ends result)

def Goes (before after : Point σ) : Prop :=
  before.phase.next sandbox engine input before.execution = .ok (.goes after.phase) after.execution

abbrev Comes : Point σ → Point σ → Prop := ReflTransGen (Goes sandbox engine input)

def closing : Operation (Execution σ) Json := do
  let finished ← call engine .finish ""
  Operation.ofExcept (conclude sandbox.policy finished)

def draining (rounds : Nat) : Operation (Execution σ) Json := do
  untilIdle sandbox engine rounds
  closing sandbox engine

def laboring (rounds : Nat) : Operation (Execution σ) Json := do
  let _ ← runJobs engine roundJobs
  hosted sandbox.stillInTime
  draining sandbox engine rounds

def launching (specifiers : List String) : Operation (Execution σ) Json := do
  hosted (sandbox.obtainImports specifiers)
  let _ ← call engine .run input.code
  hosted sandbox.stillInTime
  draining sandbox engine sandbox.policy.execMaxHostCalls

def preparing : Operation (Execution σ) Json := do
  let _ ← call engine .init input.input.text
  launching sandbox engine input (Imports.specifiers input.code)

@[simp] def Phase.rest : Phase → Operation (Execution σ) Json
  | .installing left => do
    installAll engine left
    eval engine bootstrap
    preparing sandbox engine input
  | .bootstrapping => do
    eval engine bootstrap
    preparing sandbox engine input
  | .initialising => preparing sandbox engine input
  | .importing left => launching sandbox engine input left
  | .starting => launching sandbox engine input []
  | .checking rounds => do
    hosted sandbox.stillInTime
    draining sandbox engine rounds
  | .resting rounds => draining sandbox engine rounds
  | .serving left rounds => do
    deliverAll sandbox engine left
    laboring sandbox engine rounds
  | .settling delivery left rounds => do
    let _ ← call engine .settle delivery.text
    deliverAll sandbox engine left
    laboring sandbox engine rounds
  | .working rounds => laboring sandbox engine rounds
  | .finishing => closing sandbox engine
  | .concluding finished => Operation.ofExcept (conclude sandbox.policy finished)

@[simp] def Turn.rest : Turn → Operation (Execution σ) Json
  | .goes phase => phase.rest sandbox engine input
  | .ends result => pure result

@[simp] theorem hosted_pure (value : α) : (hosted (pure value) : Operation (Execution σ) α) = pure value := rfl

@[simp] theorem hosted_bind {β : Type} (first : Operation RunState α) (next : α → Operation RunState β) :
    (hosted (first >>= next) : Operation (Execution σ) β) = hosted first >>= fun value => hosted (next value) := by
  funext execution
  unfold hosted
  cases ran : first execution.run with
  | ok value middle =>
    rw [bind_of_ok (on_of_ok ran), on, bind_of_ok ran]
    rfl
  | error stop last =>
    rw [bind_of_error (on_of_error ran)]
    exact on_of_error (bind_of_error ran)

@[simp] theorem fail_bind {β : Type} (failure : Failure) (next : α → Operation (Execution σ) β) :
    (Operation.fail failure >>= next) = Operation.fail failure := rfl

theorem rest_installing_all :
    (Phase.installing HostCall.all).rest sandbox engine input = course sandbox engine input := by
  simp [Phase.rest, preparing, launching, draining, closing, course, opening, bind_assoc]

-- The course is what the machine does in one step, and then what is still to come.
theorem Phase.next_rest (phase : Phase) :
    (phase.next sandbox engine input >>= Turn.rest sandbox engine input) = phase.rest sandbox engine input := by
  cases phase with
  | installing left =>
    cases left with
    | nil => simp [next, installAll]
    | cons function left => simp [next, installAll]
  | bootstrapping => simp [next]
  | initialising => simp [next, preparing]
  | importing left =>
    cases left with
    | nil => simp [next]
    | cons specifier left => simp [next, launching, Sandbox.obtainImports]
  | starting => simp [next, launching, Sandbox.obtainImports]
  | checking rounds => simp [next]
  | resting rounds =>
    cases rounds with
    | zero =>
      simp only [next, rest, draining, untilIdle, bind_assoc]
      congr 1
      funext execution
      split
      · simp
      · rw [fail_bind, fail_bind]
    | succ rounds =>
      simp only [next, rest, draining, untilIdle, bind_assoc]
      congr 1
      funext execution
      split
      · simp
      · simp [round, laboring, draining]
  | serving left rounds =>
    cases left with
    | nil => simp [next, deliverAll]
    | cons request left => simp [next, deliverAll]
  | settling delivery left rounds => simp [next]
  | working rounds => simp [next, laboring]
  | finishing => simp [next, closing]
  | concluding finished => simp [next]

inductive Phase.Turns : Phase → Turn → Prop where
  | installed : Turns (.installing []) (.goes .bootstrapping)
  | installs (function : HostCall) (left : List HostCall) :
      Turns (.installing (function :: left)) (.goes (.installing left))
  | bootstraps : Turns .bootstrapping (.goes .initialising)
  | initialises : Turns .initialising (.goes (.importing (Imports.specifiers input.code)))
  | imported : Turns (.importing []) (.goes .starting)
  | imports (specifier : String) (left : List String) :
      Turns (.importing (specifier :: left)) (.goes (.importing left))
  | starts : Turns .starting (.goes (.checking sandbox.policy.execMaxHostCalls))
  | checks (rounds : Nat) : Turns (.checking rounds) (.goes (.resting rounds))
  | idle (rounds : Nat) : Turns (.resting rounds) (.goes .finishing)
  | takes (requests : List Deferred) (rounds : Nat) : Turns (.resting (rounds + 1)) (.goes (.serving requests rounds))
  | served (rounds : Nat) : Turns (.serving [] rounds) (.goes (.working rounds))
  | serves (request : Deferred) (outcome : Except Failure Json) (left : List Deferred) (rounds : Nat) :
      Turns (.serving (request :: left) rounds) (.goes (.settling ⟨request.id, outcome⟩ left rounds))
  | settles (delivery : Delivery) (left : List Deferred) (rounds : Nat) :
      Turns (.settling delivery left rounds) (.goes (.serving left rounds))
  | works (rounds : Nat) : Turns (.working rounds) (.goes (.checking rounds))
  | finishes (finished : String) : Turns .finishing (.goes (.concluding finished))
  | concludes (finished : String) (result : Json) : Turns (.concluding finished) (.ends result)

theorem Phase.next_turns (phase : Phase) :
    Returns (phase.Turns sandbox input) (phase.next sandbox engine input) := by
  cases phase with
  | installing left =>
    cases left with
    | nil => exact .pure .installed
    | cons function left => exact .bind fun _ => .pure (.installs function left)
  | bootstrapping => exact .bind fun _ => .pure .bootstraps
  | initialising => exact .bind fun _ => .pure .initialises
  | importing left =>
    cases left with
    | nil => exact .pure .imported
    | cons specifier left => exact .bind fun _ => .pure (.imports specifier left)
  | starting => exact .bind fun _ => .pure .starts
  | checking rounds => exact .bind fun _ => .pure (.checks rounds)
  | resting rounds =>
    cases rounds with
    | zero =>
      refine .bind fun execution => ?_
      split
      · exact .pure (.idle 0)
      · exact .fail _
    | succ rounds =>
      refine .bind fun execution => ?_
      split
      · exact .pure (.idle _)
      · exact .bind fun requests => .pure (.takes requests rounds)
  | serving left rounds =>
    cases left with
    | nil => exact .pure (.served rounds)
    | cons request left => exact .bind fun outcome => .pure (.serves request outcome left rounds)
  | settling delivery left rounds => exact .bind fun _ => .pure (.settles delivery left rounds)
  | working rounds => exact .bind fun _ => .pure (.works rounds)
  | finishing => exact .bind fun finished => .pure (.finishes finished)
  | concluding finished => exact .bind fun result => .pure (.concludes finished result)

-- Whatever kind of steps guest code, the engine and the host go by, each phase goes by them.
theorem Phase.next_moves {kind : RunState → RunState → Prop}
    (played : ∀ before after, RunState.Plays before after → kind before after)
    (called : ∀ run call succeeded, kind run (run.record (.engine call succeeded)))
    (took : ∀ run : RunState, kind run { run with gate := run.gate.takeWaiting.2 })
    (imports : ∀ specifier, Moves kind (sandbox.obtainImport specifier))
    (carries : ∀ operation, Moves kind (sandbox.inTime (sandbox.carryOut operation))) (phase : Phase) :
    Moves (Over kind) (phase.next sandbox engine input) := by
  cases phase with
  | installing left =>
    cases left with
    | nil => exact .pure _
    | cons function left => exact .bind (step_moves played called _ _) fun _ => .pure _
  | bootstrapping => exact .bind (step_moves played called _ _) fun _ => .pure _
  | initialising => exact .bind (step_moves played called _ _) fun _ => .pure _
  | importing left =>
    cases left with
    | nil => exact .pure _
    | cons specifier left => exact .bind (hosted_moves (imports specifier)) fun _ => .pure _
  | starting => exact .bind (step_moves played called _ _) fun _ => .pure _
  | checking rounds => exact .bind (hosted_moves (sandbox.stillInTime_moves kind)) fun _ => .pure _
  | resting rounds =>
    cases rounds with
    | zero =>
      refine .get_bind fun execution => ?_
      split
      · exact .refl
      · exact .refl
    | succ rounds =>
      refine .get_bind fun execution => ?_
      split
      · exact .refl
      · exact .single (took execution.run)
  | serving left rounds =>
    cases left with
    | nil => exact .pure _
    | cons request left => exact .bind (hosted_moves (carries request.operation)) fun _ => .pure _
  | settling delivery left rounds => exact .bind (step_moves played called _ _) fun _ => .pure _
  | working rounds => exact .bind (step_moves played called _ _) fun _ => .pure _
  | finishing => exact .bind (step_moves played called _ _) fun _ => .pure _
  | concluding finished => exact .bind (.ofExcept _) fun _ => .pure _

-- Before the rounds, how many of them there may be stands for itself; then each round uses up one.
def Phase.measure : Phase → Nat × Nat
  | .installing left => (sandbox.policy.execMaxHostCalls + 4, left.length)
  | .bootstrapping => (sandbox.policy.execMaxHostCalls + 3, 1)
  | .initialising => (sandbox.policy.execMaxHostCalls + 3, 0)
  | .importing left => (sandbox.policy.execMaxHostCalls + 2, left.length + 1)
  | .starting => (sandbox.policy.execMaxHostCalls + 2, 0)
  | .checking rounds => (rounds + 1, 1)
  | .resting rounds => (rounds + 1, 0)
  | .serving left rounds => (rounds + 1, 2 * left.length + 3)
  | .settling _ left rounds => (rounds + 1, 2 * left.length + 4)
  | .working rounds => (rounds + 1, 2)
  | .finishing => (0, 1)
  | .concluding _ => (0, 0)

variable {sandbox engine input}

theorem Phase.Turns.decreases {phase after : Phase} (turns : phase.Turns sandbox input (.goes after)) :
    Prod.Lex (· < ·) (· < ·) (after.measure sandbox) (phase.measure sandbox) := by
  cases turns
  all_goals simp [measure, Prod.lex_def]
  omega

variable {before after point : Point σ}

theorem Goes.turns (goes : Goes sandbox engine input before after) :
    before.phase.Turns sandbox input (.goes after.phase) :=
  before.phase.next_turns sandbox engine input _ _ _ goes

variable (sandbox engine input) in
-- A run comes to an end: each step leaves less to do.
theorem comes_to_last (point : Point σ) :
    ∃ last, Comes sandbox engine input point last ∧ ∀ after, ¬Goes sandbox engine input last after := by
  by_cases going : ∃ after, Goes sandbox engine input point after
  · obtain ⟨after, goes⟩ := going
    obtain ⟨last, comes, ended⟩ := comes_to_last after
    exact ⟨last, .head goes comes, ended⟩
  · exact ⟨point, .refl, fun after goes => going ⟨after, goes⟩⟩
  termination_by point.phase.measure sandbox
  decreasing_by exact goes.turns.decreases

theorem Comes.rest (comes : Comes sandbox engine input before after) :
    before.phase.rest sandbox engine input before.execution =
      after.phase.rest sandbox engine input after.execution := by
  induction comes with
  | refl => rfl
  | tail _ goes ih => rw [ih, ← Phase.next_rest, bind_of_ok goes, Turn.rest]

theorem Comes.stops {stop : Stop} {last : Execution σ} (comes : Comes sandbox engine input before point)
    (stopped : point.phase.next sandbox engine input point.execution = .error stop last) :
    before.phase.rest sandbox engine input before.execution = .error stop last := by
  rw [comes.rest, ← Phase.next_rest, bind_of_error stopped]

theorem Comes.ends {result : Json} {last : Execution σ} (comes : Comes sandbox engine input before point)
    (ended : point.phase.next sandbox engine input point.execution = .ok (.ends result) last) :
    before.phase.rest sandbox engine input before.execution = .ok result last := by
  rw [comes.rest, ← Phase.next_rest, bind_of_ok ended]
  rfl

-- Where a point can be that a run does not get past: something stops it there, or the course is through.
theorem stops_or_ends (stuck : ∀ after, ¬Goes sandbox engine input point after) :
    (∃ stop last, point.phase.next sandbox engine input point.execution = .error stop last) ∨
      ∃ result last, point.phase.next sandbox engine input point.execution = .ok (.ends result) last := by
  cases ran : point.phase.next sandbox engine input point.execution with
  | error stop last => exact .inl ⟨stop, last, rfl⟩
  | ok turn last =>
    cases turn with
    | goes phase => exact absurd ran (stuck ⟨phase, last⟩)
    | ends result => exact .inr ⟨result, last, rfl⟩

end GuestSandbox.Execution
