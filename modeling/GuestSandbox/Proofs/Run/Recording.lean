import GuestSandbox.Proofs.Run.Happenings

-- Engines that keep the calls that they get. What a run writes down about its engine is what such an engine has seen, and
-- any engine can be made to keep its calls without a run noticing it.

namespace GuestSandbox

open Operation Relation RunState

namespace RunState

variable {run after : RunState}

theorem Works.engineCalls {policy : Policy} (step : run.Works policy after) :
    after.journal.engineCalls = run.journal.engineCalls := by
  cases step with
  | supplies step => cases step with
    | traffic sends => cases sends with
      | sent request => exact Journal.filterMap_record _ rfl
      | waited left => rfl
    | counted installs => rfl
    | stored library => rfl
  | installed absent room => exact Journal.filterMap_record _ rfl

theorem engineCalls_of_plays (plays : ReflTransGen Plays run after) :
    after.journal.engineCalls = run.journal.engineCalls := by
  induction plays with
  | refl => rfl
  | tail _ step ih => exact (step.filterMap_events fun _ _ _ _ => rfl).trans ih

end RunState

abbrev EngineCalls := List (EngineCall × Bool)

namespace Guest

variable {α β : Type}

-- However guest code is answered, what it comes to is good.
def Always (good : α → Prop) : Guest α → Prop
  | .done result => good result
  | .ask _ _ _ resume => ∀ reply, (resume reply).Always good
  | .look resume => ∀ library, (resume library).Always good
  | .sleep _ resume => resume.Always good

theorem Always.played {good : α → Prop} {guest : Guest α} (always : guest.Always good) (run : RunState) :
    good (guest.play run).1 := by
  induction guest generalizing run with
  | done result => exact always
  | ask function first second resume ih => exact ih _ (always _) _
  | look resume ih => exact ih _ (always _) run
  | sleep ms resume ih => exact ih always _

theorem Always.mapped {good : β → Prop} {change : α → β} (all : ∀ result, good (change result)) (guest : Guest α) :
    (guest.bind fun result => .done (change result)).Always good := by
  induction guest with
  | done result => exact all result
  | ask function first second resume ih => exact ih
  | look resume ih => exact ih
  | sleep ms resume ih => exact ih

theorem play_mapped (change : α → β) (guest : Guest α) (run : RunState) :
    (guest.bind fun result => .done (change result)).play run = (change (guest.play run).1, (guest.play run).2) := by
  induction guest generalizing run with
  | done result => rfl
  | ask function first second resume ih => exact ih _ _
  | look resume ih => exact ih _ run
  | sleep ms resume ih => exact ih _

end Guest

namespace Engine

variable {σ α : Type}

-- `seen` tells of every state which calls led to it. A call adds itself, with whether it succeeded.
def Adds (seen : σ → EngineCalls) (call : EngineCall) (guest : σ → Guest (Except EngineFault α × σ)) : Prop :=
  ∀ state, (guest state).Always fun ended => seen ended.2 = seen state ++ [(call, ended.1.isOk)]

structure Records (engine : Engine σ) (seen : σ → EngineCalls) : Prop where
  create : ∀ memoryBytes stackBytes fresh, engine.create memoryBytes stackBytes = .ok fresh →
    seen fresh = [(.create memoryBytes stackBytes, true)]
  install : ∀ function, Adds seen (.install function.name) fun state => .done (engine.install function state)
  eval : ∀ script, Adds seen (.eval script) (engine.eval script)
  call : ∀ entry argument, Adds seen (.call entry argument) (engine.call entry argument)
  runJobs : ∀ greatest, Adds seen (.runJobs greatest) (engine.runJobs greatest)
  dispose : ∀ state, seen (engine.dispose state) = seen state ++ [(.dispose, true)]

-- What a call comes to, with the call beside the state in which it leaves the engine.
def note (call : EngineCall) (calls : EngineCalls) (ended : Except EngineFault α × σ) :
    Except EngineFault α × (σ × EngineCalls) := (ended.1, (ended.2, calls ++ [(call, ended.1.isOk)]))

def noted (call : EngineCall) (guest : σ → Guest (Except EngineFault α × σ)) (state : σ × EngineCalls) :
    Guest (Except EngineFault α × (σ × EngineCalls)) := (guest state.1).bind fun ended => .done (note call state.2 ended)

theorem adds_noted (call : EngineCall) (guest : σ → Guest (Except EngineFault α × σ)) :
    Adds Prod.snd call (noted call guest) := by
  intro state
  refine Guest.Always.mapped (fun ended => ?_) (guest state.1)
  rfl

def recorded (engine : Engine σ) : Engine (σ × EngineCalls) where
  name := engine.name
  create memoryBytes stackBytes := (engine.create memoryBytes stackBytes).map
    fun fresh => (fresh, [(.create memoryBytes stackBytes, true)])
  install function state := note (.install function.name) state.2 (engine.install function state.1)
  eval script := noted (.eval script) (engine.eval script)
  call entry argument := noted (.call entry argument) (engine.call entry argument)
  hasJobs state := engine.hasJobs state.1
  runJobs greatest := noted (.runJobs greatest) (engine.runJobs greatest)
  dispose state := (engine.dispose state.1, state.2 ++ [(.dispose, true)])

theorem recorded_records (engine : Engine σ) : engine.recorded.Records Prod.snd where
  create memoryBytes stackBytes fresh created := by
    cases made : engine.create memoryBytes stackBytes with
    | error fault => simp [recorded, made, Except.map] at created
    | ok first =>
      simp only [recorded, made, Except.map, Except.ok.injEq] at created
      rw [← created]
  install _ _ := rfl
  eval _ := adds_noted _ _
  call _ _ := adds_noted _ _
  runJobs _ := adds_noted _ _
  dispose _ := rfl

end Engine

namespace Execution

variable {σ α : Type}

def Agrees (seen : σ → EngineCalls) (execution : Execution σ) : Prop :=
  seen execution.engine = execution.run.journal.engineCalls

abbrev Agreeing (seen : σ → EngineCalls) (operation : Operation (Execution σ) α) : Prop :=
  Leads (Agrees seen) operation (fun _ => Agrees seen) (Agrees seen)

theorem step_agreeing {seen : σ → EngineCalls} {call : EngineCall} {guest : σ → Guest (Except EngineFault α × σ)}
    (adds : Engine.Adds seen call guest) : Agreeing seen (step call guest) := by
  intro execution agrees
  have plays := Guest.play_plays (guest execution.engine) execution.run
  have added := (adds execution.engine).played execution.run
  unfold step
  generalize (guest execution.engine).play execution.run = ended at plays added ⊢
  obtain ⟨⟨result, engine⟩, run⟩ := ended
  have played : run.journal.engineCalls = seen execution.engine := (engineCalls_of_plays plays).trans agrees.symm
  have recorded (succeeded : Bool) :
      (run.record (.engine call succeeded)).journal.engineCalls = seen execution.engine ++ [(call, succeeded)] :=
    (Journal.engineCalls_record _ _).trans (by rw [played]; rfl)
  cases result with
  | ok value => exact added.trans (recorded true).symm
  | error fault => exact added.trans (recorded false).symm

theorem hosted_agreeing {policy : Policy} {operation : Operation RunState α} (works : Moves (Works policy) operation)
    (seen : σ → EngineCalls) : Agreeing seen (hosted operation : Operation (Execution σ) α) := by
  refine .of_after (fun execution agrees => ?_) fun _ same => same
  rw [hosted_after]
  have kept : ∀ before after, Works policy before after → seen execution.engine = before.journal.engineCalls →
      seen execution.engine = after.journal.engineCalls := fun _ _ step same => same.trans step.engineCalls.symm
  exact works.keeps _ kept agrees

section

variable {seen : σ → EngineCalls} {engine : Engine σ} (sandbox : Sandbox) (records : engine.Records seen)
include records

theorem installAll_agreeing (functions : List HostCall) : Agreeing seen (installAll engine functions) := by
  induction functions with
  | nil => exact .pure ()
  | cons function rest ih => exact .bind (step_agreeing (records.install function)) fun _ => ih

theorem opening_agreeing (input : RunInput) : Agreeing seen (opening sandbox engine input) := by
  refine .bind (installAll_agreeing records _) fun _ => .bind (step_agreeing (records.eval _)) fun _ => ?_
  refine .bind (step_agreeing (records.call _ _)) fun _ => ?_
  refine .bind (hosted_agreeing (sandbox.obtainImports_works _) seen) fun _ => ?_
  exact .bind (step_agreeing (records.call _ _)) fun _ => hosted_agreeing sandbox.stillInTime_works seen

theorem deliverAll_agreeing (requests : List Deferred) : Agreeing seen (deliverAll sandbox engine requests) := by
  induction requests with
  | nil => exact .pure ()
  | cons request rest ih =>
    refine .bind (hosted_agreeing (sandbox.inTime_works (sandbox.carryOut_works _)) seen) fun _ => ?_
    exact .bind (step_agreeing (records.call _ _)) fun _ => ih

theorem round_agreeing : Agreeing seen (round sandbox engine) := by
  have takes : Agreeing seen (takeWaiting : Operation (Execution σ) (List Deferred)) := fun _ agrees => agrees
  refine .bind takes fun requests => .bind (deliverAll_agreeing sandbox records requests) fun _ => ?_
  exact .bind (step_agreeing (records.runJobs _)) fun _ => hosted_agreeing sandbox.stillInTime_works seen

theorem untilIdle_agreeing (rounds : Nat) : Agreeing seen (untilIdle sandbox engine rounds) := by
  induction rounds with
  | zero =>
    refine .get_bind fun execution => ?_
    split
    · exact .pure _
    · exact .fail _
  | succ rounds ih =>
    refine .get_bind fun execution => ?_
    split
    · exact .pure _
    · exact .bind (round_agreeing sandbox records) fun _ => ih

theorem course_agreeing (input : RunInput) : Agreeing seen (course sandbox engine input) := by
  refine .bind (opening_agreeing sandbox records input) fun _ => .bind (untilIdle_agreeing sandbox records _) fun _ => ?_
  exact .bind (step_agreeing (records.call _ _)) fun _ => .ofExcept _

end

def forget (execution : Execution (σ × EngineCalls)) : Execution σ := ⟨execution.run, execution.engine.1⟩

-- The one operation comes to the same as the other, but for the calls that it keeps.
def Follows (one : Operation (Execution (σ × EngineCalls)) α) (other : Operation (Execution σ) α) : Prop :=
  ∀ execution, other execution.forget = match one execution with
    | .ok value last => .ok value last.forget
    | .error stop last => .error stop last.forget

namespace Follows

variable {β : Type}

theorem of_pure (value : α) : Follows (pure value : Operation (Execution (σ × EngineCalls)) α) (pure value) :=
  fun _ => rfl

theorem of_fail (failure : Failure) :
    Follows (Operation.fail failure : Operation (Execution (σ × EngineCalls)) α) (Operation.fail failure) :=
  fun _ => rfl

theorem of_except (result : Except Failure α) :
    Follows (Operation.ofExcept result : Operation (Execution (σ × EngineCalls)) α) (Operation.ofExcept result) := by
  cases result with
  | ok value => exact of_pure value
  | error failure => exact of_fail failure

theorem bind {one : Operation (Execution (σ × EngineCalls)) α} {other : Operation (Execution σ) α}
    {next : α → Operation (Execution (σ × EngineCalls)) β} {after : α → Operation (Execution σ) β}
    (first : Follows one other) (rest : ∀ value, Follows (next value) (after value)) :
    Follows (one >>= next) (other >>= after) := by
  intro execution
  have begun := first execution
  cases ran : one execution with
  | ok value last =>
    rw [ran] at begun
    rw [bind_of_ok ran, bind_of_ok begun]
    exact rest value last
  | error stop last =>
    rw [ran] at begun
    rw [bind_of_error ran, bind_of_error begun]

theorem of_step (call : EngineCall) (guest : σ → Guest (Except EngineFault α × σ)) :
    Follows (step call (Engine.noted call guest)) (step call guest) := by
  intro execution
  unfold step Engine.noted
  rw [Guest.play_mapped, forget]
  generalize (guest execution.engine.1).play execution.run = ended
  obtain ⟨⟨result, engine⟩, run⟩ := ended
  cases result with
  | ok value => rfl
  | error fault => rfl

theorem of_hosted (operation : Operation RunState α) :
    Follows (hosted operation : Operation (Execution (σ × EngineCalls)) α) (hosted operation) := by
  intro execution
  unfold hosted Operation.on forget
  cases operation execution.run with
  | ok value last => rfl
  | error stop last => rfl

end Follows

section

open Follows

variable (sandbox : Sandbox) (engine : Engine σ)

theorem installAll_follows (functions : List HostCall) :
    Follows (installAll engine.recorded functions) (installAll engine functions) := by
  induction functions with
  | nil => exact of_pure ()
  | cons function rest ih =>
    exact .bind (of_step (.install function.name) fun state => .done (engine.install function state)) fun _ => ih

theorem opening_follows (input : RunInput) :
    Follows (opening sandbox engine.recorded input) (opening sandbox engine input) := by
  refine .bind (installAll_follows engine _) fun _ => .bind (of_step _ _) fun _ => .bind (of_step _ _) fun _ => ?_
  exact .bind (of_hosted _) fun _ => .bind (of_step _ _) fun _ => of_hosted _

theorem deliverAll_follows (requests : List Deferred) :
    Follows (deliverAll sandbox engine.recorded requests) (deliverAll sandbox engine requests) := by
  induction requests with
  | nil => exact of_pure ()
  | cons request rest ih => exact .bind (of_hosted _) fun _ => .bind (of_step _ _) fun _ => ih

theorem round_follows : Follows (round sandbox engine.recorded) (round sandbox engine) := by
  have takes : Follows (takeWaiting : Operation (Execution (σ × EngineCalls)) (List Deferred)) takeWaiting :=
    fun _ => rfl
  refine .bind takes fun requests => .bind (deliverAll_follows sandbox engine requests) fun _ => ?_
  exact .bind (of_step _ _) fun _ => of_hosted _

theorem untilIdle_follows (rounds : Nat) :
    Follows (untilIdle sandbox engine.recorded rounds) (untilIdle sandbox engine rounds) := by
  induction rounds with
  | zero =>
    intro execution
    have same : isIdle engine.recorded execution = isIdle engine execution.forget := rfl
    rw [untilIdle, untilIdle, get_bind, get_bind, same]
    split
    · exact of_pure () execution
    · exact of_fail _ execution
  | succ rounds ih =>
    intro execution
    have same : isIdle engine.recorded execution = isIdle engine execution.forget := rfl
    rw [untilIdle, untilIdle, get_bind, get_bind, same]
    split
    · exact of_pure () execution
    · exact Follows.bind (round_follows sandbox engine) (fun _ => ih) execution

theorem course_follows (input : RunInput) :
    Follows (course sandbox engine.recorded input) (course sandbox engine input) := by
  refine .bind (opening_follows sandbox engine input) fun _ => .bind (untilIdle_follows sandbox engine _) fun _ => ?_
  exact .bind (of_step _ _) fun _ => of_except _

end

end Execution

namespace Sandbox

variable {σ : Type} (sandbox : Sandbox) (engine : Engine σ) (input : RunInput) (inventory : Inventory)

-- A run does not notice that its engine keeps the calls.
theorem run_recorded :
    let finished := sandbox.run engine.recorded input inventory
    sandbox.run engine input inventory = ⟨finished.result, finished.journal, finished.engine.map Prod.fst⟩ := by
  intro finished
  unfold finished run
  split
  · rfl
  split
  · rfl
  unfold runOn
  cases made : engine.create sandbox.policy.memoryBytes sandbox.policy.stackBytes with
  | error fault => simp [Engine.recorded, made, Except.map]
  | ok fresh =>
    obtain ⟨calls, recorded⟩ : ∃ calls, engine.recorded.create sandbox.policy.memoryBytes sandbox.policy.stackBytes =
        .ok (fresh, calls) := by simp [Engine.recorded, made, Except.map]
    have follows := Execution.course_follows sandbox engine input ⟨sandbox.begun inventory true, (fresh, calls)⟩
    simp only [recorded]
    rw [show Execution.course sandbox engine input ⟨sandbox.begun inventory true, fresh⟩ = _ from follows]
    cases Execution.course sandbox engine.recorded input ⟨sandbox.begun inventory true, (fresh, calls)⟩ with
    | ok result last => rfl
    | error stop last => rfl

end Sandbox

end GuestSandbox
