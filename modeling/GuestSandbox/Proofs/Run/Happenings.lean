import GuestSandbox.Proofs.Package.Obtaining
import GuestSandbox.Proofs.Run.Endings

-- What can happen in a run, one thing at a time. Whatever a run does and wherever it ends, it got there by such steps.

namespace GuestSandbox

open Operation Relation

namespace RunState

inductive Supplies (run : RunState) : RunState → Prop where
  | traffic {journal : Journal} (sends : run.journal.Sends journal) : Supplies run { run with journal }
  | counted {tally : Tally} (installs : tally.packageInstalls = run.tally.packageInstalls) :
      Supplies run { run with tally }
  | stored (library : Library) : Supplies run { run with library }

inductive Works (policy : Policy) (run : RunState) : RunState → Prop where
  | supplies {after : RunState} (step : run.Supplies after) : Works policy run after
  | installed {record : PackageRecord} (absent : run.inventory.get? record.spec = none)
      (room : run.tally.packageInstalls < policy.pkgMaxInstallsPerRun) :
      Works policy run (run.withInstalling (run.installing.add record)).showInventory

inductive Plays (run : RunState) : RunState → Prop where
  | asked (function : HostCall) (first second : String) : Plays run (run.ask function first second).2
  | slept (ms : Nat) : Plays run { run with elapsed := run.elapsed + ms }

inductive Happens (policy : Policy) (run : RunState) : RunState → Prop where
  | works {after : RunState} (step : run.Works policy after) : Happens policy run after
  | plays {after : RunState} (step : run.Plays after) : Happens policy run after
  | called (call : EngineCall) (succeeded : Bool) : Happens policy run (run.record (.engine call succeeded))

inductive Advances (policy : Policy) (run : RunState) : RunState → Prop where
  | happens {after : RunState} (step : run.Happens policy after) : Advances policy run after
  | took : Advances policy run { run with gate := run.gate.takeWaiting.2 }

theorem ask_of_call {run : RunState} {function : HostCall} {first second : String} {reply : Envelope} {gate : Gate}
    (called : run.gate.call function first second = (reply, gate)) : run.ask function first second =
      (reply, { run with gate, journal := run.journal.record (.asked function first second reply) }) := by
  rw [ask, called]

-- Guest code writes nothing into a journal but its own questions.
theorem Plays.filterMap_events {α : Type} {pick : Event → Option α}
    (unasked : ∀ function first second reply, pick (.asked function first second reply) = none) {run after : RunState}
    (step : run.Plays after) : after.journal.events.filterMap pick = run.journal.events.filterMap pick := by
  cases step with
  | asked function first second => exact run.journal.filterMap_record (unasked function first second _)
  | slept ms => rfl

theorem supplies_of_traffic {run : RunState} {journal : Journal}
    (traffic : ReflTransGen Journal.Sends run.journal journal) : ReflTransGen Supplies run { run with journal } :=
  ReflTransGen.lift (fun journal => { run with journal }) (fun _ _ sends => .traffic sends) _ _ traffic

theorem works_of_supplies {policy : Policy} {run after : RunState} (supplies : ReflTransGen Supplies run after) :
    ReflTransGen (Works policy) run after :=
  ReflTransGen.mono (fun _ _ step => .supplies step) _ _ supplies

end RunState

open RunState

namespace Sandbox

variable {α : Type} (sandbox : Sandbox)

theorem fetch_supplies (url : String) (options : FetchOptions) : Moves Supplies (sandbox.fetch url options) := by
  refine .bind (.on (fun _ => rfl) ?_ (Fetch.carryOut_moves _ _ _ _)) fun reply => .pure _
  intro run before after sends
  cases sends with
  | traffic sends => exact .traffic sends
  | counted installs => exact .counted installs

theorem gather_supplies (entry : Url) (known : Option String) : Moves Supplies (sandbox.gather entry known) := by
  refine .on (fun _ => rfl) ?_ (Loading.gather_moves _ _ _ _)
  intro run before after adds
  cases adds with
  | traffic sends => exact .traffic sends
  | stored library => exact .stored library

theorem link_supplies (installed : Obtained) : Moves Supplies (sandbox.link installed) := by
  unfold link
  split
  · exact .fail _
  · refine .bind (.modify fun run => .stored _) fun _ => ?_
    exact .bind (sandbox.gather_supplies _ _) fun _ => .pure _

theorem install_cases (spec : String) (run : RunState) :
    ReflTransGen Supplies run ((sandbox.install spec).after run) ∨
      ∃ begun record, ReflTransGen Supplies run begun ∧ begun.inventory.get? record.spec = none ∧
        begun.tally.packageInstalls < sandbox.policy.pkgMaxInstallsPerRun ∧
        ReflTransGen Supplies (begun.withInstalling (begun.installing.add record)).showInventory
          ((sandbox.install spec).after run) := by
  have outcome := Installing.obtain_outcome sandbox.net sandbox.policy sandbox.host sandbox.stamp spec run.installing
  unfold install
  generalize ran : Installing.obtain sandbox.net sandbox.policy sandbox.host sandbox.stamp spec run.installing = result
    at outcome
  cases outcome with
  | failed traffic =>
    rw [after_of_error (bind_of_error (on_of_error ran))]
    exact .inl (supplies_of_traffic traffic)
  | @present record _ read there =>
    rw [after, bind_of_ok (on_of_ok ran)]
    exact .inl (sandbox.link_supplies ⟨record, none⟩ run)
  | @added record source journal read absent room traffic =>
    rw [after, bind_of_ok (on_of_ok ran)]
    exact .inr ⟨_, record, supplies_of_traffic traffic, absent, room, sandbox.link_supplies ⟨record, some source⟩ _⟩

theorem install_works (spec : String) : Moves (Works sandbox.policy) (sandbox.install spec) := by
  intro run
  rcases sandbox.install_cases spec run with nothing | ⟨begun, record, before, absent, room, behind⟩
  · exact works_of_supplies nothing
  · exact ((works_of_supplies before).tail (.installed absent room)).trans (works_of_supplies behind)

theorem carryOut_works (operation : HostOperation) : Moves (Works sandbox.policy) (sandbox.carryOut operation) := by
  cases operation with
  | pkgInstall spec => exact sandbox.install_works spec
  | fetch url options => exact (sandbox.fetch_supplies url options).mono fun _ _ step => .supplies step

-- An operation in time ends where the operation ends that has so much time, but for the time left.
theorem inTime_after (operation : Operation RunState α) (run : RunState) :
    (sandbox.inTime operation).after run =
      (operation.after (run.within (some (sandbox.policy.execTimeoutMs - sandbox.timeTaken run)))).within none := by
  unfold after inTime
  generalize operation (run.within _) = result
  cases result with
  | ok value last => rfl
  | error stop last => cases stop <;> rfl

-- Whatever kind of steps an operation goes by, it goes by them in time too, where the time left makes no difference.
theorem inTime_moves {kind : RunState → RunState → Prop} (waited : ∀ left run, kind run (run.within left))
    {operation : Operation RunState α} (moves : Moves kind operation) : Moves kind (sandbox.inTime operation) := by
  intro run
  rw [inTime_after]
  exact ((ReflTransGen.single (waited _ run)).trans (moves _)).tail (waited none _)

theorem waited_works (policy : Policy) (left : Option Nat) (run : RunState) : Works policy run (run.within left) :=
  .supplies (.traffic (.waited left))

theorem inTime_works {operation : Operation RunState α} (works : Moves (Works sandbox.policy) operation) :
    Moves (Works sandbox.policy) (sandbox.inTime operation) := sandbox.inTime_moves (waited_works sandbox.policy) works

theorem stillInTime_moves (kind : RunState → RunState → Prop) : Moves kind sandbox.stillInTime := by
  intro run
  by_cases late : sandbox.policy.execTimeoutMs ≤ sandbox.timeTaken run
  · rw [after_of_error (show sandbox.stillInTime run = _ from if_pos late)]
  · rw [after_of_ok (show sandbox.stillInTime run = _ from if_neg late)]

theorem stillInTime_works : Moves (Works sandbox.policy) sandbox.stillInTime := sandbox.stillInTime_moves _

theorem obtain_moves {kind : RunState → RunState → Prop} (waited : ∀ left run, kind run (run.within left))
    (installs : ∀ spec, Moves kind (sandbox.install spec)) (gathers : ∀ url, Moves kind (sandbox.gather url none))
    (target : Target) : Moves kind (sandbox.obtain target) := by
  cases target with
  | package spec =>
    simp only [obtain]
    split
    · exact sandbox.inTime_moves waited (installs spec).discard
    · exact .pure _
  | hosted url => exact sandbox.inTime_moves waited (gathers url).discard

theorem obtainImport_moves {kind : RunState → RunState → Prop} (obtains : ∀ target, Moves kind (sandbox.obtain target))
    (noted : ∀ run name message, kind run { run with library := run.library.withFailure name message })
    (specifier : String) : Moves kind (sandbox.obtainImport specifier) := by
  unfold obtainImport
  split
  · exact .pure _
  · refine .bind (obtains _) fun outcome => ?_
    cases outcome with
    | ok _ => exact .pure _
    | error failure => exact .modify fun run => noted run _ _

theorem obtain_works (target : Target) : Moves (Works sandbox.policy) (sandbox.obtain target) :=
  sandbox.obtain_moves (waited_works sandbox.policy) sandbox.install_works
    (fun url => (sandbox.gather_supplies url none).mono fun _ _ step => .supplies step) target

theorem obtainImport_works (specifier : String) :
    Moves (Works sandbox.policy) (sandbox.obtainImport specifier) :=
  sandbox.obtainImport_moves sandbox.obtain_works (fun _ _ _ => .supplies (.stored _)) specifier

theorem obtainImports_works (specifiers : List String) :
    Moves (Works sandbox.policy) (sandbox.obtainImports specifiers) := by
  induction specifiers with
  | nil => exact .pure _
  | cons specifier rest ih => exact .bind (sandbox.obtainImport_works specifier) fun _ => ih

end Sandbox

theorem Guest.play_plays {α : Type} (guest : Guest α) (run : RunState) :
    ReflTransGen Plays run (guest.play run).2 := by
  induction guest generalizing run with
  | done result => exact .refl
  | ask function first second resume ih => exact .head (.asked function first second) (ih _ _)
  | look resume ih => exact ih _ run
  | sleep ms resume ih => exact .head (.slept ms) (ih _)

namespace Execution

variable {σ α : Type}

-- Steps of a run, while its engine may be in any state.
abbrev Over (step : RunState → RunState → Prop) (before after : Execution σ) : Prop := step before.run after.run

theorem hosted_after (operation : Operation RunState α) (execution : Execution σ) :
    (hosted operation).after execution = execution.withRun (operation.after execution.run) := after_on _ _ _ _

theorem hosted_moves {kind : RunState → RunState → Prop} {operation : Operation RunState α}
    (moves : Moves kind operation) : Moves (Over kind) (hosted operation : Operation (Execution σ) α) :=
  moves.on (fun _ => rfl) fun _ _ _ step => step

theorem hosted_works {policy : Policy} {operation : Operation RunState α} (works : Moves (Works policy) operation) :
    Moves (Over (Works policy)) (hosted operation : Operation (Execution σ) α) := hosted_moves works

theorem hosted_happens {policy : Policy} {operation : Operation RunState α} (works : Moves (Works policy) operation) :
    Moves (Over (Happens policy)) (hosted operation : Operation (Execution σ) α) :=
  (hosted_works works).mono fun _ _ step => .works step

-- A call of the engine is written down when the guest code in it has ended.
theorem step_after (call : EngineCall) (guest : σ → Guest (Except EngineFault α × σ)) (execution : Execution σ) :
    ∃ played succeeded, ReflTransGen Plays execution.run played ∧
      ((step call guest).after execution).run = played.record (.engine call succeeded) := by
  have plays := Guest.play_plays (guest execution.engine) execution.run
  unfold after step
  generalize (guest execution.engine).play execution.run = ended at plays ⊢
  obtain ⟨⟨result, engine⟩, run⟩ := ended
  cases result with
  | ok value => exact ⟨run, true, plays, rfl⟩
  | error fault => exact ⟨run, false, plays, rfl⟩

theorem step_moves {kind : RunState → RunState → Prop} (played : ∀ before after, Plays before after → kind before after)
    (called : ∀ run call succeeded, kind run (run.record (.engine call succeeded))) (call : EngineCall)
    (guest : σ → Guest (Except EngineFault α × σ)) : Moves (Over kind) (step call guest) := by
  intro execution
  obtain ⟨last, succeeded, plays, recorded⟩ := step_after call guest execution
  have begun : ReflTransGen (Over kind) execution ⟨last, execution.engine⟩ :=
    ReflTransGen.lift (Execution.mk · execution.engine) played _ _ plays
  refine begun.tail ?_
  show kind last _
  rw [recorded]
  exact called last call succeeded

theorem step_happens (policy : Policy) (call : EngineCall) (guest : σ → Guest (Except EngineFault α × σ)) :
    Moves (Over (Happens policy)) (step call guest) :=
  step_moves (fun _ _ step => .plays step) (fun _ call succeeded => .called call succeeded) call guest

variable (sandbox : Sandbox) (engine : Engine σ)

theorem installAll_happens (policy : Policy) (functions : List HostCall) :
    Moves (Over (Happens policy)) (installAll engine functions) := by
  induction functions with
  | nil => exact .pure _
  | cons function rest ih => exact .bind (step_happens policy _ _) fun _ => ih

theorem opening_happens (input : RunInput) : Moves (Over (Happens sandbox.policy)) (opening sandbox engine input) := by
  refine .bind (installAll_happens engine _ _) fun _ => .bind (step_happens _ _ _) fun _ => ?_
  refine .bind (step_happens _ _ _) fun _ => .bind (hosted_happens (sandbox.obtainImports_works _)) fun _ => ?_
  exact .bind (step_happens _ _ _) fun _ => hosted_happens sandbox.stillInTime_works

theorem deliverAll_happens (requests : List Deferred) :
    Moves (Over (Happens sandbox.policy)) (deliverAll sandbox engine requests) := by
  induction requests with
  | nil => exact .pure _
  | cons request rest ih =>
    refine .bind (hosted_happens (sandbox.inTime_works (sandbox.carryOut_works _))) fun outcome => ?_
    exact .bind (step_happens _ _ _) fun _ => ih

theorem round_advances : Moves (Over (Advances sandbox.policy)) (round sandbox engine) := by
  have happens : ∀ before after : Execution σ, Over (Happens sandbox.policy) before after →
      Over (Advances sandbox.policy) before after := fun _ _ step => .happens step
  refine .bind (fun execution => .single .took) fun requests => ?_
  refine .bind ((deliverAll_happens sandbox engine requests).mono happens) fun _ => ?_
  refine .bind ((step_happens _ _ _).mono happens) fun _ => ?_
  exact (hosted_happens sandbox.stillInTime_works).mono happens

theorem untilIdle_advances (rounds : Nat) :
    Moves (Over (Advances sandbox.policy)) (untilIdle sandbox engine rounds) := by
  induction rounds with
  | zero =>
    refine .get_bind fun execution => ?_
    split
    · exact .refl
    · exact .refl
  | succ rounds ih =>
    refine .get_bind fun execution => ?_
    split
    · exact .refl
    · exact Moves.bind (round_advances sandbox engine) (fun _ => ih) execution

theorem course_advances (input : RunInput) : Moves (Over (Advances sandbox.policy)) (course sandbox engine input) := by
  have happens : ∀ before after : Execution σ, Over (Happens sandbox.policy) before after →
      Over (Advances sandbox.policy) before after := fun _ _ step => .happens step
  refine .bind ((opening_happens sandbox engine input).mono happens) fun _ => ?_
  refine .bind (untilIdle_advances sandbox engine _) fun _ => ?_
  exact .bind ((step_happens _ _ _).mono happens) fun _ => .ofExcept _

end Execution

-- What holds of a fresh run and is kept by everything that can happen in a run holds of its last state.
theorem Sandbox.run_advances {σ : Type} (sandbox : Sandbox) (engine : Engine σ) (input : RunInput)
    (inventory : Inventory) (holds : RunState → Prop) (start : holds (.start sandbox.policy sandbox.host inventory))
    (kept : ∀ run after, run.Advances sandbox.policy after → holds run → holds after) :
    let finished := sandbox.run engine input inventory
    ∃ last, holds last ∧ finished.journal = last.journal ∧
      finished.result.stats = { last.tally with hostCalls := last.gate.hostCalls } :=
  sandbox.run_keeps engine input inventory holds start
    (fun run call succeeded => kept run _ (.happens (.called call succeeded)))
    (fun _ begun => (Execution.course_advances sandbox engine input).keeps (fun execution => holds execution.run)
      (fun _ _ step => kept _ _ step) begun)

end GuestSandbox
