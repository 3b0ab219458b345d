import GuestSandbox.Proofs.Delivery
import GuestSandbox.Proofs.Gate.History
import GuestSandbox.Proofs.Run.Happenings
import GuestSandbox.Proofs.Run.Rounds
import Mathlib.Data.List.Forall2

-- What is put off in a run is settled in its order, once each. A run may end in the middle of a round; then what has
-- been settled is a beginning of what was put off.

namespace GuestSandbox

open Operation Relation RunState

namespace Event

def deferred? : Event → Option UInt32
  | .asked _ _ _ reply => reply.id?
  | _ => none

def settlement? : Event → Option String
  | .engine (.call .settle text) _ => some text
  | _ => none

def jobs? : Event → Option Nat
  | .engine (.runJobs greatest) _ => some greatest
  | _ => none

end Event

namespace Execution

variable {σ : Type}

-- The numbers that guest code was told to wait for, the texts handed to it as settlements and the sizes of the batches
-- of jobs, each in order.
def deferred (events : List Event) : List UInt32 := events.filterMap Event.deferred?
def settlements (events : List Event) : List String := events.filterMap Event.settlement?
def jobs (events : List Event) : List Nat := events.filterMap Event.jobs?

theorem deferred_same {events : List Event} {event : Event} (other : event.deferred? = none) :
    deferred (events ++ [event]) = deferred events := by
  rw [deferred, Gate.filterMap_concat, other, Option.toList_none, List.append_nil, deferred]

def Settles (texts : List String) (ids : List UInt32) : Prop :=
  List.Forall₂ (fun text id => ∃ outcome, text = Delivery.text ⟨id, outcome⟩) texts ids

theorem Settles.unique {texts : List String} {ids others : List UInt32} (settles : Settles texts ids)
    (also : Settles texts others) : others = ids := by
  induction settles generalizing others with
  | nil => cases also; rfl
  | cons here _ ih =>
    obtain ⟨outcome, rfl⟩ := here
    cases also with
    | cons there rest =>
      obtain ⟨outcome', same⟩ := there
      have number := Delivery.id_of_text same
      dsimp only at number
      rw [ih rest, number]

-- A run that has settled some numbers and has taken some requests. What waits comes after them.
structure Pending (policy : Policy) (settled : List UInt32) (taken : List Deferred) (run : RunState) : Prop where
  samePolicy : run.gate.policy = policy
  numbered : Gate.Numbered (deferred run.journal.events) run.gate
  order : deferred run.journal.events = settled ++ (taken ++ run.gate.queue).map (·.id)

namespace Pending

variable {policy : Policy} {settled : List UInt32} {taken : List Deferred} {run after : RunState}

theorem start (sandbox : Sandbox) (inventory : Inventory) :
    Pending sandbox.policy [] [] (sandbox.begun inventory true) :=
  ⟨rfl, .start _ _, rfl⟩

-- Whatever asks nothing and leaves the gate's numbers and queue alone.
theorem kept (pending : Pending policy settled taken run) (samePolicy : after.gate.policy = run.gate.policy)
    (hostCalls : after.gate.hostCalls = run.gate.hostCalls) (nextId : after.gate.nextId = run.gate.nextId)
    (queue : after.gate.queue = run.gate.queue)
    (same : deferred after.journal.events = deferred run.journal.events) : Pending policy settled taken after := by
  refine ⟨samePolicy.trans pending.samePolicy, ?_, ?_⟩
  · rw [same]
    exact pending.numbered.kept nextId (Nat.le_of_eq hostCalls.symm) samePolicy
  · rw [same, queue]
    exact pending.order

theorem works (pending : Pending policy settled taken run) {limits : Policy} (step : run.Works limits after) :
    Pending policy settled taken after := by
  cases step with
  | supplies step => cases step with
    | traffic sends => cases sends with
      | sent request => exact pending.kept rfl rfl rfl rfl (deferred_same rfl)
      | waited left => exact pending.kept rfl rfl rfl rfl rfl
    | counted installs => exact pending.kept rfl rfl rfl rfl rfl
    | stored library => exact pending.kept rfl rfl rfl rfl rfl
  | installed absent room => exact pending.kept rfl rfl rfl rfl (deferred_same rfl)

theorem plays (small : policy.execMaxHostCalls < UInt32.size) (pending : Pending policy settled taken run)
    (step : run.Plays after) : Pending policy settled taken after := by
  cases step with
  | asked function first second =>
    cases called : run.gate.call function first second with
    | mk reply gate =>
    rw [ask_of_call called]
    have answer := Gate.call_answer called
    have more : deferred (run.journal.record (.asked function first second reply)).events =
        deferred run.journal.events ++ reply.id?.toList := Gate.filterMap_concat _ _ _
    refine ⟨answer.policy.trans pending.samePolicy, ?_, ?_⟩ <;> dsimp only
    · rw [more]
      exact pending.numbered.answered (by rwa [pending.samePolicy]) answer
    · rw [more, pending.order, answer.queue, ← answer.request_id]
      cases Gate.Call.request? ⟨function, first, second, reply⟩ <;> simp
  | slept ms => exact pending.kept rfl rfl rfl rfl rfl

theorem called (pending : Pending policy settled taken run) (call : EngineCall) (succeeded : Bool) :
    Pending policy settled taken (run.record (.engine call succeeded)) :=
  pending.kept rfl rfl rfl rfl (deferred_same rfl)

theorem happens (small : policy.execMaxHostCalls < UInt32.size) (pending : Pending policy settled taken run)
    {limits : Policy} (step : run.Happens limits after) : Pending policy settled taken after := by
  cases step with
  | works step => exact pending.works step
  | plays step => exact pending.plays small step
  | called call succeeded => exact pending.called call succeeded

theorem took (pending : Pending policy settled [] run) :
    Pending policy settled run.gate.queue { run with gate := run.gate.takeWaiting.2 } := by
  refine ⟨pending.samePolicy, pending.numbered.kept rfl (Nat.le_refl _) rfl, ?_⟩
  simpa [Gate.takeWaiting] using pending.order

theorem settle {request : Deferred} {rest : List Deferred} (pending : Pending policy settled (request :: rest) run) :
    Pending policy (settled ++ [request.id]) rest run :=
  ⟨pending.samePolicy, pending.numbered, by simpa using pending.order⟩

end Pending

-- At each moment, what has been settled is a beginning of what has been put off by then.
def Prompt (before during : List Event) : Prop :=
  ∀ earlier, earlier <+: during → ∃ ids, Settles (settlements earlier) ids ∧ ids <+: deferred (before ++ earlier)

-- Such a run, with what has happened since a point: a settlement under each of the numbers, in their order, and a batch
-- of jobs for each round.
structure Progress (policy : Policy) (before : List Event) (rounds : Nat) (settled : List UInt32)
    (taken : List Deferred) (run : RunState) : Prop extends Pending policy settled taken run where
  since : ∃ during, run.journal.events = before ++ during ∧ Settles (settlements during) settled ∧
    jobs during = List.replicate rounds roundJobs ∧ Prompt before during

namespace Progress

variable {policy : Policy} {before : List Event} {rounds : Nat} {settled : List UInt32} {taken : List Deferred}
  {run after : RunState}

theorem start (pending : Pending policy [] [] run) : Progress policy run.journal.events 0 [] [] run := by
  refine ⟨pending, [], (List.append_nil _).symm, .nil, rfl, fun earlier beginning => ?_⟩
  rw [List.prefix_nil.mp beginning]
  exact ⟨[], .nil, List.nil_prefix⟩

theorem quiet (progress : Progress policy before rounds settled taken run)
    (pending : Pending policy settled taken after) (events : after.journal.events = run.journal.events) :
    Progress policy before rounds settled taken after :=
  ⟨pending, by rw [events]; exact progress.since⟩

theorem recorded (event : Event) (numbers : List UInt32) (more : Nat) {rest : List Deferred}
    (progress : Progress policy before rounds settled taken run)
    (pending : Pending policy (settled ++ numbers) rest after)
    (events : after.journal.events = run.journal.events ++ [event])
    (settles : Settles event.settlement?.toList numbers)
    (batches : event.jobs?.toList = List.replicate more roundJobs) :
    Progress policy before (rounds + more) (settled ++ numbers) rest after := by
  obtain ⟨during, since, settledSince, jobsSince, prompt⟩ := progress.since
  have events : after.journal.events = before ++ (during ++ [event]) := by rw [events, since, List.append_assoc]
  have settledNow : Settles (settlements (during ++ [event])) (settled ++ numbers) := by
    rw [settlements, Gate.filterMap_concat]
    exact List.rel_append settledSince settles
  refine ⟨pending, during ++ [event], events, settledNow, ?_, fun earlier beginning => ?_⟩
  · rw [jobs, Gate.filterMap_concat, ← jobs, jobsSince, batches, List.replicate_append_replicate]
  · rcases List.prefix_concat_iff.mp beginning with rfl | old
    · exact ⟨_, settledNow, by rw [← events, pending.order]; exact List.prefix_append _ _⟩
    · exact prompt earlier old

theorem noted (event : Event) (progress : Progress policy before rounds settled taken run)
    (pending : Pending policy settled taken after) (events : after.journal.events = run.journal.events ++ [event])
    (settlement : event.settlement? = none) (batch : event.jobs? = none) :
    Progress policy before rounds settled taken after := by
  have same : Pending policy (settled ++ []) taken after := by simpa using pending
  have next := progress.recorded event [] 0 same events (by rw [settlement]; exact .nil) (by rw [batch]; rfl)
  simpa using next

theorem works {limits : Policy} (progress : Progress policy before rounds settled taken run)
    (step : run.Works limits after) : Progress policy before rounds settled taken after := by
  have pending := progress.toPending.works step
  cases step with
  | supplies step => cases step with
    | traffic sends => cases sends with
      | sent request => exact progress.noted (.sent request) pending rfl rfl rfl
      | waited left => exact progress.quiet pending rfl
    | counted installs => exact progress.quiet pending rfl
    | stored library => exact progress.quiet pending rfl
  | @installed record absent room =>
    exact progress.noted (.persisted (run.inventory.insert record)) pending rfl rfl rfl

theorem plays (small : policy.execMaxHostCalls < UInt32.size)
    (progress : Progress policy before rounds settled taken run) (step : run.Plays after) :
    Progress policy before rounds settled taken after := by
  have pending := progress.toPending.plays small step
  cases step with
  | asked function first second => exact progress.noted (.asked function first second _) pending rfl rfl rfl
  | slept ms => exact progress.quiet pending rfl

theorem played (small : policy.execMaxHostCalls < UInt32.size)
    (progress : Progress policy before rounds settled taken run) (plays : ReflTransGen Plays run after) :
    Progress policy before rounds settled taken after := by
  induction plays with
  | refl => exact progress
  | tail _ step ih => exact ih.plays small step

theorem took (progress : Progress policy before rounds settled [] run) :
    Progress policy before rounds settled run.gate.queue { run with gate := run.gate.takeWaiting.2 } :=
  ⟨progress.toPending.took, progress.since⟩

theorem settledOne {request : Deferred} {rest : List Deferred}
    (progress : Progress policy before rounds settled (request :: rest) run) (outcome : Except Failure Json)
    (succeeded : Bool) : Progress policy before rounds (settled ++ [request.id]) rest
      (run.record (.engine (.call .settle (Delivery.text ⟨request.id, outcome⟩)) succeeded)) :=
  progress.recorded (.engine (.call .settle _) succeeded) [request.id] 0 (progress.toPending.settle.called _ _) rfl
    (.cons ⟨outcome, rfl⟩ .nil) rfl

theorem ranJobs (progress : Progress policy before rounds settled taken run) (succeeded : Bool) :
    Progress policy before (rounds + 1) settled taken (run.record (.engine (.runJobs roundJobs) succeeded)) := by
  have pending := progress.toPending.called (.runJobs roundJobs) succeeded
  have same : Pending policy (settled ++ []) taken (run.record (.engine (.runJobs roundJobs) succeeded)) := by
    simpa using pending
  simpa using progress.recorded (.engine (.runJobs roundJobs) succeeded) [] 1 same rfl .nil rfl

end Progress

def Stage (policy : Policy) (before : List Event) (rounds : Nat) (taken : List Deferred)
    (execution : Execution σ) : Prop :=
  ∃ settled, Progress policy before rounds settled taken execution.run

-- Where a round may break off: with anything left of what it took.
def Amid (policy : Policy) (before : List Event) (rounds : Nat) (execution : Execution σ) : Prop :=
  ∃ ran ≤ rounds, ∃ taken, Stage policy before ran taken execution

section Leads

variable {sandbox : Sandbox} {engine : Engine σ} {before : List Event} {rounds more limit : Nat}
  {taken rest : List Deferred}

theorem hosted_leads {α : Type} {operation : Operation RunState α} (bound : rounds ≤ limit)
    (works : Moves (Works sandbox.policy) operation) :
    Leads (Stage sandbox.policy before rounds taken) (hosted operation : Operation (Execution σ) α)
      (fun _ => Stage sandbox.policy before rounds taken) (Amid sandbox.policy before limit) := by
  refine .of_after (fun execution stage => ?_) fun execution stage => ⟨rounds, bound, taken, stage⟩
  refine (hosted_works works).keeps _ (fun _ _ step stage => ?_) stage
  obtain ⟨settled, progress⟩ := stage
  exact ⟨settled, progress.works step⟩

theorem step_leads {α : Type} {call : EngineCall} {guest : σ → Guest (Except EngineFault α × σ)}
    (small : sandbox.policy.execMaxHostCalls < UInt32.size) (bound : more ≤ limit)
    (recorded : ∀ settled run succeeded, Progress sandbox.policy before rounds settled taken run →
      ∃ next, Progress sandbox.policy before more next rest (run.record (.engine call succeeded))) :
    Leads (Stage sandbox.policy before rounds taken) (step call guest)
      (fun _ => Stage sandbox.policy before more rest) (Amid sandbox.policy before limit) := by
  refine .of_after (fun execution stage => ?_) fun execution stage => ⟨more, bound, rest, stage⟩
  obtain ⟨played, succeeded, plays, last⟩ := step_after call guest execution
  obtain ⟨settled, progress⟩ := stage
  rw [Stage, last]
  exact recorded settled played succeeded (progress.played small plays)

theorem deliverAll_leads (small : sandbox.policy.execMaxHostCalls < UInt32.size) (bound : rounds ≤ limit)
    (requests : List Deferred) :
    Leads (Stage sandbox.policy before rounds requests) (deliverAll sandbox engine requests)
      (fun _ => Stage sandbox.policy before rounds []) (Amid sandbox.policy before limit) := by
  induction requests with
  | nil => exact .pure ()
  | cons request rest ih =>
    refine .bind (hosted_leads bound (sandbox.inTime_works (sandbox.carryOut_works _))) fun outcome => ?_
    refine .bind (step_leads small bound fun settled run succeeded progress => ?_) fun _ => ih
    exact ⟨_, progress.settledOne outcome succeeded⟩

theorem round_leads (small : sandbox.policy.execMaxHostCalls < UInt32.size) :
    Leads (Stage sandbox.policy before rounds []) (round sandbox engine)
      (fun _ => Stage sandbox.policy before (rounds + 1) []) (Amid sandbox.policy before (rounds + 1)) := by
  have took : Leads (Stage sandbox.policy before rounds []) (takeWaiting : Operation (Execution σ) (List Deferred))
      (fun requests => Stage sandbox.policy before rounds requests) (Amid sandbox.policy before (rounds + 1)) :=
    fun execution ⟨settled, progress⟩ => ⟨settled, progress.took⟩
  have jobs : Leads (Stage sandbox.policy before rounds []) (runJobs engine roundJobs)
      (fun _ => Stage sandbox.policy before (rounds + 1) []) (Amid sandbox.policy before (rounds + 1)) :=
    step_leads small (Nat.le_refl _) fun settled run succeeded progress => ⟨settled, progress.ranJobs succeeded⟩
  refine .bind took fun requests => .bind (deliverAll_leads small (Nat.le_succ _) requests) fun _ => ?_
  exact .bind jobs fun _ => hosted_leads (Nat.le_refl _) sandbox.stillInTime_works

theorem Rounds.stage {start last : Execution σ} (small : sandbox.policy.execMaxHostCalls < UInt32.size)
    (ran : Rounds sandbox engine rounds start last) (begun : Stage sandbox.policy before more [] start) :
    Stage sandbox.policy before (more + rounds) [] last := by
  induction ran generalizing more with
  | none execution => exact begun
  | more busy ran rest ih =>
    have next := ih ((round_leads small).good_of_ok begun ran)
    rwa [Nat.add_right_comm] at next

-- Where the rounds have ended, for whatever reason. Nothing is left of what they took where nothing is left to do.
theorem Drains.stage {budget : Nat} {start : Execution σ} (small : sandbox.policy.execMaxHostCalls < UInt32.size)
    (drains : Drains sandbox engine budget start rounds (untilIdle sandbox engine budget start))
    (begun : Stage sandbox.policy before 0 [] start) :
    let last := (untilIdle sandbox engine budget).after start
    ∃ ran ≤ rounds, ∃ taken, Stage sandbox.policy before ran taken last ∧
      (untilIdle sandbox engine budget start = .ok () last → taken = [] ∧ isIdle engine last = true) := by
  generalize ended : untilIdle sandbox engine budget start = result at drains ⊢
  cases drains with
  | idle ran idle =>
    rw [after_of_ok ended]
    exact ⟨_, Nat.le_of_eq (Nat.zero_add _), [], ran.stage small begun, fun _ => ⟨rfl, idle⟩⟩
  | spent ran busy =>
    rw [after_of_error ended]
    exact ⟨_, Nat.le_of_eq (Nat.zero_add _), [], ran.stage small begun, nofun⟩
  | broken ran busy broke =>
    rw [after_of_error ended]
    obtain ⟨more, bound, taken, stage⟩ := (round_leads small).bad_of_error (ran.stage small begun) broke
    exact ⟨more, by omega, taken, stage, nofun⟩

end Leads

variable {sandbox : Sandbox} {engine : Engine σ} {input : RunInput} {inventory : Inventory} {fresh : σ}
  {start : Execution σ}

-- Before the first round nothing is settled, whatever guest code has put off.
theorem opening_stage (small : sandbox.policy.execMaxHostCalls < UInt32.size)
    (opened : opening sandbox engine input ⟨sandbox.begun inventory true, fresh⟩ = .ok () start) :
    Stage sandbox.policy start.run.journal.events 0 [] start := by
  have pending : Pending sandbox.policy [] [] start.run := by
    rw [← after_of_ok opened]
    refine (opening_happens sandbox engine input).keeps (fun execution => Pending sandbox.policy [] [] execution.run)
      (fun _ _ step pending => pending.happens small step) ?_
    exact .start sandbox inventory
  exact ⟨[], .start pending⟩

-- Whatever the engine, its guest code and the network do, the rounds of a run are no more than the budget, each has at
-- most one batch of jobs, and each request is settled at most once, in the order of the requests. Only where the rounds
-- end without a failure is every request settled.
theorem untilIdle_settles (small : sandbox.policy.execMaxHostCalls < UInt32.size)
    (opened : opening sandbox engine input ⟨sandbox.begun inventory true, fresh⟩ = .ok () start) :
    let budget := sandbox.policy.execMaxHostCalls
    let drain := untilIdle sandbox engine budget
    let last := drain.after start
    (∃ rounds ≤ budget, Drains sandbox engine budget start rounds (drain start) ∧
      ∃ during settled, last.run.journal.events = start.run.journal.events ++ during ∧
        (∃ batches ≤ rounds, jobs during = List.replicate batches 256) ∧
        (∀ ids, Settles (settlements during) ids ↔ ids = settled) ∧
        Prompt start.run.journal.events during ∧ settled.Nodup ∧ settled.length ≤ budget ∧
        (drain start = .ok () last → last.run.gate.queue = [] ∧ engine.hasJobs last.engine = false ∧
          settled = deferred last.run.journal.events)) ∧
      ∀ final, drain start = .error (.failed (.pendingJobs budget)) final ↔
        Rounds sandbox engine budget start final ∧ isIdle engine final = false := by
  intro budget drain last
  refine ⟨?_, fun final => untilIdle_spent_iff⟩
  obtain ⟨rounds, bound, drains⟩ := untilIdle_drains sandbox engine budget start
  obtain ⟨batches, fewer, taken, ⟨settled, progress⟩, idle⟩ := drains.stage small (opening_stage small opened)
  obtain ⟨during, events, settles, ran, prompt⟩ := progress.since
  have beginning : settled <+: deferred last.run.journal.events := ⟨_, progress.order.symm⟩
  refine ⟨rounds, bound, drains, during, settled, events, ⟨batches, fewer, ran⟩, ?_, prompt, ?_, ?_, fun ok => ?_⟩
  · exact fun ids => ⟨fun also => settles.unique also, fun same => same ▸ settles⟩
  · exact progress.numbered.nodup.sublist beginning.sublist
  · have few := progress.numbered.budget
    rw [progress.samePolicy] at few
    exact Nat.le_trans beginning.length_le few
  · obtain ⟨rfl, still⟩ := idle ok
    obtain ⟨empty, quiet⟩ := isIdle_iff.mp still
    exact ⟨empty, quiet, by simpa [empty] using progress.order.symm⟩

-- Guest code that asks for two packages, and for one more when it is told of the first.
def askingThrice : Engine Nat where
  name := "asking"
  create _ _ := .ok 0
  install _ told := (.ok (), told)
  eval _ told := .done (.ok (), told)
  call entry _ told := match entry, told with
    | .run, _ => .ask .pkgInstall "zod" "" fun _ => .ask .pkgInstall "left-pad" "" fun _ => .done (.ok "", told)
    | .settle, 0 => .ask .pkgInstall "uuid" "" fun _ => .done (.ok "", 1)
    | .settle, told + 1 => .done (.ok "", told + 2)
    | _, _ => .done (.ok "", told)
  hasJobs _ := false
  runJobs _ told := .done (.ok 0, told)
  dispose := id

-- Without a network each request fails, and each failure is handed back once. The third request comes while the first
-- one is settled, and waits behind the second.
theorem untilIdle_settles_failure :
    let sandbox : Sandbox := { policy := { execMaxHostCalls := 3 }, net := Network.disabled, stamp := "" }
    let fresh : Execution Nat := ⟨sandbox.begun .empty true, 0⟩
    let start := (opening sandbox askingThrice ⟨"", .null⟩).after fresh
    let last := (untilIdle sandbox askingThrice 3).after start
    sandbox.policy.execMaxHostCalls < UInt32.size ∧ opening sandbox askingThrice ⟨"", .null⟩ fresh = .ok () start ∧
      deferred start.run.journal.events = [1, 2] ∧ deferred last.run.journal.events = [1, 2, 3] ∧
      Settles (settlements (last.run.journal.events.drop start.run.journal.events.length)) [1, 2, 3] := by
  intro sandbox fresh start last
  have small : sandbox.policy.execMaxHostCalls < UInt32.size := by decide
  have opened : opening sandbox askingThrice ⟨"", .null⟩ fresh = .ok () start := ok_of_succeeds (by decide +kernel)
  have ended : untilIdle sandbox askingThrice 3 start = .ok () last := ok_of_succeeds (by decide +kernel)
  have asked : deferred last.run.journal.events = [1, 2, 3] := by decide +kernel
  obtain ⟨⟨rounds, _, _, during, settled, events, _, settles, _, _, _, all⟩, _⟩ := untilIdle_settles small opened
  have since : last.run.journal.events.drop start.run.journal.events.length = during := by
    rw [show last.run.journal.events = _ from events, List.drop_left]
  rw [since]
  exact ⟨small, opened, by decide +kernel, asked, (settles [1, 2, 3]).mpr (asked.symm.trans (all ended).2.2.symm)⟩

end Execution

end GuestSandbox
