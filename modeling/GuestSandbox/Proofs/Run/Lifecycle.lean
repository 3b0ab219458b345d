import GuestSandbox.Proofs.Run.Phases
import GuestSandbox.Proofs.Run.Recording

namespace GuestSandbox

open Operation Relation RunState

namespace Execution

variable {σ α : Type}

def installs (functions : List HostCall) : List EngineCall := functions.map fun function => .install function.name

def settles (texts : List String) : List EngineCall := texts.map fun text => .call .settle text

def opened (input : RunInput) : List EngineCall :=
  installs HostCall.all ++ [.eval bootstrap, .call .init input.input.text, .call .run input.code]

def drained (input : RunInput) (rounds : List (List String)) : List EngineCall :=
  opened input ++ rounds.flatMap fun texts => settles texts ++ [.runJobs 256]

-- The calls of a whole run between creation and disposal. Each round is given by the texts that are settled in it.
def lifecycle (input : RunInput) (rounds : List (List String)) : List EngineCall :=
  drained input rounds ++ [.call .finish ""]

def Called (calls : List (EngineCall × Bool)) (execution : Execution σ) : Prop :=
  execution.run.journal.engineCalls = calls

theorem step_calls (calls : List (EngineCall × Bool)) (call : EngineCall)
    (guest : σ → Guest (Except EngineFault α × σ)) : Leads (Called calls) (step call guest)
      (fun _ => Called (calls ++ [(call, true)])) (Called (calls ++ [(call, false)])) := by
  intro execution begun
  have plays := Guest.play_plays (guest execution.engine) execution.run
  unfold step
  generalize (guest execution.engine).play execution.run = ended at plays ⊢
  obtain ⟨⟨result, engine⟩, run⟩ := ended
  have played : run.journal.engineCalls = calls := (engineCalls_of_plays plays).trans begun
  cases result with
  | ok value => exact (Journal.engineCalls_record _ _).trans (by rw [played]; rfl)
  | error fault => exact (Journal.engineCalls_record _ _).trans (by rw [played]; rfl)

theorem hosted_calls {policy : Policy} {operation : Operation RunState α} (works : Moves (Works policy) operation)
    (calls : List (EngineCall × Bool)) : Leads (Called calls) (hosted operation : Operation (Execution σ) α)
      (fun _ => Called calls) (Called calls) := by
  refine .of_after (fun execution begun => ?_) fun _ same => same
  refine (hosted_works works).keeps _ (fun before after step same => ?_) begun
  exact (Works.engineCalls step).trans same

def Phase.call? (input : RunInput) : Phase → Option EngineCall
  | .installing (function :: _) => some (.install function.name)
  | .bootstrapping => some (.eval bootstrap)
  | .initialising => some (.call .init input.input.text)
  | .starting => some (.call .run input.code)
  | .settling delivery _ _ => some (.call .settle delivery.text)
  | .working _ => some (.runJobs 256)
  | .finishing => some (.call .finish "")
  | _ => none

def Phase.calls (input : RunInput) (succeeded : Bool) (phase : Phase) : List (EngineCall × Bool) :=
  (phase.call? input).toList.map (·, succeeded)

theorem Phase.silent_leads {β : Type} {input : RunInput} {phase : Phase} {calls : List (EngineCall × Bool)}
    {operation : Operation (Execution σ) β} (silent : phase.call? input = none)
    (leads : Leads (Called calls) operation (fun _ => Called calls) (Called calls)) :
    Leads (Called calls) operation (fun _ => Called (calls ++ phase.calls input true))
      (Called (calls ++ phase.calls input false)) := by
  simpa only [Phase.calls, silent, Option.toList_none, List.map_nil, List.append_nil] using leads

section

variable (sandbox : Sandbox) (engine : Engine σ) (input : RunInput)

theorem Phase.next_calls (phase : Phase) (calls : List (EngineCall × Bool)) :
    Leads (Called calls) (phase.next sandbox engine input) (fun _ => Called (calls ++ phase.calls input true))
      (Called (calls ++ phase.calls input false)) := by
  have takes : Leads (Called calls) (takeWaiting : Operation (Execution σ) (List Deferred)) (fun _ => Called calls)
      (Called calls) := fun _ begun => begun
  cases phase with
  | installing left =>
    cases left with
    | nil => exact silent_leads rfl (.pure _)
    | cons function left => exact .bind (step_calls calls _ _) fun _ => .pure _
  | bootstrapping => exact .bind (step_calls calls _ _) fun _ => .pure _
  | initialising => exact .bind (step_calls calls _ _) fun _ => .pure _
  | importing left =>
    apply silent_leads rfl
    cases left with
    | nil => exact .pure _
    | cons specifier left => exact .bind (hosted_calls (sandbox.obtainImport_works specifier) calls) fun _ => .pure _
  | starting => exact .bind (step_calls calls _ _) fun _ => .pure _
  | checking rounds =>
    apply silent_leads rfl
    exact .bind (hosted_calls sandbox.stillInTime_works calls) fun _ => .pure _
  | resting rounds =>
    apply silent_leads rfl
    cases rounds with
    | zero =>
      refine .get_bind fun execution => ?_
      split
      · exact .pure _
      · exact .fail _
    | succ rounds =>
      refine .get_bind fun execution => ?_
      split
      · exact .pure _
      · exact .bind takes fun _ => .pure _
  | serving left rounds =>
    apply silent_leads rfl
    cases left with
    | nil => exact .pure _
    | cons request left =>
      exact .bind (hosted_calls (sandbox.inTime_works (sandbox.carryOut_works _)) calls) fun _ => .pure _
  | settling delivery left rounds => exact .bind (step_calls calls _ _) fun _ => .pure _
  | working rounds => exact .bind (step_calls calls _ _) fun _ => .pure _
  | finishing => exact .bind (step_calls calls _ _) fun _ => .pure _
  | concluding finished =>
    apply silent_leads rfl
    intro execution begun
    rw [next]
    cases conclude sandbox.policy finished with
    | ok result => exact begun
    | error failure => exact begun

inductive Phase.Made (calls : List EngineCall) : Phase → Prop where
  | installing (done left : List HostCall) (all : done ++ left = HostCall.all) (made : calls = installs done) :
      Made calls (.installing left)
  | bootstrapping (made : calls = installs HostCall.all) : Made calls .bootstrapping
  | initialising (made : calls = installs HostCall.all ++ [.eval bootstrap]) : Made calls .initialising
  | importing (left : List String) (made : calls = installs HostCall.all ++ [.eval bootstrap, .call .init input.input.text]) :
      Made calls (.importing left)
  | starting (made : calls = installs HostCall.all ++ [.eval bootstrap, .call .init input.input.text]) : Made calls .starting
  | checking (rounds : List (List String)) {left : Nat}
      (budget : rounds.length + left = sandbox.policy.execMaxHostCalls) (made : calls = drained input rounds) :
      Made calls (.checking left)
  | resting (rounds : List (List String)) {left : Nat}
      (budget : rounds.length + left = sandbox.policy.execMaxHostCalls) (made : calls = drained input rounds) :
      Made calls (.resting left)
  | serving (rounds : List (List String)) (texts : List String) {requests : List Deferred} {left : Nat}
      (budget : rounds.length + (left + 1) = sandbox.policy.execMaxHostCalls)
      (made : calls = drained input rounds ++ settles texts) : Made calls (.serving requests left)
  | settling (rounds : List (List String)) (texts : List String) (delivery : Delivery) {requests : List Deferred}
      {left : Nat} (budget : rounds.length + (left + 1) = sandbox.policy.execMaxHostCalls)
      (made : calls = drained input rounds ++ settles texts) : Made calls (.settling delivery requests left)
  | working (rounds : List (List String)) (texts : List String) {left : Nat}
      (budget : rounds.length + (left + 1) = sandbox.policy.execMaxHostCalls)
      (made : calls = drained input rounds ++ settles texts) : Made calls (.working left)
  | finishing (rounds : List (List String)) (budget : rounds.length ≤ sandbox.policy.execMaxHostCalls)
      (made : calls = drained input rounds) : Made calls .finishing
  | concluding (rounds : List (List String)) {finished : String}
      (budget : rounds.length ≤ sandbox.policy.execMaxHostCalls) (made : calls = lifecycle input rounds) :
      Made calls (.concluding finished)

end

theorem drained_concat (input : RunInput) (rounds : List (List String)) (texts : List String) :
    drained input (rounds ++ [texts]) = drained input rounds ++ (settles texts ++ [.runJobs 256]) := by
  simp [drained]

theorem settles_concat (texts : List String) (text : String) :
    settles (texts ++ [text]) = settles texts ++ [.call .settle text] := by
  simp [settles]

theorem installs_concat (functions : List HostCall) (function : HostCall) :
    installs (functions ++ [function]) = installs functions ++ [.install function.name] := by
  simp [installs]

theorem prefix_of_opened {input : RunInput} {calls : List EngineCall} (beginning : calls <+: opened input) :
    calls <+: lifecycle input [] :=
  beginning.trans ⟨[.call .finish ""], by simp [lifecycle, drained]⟩

theorem amid_prefix (input : RunInput) (rounds : List (List String)) (texts : List String) :
    drained input rounds ++ settles texts <+: lifecycle input (rounds ++ [texts]) :=
  ⟨[.runJobs 256, .call .finish ""], by simp [lifecycle, drained_concat]⟩

variable {sandbox : Sandbox} {engine : Engine σ} {input : RunInput} {phase after : Phase} {calls : List EngineCall}

namespace Phase.Made

theorem turns (made : phase.Made sandbox input calls) (turns : phase.Turns sandbox input (.goes after)) :
    after.Made sandbox input (calls ++ (phase.call? input).toList) := by
  cases turns with
  | installed => cases made with
    | installing done _ all made =>
      rw [List.append_nil] at all
      exact .bootstrapping (by simp [call?, made, all])
  | installs function left => cases made with
    | installing done _ all made =>
      exact .installing (done ++ [function]) left (by simpa using all) (by rw [made, installs_concat]; rfl)
  | bootstraps => cases made with
    | bootstrapping made => exact .initialising (by rw [made]; rfl)
  | initialises => cases made with
    | initialising made => exact .importing _ (by rw [made, List.append_assoc]; rfl)
  | imported => cases made with
    | importing _ made => exact .starting (by simp [call?, made])
  | imports specifier left => cases made with
    | importing _ made => exact .importing left (by simp [call?, made])
  | starts => cases made with
    | starting made => exact .checking [] (Nat.zero_add _) (by simp [call?, made, drained, opened])
  | checks rounds => cases made with
    | checking before budget made => exact .resting before budget (by simp [call?, made])
  | idle rounds => cases made with
    | resting before budget made => exact .finishing before (Nat.le.intro budget) (by simp [call?, made])
  | takes requests rounds => cases made with
    | resting before budget made => exact .serving before [] budget (by simp [call?, made, settles])
  | served rounds => cases made with
    | serving before texts budget made => exact .working before texts budget (by simp [call?, made])
  | serves request outcome left rounds => cases made with
    | serving before texts budget made => exact .settling before texts _ budget (by simp [call?, made])
  | settles delivery left rounds => cases made with
    | settling before texts _ budget made =>
      exact .serving before (texts ++ [delivery.text]) budget (by simp [call?, made, settles])
  | works rounds => cases made with
    | working before texts budget made =>
      refine .checking (before ++ [texts]) ?_ (by simp [call?, made, drained_concat])
      rw [List.length_append, List.length_singleton]
      omega
  | finishes finished => cases made with
    | finishing before budget made => exact .concluding before budget (by rw [made]; rfl)

-- Wherever a run is, it is on the way through a whole one.
theorem whole (made : phase.Made sandbox input calls) : ∃ rounds : List (List String),
    rounds.length ≤ sandbox.policy.execMaxHostCalls ∧
      calls ++ (phase.call? input).toList <+: lifecycle input rounds := by
  cases made with
  | installing done left all made =>
    refine ⟨[], Nat.zero_le _, prefix_of_opened ?_⟩
    cases left with
    | nil =>
      refine ⟨[.eval bootstrap, .call .init input.input.text, .call .run input.code], ?_⟩
      simp [made, call?, opened, ← all]
    | cons function left =>
      refine ⟨installs left ++ [.eval bootstrap, .call .init input.input.text, .call .run input.code], ?_⟩
      simp [made, call?, opened, ← all, installs]
  | bootstrapping made =>
    refine ⟨[], Nat.zero_le _, prefix_of_opened ⟨[.call .init input.input.text, .call .run input.code], ?_⟩⟩
    simp [made, call?, opened]
  | initialising made =>
    refine ⟨[], Nat.zero_le _, prefix_of_opened ⟨[.call .run input.code], ?_⟩⟩
    simp [made, call?, opened]
  | importing left made =>
    refine ⟨[], Nat.zero_le _, prefix_of_opened ⟨[.call .run input.code], ?_⟩⟩
    simp [made, call?, opened]
  | starting made =>
    refine ⟨[], Nat.zero_le _, prefix_of_opened ⟨[], ?_⟩⟩
    simp [made, call?, opened]
  | checking rounds budget made => exact ⟨rounds, by omega, [.call .finish ""], by simp [made, call?, lifecycle]⟩
  | resting rounds budget made => exact ⟨rounds, by omega, [.call .finish ""], by simp [made, call?, lifecycle]⟩
  | serving rounds texts budget made =>
    refine ⟨rounds ++ [texts], by simp; omega, ?_⟩
    simpa [made, call?] using amid_prefix input rounds texts
  | settling rounds texts delivery budget made =>
    refine ⟨rounds ++ [texts ++ [delivery.text]], by simp; omega, ?_⟩
    simpa [made, call?, settles_concat] using amid_prefix input rounds (texts ++ [delivery.text])
  | working rounds texts budget made =>
    refine ⟨rounds ++ [texts], by simp; omega, [.call .finish ""], ?_⟩
    simp [made, call?, lifecycle, drained_concat]
  | finishing rounds budget made => exact ⟨rounds, budget, [], by simp [made, call?, lifecycle]⟩
  | concluding rounds budget made => exact ⟨rounds, budget, [], by simp [made, call?]⟩

theorem ends {result : Json} (made : phase.Made sandbox input calls)
    (turns : phase.Turns sandbox input (.ends result)) : phase.call? input = none ∧ ∃ rounds : List (List String),
      rounds.length ≤ sandbox.policy.execMaxHostCalls ∧ calls = lifecycle input rounds := by
  cases turns with
  | concludes finished _ => cases made with
    | concluding rounds budget made => exact ⟨rfl, rounds, budget, made⟩

end Phase.Made

-- At a point of a run, the calls since its beginning are those on the way to the phase, and all of them succeeded.
def Accounted (sandbox : Sandbox) (input : RunInput) (origin : List (EngineCall × Bool)) (point : Point σ) : Prop :=
  ∃ made, point.phase.Made sandbox input made ∧ Called (origin ++ made.map (·, true)) point.execution

variable {origin : List (EngineCall × Bool)} {before point : Point σ}

theorem Goes.accounted (goes : Goes sandbox engine input before point)
    (accounted : Accounted sandbox input origin before) : Accounted sandbox input origin point := by
  obtain ⟨made, way, calls⟩ := accounted
  have called := (before.phase.next_calls sandbox engine input _).good_of_ok calls goes
  exact ⟨_, way.turns goes.turns, by simpa [Phase.calls] using called⟩

theorem Comes.accounted (comes : Comes sandbox engine input before point)
    (accounted : Accounted sandbox input origin before) : Accounted sandbox input origin point := by
  induction comes with
  | refl => exact accounted
  | tail _ goes ih => exact goes.accounted ih

-- The course makes the calls of a whole run up to some point. Only the last of them can have failed, and where none has
-- and nothing is left out the course may come to a result.
theorem course_calls {fresh : Execution σ} (begun : Called origin fresh) :
    ∃ rounds made failing rest, rounds.length ≤ sandbox.policy.execMaxHostCalls ∧
      lifecycle input rounds = made ++ failing ++ rest ∧ failing.length ≤ 1 ∧
      Called (origin ++ made.map (·, true) ++ failing.map (·, false)) ((course sandbox engine input).after fresh) ∧
      ∀ result last, course sandbox engine input fresh = .ok result last → failing = [] ∧ rest = [] := by
  have start : Accounted sandbox input origin (Point.mk (.installing HostCall.all) fresh) := by
    refine ⟨[], .installing [] HostCall.all rfl rfl, ?_⟩
    rwa [List.map_nil, List.append_nil]
  obtain ⟨point, comes, stuck⟩ := comes_to_last sandbox engine input ⟨.installing HostCall.all, fresh⟩
  obtain ⟨made, way, calls⟩ := Comes.accounted comes start
  have next := point.phase.next_calls sandbox engine input (origin ++ made.map (·, true))
  rcases stops_or_ends stuck with ⟨stop, last, stopped⟩ | ⟨result, last, ended⟩
  · have ran := Comes.stops comes stopped
    rw [rest_installing_all] at ran
    obtain ⟨rounds, budget, rest, whole⟩ := way.whole
    refine ⟨rounds, made, (point.phase.call? input).toList, rest, budget, whole.symm, ?_, ?_, ?_⟩
    · cases point.phase.call? input <;> simp
    · rw [after_of_error ran]
      exact next.bad_of_error calls stopped
    · intro result other succeeded
      rw [ran] at succeeded
      cases succeeded
  · have ran := Comes.ends comes ended
    rw [rest_installing_all] at ran
    obtain ⟨silent, rounds, budget, whole⟩ := way.ends (point.phase.next_turns sandbox engine input _ _ _ ended)
    refine ⟨rounds, made, [], [], budget, by simp [whole], Nat.zero_le _, ?_, fun _ _ _ => ⟨rfl, rfl⟩⟩
    rw [after_of_ok ran]
    simpa [Phase.calls, silent] using next.good_of_ok calls ended

end Execution

namespace Sandbox

open Execution

variable {σ : Type} (sandbox : Sandbox) (engine : Engine σ) (input : RunInput) (inventory : Inventory)

-- A run that does not begin comes to the same with every engine.
theorem run_refused (refused : sandbox.policy.codeExecEnabled = false ∨ Text.trim input.code = "") :
    ∃ failure, ∀ engine : Engine σ, sandbox.run engine input inventory = { result := .refusal failure } := by
  by_cases enabled : sandbox.policy.codeExecEnabled = true
  · have blank : Text.trim input.code = "" := refused.resolve_left (by simp [enabled])
    exact ⟨.invalidInput "code must be non-empty text", fun engine => by simp [run, enabled, blank]⟩
  · exact ⟨.codeExecDisabled, fun engine => by simp [run, enabled]⟩

theorem run_allowed (allowed : ¬(sandbox.policy.codeExecEnabled = false ∨ Text.trim input.code = "")) :
    sandbox.run engine input inventory = sandbox.runOn engine input inventory := by
  obtain ⟨enabled, filled⟩ := not_or.mp allowed
  unfold run
  rw [if_neg (by simpa using enabled), if_neg (by simpa using filled)]

theorem runOn_missing {fault : EngineFault}
    (missing : engine.create sandbox.policy.memoryBytes sandbox.policy.stackBytes = .error fault) :
    sandbox.runOn engine input inventory =
      { result := sandbox.report (.error fault.failure) (sandbox.begun inventory false),
        journal := (sandbox.begun inventory false).journal } := by
  unfold runOn
  simp only [missing]

-- A run with an instance of its engine makes the calls of the course and disposes of it, and it has a result where the
-- course comes to one. An engine that keeps its calls has seen all of them in the end.
theorem runOn_created {fresh : σ}
    (created : engine.create sandbox.policy.memoryBytes sandbox.policy.stackBytes = .ok fresh) :
    let start : Execution σ := ⟨sandbox.begun inventory true, fresh⟩
    let last := (course sandbox engine input).after start
    let finished := sandbox.runOn engine input inventory
    finished.journal.engineCalls = last.run.journal.engineCalls ++ [(.dispose, true)] ∧
      finished.engine = some (engine.dispose last.engine) ∧
      (finished.result.ok = true → ∃ result last, course sandbox engine input start = .ok result last) := by
  intro start last finished
  unfold finished last runOn
  simp only [created]
  cases ran : course sandbox engine input start with
  | ok result last =>
    rw [after_of_ok ran]
    exact ⟨Journal.engineCalls_record _ _, rfl, fun _ => ⟨result, last, rfl⟩⟩
  | error stop last =>
    rw [after_of_error ran]
    exact ⟨Journal.engineCalls_record _ _, rfl, nofun⟩

theorem runOn_seen {fresh : σ}
    (created : engine.create sandbox.policy.memoryBytes sandbox.policy.stackBytes = .ok fresh) :
    let finished := sandbox.runOn engine input inventory
    ∃ last, finished.engine = some last ∧
      ∀ seen, engine.Records seen → seen last = finished.journal.engineCalls := by
  intro finished
  obtain ⟨disposed, left, _⟩ := sandbox.runOn_created engine input inventory created
  refine ⟨_, left, fun seen records => ?_⟩
  have begun : Agrees seen (Execution.mk (sandbox.begun inventory true) fresh) := records.create _ _ _ created
  have agrees := (course_agreeing sandbox records input).after_of begun
  rw [records.dispose, disposed, show _ = _ from agrees]

-- For every run: an engine is left alone where code may not run or there is none. Otherwise one instance is created,
-- and if that succeeds it gets the calls of a whole run up to some point, all of them where the run has a result, and is
-- disposed of. Only the last call before that can have failed, and wherever a run is stopped, by a failed call or
-- because its time is over, the disposal is all that follows. What the journal says of the engine is what the engine
-- itself has seen, if it keeps its calls; where it is not called, it makes no difference what it would have done.
theorem run_lifecycle (sandbox : Sandbox) (engine : Engine σ) (input : RunInput) (inventory : Inventory) :
    let finished := sandbox.run engine input inventory
    let calls := finished.journal.engineCalls
    let creation : EngineCall := .create sandbox.policy.memoryBytes sandbox.policy.stackBytes
    if sandbox.policy.codeExecEnabled = false ∨ Text.trim input.code = "" then
      calls = [] ∧ ∀ other : Engine σ, sandbox.run other input inventory = finished
    else match engine.create sandbox.policy.memoryBytes sandbox.policy.stackBytes with
      | .error fault => calls = [(creation, false)] ∧ ∀ other : Engine σ,
          other.create sandbox.policy.memoryBytes sandbox.policy.stackBytes = .error fault →
          sandbox.run other input inventory = finished
      | .ok fresh =>
        (∃ last, finished.engine = some last ∧ ∀ seen, engine.Records seen → seen last = calls) ∧
        (∃ rounds made failing rest, rounds.length ≤ sandbox.policy.execMaxHostCalls ∧
          lifecycle input rounds = made ++ failing ++ rest ∧ failing.length ≤ 1 ∧
          calls = [(creation, true)] ++ made.map (·, true) ++ failing.map (·, false) ++ [(.dispose, true)] ∧
          (finished.result.ok = true → failing = [] ∧ rest = [])) ∧
        ∀ point stop last,
          Comes sandbox engine input ⟨.installing HostCall.all, ⟨sandbox.begun inventory true, fresh⟩⟩ point →
          point.phase.next sandbox engine input point.execution = .error stop last →
          calls = last.run.journal.engineCalls ++ [(.dispose, true)] := by
  intro finished calls creation
  split
  · rename_i refused
    obtain ⟨failure, same⟩ := sandbox.run_refused input inventory refused (σ := σ)
    unfold calls finished
    rw [same engine]
    exact ⟨rfl, same⟩
  · rename_i allowed
    have ran (other : Engine σ) := sandbox.run_allowed other input inventory allowed
    unfold calls finished
    rw [ran engine]
    cases created : engine.create sandbox.policy.memoryBytes sandbox.policy.stackBytes with
    | error fault =>
      rw [sandbox.runOn_missing engine input inventory created]
      exact ⟨rfl, fun other missing => (ran other).trans (sandbox.runOn_missing other input inventory missing)⟩
    | ok fresh =>
      obtain ⟨disposed, _, resulted⟩ := sandbox.runOn_created engine input inventory created
      have begun : Called [(creation, true)] (Execution.mk (sandbox.begun inventory true) fresh) := rfl
      obtain ⟨rounds, made, failing, rest, budget, whole, last, called, all⟩ := course_calls begun
      refine ⟨sandbox.runOn_seen engine input inventory created,
        ⟨rounds, made, failing, rest, budget, whole, last, ?_, fun ok => ?_⟩, ?_⟩
      · rw [disposed, show _ = _ from called]
      · obtain ⟨result, final, ran⟩ := resulted ok
        exact all result final ran
      · intro point stop last comes stopped
        have ran := Comes.stops comes stopped
        rw [rest_installing_all] at ran
        rw [disposed, after_of_error ran]

end Sandbox

-- Guest code that asks for a package, and an engine that fails when the outcome is handed back.
def Engine.breaking : Engine Unit where
  name := "breaking"
  create _ _ := .ok ()
  install _ state := (.ok (), state)
  eval _ state := .done (.ok (), state)
  call entry _ state := match entry with
    | .run => .ask .pkgInstall "zod" "" fun _ => .done (.ok "", state)
    | .settle => .done (.error (.guest "broken"), state)
    | _ => .done (.ok "", state)
  hasJobs _ := false
  runJobs _ state := .done (.ok 0, state)
  dispose := id

-- A call without the script that it may carry: the kernel does not compare texts as long as that one.
def EngineCall.bare : EngineCall → EngineCall
  | .eval _ => .eval ""
  | other => other

-- The calls that the engine itself has seen: the jobs of the round and the end of a whole run are left out.
theorem Sandbox.run_lifecycle_broken :
    let sandbox : Sandbox := { policy := {}, net := Network.disabled, stamp := "" }
    let finished := sandbox.run Engine.breaking.recorded ⟨"1", .null⟩ .empty
    ∃ seen : EngineCalls, finished.engine = some ((), seen) ∧ seen = finished.journal.engineCalls ∧
      seen.map (fun ended => (ended.1.bare, ended.2)) =
        [(.create 33554432 524288, true), (.install "__host_log", true), (.install "__host_pkg_install", true),
          (.install "__host_pkg_list", true), (.install "__host_fetch", true), (.eval "", true),
          (.call .init "null", true), (.call .run "1", true),
          (.call .settle "\x7b\"error\":\"network error: Fetch not available\",\"id\":1,\"ok\":false\x7d", false),
          (.dispose, true)] ∧
      ∀ script succeeded, (.eval script, succeeded) ∈ seen → script = bootstrap := by
  intro sandbox finished
  obtain ⟨⟨⟨_, seen⟩, left, agrees⟩, ⟨rounds, made, failing, rest, _, whole, _, calls, _⟩, _⟩ :=
    sandbox.run_lifecycle Engine.breaking.recorded ⟨"1", .null⟩ .empty
  have same : seen = finished.journal.engineCalls := agrees Prod.snd Engine.breaking.recorded_records
  refine ⟨seen, left, same, ?_, fun script succeeded evaluated => ?_⟩
  · rw [same]
    decide +kernel
  · have listed : EngineCall.eval script ∈ Execution.lifecycle ⟨"1", .null⟩ rounds := by
      rw [same, show finished.journal.engineCalls = _ from calls] at evaluated
      rw [whole]
      simp only [List.mem_append, List.mem_map, List.mem_singleton, Prod.mk.injEq, reduceCtorEq, false_and, false_or,
        or_false] at evaluated ⊢
      obtain ⟨_, member, rfl, _⟩ | ⟨_, member, rfl, _⟩ := evaluated
      · exact .inl (.inl member)
      · exact .inl (.inr member)
    simpa [Execution.lifecycle, Execution.drained, Execution.opened, Execution.installs, Execution.settles] using listed

end GuestSandbox
