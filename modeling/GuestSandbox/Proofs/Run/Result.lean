import GuestSandbox.Proofs.Json.RoundTrip
import GuestSandbox.Proofs.Report
import GuestSandbox.Proofs.Run.Endings
import GuestSandbox.Proofs.Run.Happenings
import GuestSandbox.Proofs.Run.Rounds

namespace GuestSandbox

open Operation RunState

def Event.isAsked : Event → Bool
  | .asked _ _ _ _ => true
  | _ => false

namespace RunState

variable {run after : RunState}

def CallsCounted (run : RunState) : Prop := run.gate.hostCalls = run.journal.events.countP Event.isAsked

namespace CallsCounted

theorem noted (event : Event) (counted : run.CallsCounted)
    (calls : after.gate.hostCalls = run.gate.hostCalls + event.isAsked.toNat)
    (events : after.journal.events = run.journal.events ++ [event]) : after.CallsCounted := by
  rw [CallsCounted, calls, events, List.countP_append, List.countP_singleton, ← show _ = _ from counted]
  cases event.isAsked <;> rfl

theorem happens {policy : Policy} (counted : run.CallsCounted) (step : run.Happens policy after) :
    after.CallsCounted := by
  cases step with
  | works step => cases step with
    | supplies step => cases step with
      | traffic sends => cases sends with
        | sent request => exact counted.noted (.sent request) rfl rfl
        | waited left => exact counted
      | counted installs => exact counted
      | stored library => exact counted
    | @installed record absent room => exact counted.noted (.persisted (run.inventory.insert record)) rfl rfl
  | plays step => cases step with
    | asked function first second =>
      let reply := (run.gate.call function first second).1
      exact counted.noted (.asked function first second reply) (Gate.call_hostCalls run.gate function first second) rfl
    | slept ms => exact counted
  | called call succeeded => exact counted.noted (.engine call succeeded) rfl rfl

theorem advances {policy : Policy} (counted : run.CallsCounted) (step : run.Advances policy after) :
    after.CallsCounted := by
  cases step with
  | happens step => exact counted.happens step
  | took => exact counted

end CallsCounted

end RunState

namespace Execution

variable {σ : Type}

inductive Fails (sandbox : Sandbox) : Stop → Prop where
  | breaks {stop : Stop} (breaks : Breaks sandbox stop) : Fails sandbox stop
  | spent : Fails sandbox (.failed (.pendingJobs sandbox.policy.execMaxHostCalls))

theorem conclude_error {policy : Policy} {finished : String} {failure : Failure}
    (failed : conclude policy finished = .error failure) : ∃ fault : EngineFault, failure = fault.failure := by
  unfold conclude at failed
  split at failed
  · exact ⟨.engine _, (Except.error.inj failed).symm⟩
  · cases failed
  · split at failed
    · exact ⟨.engine _, (Except.error.inj failed).symm⟩
    · cases failed
  · exact ⟨.guest _, (Except.error.inj failed).symm⟩
  · exact ⟨.guest _, (Except.error.inj failed).symm⟩

-- What becomes of the text that guest code reported, if it reported one. A text beyond the limit is replaced by an
-- object of two fields.
inductive HandsOut (limit : Nat) : Option String → Json → Prop where
  | nothing : HandsOut limit none .null
  | whole {text : String} {value : Json} (tells : Json.Tells text value) (fits : text.utf8ByteSize ≤ limit) :
      HandsOut limit (some text) value
  | shortened {text : String} {value : Json} (tells : Json.Tells text value) (long : limit < text.utf8ByteSize)
      {output : String} (beginning : output.toList <+: text.toList) :
      HandsOut limit (some text) (.obj [("output", .str output), ("truncated", .bool true)])

theorem conclude_ok {policy : Policy} {finished : String} {result : Json}
    (concluded : conclude policy finished = .ok result) :
    ∃ reported, Ending.read finished = .ok (.fulfilled reported) ∧
      HandsOut policy.execMaxOutputBytes reported result := by
  unfold conclude at concluded
  split at concluded
  · cases concluded
  · rename_i read
    cases concluded
    exact ⟨none, read, .nothing⟩
  · rename_i text read
    split at concluded
    · cases concluded
    · rename_i value parsed
      cases concluded
      refine ⟨some text, read, ?_⟩
      by_cases fits : text.utf8ByteSize ≤ policy.execMaxOutputBytes
      · rw [Report.fit, if_pos fits]
        exact .whole (Json.tells_of_parse parsed) fits
      · have long := Nat.not_le.mp fits
        rw [Report.fit_of_long long]
        refine .shortened (Json.tells_of_parse parsed) long ?_
        rw [Report.firstChars, String.toList_ofList]
        exact List.take_prefix _ _
  · cases concluded
  · cases concluded

variable (sandbox : Sandbox) (engine : Engine σ) (input : RunInput)

theorem installAll_breaks (functions : List HostCall) : Stops (Breaks sandbox) (installAll engine functions) := by
  induction functions with
  | nil => exact .pure _
  | cons function rest ih => exact .bind (step_breaks sandbox _ _) fun _ => ih

theorem obtain_breaks (target : Target) : Stops (Breaks sandbox) (sandbox.obtain target) := by
  cases target with
  | package spec =>
    simp only [Sandbox.obtain]
    split
    · exact inTime_breaks sandbox _
    · exact .pure _
  | hosted url => exact inTime_breaks sandbox _

theorem obtainImport_breaks (specifier : String) : Stops (Breaks sandbox) (sandbox.obtainImport specifier) := by
  unfold Sandbox.obtainImport
  split
  · exact .pure _
  · refine .bind (obtain_breaks sandbox _) fun outcome => ?_
    cases outcome with
    | ok _ => exact .pure _
    | error failure => exact .modify _

theorem obtainImports_breaks (specifiers : List String) : Stops (Breaks sandbox) (sandbox.obtainImports specifiers) := by
  induction specifiers with
  | nil => exact .pure _
  | cons specifier rest ih => exact .bind (obtainImport_breaks sandbox specifier) fun _ => ih

theorem opening_breaks : Stops (Breaks sandbox) (opening sandbox engine input) := by
  refine .bind (installAll_breaks sandbox engine _) fun _ => .bind (step_breaks sandbox _ _) fun _ => ?_
  refine .bind (step_breaks sandbox _ _) fun _ => .bind (obtainImports_breaks sandbox _).on fun _ => ?_
  exact .bind (step_breaks sandbox _ _) fun _ => (stillInTime_breaks sandbox).on

theorem untilIdle_fails (rounds : Nat) : Stops (Fails sandbox) (untilIdle sandbox engine rounds) := by
  induction rounds with
  | zero =>
    refine .get_bind fun execution => ?_
    split
    · exact .pure _
    · exact .fail .spent
  | succ rounds ih =>
    refine .get_bind fun execution => ?_
    split
    · exact .pure _
    · exact .bind ((round_breaks sandbox engine).mono fun _ => .breaks) fun _ => ih

def reporting : Operation (Execution σ) String := do
  opening sandbox engine input
  untilIdle sandbox engine sandbox.policy.execMaxHostCalls
  call engine .finish ""

theorem course_eq : course sandbox engine input =
    reporting sandbox engine input >>= fun finished => Operation.ofExcept (conclude sandbox.policy finished) := by
  simp [course, reporting, bind_assoc]

theorem course_fails : Stops (Fails sandbox) (course sandbox engine input) := by
  refine .bind ((opening_breaks sandbox engine input).mono fun _ => .breaks) fun _ => ?_
  refine .bind (untilIdle_fails sandbox engine _) fun _ => ?_
  refine .bind ((step_breaks sandbox _ _).mono fun _ => .breaks) fun finished => .ofExcept fun failure failed => ?_
  obtain ⟨fault, rfl⟩ := conclude_error failed
  exact .breaks (.fault fault)

variable {sandbox engine input}

theorem course_ok {start last : Execution σ} {result : Json} (ran : course sandbox engine input start = .ok result last) :
    ∃ finished, reporting sandbox engine input start = .ok finished last ∧
      conclude sandbox.policy finished = .ok result := by
  rw [course_eq] at ran
  obtain ⟨finished, middle, reported, rest⟩ := bind_ok ran
  cases concluded : conclude sandbox.policy finished with
  | error failure =>
    rw [concluded] at rest
    cases rest
  | ok value =>
    rw [concluded] at rest
    cases rest
    exact ⟨finished, reported, concluded⟩

end Execution

namespace Sandbox

open Execution

variable {σ : Type} (sandbox : Sandbox) (engine : Engine σ) (input : RunInput) (inventory : Inventory)

-- A failure that tells of a timeout tells of the one of this run.
def Own (failure : Failure) : Prop := ∀ ms, failure = .timeout ms → ms = sandbox.policy.execTimeoutMs

variable {sandbox engine input inventory}

theorem own_of_fault (fault : EngineFault) : sandbox.Own fault.failure := by
  intro ms same
  cases fault <;> cases same

theorem own_of_fails {stop : Stop} (fails : Fails sandbox stop) : sandbox.Own (sandbox.stopFailure stop) := by
  cases fails with
  | breaks breaks => cases breaks with
    | fault fault => exact own_of_fault fault
    | late =>
      rintro ms ⟨⟩
      rfl
  | spent => nofun

theorem uniform_code (failure : Failure) : (sandbox.uniform failure).code = failure.code := by
  unfold uniform
  split
  · rfl
  · split
    · rename_i late
      exact late.symm
    · rfl

theorem uniform_eq_timeout {failure : Failure} (own : sandbox.Own failure) (late : failure.code = .timeout) :
    sandbox.uniform failure = sandbox.timeout := by
  unfold uniform
  split
  · rename_i ms
    rw [own ms rfl, Sandbox.timeout]
  · exact if_pos late

structure Reports (error : Reported) : Prop where
  short : error.message.length ≤ 600
  frameless : ¬"\n    at ".toList <:+: error.message.toList
  timeout : error.code = .timeout → error.message = sandbox.timeout.message

theorem reports_of_failure {failure : Failure} (timeout : failure.code = .timeout → failure = sandbox.timeout)
    (word : sandbox.policy.execTimeoutMs ≤ greatestWord) : sandbox.Reports (.ofFailure failure) := by
  refine ⟨Report.length_tidy_le _, Report.tidy_frameless _, fun late => ?_⟩
  rw [timeout late]
  exact Failure.tidy_timeout word

theorem reports_uniform {failure : Failure} (own : sandbox.Own failure)
    (word : sandbox.policy.execTimeoutMs ≤ greatestWord) : sandbox.Reports (.ofFailure (sandbox.uniform failure)) := by
  refine reports_of_failure (fun late => uniform_eq_timeout own ?_) word
  rwa [uniform_code] at late

-- The text that guest code reports at the end of a run is read as a result, and this is what the run hands out.
def Yields (sandbox : Sandbox) (engine : Engine σ) (input : RunInput) (inventory : Inventory) (result : Json) : Prop :=
  ∃ fresh text last reported, engine.create sandbox.policy.memoryBytes sandbox.policy.stackBytes = .ok fresh ∧
    reporting sandbox engine input ⟨sandbox.begun inventory true, fresh⟩ = .ok text last ∧
    Ending.read text = .ok (.fulfilled reported) ∧ HandsOut sandbox.policy.execMaxOutputBytes reported result

theorem Leaves.reports {finished : Finished σ} (leaves : sandbox.Leaves engine input inventory finished)
    (word : sandbox.policy.execTimeoutMs ≤ greatestWord) :
    (∃ result logs stats, finished.result = .success result logs stats ∧
        sandbox.Yields engine input inventory result) ∨
      ∃ failure logs stats, finished.result = .failure failure logs stats ∧ sandbox.Reports (.ofFailure failure) := by
  cases leaves with
  | @refused failure unbegun early =>
    exact .inr ⟨failure, [], {}, rfl, reports_of_failure (fun late => absurd late early) word⟩
  | @engineless fault begins missing => exact .inr ⟨_, _, _, rfl, reports_uniform (own_of_fault fault) word⟩
  | @concluded fresh result last begins created ran =>
    obtain ⟨text, reported, concluded⟩ := course_ok ran
    obtain ⟨told, read, handed⟩ := conclude_ok concluded
    exact .inl ⟨_, _, _, rfl, fresh, text, last, told, created, reported, read, handed⟩
  | stopped begins created ran =>
    exact .inr ⟨_, _, _, rfl, reports_uniform (own_of_fails (course_fails sandbox engine input _ _ _ ran)) word⟩

variable (sandbox engine input inventory) in
theorem run_counted :
    let finished := sandbox.run engine input inventory
    finished.result.stats.hostCalls = finished.journal.events.countP Event.isAsked := by
  intro finished
  obtain ⟨last, counted, journal, stats⟩ := sandbox.run_advances engine input inventory RunState.CallsCounted rfl
    fun _ _ step counted => counted.advances step
  rw [show finished.result.stats = _ from stats, show finished.journal = _ from journal]
  exact counted

-- For every run: it reports either a result, as guest code told it at the end, or a failure in a short text without
-- stack frames, where a timeout is always told in the same words; and it counts the calls of host functions in it. The
-- milliseconds of the time limit are a word, and a report has room for its digits.
theorem run_reports (sandbox : Sandbox) (engine : Engine σ) (input : RunInput) (inventory : Inventory)
    (word : sandbox.policy.execTimeoutMs ≤ greatestWord) :
    let finished := sandbox.run engine input inventory
    let result := finished.result
    (result.ok = true ↔ result.error = none) ∧
      (result.ok = true → sandbox.Yields engine input inventory result.result) ∧
      (result.ok = false → result.result = .null ∧ ∃ error, result.error = some error ∧ sandbox.Reports error) ∧
      result.stats.hostCalls = finished.journal.events.countP Event.isAsked := by
  intro finished result
  have counted : result.stats.hostCalls = _ := sandbox.run_counted engine input inventory
  rcases (sandbox.run_leaves engine input inventory).reports word with
    ⟨json, logs, stats, same, yields⟩ | ⟨failure, logs, stats, same, reports⟩
  · have succeeded : result = .success json logs stats := same
    refine ⟨?_, fun _ => ?_, fun failed => ?_, counted⟩
    · rw [succeeded]
      exact ⟨fun _ => rfl, fun _ => rfl⟩
    · rw [succeeded]
      exact yields
    · rw [succeeded] at failed
      cases failed
  · have failed : result = .failure failure logs stats := same
    refine ⟨?_, fun succeeded => ?_, fun _ => ?_, counted⟩
    · rw [failed]
      exact ⟨nofun, nofun⟩
    · rw [failed] at succeeded
      cases succeeded
    · rw [failed]
      exact ⟨rfl, _, rfl, reports⟩

end Sandbox

-- Guest code that asks for the installed packages and reports one text at its end.
def Engine.telling (text : String) : Engine Unit where
  name := "telling"
  create _ _ := .ok ()
  install _ state := (.ok (), state)
  eval _ state := .done (.ok (), state)
  call entry _ state := match entry with
    | .run => .ask .pkgList "" "" fun _ => .done (.ok "", state)
    | .finish => .done (.ok (Json.ofFields [("state", .str "fulfilled"), ("json", .str text)]).text, state)
    | _ => .done (.ok "", state)
  hasJobs _ := false
  runJobs _ state := .done (.ok 0, state)
  dispose := id

-- A text that just fits is handed out as the list that it tells. With room for four bytes it is shortened.
theorem Sandbox.run_reports_shortened :
    let sandbox (limit : Nat) : Sandbox :=
      { policy := { execMaxOutputBytes := limit }, net := fun _ _ => ⟨none, .error "unreachable"⟩, stamp := "" }
    let finished (limit : Nat) := (sandbox limit).run (.telling "[1,2,3]") ⟨"1", .null⟩ .empty
    (∀ limit, (sandbox limit).policy.execTimeoutMs ≤ greatestWord) ∧
      (finished 7).result.ok = true ∧ (finished 7).result.error = none ∧
      (finished 7).result.result = .arr [.ofNat 1, .ofNat 2, .ofNat 3] ∧
      (sandbox 7).Yields (.telling "[1,2,3]") ⟨"1", .null⟩ .empty (finished 7).result.result ∧
      (finished 4).result.ok = true ∧ (finished 4).result.error = none ∧
      (finished 4).result.result.text = "\x7b\"output\":\"[1,2\",\"truncated\":true\x7d" ∧
      (sandbox 4).Yields (.telling "[1,2,3]") ⟨"1", .null⟩ .empty (finished 4).result.result ∧
      (finished 4).result.stats.hostCalls = 1 ∧
      ∀ limit, (finished limit).result.stats.hostCalls = (finished limit).journal.events.countP Event.isAsked := by
  intro sandbox finished
  have word : ∀ limit, (sandbox limit).policy.execTimeoutMs ≤ greatestWord := fun _ => Nat.le_of_ble_eq_true rfl
  have reports := fun limit => (sandbox limit).run_reports (.telling "[1,2,3]") ⟨"1", .null⟩ .empty (word limit)
  have whole : (finished 7).result.ok = true := by decide +kernel
  have short : (finished 4).result.ok = true := by decide +kernel
  refine ⟨word, whole, (reports 7).1.mp whole, ?_, (reports 7).2.1 whole, short, (reports 4).1.mp short, ?_,
    (reports 4).2.1 short, ?_, fun limit => (reports limit).2.2.2⟩
  · decide +kernel
  · decide +kernel
  · decide +kernel

end GuestSandbox
