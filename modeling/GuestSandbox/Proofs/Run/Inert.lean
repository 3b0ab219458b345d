import GuestSandbox.Proofs.Run.Lockstep
import GuestSandbox.Proofs.Run.Permission

namespace GuestSandbox

open Operation Relation RunState

structure Tally.Unfetched (before after : Tally) : Prop where
  requests : after.fetchRequests = before.fetchRequests
  bytes : after.fetchBytes = before.fetchBytes
  errors : after.fetchErrors = before.fetchErrors

namespace Tally.Unfetched

theorem refl (tally : Tally) : tally.Unfetched tally := ⟨rfl, rfl, rfl⟩

theorem trans {one two three : Tally} (first : one.Unfetched two) (second : two.Unfetched three) :
    one.Unfetched three :=
  ⟨second.requests.trans first.requests, second.bytes.trans first.bytes, second.errors.trans first.errors⟩

end Tally.Unfetched

theorem Installing.obtain_unfetched (net : Network) (policy : Policy) (host : PackageHost) (stamp text : String)
    (before : Installing) : before.tally.Unfetched ((obtain net policy host stamp text).after before).tally := by
  have outcome := obtain_outcome net policy host stamp text before
  generalize ran : obtain net policy host stamp text before = result at outcome
  cases outcome with
  | present read there =>
    rw [after_of_ok ran]
    exact .refl _
  | added read absent room traffic =>
    rw [after_of_ok ran]
    exact ⟨rfl, rfl, rfl⟩
  | failed traffic =>
    rw [after_of_error ran]
    exact .refl _

namespace RunState

variable {run after : RunState}

abbrev Unfetched (before after : RunState) : Prop := before.tally.Unfetched after.tally

theorem unfetched_of_moves {α : Type} {operation : Operation RunState α} (moves : Moves Unfetched operation)
    (run : RunState) : run.Unfetched (operation.after run) :=
  moves.keeps (fun last => run.Unfetched last) (fun _ _ step same => same.trans step) (.refl _)

theorem Plays.unfetched (step : run.Plays after) : run.Unfetched after := by
  cases step with
  | asked function first second => exact .refl _
  | slept ms => exact .refl _

end RunState

namespace Sandbox

variable (sandbox : Sandbox)

theorem gather_unfetched (entry : Url) (known : Option String) : Moves Unfetched (sandbox.gather entry known) :=
  .on (fun _ => rfl) (fun _ _ _ _ => .refl _) (Loading.gather_moves _ _ _ _)

theorem link_unfetched (installed : Obtained) : Moves Unfetched (sandbox.link installed) := by
  unfold link
  split
  · exact .fail _
  · refine .bind (.modify fun run => .refl _) fun _ => ?_
    exact .bind (sandbox.gather_unfetched _ _) fun _ => .pure _

theorem install_unfetched (spec : String) : Moves Unfetched (sandbox.install spec) := by
  have obtains : Moves (fun before after : Installing => before.tally.Unfetched after.tally)
      (Installing.obtain sandbox.net sandbox.policy sandbox.host sandbox.stamp spec) :=
    fun before => .single (Installing.obtain_unfetched _ _ _ _ _ before)
  refine .bind (obtains.on (fun _ => rfl) fun _ _ _ same => same) fun installed => ?_
  by_cases new : installed.source.isSome = true
  · rw [if_pos new]
    exact .bind (.modify fun run => .refl _) fun _ => sandbox.link_unfetched installed
  · rw [if_neg new]
    exact sandbox.link_unfetched installed

theorem waited_unfetched (left : Option Nat) (run : RunState) : run.Unfetched (run.within left) := .refl _

theorem obtainImport_unfetched (specifier : String) : Moves Unfetched (sandbox.obtainImport specifier) :=
  sandbox.obtainImport_moves
    (sandbox.obtain_moves waited_unfetched sandbox.install_unfetched fun url => sandbox.gather_unfetched url none)
    (fun _ _ _ => .refl _) specifier

theorem fetch_uninstalled (url : String) (options : FetchOptions) (run : RunState) :
    let after := (sandbox.inTime (sandbox.fetch url options)).after run
    Uninstalled run after ∧ after.library = run.library := by
  intro after
  have supplies : Moves Supplies (sandbox.inTime (sandbox.fetch url options)) :=
    sandbox.inTime_moves (fun left run => .traffic (.waited left)) (sandbox.fetch_supplies url options)
  have stores : Moves (fun before after : RunState => after.library = before.library) (sandbox.fetch url options) :=
    .bind (.on (fun _ => rfl) (fun _ _ _ _ => rfl) (Fetch.carryOut_moves _ _ _ _)) fun reply => .pure _
  refine ⟨uninstalled_of_supplies (supplies run), ?_⟩
  exact (sandbox.inTime_moves (fun _ _ => rfl) stores).keeps (fun last => last.library = run.library)
    (fun _ _ step same => step.trans same) rfl

variable {sandbox}

theorem obtainImport_supplies (disabled : sandbox.policy.pkgInstallEnabled = false) (specifier : String) :
    Moves Supplies (sandbox.obtainImport specifier) := by
  refine sandbox.obtainImport_moves (fun target => ?_) (fun _ _ _ => .stored _) specifier
  cases target with
  | package spec =>
    rw [obtain, if_neg (by simp [disabled])]
    exact .pure _
  | hosted url =>
    exact sandbox.inTime_moves (fun left run => .traffic (.waited left)) (sandbox.gather_supplies url none).discard

theorem keeps_unpersisted (disabled : sandbox.policy.pkgInstallEnabled = false) :
    sandbox.Keeps fun run => run.journal.persisted = [] where
  plays _ _ step none := (step.filterMap_events fun _ _ _ _ => rfl).trans none
  called _ _ _ none := (Journal.filterMap_record _ rfl).trans none
  took _ none := none
  carries operation permitted run none := by
    cases operation with
    | pkgInstall spec => exact absurd permitted (by simp [Policy.permits, disabled])
    | fetch url options => exact (sandbox.fetch_uninstalled url options run).1.persisted.trans none

theorem keeps_unfetched (disabled : sandbox.policy.netFetchEnabled = false) :
    sandbox.Keeps fun run => Tally.Unfetched {} run.tally where
  plays _ _ step same := same.trans step.unfetched
  called _ _ _ same := same
  took _ same := same
  carries operation permitted run same := by
    cases operation with
    | pkgInstall spec =>
      exact same.trans (unfetched_of_moves (sandbox.inTime_moves waited_unfetched (sandbox.install_unfetched spec)) run)
    | fetch url options => exact absurd permitted (by simp [Policy.permits, disabled])

variable {σ : Type} (sandbox) (engine : Engine σ) (input : RunInput) (inventory : Inventory)

theorem run_persisted_of_disabled (disabled : sandbox.policy.pkgInstallEnabled = false) :
    (sandbox.run engine input inventory).journal.persisted = [] := by
  obtain ⟨last, none, journal, _⟩ := (keeps_unpersisted disabled).run_holds engine input inventory rfl
    fun specifier run none =>
      (uninstalled_of_supplies (obtainImport_supplies disabled specifier run)).persisted.trans none
  rw [journal]
  exact none

theorem run_unfetched_of_disabled (disabled : sandbox.policy.netFetchEnabled = false) :
    Tally.Unfetched {} (sandbox.run engine input inventory).result.stats := by
  obtain ⟨last, same, _, stats⟩ := (keeps_unfetched disabled).run_holds engine input inventory (.refl {})
    fun specifier run same => same.trans (unfetched_of_moves (sandbox.obtainImport_unfetched specifier) run)
  rw [stats]
  exact ⟨same.requests, same.bytes, same.errors⟩

end Sandbox

-- Where nothing is written down, guest code is only ever told of the packages that were there before the run.
theorem Truthful.told_origin {origin : Inventory} {events : List Event} (truthful : Truthful origin events)
    (unwritten : events.filterMap Event.inventory? = []) {first second : String} {json : Json}
    (told : .asked .pkgList first second (.value json) ∈ events) : json = origin.listing := by
  obtain ⟨earlier, later, rfl⟩ := List.append_of_mem told
  rw [truthful earlier first second json ⟨later, by simp⟩, Inventory.latest]
  rw [List.filterMap_append] at unwritten
  rw [(List.append_eq_nil_iff.mp unwritten).1]
  rfl

-- For every run: without installs no inventory is written down, none is counted, and guest code is told of the packages
-- that were there; without fetching none of its counters moves. And at any state, whether features are on or off, no
-- install and no import moves the counters of fetching, and no fetch changes the packages or the modules.
theorem Sandbox.run_inert {σ : Type} (sandbox : Sandbox) (engine : Engine σ) (input : RunInput)
    (inventory : Inventory) :
    let finished := sandbox.run engine input inventory
    (sandbox.policy.pkgInstallEnabled = false →
        finished.journal.persisted = [] ∧ finished.result.stats.packageInstalls = 0 ∧
        ∀ first second json, .asked .pkgList first second (.value json) ∈ finished.journal.events →
          json = inventory.listing) ∧
      (sandbox.policy.netFetchEnabled = false →
        finished.result.stats.fetchRequests = 0 ∧ finished.result.stats.fetchBytes = 0 ∧
        finished.result.stats.fetchErrors = 0) ∧
      (∀ spec (run : RunState), run.Unfetched ((sandbox.inTime (sandbox.install spec)).after run)) ∧
      (∀ specifier (run : RunState), run.Unfetched ((sandbox.obtainImport specifier).after run)) ∧
      ∀ url options run, let after := (sandbox.inTime (sandbox.fetch url options)).after run
        Uninstalled run after ∧ after.library = run.library := by
  intro finished
  refine ⟨fun disabled => ?_, fun disabled => ?_, fun spec run => ?_, fun specifier run => ?_, sandbox.fetch_uninstalled⟩
  · have unwritten : finished.journal.persisted = [] := sandbox.run_persisted_of_disabled engine input inventory disabled
    obtain ⟨last, lockstep, journal, installs⟩ := sandbox.run_ends engine input inventory
    have same : finished.journal = last.journal := journal
    refine ⟨unwritten, ?_, fun first second json told => ?_⟩
    · rw [show finished.result.stats.packageInstalls = _ from installs, lockstep.installs, ← same, unwritten]
      rfl
    · rw [same] at told unwritten
      exact lockstep.listed.told_origin unwritten told
  · have zero : Tally.Unfetched {} finished.result.stats :=
      sandbox.run_unfetched_of_disabled engine input inventory disabled
    exact ⟨zero.requests, zero.bytes, zero.errors⟩
  · exact unfetched_of_moves (sandbox.inTime_moves waited_unfetched (sandbox.install_unfetched spec)) run
  · exact unfetched_of_moves (sandbox.obtainImport_unfetched specifier) run

end GuestSandbox
