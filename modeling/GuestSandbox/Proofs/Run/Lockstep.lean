import GuestSandbox.Proofs.Gate.Answer
import GuestSandbox.Proofs.Package.Growth
import GuestSandbox.Proofs.Run.Happenings
import Mathlib.Data.List.Chain

namespace GuestSandbox

open Operation Relation RunState

variable {σ : Type}

-- The inventory written down last, or the one that a run began with.
def Inventory.latest (origin : Inventory) (events : List Event) : Inventory :=
  (events.filterMap Event.inventory?).getLast?.getD origin

-- Guest code that asks for the installed packages is told of those written down last before.
def Truthful (origin : Inventory) (events : List Event) : Prop :=
  ∀ earlier first second json, earlier ++ [.asked .pkgList first second (.value json)] <+: events →
    json = (origin.latest earlier).listing

theorem Inventory.latest_persisted {origin inventory : Inventory} {events : List Event} :
    origin.latest (events ++ [.persisted inventory]) = inventory := by
  simp [latest, Event.inventory?]

theorem Truthful.concat {origin : Inventory} {events : List Event} {event : Event} (truthful : Truthful origin events)
    (told : ∀ first second json, event = .asked .pkgList first second (.value json) →
      json = (origin.latest events).listing) : Truthful origin (events ++ [event]) := by
  intro earlier first second json beginning
  rcases List.prefix_concat_iff.mp beginning with whole | old
  · obtain ⟨rfl, last⟩ := List.append_inj' whole rfl
    exact told first second json (List.singleton_inj.mp last).symm
  · exact truthful earlier first second json old

namespace Gate

variable {gate after : Gate} {first second : String} {function : HostCall} {reply : Envelope}

theorem Answer.inventory (answer : Answer gate first second function reply after) :
    after.inventory = gate.inventory := by
  cases answer <;> rfl

theorem Answer.listing {json : Json} (answer : Answer gate first second .pkgList (.value json) after) :
    json = gate.inventory.listing := by
  cases answer with
  | listed within => rfl

end Gate

structure Lockstep (policy : Policy) (origin : Inventory) (run : RunState) : Prop where
  installs : run.tally.packageInstalls = run.journal.persisted.length
  limit : run.tally.packageInstalls ≤ policy.pkgMaxInstallsPerRun
  grown : List.IsChain Inventory.GrowsTo (origin :: run.journal.persisted)
  current : run.inventory = origin.latest run.journal.events
  shown : run.gate.inventory = run.inventory
  listed : Truthful origin run.journal.events

namespace Lockstep

variable {policy : Policy} {origin : Inventory} {run after : RunState}

theorem kept (lockstep : Lockstep policy origin run)
    (installs : after.tally.packageInstalls = run.tally.packageInstalls) (inventory : after.inventory = run.inventory)
    (shown : after.gate.inventory = run.gate.inventory) (persisted : after.journal.persisted = run.journal.persisted)
    (listed : Truthful origin after.journal.events) : Lockstep policy origin after := by
  have latest : origin.latest after.journal.events = origin.latest run.journal.events :=
    congrArg (fun written => written.getLast?.getD origin) persisted
  refine ⟨?_, ?_, ?_, ?_, ?_, listed⟩
  · rw [installs, persisted, lockstep.installs]
  · rw [installs]
    exact lockstep.limit
  · rw [persisted]
    exact lockstep.grown
  · rw [inventory, latest, lockstep.current]
  · rw [shown, inventory, lockstep.shown]

theorem noted (event : Event) (lockstep : Lockstep policy origin run)
    (installs : after.tally.packageInstalls = run.tally.packageInstalls) (inventory : after.inventory = run.inventory)
    (shown : after.gate.inventory = run.gate.inventory) (events : after.journal.events = run.journal.events ++ [event])
    (unwritten : event.inventory? = none)
    (told : ∀ first second json, event = .asked .pkgList first second (.value json) →
      json = run.gate.inventory.listing) : Lockstep policy origin after := by
  refine lockstep.kept installs inventory shown (by simp [Journal.persisted, events, unwritten]) ?_
  rw [events]
  refine lockstep.listed.concat fun first second json same => ?_
  rw [told first second json same, lockstep.shown, lockstep.current]

theorem installed {record : PackageRecord} (lockstep : Lockstep policy origin run)
    (absent : run.inventory.get? record.spec = none)
    (room : run.tally.packageInstalls < policy.pkgMaxInstallsPerRun) :
    Lockstep policy origin (run.withInstalling (run.installing.add record)).showInventory := by
  let inventory := run.inventory.insert record
  have persisted : (run.journal.record (.persisted inventory)).persisted = run.journal.persisted ++ [inventory] :=
    Journal.persisted_record _ _
  refine ⟨?_, room, ?_, ?_, rfl, ?_⟩
  · show run.tally.packageInstalls + 1 = (run.journal.record (.persisted inventory)).persisted.length
    rw [persisted, lockstep.installs, List.length_append, List.length_singleton]
  · show List.IsChain Inventory.GrowsTo (origin :: (run.journal.record (.persisted inventory)).persisted)
    rw [persisted, ← List.cons_append]
    refine lockstep.grown.append (.singleton inventory) fun last lastOf next nextOf => ?_
    rw [List.getLast?_cons] at lastOf
    cases lastOf
    cases nextOf
    show (origin.latest run.journal.events).GrowsTo inventory
    rw [← lockstep.current]
    exact Inventory.insert_grows absent
  · exact Inventory.latest_persisted.symm
  · exact lockstep.listed.concat nofun

theorem happens (lockstep : Lockstep policy origin run) (step : run.Happens policy after) :
    Lockstep policy origin after := by
  cases step with
  | works step => cases step with
    | supplies step => cases step with
      | traffic sends => cases sends with
        | sent request => exact lockstep.noted (.sent request) rfl rfl rfl rfl rfl nofun
        | waited left => exact lockstep.kept rfl rfl rfl rfl lockstep.listed
      | counted installs => exact lockstep.kept installs rfl rfl rfl lockstep.listed
      | stored library => exact lockstep.kept rfl rfl rfl rfl lockstep.listed
    | installed absent room => exact lockstep.installed absent room
  | plays step => cases step with
    | asked function first second =>
      cases called : run.gate.call function first second with
      | mk reply gate =>
      rw [ask_of_call called]
      have answer := Gate.call_answer called
      refine lockstep.noted (.asked function first second reply) rfl rfl answer.inventory rfl rfl ?_
      rintro _ _ json ⟨⟩
      exact answer.listing
    | slept ms => exact lockstep.kept rfl rfl rfl rfl lockstep.listed
  | called call succeeded => exact lockstep.noted (.engine call succeeded) rfl rfl rfl rfl rfl nofun

theorem advances (lockstep : Lockstep policy origin run) (step : run.Advances policy after) :
    Lockstep policy origin after := by
  cases step with
  | happens step => exact lockstep.happens step
  | took => exact lockstep.kept rfl rfl rfl rfl lockstep.listed

theorem start (policy : Policy) (host : PackageHost) (inventory : Inventory) :
    Lockstep policy inventory (.start policy host inventory) :=
  ⟨rfl, Nat.zero_le _, .singleton _, rfl, rfl, by simp [Truthful, RunState.start]⟩

theorem called (lockstep : Lockstep policy origin run) (call : EngineCall) (succeeded : Bool) :
    Lockstep policy origin (run.record (.engine call succeeded)) :=
  lockstep.happens (.called call succeeded)

end Lockstep

-- Everything that an install changes, unchanged.
structure Uninstalled (before after : RunState) : Prop where
  inventory : after.inventory = before.inventory
  installs : after.tally.packageInstalls = before.tally.packageInstalls
  persisted : after.journal.persisted = before.journal.persisted
  shown : after.gate.inventory = before.gate.inventory

-- Everything that an install changes, changed by one record of a spec that was not there.
structure Installed (record : PackageRecord) (before after : RunState) : Prop where
  absent : before.inventory.get? record.spec = none
  inventory : after.inventory = before.inventory.insert record
  installs : after.tally.packageInstalls = before.tally.packageInstalls + 1
  persisted : after.journal.persisted = before.journal.persisted ++ [after.inventory]
  shown : after.gate.inventory = after.inventory

theorem Uninstalled.supplies {run after last : RunState} (kept : Uninstalled run after) (step : after.Supplies last) :
    Uninstalled run last := by
  obtain ⟨inventory, installs, persisted, shown⟩ := kept
  cases step with
  | traffic sends => cases sends with
    | sent request =>
      refine ⟨inventory, installs, ?_, shown⟩
      rw [← persisted]
      exact Journal.filterMap_record _ rfl
    | waited left => exact ⟨inventory, installs, persisted, shown⟩
  | counted same => exact ⟨inventory, same.trans installs, persisted, shown⟩
  | stored library => exact ⟨inventory, installs, persisted, shown⟩

theorem uninstalled_of_supplies {run after : RunState} (supplies : ReflTransGen Supplies run after) :
    Uninstalled run after := by
  induction supplies with
  | refl => exact ⟨rfl, rfl, rfl, rfl⟩
  | tail _ step ih => exact ih.supplies step

theorem Uninstalled.installed {run begun after : RunState} {record : PackageRecord} (before : Uninstalled run begun)
    (absent : begun.inventory.get? record.spec = none)
    (behind : Uninstalled (begun.withInstalling (begun.installing.add record)).showInventory after) :
    Installed record run after := by
  have inventory : after.inventory = run.inventory.insert record := by
    rw [behind.inventory, ← before.inventory]
    rfl
  have added : (begun.journal.record (.persisted (begun.inventory.insert record))).persisted =
      begun.journal.persisted ++ [begun.inventory.insert record] := Journal.persisted_record _ _
  refine ⟨?_, inventory, ?_, ?_, behind.shown.trans behind.inventory.symm⟩
  · rwa [← before.inventory]
  · exact behind.installs.trans (congrArg (· + 1) before.installs)
  · refine (behind.persisted.trans added).trans ?_
    rw [before.persisted]
    exact congrArg (fun last => run.journal.persisted ++ [last]) behind.inventory.symm

namespace Sandbox

variable (sandbox : Sandbox)

-- The last state of a run is what it reports and leaves behind.
theorem run_ends (engine : Engine σ) (input : RunInput) (inventory : Inventory) :
    let finished := sandbox.run engine input inventory
    ∃ last, Lockstep sandbox.policy inventory last ∧ finished.journal = last.journal ∧
      finished.result.stats.packageInstalls = last.tally.packageInstalls := by
  intro finished
  obtain ⟨last, lockstep, journal, stats⟩ := sandbox.run_advances engine input inventory
    (Lockstep sandbox.policy inventory) (.start sandbox.policy sandbox.host inventory)
    (fun _ _ step lockstep => lockstep.advances step)
  refine ⟨last, lockstep, journal, ?_⟩
  rw [show finished.result.stats = _ from stats]

end Sandbox

end GuestSandbox
