import GuestSandbox.Fixture.Routes
import GuestSandbox.Proofs.Module.Gathering
import GuestSandbox.Proofs.Run.Permission
import GuestSandbox.Proofs.Run.Result

namespace GuestSandbox

open Operation Relation RunState

-- Both features that use the network are off.
structure Policy.Offline (policy : Policy) : Prop where
  fetch : policy.netFetchEnabled = false
  install : policy.pkgInstallEnabled = false

theorem Policy.Offline.permits {policy : Policy} (offline : policy.Offline) (operation : HostOperation) :
    policy.permits operation = false := by
  cases operation with
  | pkgInstall spec => exact offline.install
  | fetch url options => exact offline.fetch

namespace Sandbox

open Loading (request)

variable {sandbox : Sandbox} {run : RunState} {specifier : String}

def Quiet (sent : List Request) (sources : List (String × String)) (run : RunState) : Prop :=
  run.journal.sent = sent ∧ run.library.sources = sources

theorem keeps_quiet (offline : sandbox.policy.Offline) (sent : List Request) (sources : List (String × String)) :
    sandbox.Keeps (Quiet sent sources) where
  plays run after step quiet := by
    refine ⟨(step.filterMap_events fun _ _ _ _ => rfl).trans quiet.1, ?_⟩
    cases step with
    | asked function first second => exact quiet.2
    | slept ms => exact quiet.2
  called run call succeeded quiet := ⟨(Journal.filterMap_record _ rfl).trans quiet.1, quiet.2⟩
  took run quiet := quiet
  carries operation permitted := by
    rw [offline.permits] at permitted
    cases permitted

def IsHosted (sandbox : Sandbox) (specifier : String) : Prop :=
  ∃ url, Specifier.target sandbox.host none specifier = .ok (.hosted url)

instance (sandbox : Sandbox) (specifier : String) : Decidable (sandbox.IsHosted specifier) :=
  match resolved : Specifier.target sandbox.host none specifier with
  | .ok (.hosted url) => .isTrue ⟨url, resolved⟩
  | .ok (.package _) => .isFalse fun ⟨_, hosted⟩ => nomatch resolved.symm.trans hosted
  | .error _ => .isFalse fun ⟨_, hosted⟩ => nomatch resolved.symm.trans hosted

-- Any other import sends nothing and stores nothing. At most it is noted why there is no such module.
theorem obtainImport_aside (offline : sandbox.policy.Offline) (other : ¬sandbox.IsHosted specifier) (run : RunState) :
    ∃ failures, sandbox.obtainImport specifier run = .ok () { run with library := { run.library with failures } } := by
  unfold obtainImport
  cases resolved : Specifier.target sandbox.host none specifier with
  | error error => exact ⟨run.library.failures, rfl⟩
  | ok target =>
    cases target with
    | hosted url => exact absurd ⟨url, resolved⟩ other
    | package spec =>
      have disabled : sandbox.obtain (.package spec) = Pure.pure (.error .pkgInstallDisabled) :=
        if_neg (by simp [offline.install])
      dsimp only
      rw [disabled]
      exact ⟨_, rfl⟩

theorem obtainImport_sent {url : Url} (resolved : Specifier.target sandbox.host none specifier = .ok (.hosted url))
    (run : RunState) : ∃ loading : Loading, loading.library = run.library ∧ loading.journal.sent = run.journal.sent ∧
      ((sandbox.obtainImport specifier).after run).journal.sent =
        ((Loading.gather sandbox.net sandbox.policy url none).after loading).journal.sent := by
  let left := some (sandbox.policy.execTimeoutMs - sandbox.timeTaken run)
  refine ⟨(run.within left).loading, rfl, rfl, ?_⟩
  unfold obtainImport
  rw [resolved]
  refine (after_bind_of_still (fun run : RunState => run.journal.sent) (fun outcome run => ?_) run).trans ?_
  · cases outcome with
    | ok _ => rfl
    | error failure => rfl
  · show ((sandbox.inTime (discard (sandbox.gather url none))).after run).journal.sent = _
    rw [inTime_after, after_discard, gather, after_on]
    rfl

def Asks (sandbox : Sandbox) (before after : RunState) : Prop :=
  ∃ names : List String, after.journal.sent = before.journal.sent ++ names.map (request sandbox.policy)

theorem Asks.refl (run : RunState) : sandbox.Asks run run := ⟨[], (List.append_nil _).symm⟩

theorem Asks.trans {one two three : RunState} (first : sandbox.Asks one two) (second : sandbox.Asks two three) :
    sandbox.Asks one three := by
  obtain ⟨names, asked⟩ := first
  obtain ⟨more, later⟩ := second
  exact ⟨names ++ more, by rw [later, asked, List.map_append, List.append_assoc]⟩

theorem obtainImport_asks (offline : sandbox.policy.Offline) (specifier : String) (run : RunState) :
    sandbox.Asks run ((sandbox.obtainImport specifier).after run) := by
  by_cases hosted : sandbox.IsHosted specifier
  · obtain ⟨url, resolved⟩ := hosted
    obtain ⟨loading, _, sent, same⟩ := obtainImport_sent resolved run
    obtain ⟨names, asked⟩ := Loading.run_asks sandbox.net sandbox.policy ⟨loading, [⟨url, none⟩], 0⟩
    exact ⟨names, by rw [same, ← sent]; exact asked⟩
  · obtain ⟨failures, ran⟩ := obtainImport_aside offline hosted run
    rw [after_of_ok ran]
    exact .refl run

theorem obtainImports_cons_asks {rest : List String}
    (asks : ∀ run, sandbox.Asks run ((sandbox.obtainImports rest).after run)) (specifier : String) (run : RunState) :
    sandbox.Asks ((sandbox.obtainImport specifier).after run) ((sandbox.obtainImports (specifier :: rest)).after run) := by
  rw [obtainImports]
  rcases after_bind (sandbox.obtainImport specifier) (fun _ => sandbox.obtainImports rest) run with
    ended | ⟨_, _, ended⟩
  · rw [ended]
    exact .refl _
  · rw [ended]
    exact asks _

theorem obtainImports_asks (offline : sandbox.policy.Offline) (specifiers : List String) (run : RunState) :
    sandbox.Asks run ((sandbox.obtainImports specifiers).after run) := by
  induction specifiers generalizing run with
  | nil => exact .refl run
  | cons specifier rest ih =>
    exact (obtainImport_asks offline specifier run).trans (obtainImports_cons_asks ih specifier run)

-- From a run without modules, requests are sent exactly where some import means a module at a URL.
theorem obtainImports_sent_iff (offline : sandbox.policy.Offline) {specifiers : List String}
    (empty : run.library.sources = []) :
    ((sandbox.obtainImports specifiers).after run).journal.sent = run.journal.sent ↔
      ∀ specifier ∈ specifiers, ¬sandbox.IsHosted specifier := by
  induction specifiers generalizing run with
  | nil => exact ⟨nofun, fun _ => rfl⟩
  | cons specifier rest ih =>
    rw [List.forall_mem_cons]
    by_cases hosted : sandbox.IsHosted specifier
    · refine ⟨fun same => ?_, fun none => absurd hosted none.1⟩
      obtain ⟨url, resolved⟩ := hosted
      obtain ⟨loading, library, sent, gathered⟩ := obtainImport_sent resolved run
      have absent : loading.library.contains url.text = false := by
        rw [library, Library.contains, Library.source?, empty]
        rfl
      obtain ⟨names, asked⟩ := Loading.gather_asks sandbox.net sandbox.policy absent
      obtain ⟨more, later⟩ := obtainImports_cons_asks (obtainImports_asks offline rest) specifier run
      rw [later, gathered, asked, sent, List.append_assoc] at same
      cases List.append_right_eq_self.mp same
    · obtain ⟨failures, ran⟩ := obtainImport_aside offline hosted run
      rw [obtainImports, after, bind_of_ok ran, ← after, and_iff_right hosted]
      exact ih empty

end Sandbox

namespace Execution

variable {σ : Type} {sandbox : Sandbox} {engine : Engine σ} {input : RunInput} {start equipped : Execution σ}
  {sent : List Request} {sources : List (String × String)}

theorem equipping_quiet (offline : sandbox.policy.Offline)
    (begun : Holding sandbox (Sandbox.Quiet sent sources) start) :
    Holding sandbox (Sandbox.Quiet sent sources) ((equipping engine input).after start) :=
  (equipping_keeping engine input (Sandbox.keeps_quiet offline sent sources)).after_of begun

-- Behind the imports nothing more is sent, whatever guest code does.
theorem course_sent (offline : sandbox.policy.Offline) (begun : start.run.gate.Permitted sandbox.policy)
    (ran : equipping engine input start = .ok () equipped) :
    ((course sandbox engine input).after start).run.journal.sent =
      ((sandbox.obtainImports (Imports.specifiers input.code)).after equipped.run).journal.sent := by
  have permitted : equipped.run.gate.Permitted sandbox.policy := by
    rw [← after_of_ok ran]
    exact (equipping_quiet offline ⟨⟨rfl, rfl⟩, begun⟩).permitted
  let obtained := (sandbox.obtainImports (Imports.specifiers input.code)).after equipped.run
  have holding : Holding sandbox (Sandbox.Quiet obtained.journal.sent obtained.library.sources)
      (equipped.withRun obtained) := ⟨⟨rfl, rfl⟩, permitted_after (sandbox.obtainImports_works _) permitted⟩
  rw [course_parts, after, bind_of_ok ran, ← after]
  rcases after_bind (hosted (sandbox.obtainImports (Imports.specifiers input.code)))
    (fun _ => playing sandbox engine input) equipped with ended | ⟨_, _, ended⟩
  · rw [ended, hosted_after]
    rfl
  · rw [ended, hosted_after]
    exact ((playing_keeping engine input (Sandbox.keeps_quiet offline _ _)).after_of holding).holds.1

end Execution

namespace Sandbox

open Execution
open Loading (request)

variable {σ : Type} {sandbox : Sandbox} {engine : Engine σ} {input : RunInput} {inventory : Inventory}
  {equipped : Execution σ}

def Equips (sandbox : Sandbox) (engine : Engine σ) (input : RunInput) (inventory : Inventory) (equipped : Execution σ) :
    Prop :=
  sandbox.Begins input ∧ ∃ fresh, engine.create sandbox.policy.memoryBytes sandbox.policy.stackBytes = .ok fresh ∧
    equipping engine input ⟨sandbox.begun inventory true, fresh⟩ = .ok () equipped

theorem begun_holding (succeeded : Bool) (state : σ) :
    Holding sandbox (Quiet [] []) ⟨sandbox.begun inventory succeeded, state⟩ :=
  ⟨⟨rfl, rfl⟩, .start sandbox.policy inventory⟩

theorem Equips.holding (offline : sandbox.policy.Offline) (equips : sandbox.Equips engine input inventory equipped) :
    Holding sandbox (Quiet [] []) equipped := by
  obtain ⟨_, fresh, _, ran⟩ := equips
  rw [← after_of_ok ran]
  exact equipping_quiet offline (begun_holding true fresh)

-- A run whose engine has an instance comes to obtain the imports of its code, or it sends nothing.
theorem sent_of_created (offline : sandbox.policy.Offline) (begins : sandbox.Begins input) {fresh : σ}
    (created : engine.create sandbox.policy.memoryBytes sandbox.policy.stackBytes = .ok fresh) :
    let last := (course sandbox engine input).after ⟨sandbox.begun inventory true, fresh⟩
    (∃ equipped, sandbox.Equips engine input inventory equipped ∧ last.run.journal.sent =
        ((sandbox.obtainImports (Imports.specifiers input.code)).after equipped.run).journal.sent) ∨
      last.run.journal.sent = [] ∧ ∀ equipped, ¬sandbox.Equips engine input inventory equipped := by
  intro last
  have holding : Holding sandbox (Quiet [] []) ⟨sandbox.begun inventory true, fresh⟩ := begun_holding true fresh
  cases ran : equipping engine input ⟨sandbox.begun inventory true, fresh⟩ with
  | ok _ equipped => exact .inl ⟨equipped, ⟨begins, fresh, created, ran⟩, course_sent offline holding.permitted ran⟩
  | error stop broken =>
    have ended : last = broken := by
      unfold last
      rw [course_parts, after_of_error (bind_of_error ran)]
    have quiet : Holding sandbox (Quiet [] []) ((equipping engine input).after _) :=
      equipping_quiet offline holding
    rw [after_of_error ran] at quiet
    rw [ended]
    refine .inr ⟨quiet.holds.1, fun equipped equips => ?_⟩
    obtain ⟨_, other, same, went⟩ := equips
    rw [created] at same
    cases same
    rw [ran] at went
    cases went

theorem Leaves.sent {finished : Finished σ} (offline : sandbox.policy.Offline)
    (leaves : sandbox.Leaves engine input inventory finished) :
    (∃ equipped, sandbox.Equips engine input inventory equipped ∧ finished.journal.sent =
        ((sandbox.obtainImports (Imports.specifiers input.code)).after equipped.run).journal.sent) ∨
      finished.journal.sent = [] ∧ ∀ equipped, ¬sandbox.Equips engine input inventory equipped := by
  have disposed (last : Execution σ) : (last.dispose engine).run.journal.sent = last.run.journal.sent :=
    Journal.filterMap_record _ rfl
  cases leaves with
  | refused unbegun _ => exact .inr ⟨rfl, fun equipped equips => unbegun equips.1⟩
  | engineless begins missing =>
    refine .inr ⟨rfl, fun equipped equips => ?_⟩
    obtain ⟨_, fresh, created, _⟩ := equips
    rw [missing] at created
    cases created
  | @concluded fresh result last begins created ran =>
    rw [Sandbox.dispose, disposed, ← after_of_ok ran]
    exact sent_of_created offline begins created
  | @stopped fresh stop last begins created ran =>
    rw [Sandbox.dispose, disposed, ← after_of_error ran]
    exact sent_of_created offline begins created

theorem Equips.unique {other : Execution σ} (equips : sandbox.Equips engine input inventory equipped)
    (others : sandbox.Equips engine input inventory other) : equipped = other := by
  obtain ⟨_, fresh, created, ran⟩ := equips
  obtain ⟨_, fresh', created', ran'⟩ := others
  rw [created] at created'
  cases created'
  rw [ran] at ran'
  cases ran'
  rfl

theorem Equips.sent (offline : sandbox.policy.Offline) (equips : sandbox.Equips engine input inventory equipped) :
    (sandbox.run engine input inventory).journal.sent =
      ((sandbox.obtainImports (Imports.specifiers input.code)).after equipped.run).journal.sent := by
  rcases (sandbox.run_leaves engine input inventory).sent offline with ⟨other, others, sent⟩ | ⟨_, never⟩
  · rw [equips.unique others, sent]
  · exact absurd equips (never equipped)

theorem Equips.sent_iff (offline : sandbox.policy.Offline) (equips : sandbox.Equips engine input inventory equipped) :
    (sandbox.run engine input inventory).journal.sent = [] ↔
      ∀ specifier ∈ Imports.specifiers input.code, ¬sandbox.IsHosted specifier := by
  obtain ⟨silent, empty⟩ := (equips.holding offline).holds
  rw [equips.sent offline, ← obtainImports_sent_iff offline empty, silent]

-- For every run without fetching and without installs: all that it asks the network for are modules, and only to obtain
-- the imports of its code. It asks for nothing before that and nothing behind it, whatever guest code does, and it asks
-- for anything at all exactly if it gets there and some import in the code means a module at a URL.
theorem run_offline (sandbox : Sandbox) (engine : Engine σ) (input : RunInput) (inventory : Inventory)
    (fetchDisabled : sandbox.policy.netFetchEnabled = false) (installDisabled : sandbox.policy.pkgInstallEnabled = false) :
    let finished := sandbox.run engine input inventory
    (∃ names : List String, finished.journal.sent = names.map (request sandbox.policy)) ∧
      (∀ equipped, sandbox.Equips engine input inventory equipped → equipped.run.journal.sent = [] ∧
        finished.journal.sent =
          ((sandbox.obtainImports (Imports.specifiers input.code)).after equipped.run).journal.sent) ∧
      (finished.journal.sent ≠ [] ↔ ∃ equipped, sandbox.Equips engine input inventory equipped ∧
        ∃ specifier ∈ Imports.specifiers input.code, sandbox.IsHosted specifier) := by
  intro finished
  have offline : sandbox.policy.Offline := ⟨fetchDisabled, installDisabled⟩
  refine ⟨?_, fun equipped equips => ⟨(equips.holding offline).holds.1, equips.sent offline⟩, ?_⟩
  · rcases (sandbox.run_leaves engine input inventory).sent offline with ⟨equipped, equips, sent⟩ | ⟨nothing, _⟩
    · obtain ⟨names, asked⟩ := obtainImports_asks offline (Imports.specifiers input.code) equipped.run
      rw [(equips.holding offline).holds.1, List.nil_append] at asked
      exact ⟨names, sent.trans asked⟩
    · exact ⟨[], nothing⟩
  · constructor
    · intro something
      rcases (sandbox.run_leaves engine input inventory).sent offline with ⟨equipped, equips, _⟩ | ⟨nothing, _⟩
      · refine ⟨equipped, equips, ?_⟩
        by_contra none
        refine something ((equips.sent_iff offline).mpr fun specifier listed hosted => none ⟨specifier, listed, hosted⟩)
      · exact absurd nothing something
    · rintro ⟨equipped, equips, specifier, listed, hosted⟩ nothing
      exact (equips.sent_iff offline).mp nothing specifier listed hosted

-- A package is not installed, so its import asks for nothing. A module of the host is asked for beside it.
theorem run_offline_package :
    let table := RouteTable.add {} "https://esm.sh/pad.mjs" 200 "export default 1;"
    let sandbox : Sandbox :=
      { policy := { netFetchEnabled := false, pkgInstallEnabled := false }, net := table.network, stamp := "" }
    let package : RunInput := ⟨"import \"npm:left-pad\";", .null⟩
    let both : RunInput := ⟨"import \"npm:left-pad\"; import \"/pad.mjs\";", .null⟩
    sandbox.policy.netFetchEnabled = false ∧ sandbox.policy.pkgInstallEnabled = false ∧
      Imports.specifiers package.code = ["npm:left-pad"] ∧
      (sandbox.run (.telling "1") package .empty).journal.sent = [] ∧
      Imports.specifiers both.code = ["npm:left-pad", "/pad.mjs"] ∧
      (sandbox.run (.telling "1") both .empty).journal.sent ≠ [] ∧
      ∃ names : List String, (sandbox.run (.telling "1") both .empty).journal.sent = names.map (request sandbox.policy) := by
  intro table sandbox package both
  have alone : Imports.specifiers package.code = ["npm:left-pad"] := by decide +kernel
  have beside : Imports.specifiers both.code = ["npm:left-pad", "/pad.mjs"] := by decide +kernel
  have equips : sandbox.Equips (.telling "1") both .empty
      ((equipping (.telling "1") both).after ⟨sandbox.begun .empty true, ()⟩) :=
    ⟨⟨rfl, by decide +kernel⟩, (), rfl, ok_of_succeeds (by decide +kernel)⟩
  obtain ⟨downloads, _, sends⟩ := sandbox.run_offline (.telling "1") both .empty rfl rfl
  refine ⟨rfl, rfl, alone, ?_, beside, sends.mpr ⟨_, equips, "/pad.mjs", ?_, ?_⟩, downloads⟩
  · by_contra something
    obtain ⟨_, _, specifier, member, hosted⟩ := (sandbox.run_offline (.telling "1") package .empty rfl rfl).2.2.mp something
    rw [alone, List.mem_singleton] at member
    rw [member] at hosted
    exact absurd hosted (by decide +kernel)
  · rw [beside]
    decide
  · decide +kernel

-- But a module at a URL is asked for, though no feature that uses the network is on.
theorem run_sends_offline :
    let table := RouteTable.add {} "https://esm.sh/pad.mjs" 200 "export default 1;"
    let sandbox : Sandbox :=
      { policy := { netFetchEnabled := false, pkgInstallEnabled := false }, net := table.network, stamp := "" }
    let finished := sandbox.run (.telling "1") ⟨"import \"/pad.mjs\";", .null⟩ .empty
    sandbox.policy.netFetchEnabled = false ∧ sandbox.policy.pkgInstallEnabled = false ∧ finished.journal.sent ≠ [] := by
  intro table sandbox finished
  have equips : sandbox.Equips (.telling "1") ⟨"import \"/pad.mjs\";", .null⟩ .empty
      ((equipping (.telling "1") ⟨"import \"/pad.mjs\";", .null⟩).after ⟨sandbox.begun .empty true, ()⟩) :=
    ⟨⟨rfl, by decide +kernel⟩, (), rfl, ok_of_succeeds (by decide +kernel)⟩
  refine ⟨rfl, rfl, fun nothing => ?_⟩
  exact (equips.sent_iff ⟨rfl, rfl⟩).mp nothing "/pad.mjs" (by decide +kernel) (by decide +kernel)

end Sandbox

end GuestSandbox
