import GuestSandbox.Fixture.Routes
import GuestSandbox.Proofs.Module.Gathering
import GuestSandbox.Proofs.Run.Lockstep

-- Installs that fail. A package is written down before what its entry module imports is downloaded, so an install can
-- fail for the one who asked for it and still be in the inventory.

namespace GuestSandbox

open Operation Relation RunState

theorem Installed.not_uninstalled {record : PackageRecord} {before after : RunState}
    (installed : Installed record before after) : ¬Uninstalled before after := by
  intro kept
  have more := installed.installs
  rw [kept.installs] at more
  omega

namespace Sandbox

variable (sandbox : Sandbox)

theorem link_of_error {installed : Obtained} {entry : Url} {run : RunState} {stop : Stop} {last : Loading}
    (parsed : Url.parse installed.record.entryUrl = .ok entry)
    (gathered : Loading.gather sandbox.net sandbox.policy entry installed.source
      ⟨run.journal, run.library.withAlias installed.record.spec entry.text⟩ = .error stop last) :
    sandbox.link installed run = .error stop (run.withLoading last) := by
  unfold link
  simp only [parsed]
  let named : RunState := { run with library := run.library.withAlias installed.record.spec entry.text }
  have modified : (modify (fun run : RunState =>
      { run with library := run.library.withAlias installed.record.spec entry.text }) : Operation RunState PUnit) run =
      .ok ⟨⟩ named := rfl
  rw [bind_of_ok modified]
  have failed : sandbox.gather entry installed.source named = .error stop (named.withLoading last) :=
    on_of_error gathered
  exact bind_of_error failed

def ObtainsAnew (spec : String) (run : RunState) (record : PackageRecord) (source : String) (after : Installing) :
    Prop :=
  Installing.obtain sandbox.net sandbox.policy sandbox.host sandbox.stamp spec run.installing =
    .ok ⟨record, some source⟩ after

-- An install that fails has changed nothing unless the package was obtained anew. Then it is written down, counted and
-- shown like any other, and what failed is to make its entry module importable.
theorem failed_install_iff {spec : String} {run last : RunState} {stop : Stop}
    (failed : sandbox.carryOut (.pkgInstall spec) run = .error stop last) :
    (Uninstalled run last ↔ ¬∃ record source after, sandbox.ObtainsAnew spec run record source after) ∧
      ∀ record source after, sandbox.ObtainsAnew spec run record source after → Installed record run last ∧
        sandbox.link ⟨record, some source⟩ (run.withInstalling after).showInventory = .error stop last := by
  have outcome := Installing.obtain_outcome sandbox.net sandbox.policy sandbox.host sandbox.stamp spec run.installing
  replace failed : sandbox.install spec run = .error stop last := failed
  unfold ObtainsAnew
  unfold install at failed
  generalize ran : Installing.obtain sandbox.net sandbox.policy sandbox.host sandbox.stamp spec run.installing = result
    at outcome ⊢
  cases outcome with
  | failed traffic =>
    rw [bind_of_error (on_of_error ran)] at failed
    cases failed
    have kept := uninstalled_of_supplies (supplies_of_traffic traffic)
    exact ⟨⟨fun _ => nofun, fun _ => kept⟩, nofun⟩
  | @present record _ read there =>
    rw [bind_of_ok (on_of_ok ran)] at failed
    have kept := uninstalled_of_supplies (sandbox.link_supplies ⟨record, none⟩ run)
    rw [show (sandbox.link ⟨record, none⟩).after run = last from after_of_error failed] at kept
    exact ⟨⟨fun _ => nofun, fun _ => kept⟩, nofun⟩
  | @added record source journal read absent room traffic =>
    rw [bind_of_ok (on_of_ok ran)] at failed
    have behind := uninstalled_of_supplies (sandbox.link_supplies ⟨record, some source⟩
      (run.withInstalling (Installing.add { run.installing with journal } record)).showInventory)
    rw [show (sandbox.link _).after _ = last from after_of_error failed] at behind
    have before := uninstalled_of_supplies (supplies_of_traffic traffic)
    have installed : Installed record run last := before.installed absent behind
    refine ⟨⟨fun kept => absurd kept installed.not_uninstalled, fun none => ?_⟩, ?_⟩
    · exact absurd ⟨record, source, _, rfl⟩ none
    · rintro _ _ _ ⟨⟩
      exact ⟨installed, failed⟩

-- The package `pad` can be had, and what its entry module imports cannot: the install fails and is written down.
theorem failed_install_iff_dependency :
    let sandbox : Sandbox :=
      { policy := {}, net := (RouteTable.add {} "https://esm.sh/pad" 200 "import '/dep.mjs'").network, stamp := "" }
    let run : RunState := .start {} .standard .empty
    ∃ stop last record, sandbox.carryOut (.pkgInstall "pad") run = .error stop last ∧ Installed record run last ∧
      ¬Uninstalled run last := by
  intro sandbox run
  let entry : Url := ⟨"https", "", some "esm.sh", none, "/pad", none, none⟩
  let library := run.library.withAlias "pad" entry.text
  have test : (match Installing.obtain sandbox.net {} .standard "" "pad" run.installing with
      | .ok ⟨record, some source⟩ after =>
        record.spec == "pad" && record.entryUrl == entry.text &&
          ((Loading.Walk.mk ⟨after.journal, library⟩ [⟨entry, some source⟩] 0).runFor sandbox.net {} 4).any
            fun result => match result with
              | .ok _ _ => false
              | .error _ _ => true
      | .ok ⟨_, none⟩ _ => false
      | .error _ _ => false) = true := by decide +kernel
  split at test
  · rename_i record source after obtained
    simp only [Bool.and_eq_true, beq_iff_eq] at test
    obtain ⟨⟨spec, url⟩, ended⟩ := test
    obtain ⟨result, ran, fails⟩ := (Option.any_eq_true _ _).mp ended
    cases result with
    | ok added last => cases fails
    | error stop last =>
      have gathered : Loading.gather sandbox.net {} entry (some source) ⟨after.journal, library⟩ = .error stop last :=
        Loading.run_of_runFor ran
      have parsed : Url.parse record.entryUrl = .ok entry := by
        rw [url]
        exact toOption_eq_some (by decide +kernel)
      let shown := (run.withInstalling after).showInventory
      have linked : sandbox.link ⟨record, some source⟩ shown = .error stop (shown.withLoading last) := by
        refine sandbox.link_of_error parsed ?_
        rw [spec]
        exact gathered
      have failed : sandbox.carryOut (.pkgInstall "pad") run = .error stop (shown.withLoading last) := by
        show sandbox.install "pad" run = _
        unfold install
        rw [bind_of_ok (on_of_ok obtained)]
        exact linked
      have anew : sandbox.ObtainsAnew "pad" run record source after := obtained
      have installed := ((sandbox.failed_install_iff failed).2 record source after anew).1
      exact ⟨stop, _, record, failed, installed, installed.not_uninstalled⟩
  · cases test
  · cases test

end Sandbox

end GuestSandbox
