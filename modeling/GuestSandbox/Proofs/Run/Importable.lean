import GuestSandbox.Fixture.Routes
import GuestSandbox.Fixture.Scripted
import GuestSandbox.Proofs.Module.Naming
import GuestSandbox.Proofs.Run.Phases
import GuestSandbox.Proofs.Run.Provision

namespace GuestSandbox

open Operation Relation RunState

-- The text that installs a package means the same package behind the mark of packages, whatever is blank around it.
theorem Specifier.target_of_read {text spec : String} {policy : Policy} (read : PackageSpec.read text policy = .ok spec)
    (host : PackageHost) (importer : Option String) : target host importer ("npm:" ++ text) = .ok (.package spec) := by
  obtain ⟨rfl, filled, _⟩ := PackageSpec.read_eq_ok read
  exact target_packageMark filled host importer

namespace Execution

variable {σ : Type}

variable (sandbox : Sandbox) (engine : Engine σ) (input : RunInput)

theorem Phase.next_develops (phase : Phase) : Moves (Over Develops) (phase.next sandbox engine input) := by
  have carries : ∀ operation, Moves Develops (sandbox.inTime (sandbox.carryOut operation)) := fun operation =>
    (sandbox.inTime_moves Sandbox.waited_provides (sandbox.carryOut_provides operation)).mono
      fun _ _ step => .provides step
  refine phase.next_moves sandbox engine input (fun before after plays => ?_)
    (fun _ _ _ => .provides (.aside rfl rfl)) (fun _ => .provides (.aside rfl rfl)) sandbox.obtainImport_develops
    carries
  cases plays with
  | asked function first second => exact .provides (.aside rfl rfl)
  | slept ms => exact .provides (.aside rfl rfl)

variable {sandbox engine input}

theorem Comes.develops {before after : Point σ} (comes : Comes sandbox engine input before after) :
    ReflTransGen Develops before.execution.run after.execution.run := by
  induction comes with
  | refl => exact .refl
  | @tail middle last _ goes ih =>
    have steps := middle.phase.next_develops sandbox engine input middle.execution
    rw [after_of_ok goes] at steps
    exact ih.trans (ReflTransGen.lift Execution.run (fun _ _ step => step) _ _ steps)

end Execution

theorem RunState.Available.loads {record : PackageRecord} {entry : Url} {source text : String} {run : RunState}
    {policy : Policy} (available : Available record entry source run)
    (read : PackageSpec.read text policy = .ok record.spec) (importer : Option String) :
    run.library.moduleName importer ("npm:" ++ text) = .ok entry.text ∧ run.library.load entry.text = .ok source := by
  constructor
  · rw [Library.moduleName, Specifier.target_of_read read]
    dsimp only
    rw [available.named, Option.getD_some]
  · rw [Library.load, available.stored]

namespace Sandbox

open Execution

-- Once an install has succeeded, wherever the run comes to from there: the text that the package was asked for by means
-- its entry module, for every importer, and the entry module has the text that it had then.
theorem installed_importable {sandbox : Sandbox} {text : String} {run last : RunState} {json : Json}
    (installed : sandbox.carryOut (.pkgInstall text) run = .ok json last) :
    ∃ (record : PackageRecord) (entry : Url) (source : String),
      json = record.toJson ∧ Url.parse record.entryUrl = .ok entry ∧ last.library.source? entry.text = some source ∧
        ∀ {σ : Type} (engine : Engine σ) (input : RunInput) (point later : Point σ) (left : Option Nat),
          point.execution.run = last.within left → Comes sandbox engine input point later → ∀ importer,
            later.execution.run.library.moduleName importer ("npm:" ++ text) = .ok entry.text ∧
              later.execution.run.library.load entry.text = .ok source := by
  obtain ⟨record, entry, source, read, whole, available⟩ := install_available installed
  refine ⟨record, entry, source, whole, available.parsed, available.stored, ?_⟩
  intro σ engine input point later left goes comes importer
  have begun : Available record entry source point.execution.run := by
    rw [goes]
    exact available.provides (waited_provides left last)
  exact (begun.developed comes.develops).loads read importer

-- The package `pad`, asked for with blanks around its name: when the install has been settled, the same text imports
-- it.
theorem installed_importable_blank :
    let sandbox : Sandbox :=
      { policy := {}, net := (RouteTable.add {} "https://esm.sh/pad" 200 "export default 1").network, stamp := "" }
    let run : RunState := .start {} .standard .empty
    ∃ json last, sandbox.carryOut (.pkgInstall " pad ") run = .ok json last ∧
      ∃ later : Point Scripted,
        Goes sandbox Scripted.engine ⟨"1", .null⟩ ⟨.settling ⟨1, .ok json⟩ [] 0, ⟨last.within none, {}⟩⟩ later ∧
          later.execution.run.library.moduleName none ("npm:" ++ " pad ") = .ok "https://esm.sh/pad" ∧
          later.execution.run.library.load "https://esm.sh/pad" = .ok "export default 1" := by
  intro sandbox run
  have test : (sandbox.installFor 4 " pad " run).any (fun result => match result with
      | .ok _ last => last.library.source? "https://esm.sh/pad" == some "export default 1" &&
        last.library.alias? "pad" == some "https://esm.sh/pad"
      | .error _ _ => false) = true := by decide +kernel
  obtain ⟨result, ran, tested⟩ := (Option.any_eq_true _ _).mp test
  cases result with
  | error stop last => cases tested
  | ok json last =>
    simp only [Bool.and_eq_true, beq_iff_eq] at tested
    obtain ⟨there, leads⟩ := tested
    have installed : sandbox.carryOut (.pkgInstall " pad ") run = .ok json last := install_of_installFor ran
    obtain ⟨record, entry, source, _, _, stored, imported⟩ := installed_importable installed
    let settling : Point Scripted := ⟨.settling ⟨1, .ok json⟩ [] 0, ⟨last.within none, {}⟩⟩
    have named : last.library.moduleName none ("npm:" ++ " pad ") = .ok "https://esm.sh/pad" := by
      have read : PackageSpec.read " pad " {} = .ok "pad" := toOption_eq_some (by decide +kernel)
      rw [Library.moduleName, Specifier.target_of_read read]
      dsimp only
      rw [leads, Option.getD_some]
    have place : entry.text = "https://esm.sh/pad" := by
      have here := imported Scripted.engine ⟨"1", .null⟩ settling settling none rfl .refl none
      exact Except.ok.inj (here.1.symm.trans named)
    have text : source = "export default 1" := by
      rw [place, there] at stored
      exact (Option.some.inj stored).symm
    obtain ⟨later, goes⟩ : ∃ later, Goes sandbox Scripted.engine ⟨"1", .null⟩ settling later := ⟨⟨_, _⟩, rfl⟩
    have behind := imported Scripted.engine ⟨"1", .null⟩ settling later none rfl (.single goes) none
    rw [place, text] at behind
    exact ⟨json, last, installed, later, goes, behind⟩

end Sandbox

end GuestSandbox
