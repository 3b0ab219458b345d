import GuestSandbox.Fixture.Routes
import GuestSandbox.Proofs.Run.Provision

-- Failures while the imports of code are obtained. Each is kept under the name of what was to be obtained, and an
-- engine that loads the import may look under another name, or find a module there.

namespace GuestSandbox

open Operation Relation RunState

-- Who loads a module is told of a failure: there is no module, and what is said of that has the failure's text in it.
def Library.Tells (library : Library) (name : String) (failure : Failure) : Prop :=
  ∃ text, library.load name = .error (.moduleMissing text) ∧
    failure.message.toList <:+: (Failure.moduleMissing text).message.toList

namespace Library

variable {library : Library} {name : String} {failure : Failure}

theorem tells_iff : library.Tells name failure ↔ library.contains name = false ∧
    failure.message.toList <:+: (Failure.moduleMissing (library.absence name)).message.toList := by
  unfold Tells load contains
  cases found : library.source? name with
  | some source => simp
  | none => simp

theorem infix_of_append (before text after : String) : text.toList <:+: (before ++ text ++ after).toList := by
  rw [String.toList_append, String.toList_append]
  exact List.infix_append _ _ _

theorem absence_of_kept (kept : library.failures.lookup name = some failure.message) :
    failure.message.toList <:+: (Failure.moduleMissing (library.absence name)).message.toList := by
  have absent : library.absence name = name ++ " (" ++ failure.message ++ ")" := by rw [absence, kept]
  have said : (Failure.moduleMissing (library.absence name)).message =
      ("module " ++ name ++ " (") ++ failure.message ++ (")" ++ " is not available") := by
    rw [absent]
    show "module " ++ _ ++ " is not available" = _
    simp only [String.append_assoc]
  rw [said]
  exact infix_of_append _ _ _

end Library

namespace RunState

variable {run after : RunState}

theorem Provides.host (step : run.Provides after) : after.library.host = run.library.host := by
  cases step with
  | aside _ library => rw [library]
  | installed _ _ library => rw [library]
  | named _ _ _ library => rw [library]; rfl
  | stored _ gains => exact gains.host

theorem Provides.failures (step : run.Provides after) : after.library.failures = run.library.failures := by
  cases step with
  | aside _ library => rw [library]
  | installed _ _ library => rw [library]
  | named _ _ _ library => rw [library]; rfl
  | stored _ gains => rw [gains.whole]; rfl

-- Every alias leads from the spec of a listed package to its entry module.
def Named (run : RunState) : Prop :=
  ∀ spec name, run.library.alias? spec = some name → ∃ record entry,
    run.inventory.get? spec = some record ∧ Url.parse record.entryUrl = .ok entry ∧ name = entry.text

theorem Named.provides (named : run.Named) (step : run.Provides after) : after.Named := by
  intro spec name leads
  cases step with
  | aside inventory library =>
    rw [library] at leads
    rw [inventory]
    exact named spec name leads
  | installed absent inventory library =>
    rw [library] at leads
    obtain ⟨record, entry, listed, parsed, same⟩ := named spec name leads
    rw [inventory]
    exact ⟨record, entry, Inventory.get?_insert_of_some absent listed, parsed, same⟩
  | @named record entry listed parsed inventory library =>
    rw [library, Library.alias?_withAlias] at leads
    rw [inventory]
    split at leads
    · rename_i same
      cases leads
      exact ⟨record, entry, by rw [same]; exact listed, parsed, rfl⟩
    · exact named spec name leads
  | stored inventory gains =>
    rw [gains.whole] at leads
    rw [inventory]
    exact named spec name leads

end RunState

def failuresOf (name : String) (outcomes : List (Target × Except Failure Unit)) : List Failure :=
  outcomes.filterMap fun (target, outcome) => match outcome with
    | .ok _ => none
    | .error failure => if target.moduleName = name then some failure else none

def lastFailure (name : String) (outcomes : List (Target × Except Failure Unit)) : Option Failure :=
  (failuresOf name outcomes).getLast?

theorem lastFailure_append (name : String) (outcomes more : List (Target × Except Failure Unit)) :
    lastFailure name (outcomes ++ more) = (lastFailure name more).or (lastFailure name outcomes) := by
  rw [lastFailure, failuresOf, List.filterMap_append, List.getLast?_append]
  rfl

theorem lastFailure_single (name : String) (target : Target) (failure : Failure) :
    lastFailure name [(target, .error failure)] = if target.moduleName = name then some failure else none := by
  unfold lastFailure failuresOf
  split <;> simp [*]

namespace Sandbox

variable (sandbox : Sandbox)

def outcomeOf (specifier : String) (run : RunState) : List (Target × Except Failure Unit) :=
  match Specifier.target sandbox.host none specifier with
  | .error _ => []
  | .ok target => match sandbox.obtain target run with
    | .ok outcome _ => [(target, outcome)]
    | .error _ _ => []

def outcomes : List String → RunState → List (Target × Except Failure Unit)
  | [], _ => []
  | specifier :: rest, run =>
    sandbox.outcomeOf specifier run ++ outcomes rest ((sandbox.obtainImport specifier).after run)

-- A run that has obtained imports, with what has come of them: the last failure of each name is kept under the name.
structure Preloaded (past : List (Target × Except Failure Unit)) (run : RunState) : Prop where
  host : run.library.host = sandbox.host
  named : run.Named
  kept : ∀ name, run.library.failures.lookup name = (lastFailure name past).map Failure.message

variable {sandbox} {past : List (Target × Except Failure Unit)} {run last : RunState}

theorem Preloaded.start (fresh : run.library = .empty sandbox.host) : sandbox.Preloaded [] run := by
  refine ⟨?_, ?_, ?_⟩
  · rw [fresh]
    rfl
  · intro spec name leads
    rw [fresh] at leads
    cases leads
  · intro name
    rw [fresh]
    rfl

theorem Preloaded.provides (preloaded : sandbox.Preloaded past run) (steps : ReflTransGen Provides run last) :
    sandbox.Preloaded past last := by
  induction steps with
  | refl => exact preloaded
  | tail _ step ih =>
    refine ⟨step.host.trans ih.host, ih.named.provides step, fun name => ?_⟩
    rw [step.failures]
    exact ih.kept name

theorem Preloaded.obtainImport {specifier : String} (preloaded : sandbox.Preloaded past run)
    (ran : sandbox.obtainImport specifier run = .ok () last) :
    sandbox.Preloaded (past ++ sandbox.outcomeOf specifier run) last := by
  unfold Sandbox.obtainImport at ran
  unfold outcomeOf
  cases resolved : Specifier.target sandbox.host none specifier with
  | error error =>
    rw [resolved] at ran
    cases ran
    rwa [List.append_nil]
  | ok target =>
    simp only [resolved] at ran
    obtain ⟨outcome, middle, obtained, rest⟩ := bind_ok ran
    have moved := sandbox.obtain_provides target run
    rw [after_of_ok obtained] at moved
    obtain ⟨host, named, kept⟩ := preloaded.provides moved
    simp only [obtained]
    cases outcome with
    | ok _ =>
      cases rest
      refine ⟨host, named, fun name => ?_⟩
      rw [lastFailure_append]
      exact kept name
    | error failure =>
      cases rest
      refine ⟨host, named, fun name => ?_⟩
      show ((target.moduleName, failure.message) :: middle.library.failures).lookup name = _
      rw [lastFailure_append, lastFailure_single, List.lookup_cons]
      by_cases same : target.moduleName = name
      · simp [same]
      · rw [if_neg same, beq_eq_false_iff_ne.mpr (Ne.symm same), Option.none_or]
        exact kept name

theorem Preloaded.obtainImports {specifiers : List String} (preloaded : sandbox.Preloaded past run)
    (ran : sandbox.obtainImports specifiers run = .ok () last) :
    sandbox.Preloaded (past ++ sandbox.outcomes specifiers run) last := by
  induction specifiers generalizing past run with
  | nil =>
    cases ran
    rwa [outcomes, List.append_nil]
  | cons specifier rest ih =>
    obtain ⟨_, middle, first, later⟩ := bind_ok ran
    rw [outcomes, after_of_ok first, ← List.append_assoc]
    exact ih (preloaded.obtainImport first) later

-- Once imports have been obtained, take any of them that has a target for which a failure has come, and the last such
-- failure. The engine loads some name for it. Who loads that is told of the failure exactly where nothing is stored
-- under the name and failures are kept under the same name, or what is said there contains the failure's text as well.
-- The name is another one only for a package that is listed: then it is that of the entry module.
theorem obtainImports_told_iff {specifiers : List String} {specifier : String} {target : Target} {failure : Failure}
    (fresh : run.library = .empty sandbox.host) (ran : sandbox.obtainImports specifiers run = .ok () last)
    (resolved : Specifier.target sandbox.host none specifier = .ok target)
    (failed : lastFailure target.moduleName (sandbox.outcomes specifiers run) = some failure) :
    ∃ name, last.library.moduleName none specifier = .ok name ∧
      (last.library.Tells name failure ↔ last.library.contains name = false ∧
        (name = target.moduleName ∨
          failure.message.toList <:+: (Failure.moduleMissing (last.library.absence name)).message.toList)) ∧
      (name = target.moduleName ∨ ∃ spec record entry, target = .package spec ∧
        last.inventory.get? spec = some record ∧ Url.parse record.entryUrl = .ok entry ∧ name = entry.text) := by
  obtain ⟨host, named, kept⟩ := (Preloaded.start fresh).obtainImports ran
  have own : last.library.failures.lookup target.moduleName = some failure.message := by
    rw [kept, List.nil_append, failed]
    rfl
  have told : ∀ name, last.library.Tells name failure ↔ last.library.contains name = false ∧
      (name = target.moduleName ∨
        failure.message.toList <:+: (Failure.moduleMissing (last.library.absence name)).message.toList) := by
    intro name
    rw [Library.tells_iff]
    refine and_congr_right fun _ => ⟨.inr, ?_⟩
    rintro (rfl | occurs)
    · exact Library.absence_of_kept own
    · exact occurs
  cases target with
  | hosted url =>
    refine ⟨url.text, ?_, told url.text, .inl rfl⟩
    rw [Library.moduleName, host, resolved]
  | package spec =>
    cases leads : last.library.alias? spec with
    | none =>
      refine ⟨(Target.package spec).moduleName, ?_, told _, .inl rfl⟩
      rw [Library.moduleName, host, resolved]
      dsimp only
      rw [leads, Option.getD_none]
    | some name =>
      obtain ⟨record, entry, listed, parsed, same⟩ := named spec name leads
      refine ⟨name, ?_, told name, .inr ⟨spec, record, entry, rfl, listed, parsed, same⟩⟩
      rw [Library.moduleName, host, resolved]
      dsimp only
      rw [leads, Option.getD_some]

theorem obtainImports_of_failed {specifier spec : String} {failure : Failure}
    (enabled : sandbox.policy.pkgInstallEnabled = true)
    (resolved : Specifier.target sandbox.host none specifier = .ok (.package spec))
    (installed : sandbox.install spec (run.within (some (sandbox.policy.execTimeoutMs - sandbox.timeTaken run))) =
      .error (.failed failure) last) :
    sandbox.obtainImports [specifier] run = .ok () { last.within none with
        library := last.library.withFailure (Target.package spec).moduleName failure.message } ∧
      sandbox.outcomes [specifier] run = [(.package spec, .error failure)] := by
  have obtained : sandbox.obtain (.package spec) run = .ok (.error failure) (last.within none) := by
    simp only [obtain, enabled, if_true]
    rw [inTime, discard_of_error installed]
  constructor
  · have imported : sandbox.obtainImport specifier run = .ok () { last.within none with
        library := last.library.withFailure (Target.package spec).moduleName failure.message } := by
      unfold Sandbox.obtainImport
      simp only [resolved]
      exact bind_of_ok obtained
    exact bind_of_ok imported
  · rw [outcomes, outcomes, List.append_nil, outcomeOf, resolved]
    dsimp only
    rw [obtained]

-- The package `pad` can be had, and what its entry module imports cannot. The failure is kept under `npm:pad`, and the
-- engine loads the entry module, which is stored: nothing is told.
theorem obtainImports_told_iff_dependency :
    let sandbox : Sandbox :=
      { policy := {}, net := (RouteTable.add {} "https://esm.sh/pad" 200 "import '/dep.mjs'").network, stamp := "" }
    let run : RunState := .start {} .standard .empty
    ∃ last failure, sandbox.obtainImports ["npm:pad"] run = .ok () last ∧
      lastFailure "npm:pad" (sandbox.outcomes ["npm:pad"] run) = some failure ∧
      last.library.moduleName none "npm:pad" = .ok "https://esm.sh/pad" ∧
      ¬last.library.Tells "https://esm.sh/pad" failure := by
  intro sandbox run
  let timed := run.within (some (sandbox.policy.execTimeoutMs - sandbox.timeTaken run))
  have test : (sandbox.installFor 4 "pad" timed).any (fun result => match result with
      | .ok _ _ => false
      | .error .cut _ => false
      | .error (.failed failure) last => last.library.contains "https://esm.sh/pad" &&
        last.library.alias? "pad" == some "https://esm.sh/pad") = true := by decide +kernel
  have resolved : Specifier.target sandbox.host none "npm:pad" = .ok (.package "pad") :=
    toOption_eq_some (by decide +kernel)
  obtain ⟨result, ran, tested⟩ := (Option.any_eq_true _ _).mp test
  split at tested
  · cases tested
  · cases tested
  · rename_i failure last
    simp only [Bool.and_eq_true, beq_iff_eq] at tested
    obtain ⟨stored, leads⟩ := tested
    have installed : sandbox.install "pad" timed = .error (.failed failure) last := install_of_installFor ran
    obtain ⟨all, came⟩ := obtainImports_of_failed rfl resolved installed
    have failed : lastFailure "npm:pad" (sandbox.outcomes ["npm:pad"] run) = some failure := by
      rw [came]
      exact lastFailure_single _ _ _
    have host : last.library.host = sandbox.host := by
      have moved := sandbox.install_provides "pad" timed
      rw [after_of_error installed] at moved
      have begun : sandbox.Preloaded [] timed := .start rfl
      exact (begun.provides moved).host
    have named : (last.library.withFailure "npm:pad" failure.message).moduleName none "npm:pad" =
        .ok "https://esm.sh/pad" := by
      rw [Library.moduleName, show (last.library.withFailure _ _).host = sandbox.host from host, resolved]
      show Except.ok ((last.library.alias? "pad").getD _) = _
      rw [leads, Option.getD_some]
    obtain ⟨name, loads, told, _⟩ := obtainImports_told_iff rfl all resolved failed
    obtain rfl : name = "https://esm.sh/pad" := Except.ok.inj (loads.symm.trans named)
    refine ⟨_, failure, all, failed, named, fun tells => ?_⟩
    have absent : last.library.contains "https://esm.sh/pad" = false := (told.mp tells).1
    rw [stored] at absent
    cases absent

end Sandbox

end GuestSandbox
