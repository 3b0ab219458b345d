import GuestSandbox.Proofs.Module.Gathering
import GuestSandbox.Proofs.Package.Growth
import GuestSandbox.Proofs.Run.Happenings

namespace GuestSandbox

open Operation Relation RunState

theorem Library.alias?_withAlias (library : Library) (spec name other : String) :
    (library.withAlias spec name).alias? other = if other = spec then some name else library.alias? other := by
  rw [alias?, withAlias, List.lookup_cons]
  by_cases same : other = spec
  · simp [same]
  · rw [if_neg same, beq_eq_false_iff_ne.mpr same, alias?]

namespace RunState

-- One thing done to the packages and modules of a run, or to neither.
inductive Provides (run after : RunState) : Prop where
  | aside (inventory : after.inventory = run.inventory) (library : after.library = run.library)
  | installed {record : PackageRecord} (absent : run.inventory.get? record.spec = none)
      (inventory : after.inventory = run.inventory.insert record) (library : after.library = run.library)
  | named {record : PackageRecord} {entry : Url} (listed : run.inventory.get? record.spec = some record)
      (parsed : Url.parse record.entryUrl = .ok entry) (inventory : after.inventory = run.inventory)
      (library : after.library = run.library.withAlias record.spec entry.text)
  | stored {modules : List (String × String)} (inventory : after.inventory = run.inventory)
      (gains : run.library.Gains after.library modules)

inductive Develops (run after : RunState) : Prop where
  | provides (step : run.Provides after)
  | noted {name message : String} (inventory : after.inventory = run.inventory)
      (library : after.library = run.library.withFailure name message)

-- A package that can be imported: its record is listed, and its spec leads to an entry module that is stored.
structure Available (record : PackageRecord) (entry : Url) (source : String) (run : RunState) : Prop where
  listed : run.inventory.get? record.spec = some record
  parsed : Url.parse record.entryUrl = .ok entry
  named : run.library.alias? record.spec = some entry.text
  stored : run.library.source? entry.text = some source

namespace Available

variable {record : PackageRecord} {entry : Url} {source : String} {run after : RunState}

theorem provides (available : Available record entry source run) (step : run.Provides after) :
    Available record entry source after := by
  obtain ⟨listed, parsed, named, stored⟩ := available
  cases step with
  | aside inventory library => exact ⟨by rwa [inventory], parsed, by rwa [library], by rwa [library]⟩
  | installed absent inventory library =>
    refine ⟨?_, parsed, by rwa [library], by rwa [library]⟩
    rw [inventory]
    exact Inventory.get?_insert_of_some absent listed
  | @named other place there read inventory library =>
    refine ⟨by rwa [inventory], parsed, ?_, by rwa [library]⟩
    rw [library, Library.alias?_withAlias]
    split
    · -- The spec is named once more: its record is still the one that is listed, so it leads to the same place.
      rename_i same
      rw [same, there] at listed
      cases listed
      rw [parsed] at read
      cases read
      rfl
    · exact named
  | stored inventory gains =>
    refine ⟨by rwa [inventory], parsed, ?_, ?_⟩
    · rw [gains.whole]
      exact named
    · rw [gains.source?_kept (Library.contains_of_source? stored)]
      exact stored

theorem develops (available : Available record entry source run) (step : run.Develops after) :
    Available record entry source after := by
  cases step with
  | provides step => exact available.provides step
  | noted inventory library =>
    obtain ⟨listed, parsed, named, stored⟩ := available
    exact ⟨by rwa [inventory], parsed, by rwa [library], by rwa [library]⟩

theorem developed (available : Available record entry source run) (steps : ReflTransGen Develops run after) :
    Available record entry source after := by
  induction steps with
  | refl => exact available
  | tail _ step ih => exact ih.develops step

end Available

end RunState

namespace Sandbox

variable (sandbox : Sandbox)

theorem fetch_provides (url : String) (options : FetchOptions) : Moves Provides (sandbox.fetch url options) := by
  refine .bind (fun run => ?_) fun _ => .pure _
  rw [after_on]
  exact .single (.aside rfl rfl)

theorem gather_provides (entry : Url) (known : Option String) : Moves Provides (sandbox.gather entry known) := by
  intro run
  obtain ⟨modules, gains⟩ := Loading.gather_gains sandbox.net sandbox.policy entry known run.loading
  unfold gather
  rw [after_on]
  exact .single (.stored rfl gains)

theorem link_provides (installed : Obtained) {run : RunState}
    (listed : run.inventory.get? installed.record.spec = some installed.record) :
    ReflTransGen Provides run ((sandbox.link installed).after run) := by
  unfold link
  cases parsed : Url.parse installed.record.entryUrl with
  | error error => exact .refl
  | ok entry =>
    dsimp only
    refine Moves.bind_from (.single (.named listed parsed rfl rfl)) fun _ => ?_
    exact .bind (sandbox.gather_provides entry _) fun _ => .pure _

theorem install_provides (spec : String) : Moves Provides (sandbox.install spec) := by
  intro run
  have outcome := Installing.obtain_outcome sandbox.net sandbox.policy sandbox.host sandbox.stamp spec run.installing
  unfold install
  generalize ran : Installing.obtain sandbox.net sandbox.policy sandbox.host sandbox.stamp spec run.installing = result
    at outcome
  cases outcome with
  | failed traffic =>
    rw [after_of_error (bind_of_error (on_of_error ran))]
    exact .single (.aside rfl rfl)
  | @present record spec read there =>
    rw [after, bind_of_ok (on_of_ok ran)]
    exact sandbox.link_provides ⟨record, none⟩ (by rw [Inventory.spec_of_get? there]; exact there)
  | @added record source journal read absent room traffic =>
    rw [after, bind_of_ok (on_of_ok ran)]
    let grown := (run.withInstalling (Installing.add { run.installing with journal } record)).showInventory
    have added : run.Provides grown := .installed absent rfl rfl
    exact .head added (sandbox.link_provides ⟨record, some source⟩ (Inventory.get?_insert_self absent))

theorem carryOut_provides (operation : HostOperation) : Moves Provides (sandbox.carryOut operation) := by
  cases operation with
  | pkgInstall spec => exact sandbox.install_provides spec
  | fetch url options => exact sandbox.fetch_provides url options

theorem waited_provides (left : Option Nat) (run : RunState) : run.Provides (run.within left) := .aside rfl rfl

theorem obtain_provides (target : Target) : Moves Provides (sandbox.obtain target) :=
  sandbox.obtain_moves waited_provides sandbox.install_provides (fun url => sandbox.gather_provides url none) target

theorem obtainImport_develops (specifier : String) : Moves Develops (sandbox.obtainImport specifier) :=
  sandbox.obtainImport_moves (fun target => (sandbox.obtain_provides target).mono fun _ _ step => .provides step)
    (fun _ _ _ => .noted rfl rfl) specifier

variable {sandbox}

theorem link_available {installed : Obtained} {run last : RunState} {json : Json}
    (listed : run.inventory.get? installed.record.spec = some installed.record)
    (linked : sandbox.link installed run = .ok json last) :
    json = installed.record.toJson ∧ ∃ entry source, Available installed.record entry source last := by
  unfold link at linked
  cases parsed : Url.parse installed.record.entryUrl with
  | error error =>
    rw [parsed] at linked
    cases linked
  | ok entry =>
    simp only [parsed] at linked
    obtain ⟨_, named, modified, rest⟩ := bind_ok linked
    cases modified
    obtain ⟨added, after, gathered, returned⟩ := bind_ok rest
    cases returned
    obtain ⟨loading, walked, rfl⟩ := on_ok gathered
    obtain ⟨source, stored⟩ := Library.source?_of_contains (Loading.gather_contains walked)
    obtain ⟨modules, gains⟩ := Loading.gather_gains sandbox.net sandbox.policy entry installed.source _
    rw [after_of_ok walked] at gains
    refine ⟨rfl, entry, source, listed, parsed, ?_, stored⟩
    show loading.library.alias? _ = _
    rw [gains.whole]
    exact (Library.alias?_withAlias _ _ _ _).trans (if_pos rfl)

theorem install_available {text : String} {run last : RunState} {json : Json}
    (installed : sandbox.install text run = .ok json last) : ∃ record entry source,
      PackageSpec.read text sandbox.policy = .ok record.spec ∧ json = record.toJson ∧
        Available record entry source last := by
  have outcome := Installing.obtain_outcome sandbox.net sandbox.policy sandbox.host sandbox.stamp text run.installing
  unfold install at installed
  generalize ran : Installing.obtain sandbox.net sandbox.policy sandbox.host sandbox.stamp text run.installing = result
    at outcome
  cases outcome with
  | failed traffic =>
    rw [bind_of_error (on_of_error ran)] at installed
    cases installed
  | @present record spec read there =>
    rw [bind_of_ok (on_of_ok ran)] at installed
    have same := Inventory.spec_of_get? there
    rw [← same] at read there
    obtain ⟨whole, entry, source, available⟩ := link_available there installed
    exact ⟨record, entry, source, read, whole, available⟩
  | @added record source journal read absent room traffic =>
    rw [bind_of_ok (on_of_ok ran)] at installed
    obtain ⟨whole, entry, stored, available⟩ := link_available (Inventory.get?_insert_self absent) installed
    exact ⟨record, entry, stored, read, whole, available⟩

variable (sandbox)

-- An install whose walk makes no more than so many visits, as a test for fixed runs.
def linkFor (visits : Nat) (installed : Obtained) (run : RunState) : Option (EStateM.Result Stop RunState Json) :=
  match Url.parse installed.record.entryUrl with
  | .error error => some (.error (.failed (.moduleMissing (installed.record.entryUrl ++ ": " ++ error.message))) run)
  | .ok entry =>
    let named := { run with library := run.library.withAlias installed.record.spec entry.text }
    let walk : Loading.Walk := ⟨named.loading, [⟨entry, installed.source⟩], 0⟩
    (walk.runFor sandbox.net sandbox.policy visits).map fun result => match result with
      | .ok _ last => .ok installed.record.toJson (named.withLoading last)
      | .error stop last => .error stop (named.withLoading last)

def installFor (visits : Nat) (spec : String) (run : RunState) : Option (EStateM.Result Stop RunState Json) :=
  match Installing.obtain sandbox.net sandbox.policy sandbox.host sandbox.stamp spec run.installing with
  | .error stop after => some (.error stop (run.withInstalling after))
  | .ok ⟨record, none⟩ after => sandbox.linkFor visits ⟨record, none⟩ (run.withInstalling after)
  | .ok ⟨record, some source⟩ after =>
    sandbox.linkFor visits ⟨record, some source⟩ (run.withInstalling after).showInventory

variable {sandbox} {visits : Nat} {run : RunState} {result : EStateM.Result Stop RunState Json}

theorem link_of_linkFor {installed : Obtained} (ended : sandbox.linkFor visits installed run = some result) :
    sandbox.link installed run = result := by
  unfold linkFor at ended
  unfold link
  cases parsed : Url.parse installed.record.entryUrl with
  | error error =>
    simp only [parsed] at ended
    cases ended
    rfl
  | ok entry =>
    simp only [parsed] at ended
    obtain ⟨walked, ran, rfl⟩ := Option.map_eq_some_iff.mp ended
    let named : RunState := { run with library := run.library.withAlias installed.record.spec entry.text }
    have gathered : Loading.gather sandbox.net sandbox.policy entry installed.source named.loading = walked :=
      Loading.run_of_runFor ran
    have modified : (modify (fun run : RunState => { run with
        library := run.library.withAlias installed.record.spec entry.text }) : Operation RunState PUnit) run =
          .ok ⟨⟩ named := rfl
    dsimp only
    rw [bind_of_ok modified]
    cases walked with
    | ok added last =>
      have gathers : sandbox.gather entry installed.source named = .ok added (named.withLoading last) :=
        on_of_ok gathered
      exact bind_of_ok gathers
    | error stop last =>
      have gathers : sandbox.gather entry installed.source named = .error stop (named.withLoading last) :=
        on_of_error gathered
      exact bind_of_error gathers

theorem install_of_installFor {spec : String} (ended : sandbox.installFor visits spec run = some result) :
    sandbox.install spec run = result := by
  unfold installFor at ended
  unfold install
  split at ended
  · rename_i obtained
    cases ended
    exact bind_of_error (on_of_error obtained)
  · rename_i obtained
    rw [bind_of_ok (on_of_ok obtained)]
    exact link_of_linkFor ended
  · rename_i obtained
    rw [bind_of_ok (on_of_ok obtained)]
    exact link_of_linkFor ended

end Sandbox

end GuestSandbox
