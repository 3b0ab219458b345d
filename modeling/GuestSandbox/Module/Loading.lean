import GuestSandbox.Fetch.Exchange
import GuestSandbox.Module.Imports
import GuestSandbox.Module.Library

-- Downloading a module with everything that it imports. The walk goes breadth first and takes a module that is stored
-- already as visited, so it never downloads one twice.

namespace GuestSandbox

structure Loading where
  journal : Journal
  library : Library

namespace Loading

def download (net : Network) (policy : Policy) (url : String) : Operation Journal String := do
  let request := Request.download url policy.pkgMaxModuleBytes policy.maxRedirects
  match ← exchange net request policy.pkgInstallTimeoutMs with
  | .error failure => Operation.fail failure
  | .ok response =>
    if !response.isSuccess then
      Operation.fail (.moduleMissing (url ++ " (HTTP " ++ toString response.status ++ ")"))
    else if policy.pkgMaxModuleBytes < response.size then
      Operation.fail (.moduleTooLarge url response.size policy.pkgMaxModuleBytes)
    else pure response.text

structure Visit where
  url : Url
  known : Option String := none

structure Walk where
  loading : Loading
  waiting : List Visit
  added : Nat := 0

-- The modules that a module imports and that are not stored. What resolves to anything else is left to the engine,
-- which refuses it when it is imported.
def imported (library : Library) (importer source : String) : List Visit :=
  (Imports.specifiers source).filterMap fun specifier =>
    match Specifier.target library.host (some importer) specifier with
    | .ok (.hosted url) => if library.contains url.text then none else some { url }
    | _ => none

def sourceOf (net : Network) (policy : Policy) (visit : Visit) : Operation Journal String :=
  match visit.known with
  | some source => pure source
  | none => download net policy visit.url.text

inductive Pace where
  | finished
  | stopped (stop : Stop) (loading : Loading)
  | moved (walk : Walk)

def advance (net : Network) (policy : Policy) (walk : Walk) : Pace :=
  match walk.waiting with
  | [] => .finished
  | visit :: waiting =>
    let library := walk.loading.library
    let name := visit.url.text
    if library.contains name then .moved { walk with waiting }
    else match sourceOf net policy visit walk.loading.journal with
      | .error stop journal => .stopped stop ⟨journal, library⟩
      | .ok source journal => match Library.insert name source policy library with
        | .error stop library => .stopped stop ⟨journal, library⟩
        | .ok () larger => .moved ⟨⟨journal, larger⟩, waiting ++ imported library name source, walk.added + 1⟩

def Walk.measure (policy : Policy) (walk : Walk) : Nat × Nat :=
  (policy.pkgMaxTotalInstallBytesPerRun - walk.loading.library.totalBytes, walk.waiting.length)

theorem imported_empty (library : Library) (importer : String) : imported library importer "" = [] := by
  have none : Imports.specifiers "" = [] := by simp [Imports.specifiers, Imports.specifiersFrom, List.eraseDups]
  simp [imported, none]

-- Only a module with a text has imports, and its text uses up bytes. So the walk ends, whatever modules it meets.
theorem advance_decreases {net : Network} {policy : Policy} {walk next : Walk}
    (moved : advance net policy walk = .moved next) :
    Prod.Lex (· < ·) (· < ·) (next.measure policy) (walk.measure policy) := by
  obtain ⟨⟨journal, library⟩, waiting, added⟩ := walk
  cases waiting with
  | nil => cases moved
  | cons visit waiting =>
    simp only [advance] at moved
    split at moved
    · cases moved
      exact .right _ (by simp)
    · rename_i absent
      split at moved
      · cases moved
      · rename_i source journal' _
        split at moved
        · cases moved
        · rename_i larger inserted
          cases moved
          obtain ⟨total, bound⟩ := Library.insert_total inserted (by simpa using absent)
          by_cases blank : source.utf8ByteSize = 0
          · obtain rfl := String.utf8ByteSize_eq_zero_iff.mp blank
            simp only [Walk.measure, imported_empty, total, blank, Nat.add_zero, List.append_nil]
            exact .right _ (by simp)
          · refine .left _ _ ?_
            simp only
            omega

def Walk.run (net : Network) (policy : Policy) (walk : Walk) : EStateM.Result Stop Loading Nat :=
  match _moved : advance net policy walk with
  | .finished => .ok walk.added walk.loading
  | .stopped stop loading => .error stop loading
  | .moved next => next.run net policy
  termination_by walk.measure policy
  decreasing_by exact advance_decreases _moved

def gather (net : Network) (policy : Policy) (entry : Url) (known : Option String) : Operation Loading Nat :=
  fun loading => Walk.run net policy ⟨loading, [⟨entry, known⟩], 0⟩

end Loading

end GuestSandbox
