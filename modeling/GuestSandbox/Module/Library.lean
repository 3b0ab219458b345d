import GuestSandbox.Module.Specifier
import GuestSandbox.Operation
import GuestSandbox.Policy

-- The modules that a run can import. An engine loads modules without waiting, so they are all here before guest code
-- asks for them.

namespace GuestSandbox

-- `aliases` leads from package specs to entry modules, `failures` says by module name why there is no module.
structure Library where
  host : PackageHost
  sources : List (String × String) := []
  aliases : List (String × String) := []
  failures : List (String × String) := []
  totalBytes : Nat := 0
deriving Inhabited

namespace Library

def empty (host : PackageHost) : Library := { host }

def source? (library : Library) (url : String) : Option String := library.sources.lookup url

def contains (library : Library) (url : String) : Bool := (library.source? url).isSome

def size (library : Library) : Nat := library.sources.length

def alias? (library : Library) (spec : String) : Option String := library.aliases.lookup spec

def withAlias (library : Library) (spec url : String) : Library :=
  { library with aliases := (spec, url) :: library.aliases }

def withFailure (library : Library) (name message : String) : Library :=
  { library with failures := (name, message) :: library.failures }

def insertBy (sum : Nat → Nat → Nat) (url source : String) (policy : Policy) : Operation Library Unit := fun library =>
  if library.contains url then .ok () library
  else if policy.pkgMaxModuleBytes < source.utf8ByteSize then
    .error (.failed (.moduleTooLarge url source.utf8ByteSize policy.pkgMaxModuleBytes)) library
  else
    let total := sum library.totalBytes source.utf8ByteSize
    if policy.pkgMaxTotalInstallBytesPerRun < total then
      .error (.failed (.moduleTooLarge url (min total greatestWord) policy.pkgMaxTotalInstallBytesPerRun)) library
    else .ok () { library with sources := (url, source) :: library.sources, totalBytes := total }

def insertSaturating : String → String → Policy → Operation Library Unit :=
  insertBy fun total size => min (total + size) greatestWord

-- All stored texts are in memory at once, so the count never gets to where it would stop. One that goes on is what lets
-- every walk over imports end.
def insert : String → String → Policy → Operation Library Unit := insertBy (· + ·)

-- The name of the module that a specifier means. An installed package has the name of its entry module, so that what
-- the entry imports is found relative to it.
def moduleName (library : Library) (importer : Option String) (specifier : String) : Except SpecifierError String :=
  match Specifier.target library.host importer specifier with
  | .error error => .error error
  | .ok (.package spec) => .ok ((library.alias? spec).getD (Target.package spec).moduleName)
  | .ok (.hosted url) => .ok url.text

def absence (library : Library) (name : String) : String :=
  match library.failures.lookup name with
  | some message => name ++ " (" ++ message ++ ")"
  | none => match Text.afterStart? Target.packageMark.toList name.toList with
    | some spec => name ++ " (call pkg.install(" ++ Text.quoted (String.ofList spec) ++ ") first)"
    | none => name

def load (library : Library) (name : String) : Except Failure String :=
  match library.source? name with
  | some source => .ok source
  | none => .error (.moduleMissing (library.absence name))

theorem lookup_cons_of_absent {entries : List (String × String)} {name other : String} {value : String}
    (absent : entries.lookup name = none) (present : (entries.lookup other).isSome) :
    ((name, value) :: entries).lookup other = entries.lookup other := by
  have distinct : other ≠ name := by
    rintro rfl
    simp [absent] at present
  rw [List.lookup_cons, beq_eq_false_iff_ne.mpr distinct]

inductive Inserts (url source : String) (policy : Policy) (library : Library) : EStateM.Result Stop Library Unit → Prop where
  | present (there : library.contains url = true) : Inserts url source policy library (.ok () library)
  | added (absent : library.contains url = false) (small : source.utf8ByteSize ≤ policy.pkgMaxModuleBytes)
      (room : library.totalBytes + source.utf8ByteSize ≤ policy.pkgMaxTotalInstallBytesPerRun) :
      Inserts url source policy library (.ok ()
        { library with
          sources := (url, source) :: library.sources
          totalBytes := library.totalBytes + source.utf8ByteSize })
  | refused {failure : Failure} (absent : library.contains url = false) :
      Inserts url source policy library (.error (.failed failure) library)

theorem insert_cases (url source : String) (policy : Policy) (library : Library) :
    Inserts url source policy library (insert url source policy library) := by
  unfold insert insertBy
  cases there : library.contains url with
  | true => exact .present there
  | false =>
    simp only [Bool.false_eq_true, if_false]
    split
    · exact .refused there
    · rename_i small
      split
      · exact .refused there
      · rename_i room
        exact .added there (Nat.not_lt.mp small) (Nat.not_lt.mp room)

variable {library after : Library} {url source : String} {policy : Policy}

theorem source?_insert {other : String} (inserted : insert url source policy library = .ok () after)
    (present : library.contains other = true) : after.source? other = library.source? other := by
  have step := insert_cases url source policy library
  rw [inserted] at step
  cases step with
  | present there => rfl
  | added absent small room =>
    exact lookup_cons_of_absent (Option.isNone_iff_eq_none.mp (Option.isSome_eq_false_iff.mp absent)) present

theorem insert_total (inserted : insert url source policy library = .ok () after)
    (absent : library.contains url = false) : after.totalBytes = library.totalBytes + source.utf8ByteSize ∧
      after.totalBytes ≤ policy.pkgMaxTotalInstallBytesPerRun := by
  have step := insert_cases url source policy library
  rw [inserted] at step
  cases step with
  | present there => simp [there] at absent
  | added absent small room => exact ⟨rfl, room⟩

theorem sources_insert (inserted : insert url source policy library = .ok () after) :
    library.sources <:+ after.sources := by
  have step := insert_cases url source policy library
  rw [inserted] at step
  cases step with
  | present there => exact List.suffix_rfl
  | added absent small room => exact List.suffix_cons _ _

theorem insert_stop {stop : Stop} (refused : insert url source policy library = .error stop after) :
    (∃ failure, stop = .failed failure) ∧ after = library := by
  have step := insert_cases url source policy library
  rw [refused] at step
  cases step with
  | refused absent => exact ⟨⟨_, rfl⟩, rfl⟩

-- A count that has stopped is past the limit, as the count that goes on is.
theorem insertSaturating_eq (limited : policy.pkgMaxTotalInstallBytesPerRun < greatestWord) :
    insertSaturating url source policy library = insert url source policy library := by
  unfold insertSaturating insert insertBy
  by_cases stopped : library.totalBytes + source.utf8ByteSize ≤ greatestWord
  · simp only [Nat.min_eq_left stopped]
  · have past : policy.pkgMaxTotalInstallBytesPerRun < library.totalBytes + source.utf8ByteSize := by omega
    simp only [Nat.min_eq_right (Nat.le_of_not_le stopped), limited, past, if_true, Nat.min_self]

end Library

end GuestSandbox
