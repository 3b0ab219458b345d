import GuestSandbox.Package.Place
import GuestSandbox.Text.Lowercase
import GuestSandbox.Text.Blank

-- Installed packages. A caller keeps the inventory between runs; a run only adds to it.

namespace GuestSandbox

structure Inventory where
  records : List PackageRecord
  sorted : SortedBySpec records

namespace Inventory

instance : DecidableEq Inventory := fun a b =>
  if same : a.records = b.records then
    .isTrue (by cases a; cases b; cases same; rfl)
  else .isFalse (fun equal => same (congrArg records equal))

def empty : Inventory := ⟨[], List.Pairwise.nil⟩

instance : Inhabited Inventory := ⟨empty⟩

def get? (inventory : Inventory) (spec : String) : Option PackageRecord :=
  match Place.find inventory.records spec with
  | .taken index => inventory.records[index]?
  | .free _ => none

def contains (inventory : Inventory) (spec : String) : Bool :=
  match Place.find inventory.records spec with
  | .taken _ => true
  | .free _ => false

def add (inventory : Inventory) (record : PackageRecord) : Bool × Inventory :=
  match found : Place.find inventory.records record.spec with
  | .taken _ => (false, inventory)
  | .free index => (true, ⟨inventory.records.insertIdx index record,
      (found ▸ Place.find_marks inventory.sorted record.spec).insertIdx_sorted inventory.sorted⟩)

def insert (inventory : Inventory) (record : PackageRecord) : Inventory := (inventory.add record).2

def ofRecords (records : List PackageRecord) : Inventory := records.foldl insert empty

def specs (inventory : Inventory) : List String := inventory.records.map (·.spec)

def size (inventory : Inventory) : Nat := inventory.records.length

def isEmpty (inventory : Inventory) : Bool := inventory.records.isEmpty

def matching (inventory : Inventory) (query : Option String) : List PackageRecord :=
  match query.map (fun query => Text.trimChars query.toList) with
  | none => inventory.records
  | some [] => inventory.records
  | some needle => inventory.records.filter fun record =>
    Text.occursIn (Text.lowerChars needle) (Text.lowerChars record.spec.toList)

def toJson (inventory : Inventory) : Json := .ofFields [("packages", .arr (inventory.records.map PackageRecord.toJson))]

-- Stored records may come back in any order and more than once.
def ofJson? (json : Json) : Option Inventory := do
  let field ← json.record? ["packages"]
  let records ← Json.orElse field "packages" (Json.list? PackageRecord.ofJson?) []
  some (ofRecords records)

variable {inventory : Inventory} {record : PackageRecord} {spec : String}

-- Halving finds a record wherever it stands, because the records are sorted.
theorem get?_eq_some_iff : inventory.get? spec = some record ↔ record ∈ inventory.records ∧ record.spec = spec := by
  have marks := Place.find_marks inventory.sorted spec
  unfold get?
  generalize Place.find inventory.records spec = place at marks
  cases marks with
  | @taken front back other split same =>
    have there : inventory.records[front.length]? = some other := by simp [split]
    have member : other ∈ inventory.records := List.mem_of_getElem? there
    simp only [there, Option.some.injEq]
    constructor
    · rintro rfl
      exact ⟨member, same⟩
    · rintro ⟨listed, named⟩
      exact inventory.sorted.unique member listed (same.trans named.symm)
  | free split less greater =>
    refine ⟨nofun, fun ⟨listed, named⟩ => ?_⟩
    rw [split, List.mem_append] at listed
    rcases listed with before | behind
    · exact absurd (named ▸ less record before) (String.lt_irrefl _)
    · exact absurd (named ▸ greater record behind) (String.lt_irrefl _)

theorem get?_eq_none_iff : inventory.get? spec = none ↔ ∀ record ∈ inventory.records, record.spec ≠ spec := by
  simp only [Option.eq_none_iff_forall_ne_some, ne_eq, get?_eq_some_iff, not_and]

theorem contains_eq_isSome : inventory.contains spec = (inventory.get? spec).isSome := by
  have marks := Place.find_marks inventory.sorted spec
  unfold contains get?
  generalize Place.find inventory.records spec = place at marks
  cases marks with
  | taken split same => simp [split]
  | free split less greater => rfl

theorem add_of_present {other : PackageRecord} (there : inventory.get? record.spec = some other) :
    inventory.add record = (false, inventory) := by
  unfold add
  split
  · rfl
  · rename_i index found
    rw [get?, found] at there
    cases there

theorem add_of_absent (absent : inventory.get? record.spec = none) : ∃ after front back,
    inventory.add record = (true, after) ∧ inventory.records = front ++ back ∧ after.records = front ++ record :: back := by
  have marks := Place.find_marks inventory.sorted record.spec
  unfold add
  split
  · rename_i index found
    rw [found] at marks
    cases marks with
    | @taken front back other split same => exact absurd same (get?_eq_none_iff.mp absent other (by simp [split]))
  · rename_i index found
    rw [found] at marks
    cases marks with
    | @free front back split less greater =>
      refine ⟨_, front, back, rfl, split, ?_⟩
      show inventory.records.insertIdx front.length record = front ++ record :: back
      rw [split, Place.insertIdx_length_append]

end Inventory

end GuestSandbox
