import GuestSandbox.Package.Inventory

namespace GuestSandbox

-- One record more, of a spec that was not there; all others stay as they are.
def Inventory.GrowsTo (before after : Inventory) : Prop :=
  ∃ record front back, before.get? record.spec = none ∧ before.records = front ++ back ∧
    after.records = front ++ record :: back

namespace Inventory

variable {inventory : Inventory} {record : PackageRecord}

theorem insert_absent (absent : inventory.get? record.spec = none) : ∃ front back,
    inventory.records = front ++ back ∧ (inventory.insert record).records = front ++ record :: back := by
  obtain ⟨after, front, back, added, split, inserted⟩ := add_of_absent absent
  rw [insert, added]
  exact ⟨front, back, split, inserted⟩

theorem insert_present {other : PackageRecord} (there : inventory.get? record.spec = some other) :
    inventory.insert record = inventory := by
  rw [insert, add_of_present there]

theorem insert_grows (absent : inventory.get? record.spec = none) : inventory.GrowsTo (inventory.insert record) := by
  obtain ⟨front, back, split, inserted⟩ := insert_absent absent
  exact ⟨record, front, back, absent, split, inserted⟩

theorem spec_of_get? {spec : String} (listed : inventory.get? spec = some record) : record.spec = spec :=
  (get?_eq_some_iff.mp listed).2

theorem mem_insert (absent : inventory.get? record.spec = none) {other : PackageRecord} :
    other ∈ (inventory.insert record).records ↔ other = record ∨ other ∈ inventory.records := by
  obtain ⟨front, back, split, inserted⟩ := insert_absent absent
  simp only [split, inserted, List.mem_append, List.mem_cons]
  exact or_left_comm

theorem get?_insert_self (absent : inventory.get? record.spec = none) :
    (inventory.insert record).get? record.spec = some record :=
  get?_eq_some_iff.mpr ⟨(mem_insert absent).mpr (.inl rfl), rfl⟩

theorem get?_insert_of_some {listed : PackageRecord} {spec : String} (absent : inventory.get? record.spec = none)
    (found : inventory.get? spec = some listed) : (inventory.insert record).get? spec = some listed := by
  obtain ⟨member, named⟩ := get?_eq_some_iff.mp found
  exact get?_eq_some_iff.mpr ⟨(mem_insert absent).mpr (.inr member), named⟩

end Inventory

end GuestSandbox
