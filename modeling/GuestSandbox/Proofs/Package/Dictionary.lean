import GuestSandbox.Proofs.Json.Fields
import GuestSandbox.Proofs.Package.Growth
import GuestSandbox.Proofs.Text.ByteOrder
import Mathlib.Data.List.Nodup

namespace GuestSandbox

namespace PackageRecord

theorem ofJson?_toJson (record : PackageRecord) : ofJson? record.toJson = some record := by
  simp [ofJson?, toJson, Json.ofFields, Json.record?, Json.need, Json.lookup_sortFields, Json.lookup_field, Json.text?,
    Json.word?, Json.ofNat, record.sizeBytes.toNat_lt]

theorem mapM_ofJson?_toJson (records : List PackageRecord) : (records.map toJson).mapM ofJson? = some records := by
  induction records with
  | nil => rfl
  | cons record rest ih => simp [ofJson?_toJson, ih]

theorem find?_eq_some_iff {records : List PackageRecord} (distinct : (records.map (·.spec)).Nodup) {spec : String}
    {record : PackageRecord} :
    records.find? (·.spec == spec) = some record ↔ record ∈ records ∧ record.spec = spec := by
  constructor
  · intro found
    have named := List.find?_some found
    exact ⟨List.mem_of_find?_eq_some found, beq_iff_eq.mp named⟩
  · rintro ⟨member, rfl⟩
    cases found : records.find? (·.spec == record.spec) with
    | none => exact absurd (beq_self_eq_true _) (List.find?_eq_none.mp found record member)
    | some first =>
      have named := List.find?_some found
      rw [List.inj_on_of_nodup_map distinct (List.mem_of_find?_eq_some found) member (beq_iff_eq.mp named)]

end PackageRecord

namespace Inventory

theorem specs_nodup (inventory : Inventory) : (inventory.records.map (·.spec)).Nodup :=
  List.pairwise_map.mpr (inventory.sorted.imp fun less => String.ne_of_lt less)

theorem ext_get? {one other : Inventory} (same : ∀ spec, one.get? spec = other.get? spec) : one = other := by
  have members (record : PackageRecord) : record ∈ one.records ↔ record ∈ other.records := by
    have found := congrArg (· = some record) (same record.spec)
    simpa [get?_eq_some_iff] using found
  have distinct (inventory : Inventory) : inventory.records.Nodup := inventory.specs_nodup.of_map _
  have perm := (List.perm_ext_iff_of_nodup (distinct one) (distinct other)).mpr members
  have records : one.records = other.records :=
    perm.eq_of_pairwise (fun a b _ _ less more => absurd more (String.lt_asymm less)) one.sorted other.sorted
  cases one
  cases other
  cases records
  rfl

theorem get?_insert (inventory : Inventory) (record : PackageRecord) (spec : String) :
    (inventory.insert record).get? spec = (inventory.get? spec).or (if record.spec = spec then some record else none) := by
  cases there : inventory.get? record.spec with
  | some other =>
    rw [insert_present there]
    by_cases same : record.spec = spec
    · rw [← same, there, Option.some_or]
    · rw [if_neg same, Option.or_none]
  | none =>
    cases found : inventory.get? spec with
    | some listed => rw [get?_insert_of_some there found, Option.some_or]
    | none =>
      rw [Option.none_or]
      by_cases same : record.spec = spec
      · rw [if_pos same, ← same, get?_insert_self there]
      · rw [if_neg same, get?_eq_none_iff]
        intro other member named
        rcases (mem_insert there).mp member with rfl | listed
        · exact same named
        · exact get?_eq_none_iff.mp found other listed named

theorem get?_foldl_insert (records : List PackageRecord) (inventory : Inventory) (spec : String) :
    (records.foldl insert inventory).get? spec = (inventory.get? spec).or (records.find? (·.spec == spec)) := by
  induction records generalizing inventory with
  | nil => simp
  | cons record rest ih =>
    rw [List.foldl_cons, ih, get?_insert, Option.or_assoc, List.find?_cons]
    by_cases same : record.spec = spec
    · rw [if_pos same, beq_iff_eq.mpr same, Option.some_or]
    · rw [if_neg same, beq_eq_false_iff_ne.mpr same, Option.none_or]

theorem get?_ofRecords (records : List PackageRecord) (spec : String) :
    (ofRecords records).get? spec = records.find? (·.spec == spec) := by
  rw [ofRecords, get?_foldl_insert]
  rfl

theorem mem_ofRecords {records : List PackageRecord} {record : PackageRecord} :
    record ∈ (ofRecords records).records ↔ records.find? (·.spec == record.spec) = some record := by
  rw [← get?_ofRecords, get?_eq_some_iff, and_iff_left rfl]

theorem ofRecords_perm {one other : List PackageRecord} (perm : one.Perm other)
    (distinct : (one.map (·.spec)).Nodup) : ofRecords one = ofRecords other := by
  have distinctToo : (other.map (·.spec)).Nodup := (perm.map _).nodup_iff.mp distinct
  refine ext_get? fun spec => Option.ext fun record => ?_
  rw [get?_ofRecords, get?_ofRecords, PackageRecord.find?_eq_some_iff distinct,
    PackageRecord.find?_eq_some_iff distinctToo, perm.mem_iff]

theorem ofRecords_records (inventory : Inventory) : ofRecords inventory.records = inventory := by
  refine ext_get? fun spec => Option.ext fun record => ?_
  rw [get?_ofRecords, PackageRecord.find?_eq_some_iff inventory.specs_nodup, get?_eq_some_iff]

theorem ofJson?_packages {fields : List (String × Json)} {items : List Json}
    (stored : fields.lookup "packages" = some (.arr items)) :
    ofJson? (.obj fields) = (items.mapM PackageRecord.ofJson?).map ofRecords := by
  simp only [ofJson?, Json.record?, Option.bind_eq_bind, Option.bind_some, Json.orElse, stored, Json.list?]
  cases items.mapM PackageRecord.ofJson? <;> rfl

theorem ofJson?_stored (records : List PackageRecord) :
    ofJson? (.ofFields [("packages", .arr (records.map PackageRecord.toJson))]) = some (ofRecords records) := by
  rw [Json.ofFields, ofJson?_packages (by rw [Json.lookup_sortFields]; rfl), PackageRecord.mapM_ofJson?_toJson,
    Option.map_some]

theorem ofJson?_toJson (inventory : Inventory) : ofJson? inventory.toJson = some inventory := by
  rw [toJson, ofJson?_stored, ofRecords_records]

-- What a list of records becomes: in the order of their specs' bytes, of each spec the first record of the list.
structure Collects (records : List PackageRecord) (inventory : Inventory) : Prop where
  increasing : inventory.records.Pairwise (fun one other => Text.utf8 one.spec < Text.utf8 other.spec)
  firsts : ∀ record, record ∈ inventory.records ↔
    ∃ front back, records = front ++ record :: back ∧ ∀ other ∈ front, other.spec ≠ record.spec

theorem ofRecords_collects (records : List PackageRecord) : Collects records (ofRecords records) := by
  refine ⟨(ofRecords records).sorted.imp Text.utf8_lt_iff.mpr, fun record => ?_⟩
  rw [mem_ofRecords, List.find?_eq_some_iff_append]
  simp

structure Dictionary (inventory : Inventory) : Prop where
  gets : ∀ spec record, inventory.get? spec = some record ↔ record ∈ inventory.records ∧ record.spec = spec
  contains : ∀ spec, inventory.contains spec = true ↔ ∃ record ∈ inventory.records, record.spec = spec
  adds : ∀ record, (inventory.add record).1 = true ↔ ∀ other ∈ inventory.records, other.spec ≠ record.spec
  added : ∀ record, (inventory.add record).1 = true → ∃ front back,
    inventory.records = front ++ back ∧ (inventory.add record).2.records = front ++ record :: back
  kept : ∀ record, (inventory.add record).1 = false → (inventory.add record).2 = inventory

theorem dictionary (inventory : Inventory) : inventory.Dictionary where
  gets _ _ := get?_eq_some_iff
  contains spec := by simp only [contains_eq_isSome, Option.isSome_iff_exists, get?_eq_some_iff]
  adds record := by
    rw [← get?_eq_none_iff]
    cases there : inventory.get? record.spec with
    | some other => simp [add_of_present there]
    | none =>
      obtain ⟨after, _, _, added, _, _⟩ := add_of_absent there
      simp [added]
  added record added := by
    cases there : inventory.get? record.spec with
    | some other =>
      rw [add_of_present there] at added
      cases added
    | none =>
      obtain ⟨after, front, back, whole, split, inserted⟩ := add_of_absent there
      rw [whole]
      exact ⟨front, back, split, inserted⟩
  kept record kept := by
    cases there : inventory.get? record.spec with
    | some other => rw [add_of_present there]
    | none =>
      obtain ⟨after, _, _, whole, _, _⟩ := add_of_absent there
      rw [whole] at kept
      cases kept

-- An inventory is a dictionary, whatever list it comes from, and it comes back from its stored form as it was.
theorem ofRecords_dictionary :
    (∀ records, Collects records (ofRecords records)) ∧
    (∀ one other : List PackageRecord, one.Perm other → (one.map (·.spec)).Nodup → ofRecords one = ofRecords other) ∧
    (∀ inventory : Inventory, inventory.Dictionary) ∧
    (∀ fields items, fields.lookup "packages" = some (.arr items) →
      ofJson? (.obj fields) = (items.mapM PackageRecord.ofJson?).map ofRecords) ∧
    (∀ records, ofJson? (.ofFields [("packages", .arr (records.map PackageRecord.toJson))]) = some (ofRecords records)) ∧
    ∀ inventory, ofJson? (toJson inventory) = some inventory :=
  ⟨ofRecords_collects, fun _ _ => ofRecords_perm, dictionary, fun _ _ => ofJson?_packages, ofJson?_stored,
    ofJson?_toJson⟩

-- Two records, given in either order or stored with one of them twice.
theorem ofRecords_dictionary_reordered :
    let zod : PackageRecord := ⟨"zod", "https://esm.sh/zod", "https://esm.sh/zod.mjs", "", 42, ""⟩
    let dayjs : PackageRecord := ⟨"dayjs", "https://esm.sh/dayjs", "https://esm.sh/dayjs.mjs", "", 7, ""⟩
    ([zod, dayjs].Perm [dayjs, zod] ∧ ([zod, dayjs].map (·.spec)).Nodup ∧
      ofRecords [zod, dayjs] = ofRecords [dayjs, zod]) ∧
    ofJson? (.obj [("packages", .arr ([zod, dayjs, { zod with sizeBytes := 43 }].map PackageRecord.toJson))]) =
      some (ofRecords [zod, dayjs]) := by
  intro zod dayjs
  have perm : [zod, dayjs].Perm [dayjs, zod] := .swap _ _ _
  have distinct : ([zod, dayjs].map (·.spec)).Nodup := by decide
  obtain ⟨_, reordered, _, stored, _⟩ := ofRecords_dictionary
  refine ⟨⟨perm, distinct, reordered _ _ perm distinct⟩, ?_⟩
  rw [stored _ _ rfl, PackageRecord.mapM_ofJson?_toJson, Option.map_some]
  decide +kernel

end Inventory

end GuestSandbox
