import GuestSandbox.Package.Inventory
import GuestSandbox.Proofs.Text.LetterCase

-- A search of an inventory finds exactly the records whose spec mentions what is asked for, in their order. Specs and
-- queries are ASCII here: outside it a lower-case form may depend on the letters around a character.

namespace GuestSandbox.Inventory

open Text (Ascii SameLetters Mentions)

variable {inventory : Inventory}

structure Finds (inventory : Inventory) (query : String) (found : List PackageRecord) : Prop where
  ordered : found.Sublist inventory.records
  distinct : found.Nodup
  exact : ∀ record, record ∈ found ↔
    record ∈ inventory.records ∧ Mentions record.spec.toList (Text.trimChars query.toList)

def needle (query : String) : List Char := (Text.trimChars query.toList).map Char.toLower

def mentioned (needle : List Char) (record : PackageRecord) : Bool :=
  Text.occursIn needle (record.spec.toList.map Char.toLower)

theorem mentioned_iff {query : String} {record : PackageRecord} :
    mentioned (needle query) record = true ↔ Mentions record.spec.toList (Text.trimChars query.toList) := by
  rw [mentioned, Text.occursIn_iff, Text.mentions_iff, needle]

theorem matching_eq_filter (specs : ∀ record ∈ inventory.records, Ascii record.spec.toList) {query : String}
    (ascii : Ascii query.toList) : inventory.matching (some query) = inventory.records.filter (mentioned (needle query)) := by
  have trimmed : Ascii (Text.trimChars query.toList) := fun c member => ascii c (Text.mem_trimChars _ c member)
  unfold matching needle
  rw [Option.map_some]
  generalize Text.trimChars query.toList = asked at trimmed
  cases asked with
  | nil =>
    refine (List.filter_eq_self.mpr fun record _ => ?_).symm
    exact (Text.occursIn_iff _ _).mpr List.nil_infix
  | cons c rest =>
    refine List.filter_congr fun record member => ?_
    rw [Text.lowerChars_ascii _ trimmed, Text.lowerChars_ascii _ (specs record member), mentioned]

theorem matching_finds (specs : ∀ record ∈ inventory.records, Ascii record.spec.toList) {query : String}
    (ascii : Ascii query.toList) : inventory.Finds query (inventory.matching (some query)) := by
  rw [matching_eq_filter specs ascii]
  constructor
  · exact List.filter_sublist
  · exact (inventory.sorted.imp fun less same => String.ne_of_lt less (congrArg _ same)).sublist List.filter_sublist
  · intro record
    rw [List.mem_filter, mentioned_iff]

theorem matching_of_blank {query : String} (blank : ∀ c ∈ query.toList, Text.isBlank c = true) :
    inventory.matching (some query) = inventory.records := by
  unfold matching
  rw [Option.map_some, Text.trimChars_eq_nil blank]

theorem matching_sublist (specs : ∀ record ∈ inventory.records, Ascii record.spec.toList) {one other : String}
    (asciiOne : Ascii one.toList) (asciiOther : Ascii other.toList)
    (mentions : Mentions one.toList (Text.trimChars other.toList)) :
    (inventory.matching (some one)).Sublist (inventory.matching (some other)) := by
  rw [matching_eq_filter specs asciiOne, matching_eq_filter specs asciiOther]
  refine List.monotone_filter_right _ fun record found => ?_
  exact mentioned_iff.mpr ((mentioned_iff.mp found).trans mentions.trimChars)

theorem matching_congr (specs : ∀ record ∈ inventory.records, Ascii record.spec.toList) {one other : String}
    (ascii : Ascii other.toList) (same : SameLetters one.toList other.toList) :
    inventory.matching (some one) = inventory.matching (some other) := by
  have lowered : needle one = needle other := same.trimChars
  rw [matching_eq_filter specs (same.ascii ascii), matching_eq_filter specs ascii, lowered]

-- Without a query, and with a blank one, everything is found. Every other query is answered by the records that mention
-- it, the case of its letters does not matter, and a query that mentions another one finds no more than that.
theorem matching_exact (specs : ∀ record ∈ inventory.records, Ascii record.spec.toList) :
    inventory.matching none = inventory.records ∧
    (∀ query : String, (∀ c ∈ query.toList, Text.isBlank c = true) →
      inventory.matching (some query) = inventory.records) ∧
    ∀ query : String, Ascii query.toList →
      inventory.Finds query (inventory.matching (some query)) ∧
      (∀ other : String, SameLetters other.toList query.toList →
        inventory.matching (some other) = inventory.matching (some query)) ∧
      ∀ other : String, Ascii other.toList → Mentions other.toList (Text.trimChars query.toList) →
        (inventory.matching (some other)).Sublist (inventory.matching (some query)) :=
  ⟨rfl, fun _ => matching_of_blank, fun _ ascii =>
    ⟨matching_finds specs ascii, fun _ => matching_congr specs ascii, fun _ asciiToo => matching_sublist specs asciiToo ascii⟩⟩

-- A query with blanks around it in letters of both cases, and a longer one that mentions it.
theorem matching_exact_lodash :
    let record (spec : String) : PackageRecord := ⟨spec, "", "", "", 0, ""⟩
    let inventory := ofRecords [record "zod", record "lodash-es", record "Lodash"]
    (∀ record ∈ inventory.records, Ascii record.spec.toList) ∧ Ascii " LoDash\t".toList ∧
      SameLetters " lODASH\t".toList " LoDash\t".toList ∧
      Ascii "LODASH-".toList ∧ Mentions "LODASH-".toList (Text.trimChars " LoDash\t".toList) ∧
      (∀ c ∈ " \t".toList, Text.isBlank c = true) ∧
      (inventory.matching (some " LoDash\t")).map (·.spec) = ["Lodash", "lodash-es"] ∧
      inventory.Finds " LoDash\t" (inventory.matching (some " LoDash\t")) ∧
      inventory.matching (some " lODASH\t") = inventory.matching (some " LoDash\t") ∧
      (inventory.matching (some "LODASH-")).Sublist (inventory.matching (some " LoDash\t")) ∧
      inventory.matching (some " \t") = inventory.records := by
  intro record inventory
  have specs : ∀ record ∈ inventory.records, Ascii record.spec.toList := by decide +kernel
  have ascii : Ascii " LoDash\t".toList := by decide +kernel
  have same : SameLetters " lODASH\t".toList " LoDash\t".toList := by decide +kernel
  have asciiToo : Ascii "LODASH-".toList := by decide +kernel
  have mentions : Mentions "LODASH-".toList (Text.trimChars " LoDash\t".toList) := ⟨"LODASH".toList, by decide, by decide⟩
  have blank : ∀ c ∈ " \t".toList, Text.isBlank c = true := List.all_eq_true.mp (by decide)
  obtain ⟨_, all, asked⟩ := matching_exact specs
  obtain ⟨finds, cased, fewer⟩ := asked " LoDash\t" ascii
  exact ⟨specs, ascii, same, asciiToo, mentions, blank, by decide +kernel, finds, cased _ same,
    fewer _ asciiToo mentions, all _ blank⟩

end GuestSandbox.Inventory
