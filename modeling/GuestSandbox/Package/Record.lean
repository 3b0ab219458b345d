import GuestSandbox.Json.Record

namespace GuestSandbox

-- `spec` is the text the guest asked for and identifies the record.
structure PackageRecord where
  spec : String
  resolvedUrl : String
  entryUrl : String
  sha256 : String
  sizeBytes : UInt64
  installedAt : String
deriving Repr, DecidableEq, Inhabited

namespace PackageRecord

def toJson (record : PackageRecord) : Json :=
  .ofFields [("spec", .str record.spec), ("resolvedUrl", .str record.resolvedUrl), ("entryUrl", .str record.entryUrl),
    ("sha256", .str record.sha256), ("sizeBytes", .ofNat record.sizeBytes.toNat),
    ("installedAt", .str record.installedAt)]

def ofJson? (json : Json) : Option PackageRecord := do
  let field ← json.record? ["spec", "resolvedUrl", "entryUrl", "sha256", "sizeBytes", "installedAt"]
  let spec ← Json.need field "spec" Json.text?
  let resolvedUrl ← Json.need field "resolvedUrl" Json.text?
  let entryUrl ← Json.need field "entryUrl" Json.text?
  let sha256 ← Json.need field "sha256" Json.text?
  let sizeBytes ← Json.need field "sizeBytes" (Json.word? 64)
  let installedAt ← Json.need field "installedAt" Json.text?
  some ⟨spec, resolvedUrl, entryUrl, sha256, .ofNat sizeBytes, installedAt⟩

end PackageRecord

def SortedBySpec (records : List PackageRecord) : Prop := records.Pairwise (fun a b => a.spec < b.spec)

theorem SortedBySpec.unique {records : List PackageRecord} (sorted : SortedBySpec records) {one other : PackageRecord}
    (here : one ∈ records) (there : other ∈ records) (same : one.spec = other.spec) : one = other := by
  induction records with
  | nil => cases here
  | cons first rest ih =>
    obtain ⟨least, tail⟩ := List.pairwise_cons.mp sorted
    rcases List.mem_cons.mp here with rfl | hereLater <;> rcases List.mem_cons.mp there with rfl | thereLater
    · rfl
    · exact absurd (same ▸ least other thereLater) (String.lt_irrefl _)
    · exact absurd (same ▸ least one hereLater) (String.lt_irrefl _)
    · exact ih tail hereLater thereLater

end GuestSandbox
