import GuestSandbox.Policy
import GuestSandbox.Proofs.Json.Fields
import GuestSandbox.Proofs.Number.Numeral

namespace GuestSandbox

open Number

def Number.Binary64.InRange (x : Binary64) : Prop := 1 ≤ x.value ∧ x.value ≤ 2 ^ 64

def Settings.Tells (settings : Settings) (limit : Limit) (x : Binary64) : Prop :=
  ∃ text, settings.get? limit.name = some text ∧ Reads (Text.trimChars text.toList) (.finite x) ∧ x.InRange

theorem Number.Reads.canonical {cs : List Char} {x : Binary64} (reads : Reads cs (.finite x)) : x.Canonical := by
  cases reads with
  | numeral sign n figure nearest => exact nearest.2.2.canonical

variable {x : Binary64} {text : String} {n : Nat}

theorem Number.Binary64.Canonical.inRange_iff (canonical : x.Canonical) :
    (x.negative || x.floor < 1 || greatestWord + 1 < x.floor) = false ↔ x.InRange := by
  unfold Binary64.InRange Binary64.value
  cases x.negative with
  | true =>
    have := x.magnitude_nonneg
    simp only [Bool.true_or, Bool.true_eq_false, if_true, false_iff, not_and]
    intro
    linarith
  | false =>
    have most := canonical.lt_floor_iff (n := greatestWord + 1) (by decide)
    have least : x.floor < 1 ↔ x.magnitude < 1 := by rw [x.floor_eq, Nat.floor_lt_one x.magnitude_nonneg]
    have bound : ((greatestWord + 1 : ℕ) : ℚ) = 2 ^ 64 := by norm_num [greatestWord]
    simp [most, least, bound]

theorem Number.Binary64.InRange.floor_eq (inRange : x.InRange) : x.floor = ⌊x.value⌋₊ := by
  have least := inRange.1
  unfold Binary64.value at *
  split at least
  · have := x.magnitude_nonneg
    linarith
  · rename_i positive
    rw [x.floor_eq, if_neg positive]

theorem readLimit?_iff : readLimit? text = some n ↔
    ∃ x, Reads (Text.trimChars text.toList) (.finite x) ∧ x.InRange ∧ n = min ⌊x.value⌋₊ greatestWord := by
  unfold readLimit?
  split
  · rename_i value read
    have reads := read?_iff.mp read
    have inRange := reads.canonical.inRange_iff
    split
    · rename_i outside
      refine ⟨nofun, ?_⟩
      rintro ⟨x, readsToo, within, -⟩
      obtain rfl : value = x := by simpa [read] using read?_iff.mpr readsToo
      exact absurd outside (by rw [inRange.mpr within]; decide)
    · rename_i inside
      have within := inRange.mp (by simpa using inside)
      constructor
      · rintro ⟨⟩
        exact ⟨value, reads, within, by rw [within.floor_eq]⟩
      · rintro ⟨x, readsToo, -, rfl⟩
        obtain rfl : value = x := by simpa [read] using read?_iff.mpr readsToo
        rw [within.floor_eq]
  · rename_i none
    refine ⟨nofun, ?_⟩
    rintro ⟨x, reads, -⟩
    exact absurd (read?_iff.mpr reads) (none x)

namespace Policy

variable (settings : Settings)

theorem limit_ofSettings (limit : Limit) :
    (ofSettings settings).limit limit = ((settings.get? limit.name).bind readLimit?).getD (standard.limit limit) := by
  rw [ofSettings_eq, limit_ofParts]

theorem feature_ofSettings (feature : Feature) :
    (ofSettings settings).feature feature = ((settings.get? feature.name).bind readSwitch?).getD (standard.feature feature) := by
  rw [ofSettings_eq, feature_ofParts]

theorem standard_bounds (limit : Limit) : 1 ≤ standard.limit limit ∧ standard.limit limit ≤ greatestWord := by
  cases limit <;> decide

theorem ofSettings_bounds (limit : Limit) :
    1 ≤ (ofSettings settings).limit limit ∧ (ofSettings settings).limit limit ≤ greatestWord := by
  rw [limit_ofSettings]
  cases read : (settings.get? limit.name).bind readLimit? with
  | none => exact standard_bounds limit
  | some value =>
    obtain ⟨text, -, told⟩ := Option.bind_eq_some_iff.mp read
    exact readLimit?_bounds text value told

variable {settings}

theorem limit_of_tells {limit : Limit} (tells : settings.Tells limit x) :
    (ofSettings settings).limit limit = min ⌊x.value⌋₊ greatestWord := by
  obtain ⟨text, found, reads, inRange⟩ := tells
  have read : readLimit? text = some (min ⌊x.value⌋₊ greatestWord) := readLimit?_iff.mpr ⟨x, reads, inRange, rfl⟩
  rw [limit_ofSettings, found, Option.bind_some, read, Option.getD_some]

theorem limit_of_not_tells {limit : Limit} (silent : ∀ x, ¬ settings.Tells limit x) :
    (ofSettings settings).limit limit = standard.limit limit := by
  rw [limit_ofSettings]
  cases read : (settings.get? limit.name).bind readLimit? with
  | none => rfl
  | some value =>
    obtain ⟨text, found, told⟩ := Option.bind_eq_some_iff.mp read
    obtain ⟨x, reads, inRange, -⟩ := readLimit?_iff.mp told
    exact absurd ⟨text, found, reads, inRange⟩ (silent x)

-- Two policies of which every part is the same whose option has another name.
structure AgreeBut (option : String) (one other : Policy) : Prop where
  features : ∀ feature : Feature, feature.name ≠ option → one.feature feature = other.feature feature
  limits : ∀ limit : Limit, limit.name ≠ option → one.limit limit = other.limit limit

end Policy

@[simp] theorem Settings.get?_set (settings : Settings) (option text other : String) :
    (settings.set option text).get? other = if other = option then some text else settings.get? other :=
  Json.lookup_insertField option text settings.entries other

namespace Policy

theorem AgreeBut.eq {option : String} {one other : Policy} (agree : AgreeBut option one other)
    (unknown : option ∉ allOptions) : one = other := by
  have features : one.feature = other.feature := funext fun feature =>
    agree.features feature (by rintro rfl; exact unknown (by cases feature <;> decide))
  have limits : one.limit = other.limit := funext fun limit =>
    agree.limits limit (by rintro rfl; exact unknown (by cases limit <;> decide))
  rw [← ofParts_parts one, ← ofParts_parts other, features, limits]

theorem ofSettings_set (settings : Settings) (option text : String) :
    AgreeBut option (ofSettings (settings.set option text)) (ofSettings settings) where
  features feature other := by rw [feature_ofSettings, feature_ofSettings, Settings.get?_set, if_neg other]
  limits limit other := by rw [limit_ofSettings, limit_ofSettings, Settings.get?_set, if_neg other]

-- Whatever the options are set to, no limit is zero or more than a word; each is what its own option tells or the standard
-- one; and setting an option changes the part of its name and nothing else.
theorem ofSettings_options (settings : Settings) :
    (∀ limit, 1 ≤ (ofSettings settings).limit limit ∧ (ofSettings settings).limit limit < 2 ^ 64) ∧
      (∀ limit x, settings.Tells limit x → (ofSettings settings).limit limit = min ⌊x.value⌋₊ (2 ^ 64 - 1)) ∧
      (∀ limit, (∀ x, ¬ settings.Tells limit x) → (ofSettings settings).limit limit = standard.limit limit) ∧
      ∀ option text, AgreeBut option (ofSettings (settings.set option text)) (ofSettings settings) ∧
        (option ∉ allOptions → ofSettings (settings.set option text) = ofSettings settings) := by
  refine ⟨fun limit => ?_, fun limit x => limit_of_tells, fun limit => limit_of_not_tells, fun option text => ?_⟩
  · obtain ⟨least, greatest⟩ := ofSettings_bounds settings limit
    exact ⟨least, Nat.lt_succ_of_le greatest⟩
  · exact ⟨ofSettings_set settings option text, (ofSettings_set settings option text).eq⟩

-- A number between two limits, one at the edge, one past all numbers, and an option that there is not.
theorem ofSettings_options_edges :
    let settings : Settings :=
      .ofPairs [("execTimeoutMs", " +29e-1 "), ("execMaxHostCalls", "18446744073709551616"), ("execStackKb", "1e400")]
    settings.Tells .execTimeoutMs ⟨false, 0x17333333333333, -51⟩ ∧ (ofSettings settings).limit .execTimeoutMs = 2 ∧
      settings.Tells .execMaxHostCalls ⟨false, 2 ^ 52, 12⟩ ∧
      (ofSettings settings).limit .execMaxHostCalls = 2 ^ 64 - 1 ∧
      (∀ x, ¬ settings.Tells .execStackKb x) ∧ (ofSettings settings).limit .execStackKb = 512 ∧
      "execTimeout" ∉ allOptions ∧ ofSettings (settings.set "execTimeout" "7") = ofSettings settings := by
  intro settings
  obtain ⟨-, told, untold, others⟩ := ofSettings_options settings
  have small : Binary64.InRange ⟨false, 0x17333333333333, -51⟩ := by
    norm_num [Binary64.InRange, Binary64.value, Binary64.magnitude]
  have edge : Binary64.InRange ⟨false, 2 ^ 52, 12⟩ := by
    norm_num [Binary64.InRange, Binary64.value, Binary64.magnitude]
  have smallTold : settings.Tells .execTimeoutMs ⟨false, 0x17333333333333, -51⟩ :=
    ⟨" +29e-1 ", by decide +kernel, read?_iff.mp (by decide +kernel), small⟩
  have edgeTold : settings.Tells .execMaxHostCalls ⟨false, 2 ^ 52, 12⟩ :=
    ⟨"18446744073709551616", by decide +kernel, read?_iff.mp (by decide +kernel), edge⟩
  have infinite : Figure.read? (Text.trimChars "1e400".toList) = some (.infinite false) := by decide +kernel
  have silent : ∀ x, ¬ settings.Tells .execStackKb x := by
    rintro x ⟨text, found, reads, -⟩
    obtain rfl : "1e400" = text := Option.some.inj ((by decide +kernel : _ = some "1e400").symm.trans found)
    cases infinite.symm.trans (read?_iff.mpr reads)
  have unknown : "execTimeout" ∉ allOptions := by decide
  refine ⟨smallTold, ?_, edgeTold, ?_, silent, untold _ silent, unknown, (others _ "7").2 unknown⟩
  · rw [told _ _ smallTold, ← small.floor_eq]
    decide +kernel
  · rw [told _ _ edgeTold, ← edge.floor_eq]
    decide +kernel

end Policy

end GuestSandbox
