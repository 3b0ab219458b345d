import GuestSandbox.Proofs.Number.Whole
import GuestSandbox.Proofs.Policy.Options
import GuestSandbox.Run.Overview

namespace GuestSandbox

theorem Text.isBlank_of_isDigit {c : Char} (digit : c.isDigit = true) : isBlank c = false := by
  have range : 0x30 ≤ c.toNat ∧ c.toNat ≤ 0x39 := by
    simpa [Char.isDigit, UInt32.le_iff_toNat_le] using digit
  simp only [isBlank, Bool.or_eq_false_iff, Bool.and_eq_false_iff, decide_eq_false_iff_not, beq_eq_false_iff_ne]
  omega

-- As far as the nearest binary64 number is the number itself, a limit is read from its digits.
theorem readLimit?_toString {n : Nat} (least : 1 ≤ n) (greatest : n ≤ 2 ^ 53) : readLimit? (toString n) = some n := by
  obtain ⟨x, reads, value⟩ := Number.reads_digits least greatest
  have solid : ∀ c ∈ Number.digits n, Text.isBlank c = false := fun c member =>
    Text.isBlank_of_isDigit (Number.isDigit_of_mem_digits member)
  have trimmed : Text.trimChars (Number.digits n) = Number.digits n :=
    Text.trimChars_of_solid (fun c first => solid c (List.mem_of_mem_head? first))
      fun c last => solid c (List.mem_of_mem_getLast? last)
  have word : n ≤ 2 ^ 64 := Nat.le_trans greatest (by decide)
  have inRange : x.InRange := by
    rw [Number.Binary64.InRange, value]
    exact ⟨by exact_mod_cast least, by exact_mod_cast word⟩
  refine readLimit?_iff.mpr ⟨x, ?_, inRange, ?_⟩
  · rw [show (toString n).toList = Number.digits n from rfl, trimmed]
    exact reads
  · rw [value, Nat.floor_natCast, Nat.min_eq_left (Nat.le_trans greatest (by decide))]

theorem readSwitch?_toString (on : Bool) : readSwitch? (toString on) = some on := by cases on <;> decide +kernel

theorem Feature.mem_all (feature : Feature) : feature ∈ all := by cases feature <;> decide

theorem Limit.mem_all (limit : Limit) : limit ∈ all := by cases limit <;> decide

def Policy.texts (policy : Policy) : List (String × String) :=
  Feature.all.map (fun feature => (feature.name, toString (policy.feature feature)))
    ++ Limit.all.map fun limit => (limit.name, toString (policy.limit limit))

-- An environment in which the variables of all options are those of a policy. Other variables do not matter.
def Policy.environment (policy : Policy) (others : String → Option String) (name : String) : Option String :=
  ((policy.texts.map fun (option, text) => (variableName option, text)).lookup name).or (others name)

theorem variableNames_nodup : (allOptions.map variableName).Nodup := by decide +kernel

namespace Policy

variable (policy : Policy)

theorem texts_options : policy.texts.map Prod.fst = allOptions := by
  simp [texts, allOptions_eq, Function.comp_def]

theorem toFields_options : policy.toFields.map Prod.fst = allOptions := by
  simp [toFields, allOptions_eq, Function.comp_def]

theorem scalarTexts_toFields :
    policy.toFields.filterMap (fun (name, value) => (Settings.scalarText? value).map fun text => (name, text)) =
      policy.texts := by
  simp [toFields, texts, Settings.scalarText?, Json.ofNat, Json.Num.text]

theorem environment_option (others : String → Option String) {option text : String}
    (told : (option, text) ∈ policy.texts) : policy.environment others (variableName option) = some text := by
  have distinct : ((policy.texts.map fun (option, text) => (variableName option, text)).map Prod.fst).Nodup := by
    have names : (policy.texts.map fun (option, text) => (variableName option, text)).map Prod.fst =
        (policy.texts.map Prod.fst).map variableName := by simp
    rw [names, texts_options]
    exact variableNames_nodup
  have listed := List.mem_map_of_mem (f := fun (option, text) => (variableName option, text)) told
  have found := Json.lookup_of_mem distinct listed
  rw [environment, found, Option.some_or]

variable {policy}

-- Each limit is positive and a number up to which binary64 numbers have no gaps.
def Exact (policy : Policy) : Prop := ∀ limit, 1 ≤ policy.limit limit ∧ policy.limit limit ≤ 2 ^ 53

theorem ofSettings_of_texts {settings : Settings} (exact : policy.Exact)
    (told : ∀ entry ∈ policy.texts, settings.get? entry.1 = some entry.2) : ofSettings settings = policy := by
  have switches : ∀ feature : Feature,
      ((settings.get? feature.name).bind readSwitch?).getD (standard.feature feature) = policy.feature feature := by
    intro feature
    have listed : (feature.name, toString (policy.feature feature)) ∈ policy.texts :=
      List.mem_append_left _ (List.mem_map_of_mem feature.mem_all)
    rw [told _ listed, Option.bind_some, readSwitch?_toString, Option.getD_some]
  have limits : ∀ limit : Limit,
      ((settings.get? limit.name).bind readLimit?).getD (standard.limit limit) = policy.limit limit := by
    intro limit
    have listed : (limit.name, toString (policy.limit limit)) ∈ policy.texts :=
      List.mem_append_right _ (List.mem_map_of_mem limit.mem_all)
    rw [told _ listed, Option.bind_some, readLimit?_toString (exact limit).1 (exact limit).2, Option.getD_some]
  rw [ofSettings_eq, funext switches, funext limits, ofParts_parts]

theorem ofSettings_ofPairs {pairs : List (String × String)} (exact : policy.Exact) (same : pairs.Perm policy.texts) :
    ofSettings (.ofPairs pairs) = policy := by
  have distinct : (pairs.map Prod.fst).Nodup := by
    rw [(same.map Prod.fst).nodup_iff, texts_options]
    exact allOptions_nodup
  refine ofSettings_of_texts exact fun entry told => ?_
  exact Json.lookup_sortFields_of_mem distinct (same.mem_iff.mpr told)

theorem ofJson_toJson_texts (policy : Policy) :
    ∃ pairs, Settings.ofJson policy.toJson = .ofPairs pairs ∧ pairs.Perm policy.texts := by
  have distinct : (policy.toFields.map Prod.fst).Nodup := by
    rw [toFields_options]
    exact allOptions_nodup
  refine ⟨_, rfl, ?_⟩
  rw [← scalarTexts_toFields]
  exact (Json.sortFields_perm distinct).filterMap _

theorem ofVariables_environment (policy : Policy) (others : String → Option String) :
    Settings.ofVariables (policy.environment others) = .ofPairs policy.texts := by
  have each : ∀ entry ∈ policy.texts,
      ((policy.environment others (variableName entry.1)).map fun value => (entry.1, value)) = some entry :=
    fun entry told => by rw [environment_option policy others told, Option.map_some]
  unfold Settings.ofVariables
  rw [← texts_options policy, List.filterMap_map]
  exact congrArg Settings.ofPairs ((List.filterMap_congr each).trans List.filterMap_some)

theorem overview_limits (sandbox : Sandbox) (engineName : String) (query : Option String) (inventory : Inventory) :
    (sandbox.overview engineName query inventory).toJson.field? "limits" = some sandbox.policy.toJson := by
  refine Json.lookup_sortFields_of_mem ?_ (.tail _ (.head _))
  simp only [List.map_cons, List.map_nil]
  decide

-- Whatever limits a policy has that binary64 numbers hold exactly, and whatever it switches on or off: it comes back
-- from the object in which a caller is told of it, from an environment, and from its options in any order.
theorem ofSettings_forms (exact : policy.Exact) :
    (∀ sandbox : Sandbox, sandbox.policy = policy → ∀ engineName query inventory,
      ((sandbox.overview engineName query inventory).toJson.field? "limits").map
        (fun limits => ofSettings (.ofJson limits)) = some policy) ∧
      (∀ others, ofSettings (.ofVariables (policy.environment others)) = policy) ∧
      ∀ pairs : List (String × String), pairs.Perm policy.texts → ofSettings (.ofPairs pairs) = policy := by
  refine ⟨?_, fun others => ?_, fun pairs same => ofSettings_ofPairs exact same⟩
  · rintro sandbox rfl engineName query inventory
    obtain ⟨pairs, read, same⟩ := sandbox.policy.ofJson_toJson_texts
    rw [overview_limits, Option.map_some, read, ofSettings_ofPairs exact same]
  · rw [ofVariables_environment]
    exact ofSettings_ofPairs exact (.refl _)

-- All limits are different, the last of them the greatest number up to which there are no gaps.
theorem ofSettings_forms_distinct :
    let policy : Policy :=
      { codeExecEnabled := false, netFetchEnabled := true, pkgInstallEnabled := false, execTimeoutMs := 1,
        execMemoryMb := 2, execStackKb := 3, execMaxHostCalls := 4, execMaxLogLines := 5, execMaxOutputBytes := 6,
        netMaxRequestsPerRun := 7, netMaxParallelRequests := 8, netRequestTimeoutMs := 9, netMaxResponseBytes := 10,
        netMaxTotalDownloadBytes := 11, netMaxRedirects := 12, pkgInstallTimeoutMs := 13, pkgMaxSpecLength := 14,
        pkgMaxModuleBytes := 15, pkgMaxTotalInstallBytesPerRun := 16, pkgMaxInstallsPerRun := 9007199254740992 }
    let sandbox : Sandbox := { policy, net := Network.disabled, stamp := "" }
    policy.Exact ∧
      ((sandbox.overview "none" none .empty).toJson.field? "limits").map (fun limits => ofSettings (.ofJson limits)) =
        some policy ∧
      policy.environment (fun _ => none) "PKG_MAX_INSTALLS_PER_RUN" = some "9007199254740992" ∧
      ofSettings (.ofVariables (policy.environment fun _ => none)) = policy ∧
      ofSettings (.ofPairs policy.texts.reverse) = policy := by
  intro policy sandbox
  have exact : policy.Exact := fun limit => by cases limit <;> decide
  obtain ⟨told, found, listed⟩ := ofSettings_forms exact
  exact ⟨exact, told sandbox rfl "none" none .empty, by decide +kernel, found _, listed _ (List.reverse_perm _)⟩

end Policy

end GuestSandbox
