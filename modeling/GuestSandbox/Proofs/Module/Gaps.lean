import GuestSandbox.Proofs.Module.Gathering
import Mathlib.Data.List.Induction

-- Modules whose imports are missing. A gathering that fails keeps the modules that it has stored, and a later one that
-- comes upon them does not look at their imports again. So a gathering may succeed where something is missing, but only
-- behind modules that a failed one has left.

namespace GuestSandbox

open Operation Relation

structure Library.Gap (library : Library) (name : String) (url : Url) : Prop where
  link : library.Links name url
  missing : library.contains url.text = false

structure Library.CompleteFrom (library : Library) (entry : String) : Prop where
  stored : library.contains entry = true
  closed : ∀ name, ReflTransGen library.Leads entry name → ∀ url, library.Links name url →
    library.contains url.text = true

theorem Library.Gap.absurd_of_contains {library : Library} {name : String} {url : Url} (gap : library.Gap name url)
    (there : library.contains url.text = true) : False := by
  have missing := gap.missing
  rw [there] at missing
  cases missing

theorem Library.Gap.stored {library : Library} {name : String} {url : Url} (gap : library.Gap name url) :
    library.contains name = true := by
  obtain ⟨source, _, found, _, _⟩ := gap.link
  exact contains_of_source? found

theorem Library.Gains.gap_before {before after : Library} {stored : List (String × String)}
    (gains : before.Gains after stored) {name : String} {url : Url} (old : before.contains name = true)
    (gap : after.Gap name url) : before.Gap name url := by
  refine ⟨(gains.links_kept old).mp gap.link, Bool.eq_false_iff.mpr fun there => ?_⟩
  exact gap.absurd_of_contains (gains.contains_mono there)

namespace Loading

theorem gather_gap {net : Network} {policy : Policy} {entry : Url} {known : Option String} {loading last : Loading}
    {added : Nat} (gathered : gather net policy entry known loading = .ok added last) {name : String} {url : Url}
    (gap : last.library.Gap name url) : loading.library.Gap name url := by
  cases there : loading.library.contains entry.text with
  | true =>
    rw [gather_of_contains there] at gathered
    cases gathered
    exact gap
  | false =>
    obtain ⟨stored, whole, _⟩ := gather_completes there gathered
    rcases whole.gains.contains.mp gap.stored with new | old
    · exact (gap.absurd_of_contains (whole.linked name new url gap.link)).elim
    · exact whole.gains.gap_before old gap

end Loading

structure Gathering where
  net : Network
  entry : Url
  known : Option String := none
  left : Option Nat := none

namespace Gathering

open Loading

def carryOut (policy : Policy) (gathering : Gathering) : Operation Loading Nat := fun loading =>
  gather gathering.net policy gathering.entry gathering.known
    ⟨loading.journal.within gathering.left, loading.library⟩

def all (policy : Policy) (gatherings : List Gathering) (start : Loading) : Loading :=
  gatherings.foldl (fun loading gathering => (gathering.carryOut policy).after loading) start

-- A module that one of the gatherings stored before it failed or was cut.
def LeftBehind (policy : Policy) (gatherings : List Gathering) (start : Loading) (name : String) : Prop :=
  ∃ earlier gathering later stop last, gatherings = earlier ++ gathering :: later ∧
    carryOut policy gathering (all policy earlier start) = .error stop last ∧
    (all policy earlier start).library.contains name = false ∧ last.library.contains name = true

theorem all_concat (policy : Policy) (gatherings : List Gathering) (gathering : Gathering) (start : Loading) :
    all policy (gatherings ++ [gathering]) start = (gathering.carryOut policy).after (all policy gatherings start) := by
  simp [all]

theorem LeftBehind.concat {policy : Policy} {gatherings : List Gathering} {gathering : Gathering} {start : Loading}
    {name : String} (left : LeftBehind policy gatherings start name) :
    LeftBehind policy (gatherings ++ [gathering]) start name := by
  obtain ⟨earlier, failed, later, stop, last, rfl, ran, absent, there⟩ := left
  exact ⟨earlier, failed, later ++ [gathering], stop, last, by simp, ran, absent, there⟩

theorem carryOut_gap {policy : Policy} {gathering : Gathering} {loading : Loading} {name : String} {url : Url}
    (gap : ((gathering.carryOut policy).after loading).library.Gap name url) : loading.library.Gap name url ∨
      ∃ stop last, gathering.carryOut policy loading = .error stop last ∧ loading.library.contains name = false ∧
        last.library.contains name = true := by
  cases ran : gathering.carryOut policy loading with
  | ok added last =>
    rw [after_of_ok ran] at gap
    exact .inl (gather_gap ran gap)
  | error stop last =>
    obtain ⟨stored, gains⟩ := gather_gains gathering.net policy gathering.entry gathering.known
      ⟨loading.journal.within gathering.left, loading.library⟩
    rw [show (gather _ _ _ _).after _ = last from after_of_error ran] at gains
    rw [after_of_error ran] at gap
    cases old : loading.library.contains name with
    | true => exact .inl (gains.gap_before old gap)
    | false => exact .inr ⟨stop, last, rfl, rfl, gap.stored⟩

-- Wherever a library has grown from an empty one, its gaps are those of modules that were left behind.
theorem all_gap {policy : Policy} {start : Loading} (empty : start.library.sources = []) (gatherings : List Gathering)
    {name : String} {url : Url} (gap : (all policy gatherings start).library.Gap name url) :
    LeftBehind policy gatherings start name := by
  induction gatherings using List.reverseRecOn with
  | nil =>
    have there := Library.contains_iff.mp gap.stored
    rw [show (all policy [] start).library.sources = [] from empty] at there
    cases there
  | append_singleton gatherings gathering ih =>
    rw [all_concat] at gap
    rcases carryOut_gap gap with old | ⟨stop, last, ran, absent, there⟩
    · exact (ih old).concat
    · exact ⟨gatherings, gathering, [], stop, last, rfl, ran, absent, there⟩

-- Behind any gatherings, successful or not, one that succeeds has stored its entry with all that imports lead to,
-- unless they lead to a module that an earlier one left behind when it failed, and of whose imports one is missing.
theorem completeFrom_iff {policy : Policy} {start last : Loading} (empty : start.library.sources = [])
    {gatherings : List Gathering} {gathering : Gathering} {added : Nat}
    (gathered : gathering.carryOut policy (all policy gatherings start) = .ok added last) :
    last.library.CompleteFrom gathering.entry.text ↔
      ∀ name, ReflTransGen last.library.Leads gathering.entry.text name →
        LeftBehind policy gatherings start name → ∀ url, ¬last.library.Gap name url := by
  constructor
  · intro complete name path _ url gap
    exact gap.absurd_of_contains (complete.closed name path url gap.link)
  · intro unharmed
    refine ⟨gather_contains gathered, fun name path url link => ?_⟩
    cases there : last.library.contains url.text with
    | true => rfl
    | false =>
      have gap : last.library.Gap name url := ⟨link, there⟩
      have left : LeftBehind policy gatherings start name := all_gap empty gatherings (gather_gap gathered gap)
      exact absurd gap (unharmed name path left url)

-- A module is stored and what it imports cannot be had. The next gathering succeeds without asking for it again.
theorem completeFrom_iff_retry :
    let entry : Url := ⟨"https", "", some "esm.sh", none, "/a.mjs", none, none⟩
    let start : Loading := ⟨{}, .empty .standard⟩
    let failing : Gathering := { net := Network.disabled, entry, known := some "import '/b.mjs'" }
    let retry : Gathering := { net := (RouteTable.add {} "https://esm.sh/b.mjs" 200 "").network, entry }
    ∃ last, start.library.sources = [] ∧ retry.carryOut {} (all {} [failing] start) = .ok 0 last ∧
      LeftBehind {} [failing] start entry.text ∧ ¬last.library.CompleteFrom entry.text := by
  intro entry start failing retry
  let walk : Walk := ⟨⟨start.journal.within none, start.library⟩, [⟨entry, some "import '/b.mjs'"⟩], 0⟩
  let missing : Url := ⟨"https", "", some "esm.sh", none, "/b.mjs", none, none⟩
  have stops : (walk.runFor Network.disabled {} 4).any (fun result => match result with
      | .ok _ _ => false
      | .error _ last => last.library.sources == [(entry.text, "import '/b.mjs'")]) = true := by decide +kernel
  obtain ⟨result, ran, test⟩ := (Option.any_eq_true _ _).mp stops
  have failed : failing.carryOut {} start = result := run_of_runFor ran
  cases result with
  | ok added last => cases test
  | error stop last =>
    have kept : last.library.sources = [(entry.text, "import '/b.mjs'")] := eq_of_beq test
    have there : last.library.contains entry.text = true := by simp [Library.contains_iff, Library.names, kept]
    have before : all {} [failing] start = last := after_of_error failed
    have left : LeftBehind {} [failing] start entry.text :=
      ⟨[], failing, [], stop, last, rfl, failed, by decide +kernel, there⟩
    have gathered : retry.carryOut {} (all {} [failing] start) = .ok 0 ⟨last.journal.within none, last.library⟩ := by
      rw [before]
      exact gather_of_contains there
    refine ⟨_, rfl, gathered, left, fun complete => ?_⟩
    have host : last.library.host = .standard := by
      obtain ⟨stored, gains⟩ := gather_gains Network.disabled {} entry (some "import '/b.mjs'") start
      rw [show (gather _ _ _ _).after start = last from before] at gains
      exact gains.host
    have gap : last.library.Gap entry.text missing := by
      refine ⟨⟨"import '/b.mjs'", "/b.mjs", ?_, by decide +kernel, ?_⟩, ?_⟩
      · simp [Library.source?, kept]
      · rw [host]
        exact toOption_eq_some (by decide +kernel)
      · rw [Library.contains, Library.source?, kept]
        decide +kernel
    exact (completeFrom_iff rfl gathered).mp complete entry.text .refl left missing gap

end Gathering

end GuestSandbox
