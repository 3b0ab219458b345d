import GuestSandbox.Fixture.Routes
import GuestSandbox.Proofs.Package.Dictionary
import GuestSandbox.Proofs.Package.Obtaining

namespace GuestSandbox

open Operation Relation

-- What can become of an inventory: it is asked for a package, in any run and to any end, or it is stored and read back.
inductive Inventory.Passes : Inventory → Inventory → Prop where
  | asked {before : Installing} (net : Network) (policy : Policy) (host : PackageHost) (stamp text : String) :
      Passes before.inventory ((Installing.obtain net policy host stamp text).after before).inventory
  | restored {before after : Inventory} (read : ofJson? before.toJson = some after) : Passes before after

namespace Installing

variable {net : Network} {policy : Policy} {host : PackageHost} {stamp text spec : String} {before after : Installing}
  {found : Obtained} {record : PackageRecord}

theorem get?_after_obtain (there : before.inventory.get? spec = some record) :
    ((obtain net policy host stamp text).after before).inventory.get? spec = some record := by
  have outcome := obtain_outcome net policy host stamp text before
  unfold Operation.after
  generalize obtain net policy host stamp text before = result at outcome ⊢
  cases outcome with
  | present _ _ => exact there
  | added _ absent _ _ => exact Inventory.get?_insert_of_some absent there
  | failed _ => exact there

theorem get?_of_passes {inventory later : Inventory} (passes : inventory.Passes later)
    (there : inventory.get? spec = some record) : later.get? spec = some record := by
  cases passes with
  | asked net policy host stamp text => exact get?_after_obtain there
  | restored read =>
    rw [Inventory.ofJson?_toJson] at read
    cases read
    exact there

theorem get?_of_history {inventory later : Inventory} (history : ReflTransGen Inventory.Passes inventory later)
    (there : inventory.get? spec = some record) : later.get? spec = some record := by
  induction history with
  | refl => exact there
  | tail _ passes ih => exact get?_of_passes passes ih

theorem get?_of_obtain (obtained : obtain net policy host stamp text before = .ok found after) :
    after.inventory.get? (Text.trim text) = some found.record := by
  have outcome := obtain_outcome net policy host stamp text before
  rw [obtained] at outcome
  cases outcome with
  | present read there =>
    rw [← (PackageSpec.read_eq_ok read).1]
    exact there
  | added read absent _ _ =>
    rw [← (PackageSpec.read_eq_ok read).1]
    exact Inventory.get?_insert_self absent

theorem obtain_present (read : PackageSpec.read text policy = .ok spec)
    (there : before.inventory.get? spec = some record) :
    obtain net policy host stamp text before = .ok ⟨record, none⟩ before := by
  unfold obtain
  rw [read, bind_of_ok (show Operation.ofExcept (.ok spec) before = .ok spec before from rfl), get_bind, there]
  rfl

-- Whatever is asked of the inventory in between and however often it is stored, a text that names the same package gets
-- the same record, and nothing else happens.
theorem obtain_again {inventory : Inventory} {other : String}
    (obtained : obtain net policy host stamp text before = .ok found after)
    (history : ReflTransGen Inventory.Passes after.inventory inventory) (alike : Text.trim other = Text.trim text) :
    ∀ (net : Network) (policy : Policy) (host : PackageHost) (stamp : String) (journal : Journal) (tally : Tally),
      (∃ spec, PackageSpec.read other policy = .ok spec) →
        obtain net policy host stamp other ⟨journal, inventory, tally⟩ =
          .ok ⟨found.record, none⟩ ⟨journal, inventory, tally⟩ := by
  rintro net policy host stamp journal tally ⟨spec, read⟩
  obtain ⟨rfl, _⟩ := PackageSpec.read_eq_ok read
  refine obtain_present read ?_
  rw [alike]
  exact get?_of_history history (get?_of_obtain obtained)

-- The package `pad` is installed, another one cannot be, and the inventory is stored: then `pad` costs nothing, although
-- nothing may be installed any more and the network is gone.
theorem obtain_again_restored :
    let net := (RouteTable.add {} "https://esm.sh/pad" 200 "export default 1").network
    let before : Installing := ⟨{}, .empty, {}⟩
    let spent : Tally := { packageInstalls := 7 }
    ∃ found after inventory, obtain net {} .standard "" "pad" before = .ok found after ∧
      Inventory.ofJson? ((obtain net {} .standard "" "gone").after after).inventory.toJson = some inventory ∧
        obtain .disabled { pkgMaxInstallsPerRun := 1 } .standard "" " pad\n" ⟨{}, inventory, spent⟩ =
          .ok ⟨found.record, none⟩ ⟨{}, inventory, spent⟩ := by
  intro net before spent
  have test : (match obtain net {} .standard "" "pad" before with
      | .ok _ _ => true
      | .error _ _ => false) = true := by decide +kernel
  cases obtained : obtain net {} .standard "" "pad" before with
  | error stop after =>
    rw [obtained] at test
    cases test
  | ok found after =>
    have stored := ((obtain net {} .standard "" "gone").after after).inventory.ofJson?_toJson
    have history : ReflTransGen Inventory.Passes after.inventory _ :=
      .tail (.single (.asked net {} .standard "" "gone")) (.restored stored)
    have read : PackageSpec.read " pad\n" { pkgMaxInstallsPerRun := 1 } = .ok "pad" := toOption_eq_some (by decide +kernel)
    have again := obtain_again obtained history (by decide +kernel : Text.trim " pad\n" = Text.trim "pad") .disabled
      { pkgMaxInstallsPerRun := 1 } .standard "" {} spent ⟨"pad", read⟩
    exact ⟨found, after, _, rfl, stored, again⟩

end Installing

end GuestSandbox
