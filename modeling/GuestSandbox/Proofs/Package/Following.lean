import GuestSandbox.Package.Installing
import GuestSandbox.Proofs.Module.Naming

namespace GuestSandbox

open Specifier (form importerUrl? target)

-- The specifiers that can lead to a URL. One that names its host has to name the host of packages.
def Specifier.Form.Locates (host : PackageHost) (url : Url) : Specifier.Form → Prop
  | .absolute => host.serves url = true
  | .rooted => True
  | .relative => True
  | .package _ => False
  | .other => False

theorem Specifier.locate_eq_hosted {specifier : String} {result : Except UrlError Url} {url : Url} :
    locate specifier result = .ok (.hosted url) ↔ result = .ok url := by
  cases result <;> simp [locate]

namespace Installing

-- As a specifier in an index document on the host, a target means what it leads to from there. It means nothing where it
-- has the form of no specifier or names another host; following it asks for neither.
theorem target_iff_follow {host : PackageHost} {index : Url} (web : host.base.isHttp = true)
    (served : host.serves index = true) (reread : Url.parse index.text = .ok index) {text : String}
    (trimmed : Text.trim text = text) (url : Url) :
    target host (some index.text) text = .ok (.hosted url) ↔
      follow host index text = .ok url ∧ (form text.toList).Locates host url := by
  have canonical := Url.parse_canonical reread (PackageHost.isHttp_of_serves web served)
  have anchors := Specifier.importerUrl?_text canonical reread served
  unfold target follow
  dsimp only
  rw [trimmed]
  split
  · rename_i empty
    rw [eq_of_beq empty]
    exact ⟨nofun, fun found => found.2.elim⟩
  · unfold Specifier.targetOfTrimmed
    cases shape : form text.toList with
    | package spec =>
      dsimp only [Specifier.Form.Locates]
      rw [and_false, iff_false]
      split <;> exact nofun
    | absolute =>
      obtain ⟨scheme, rest, absolute, start⟩ := Specifier.absolute_start shape
      dsimp only [Specifier.Form.Locates]
      rw [Specifier.isRooted_of_absolute shape, if_neg Bool.false_ne_true, Url.join_absolute absolute start]
      cases Url.parse text with
      | error fault => exact ⟨nofun, nofun⟩
      | ok other =>
        dsimp only
        constructor
        · intro found
          split at found
          · rename_i own
            cases found
            exact ⟨rfl, own⟩
          · cases found
        · rintro ⟨⟨⟩, own⟩
          exact if_pos own
    | rooted =>
      dsimp only [Specifier.Form.Locates]
      rw [Specifier.locate_eq_hosted, if_pos (Specifier.isRooted_of_form shape), and_true]
    | relative =>
      simp only [Option.bind_some, anchors, Specifier.Form.Locates]
      rw [Specifier.locate_eq_hosted, Specifier.isRooted_of_relative shape, if_neg Bool.false_ne_true, and_true]
    | other => exact ⟨nofun, fun found => found.2.elim⟩

-- The module two levels up from an index document on the standard host.
theorem target_iff_follow_standard :
    ∃ index url : Url, PackageHost.standard.serves index = true ∧
      index.text = "https://esm.sh/v135/lodash@4/es2022/lodash.mjs" ∧ url.text = "https://esm.sh/v135/fp.mjs" ∧
      target .standard (some index.text) "../../fp.mjs" = .ok (.hosted url) ∧
      follow .standard index "../../fp.mjs" = .ok url := by
  let index : Url := ⟨"https", "", some "esm.sh", none, "/v135/lodash@4/es2022/lodash.mjs", none, none⟩
  let url : Url := ⟨"https", "", some "esm.sh", none, "/v135/fp.mjs", none, none⟩
  have served : PackageHost.standard.serves index = true := by decide
  have reread : Url.parse index.text = .ok index := toOption_eq_some (by decide +kernel)
  have found : target .standard (some index.text) "../../fp.mjs" = .ok (.hosted url) :=
    toOption_eq_some (by decide +kernel)
  have followed := (target_iff_follow (by decide) served reread (by decide) url).mp found
  exact ⟨index, url, served, by decide, by decide, found, followed.1⟩

end Installing

end GuestSandbox
