import GuestSandbox.Module.Specifier
import GuestSandbox.Proofs.Url.Authority

-- Which hosts a module specifier can lead to. Absolute specifiers and importers are checked against the host of
-- packages. Texts that begin with a slash are only put onto it, and some of them name a host of their own.

namespace GuestSandbox

theorem PackageHost.serves_congr (host : PackageHost) {a b : Url} (same : Url.SameAuthority a b) :
    host.serves a = host.serves b := same.sameOrigin host.base

theorem PackageHost.serves_base (host : PackageHost) : host.serves host.base = true := Url.sameOrigin_self host.base

theorem PackageHost.scheme_of_serves {host : PackageHost} {url : Url} (served : host.serves url = true) :
    url.scheme = host.base.scheme := by
  simp only [PackageHost.serves, Url.sameOrigin, Bool.and_eq_true, beq_iff_eq] at served
  exact served.1.1

theorem Url.scheme_ne_file {url : Url} (web : url.isHttp = true) : url.scheme ≠ "file" := by
  intro file
  simp [Url.isHttp, file] at web

namespace Specifier

-- The text at the root of the host that the URL of a module begins from: the specifier itself, or its importer.
def rootText? (importer : Option String) (specifier : String) : Option String :=
  let specifier := Text.trim specifier
  match form specifier.toList with
  | .rooted => some specifier
  | .relative => (importer.map Text.trim).filter fun importer => isRooted importer.toList
  | _ => none

-- A text that is put onto the host of packages and names another host. Tabs and line ends are no part of a URL, and a
-- backslash is a slash there, so such a text need not begin with two slashes.
def LeadsAway (host : PackageHost) (text : String) : Prop :=
  ∃ authority named, Url.networkPath? (Url.cleaned text.toList) = some authority ∧
    Url.readAuthority host.base.scheme authority = .ok named ∧ host.serves named = false

theorem isRooted_start {cs : List Char} (rooted : isRooted cs = true) : ∃ rest, cs = '/' :: rest := by
  cases cs with
  | nil => cases rooted
  | cons c rest =>
    have slash : c = '/' := by
      have := (Bool.and_eq_true_iff.mp rooted).1
      simpa using this
    exact ⟨rest, by rw [slash]⟩

theorem startsWith_start {c : Char} {start cs : List Char} (starts : Text.startsWith (c :: start) cs = true) :
    ∃ rest, cs = c :: rest := by
  obtain ⟨rest, after⟩ := Option.isSome_iff_exists.mp starts
  exact ⟨start ++ rest, Text.afterStart?_iff.mp after⟩

theorem isRelative_start {cs : List Char} (relative : isRelative cs = true) : ∃ rest, cs = '.' :: rest := by
  rcases Bool.or_eq_true_iff.mp relative with once | twice
  · exact startsWith_start once
  · exact startsWith_start twice

theorem isRooted_of_form {cs : List Char} (shape : form cs = .rooted) : isRooted cs = true := by
  unfold form at shape
  split at shape
  · cases shape
  · split at shape
    · cases shape
    · split at shape
      · assumption
      · split at shape <;> cases shape

theorem isRelative_of_form {cs : List Char} (shape : form cs = .relative) : isRelative cs = true := by
  unfold form at shape
  split at shape
  · cases shape
  · split at shape
    · cases shape
    · split at shape
      · cases shape
      · split at shape
        · assumption
        · cases shape

theorem rooted_foreign_iff {host : PackageHost} (web : host.base.isHttp = true) {text : String} {url : Url}
    (rooted : isRooted text.toList = true) (found : host.rooted text = .ok url) :
    host.serves url = false ↔ LeadsAway host text := by
  obtain ⟨rest, start⟩ := isRooted_start rooted
  have read := Url.readRelative_of_join start (.inl rfl) (Url.scheme_ne_file web) found
  cases named : Url.networkPath? (Url.cleaned text.toList) with
  | none =>
    have served := host.serves_congr (Url.readRelative_authority named read)
    simp [LeadsAway, named, served, host.serves_base]
  | some authority =>
    rw [Url.readRelative_networkPath named] at read
    constructor
    · intro foreign
      exact ⟨authority, url, named, read, foreign⟩
    · rintro ⟨_, other, same, readOther, foreign⟩
      cases named.symm.trans same
      cases read.symm.trans readOther
      exact foreign

theorem rooted_scheme {host : PackageHost} (web : host.base.isHttp = true) {text : String} {url : Url}
    (rooted : isRooted text.toList = true) (found : host.rooted text = .ok url) : url.scheme = host.base.scheme := by
  obtain ⟨rest, start⟩ := isRooted_start rooted
  have read := Url.readRelative_of_join start (.inl rfl) (Url.scheme_ne_file web) found
  cases named : Url.networkPath? (Url.cleaned text.toList) with
  | none => exact (Url.readRelative_authority named read).scheme
  | some authority =>
    rw [Url.readRelative_networkPath named] at read
    exact Url.readAuthority_scheme read

theorem relative_authority {base url : Url} (notFile : base.scheme ≠ "file") {specifier : String}
    (relative : isRelative specifier.toList = true) (found : base.join specifier = .ok url) :
    Url.SameAuthority url base := by
  obtain ⟨rest, start⟩ := isRelative_start relative
  have read := Url.readRelative_of_join start (.inr rfl) notFile found
  obtain ⟨tail, text⟩ := Url.cleaned_mark (.inr rfl) rest
  rw [start, text] at read
  exact Url.readRelative_authority (Url.networkPath?_dot tail) read

theorem importer_foreign_iff {host : PackageHost} (web : host.base.isHttp = true) {importer specifier : String}
    {base url : Url} (anchored : importerUrl? host importer = some base)
    (relative : isRelative specifier.toList = true) (found : base.join specifier = .ok url) :
    host.serves url = false ↔
      isRooted (Text.trim importer).toList = true ∧ LeadsAway host (Text.trim importer) := by
  unfold importerUrl? at anchored
  dsimp only at anchored
  split at anchored
  · rename_i rooted
    have foundBase := toOption_eq_some anchored
    have notFile : base.scheme ≠ "file" := by
      rw [rooted_scheme web rooted foundBase]
      exact Url.scheme_ne_file web
    rw [host.serves_congr (relative_authority notFile relative found), rooted_foreign_iff web rooted foundBase]
    exact ⟨fun away => ⟨rooted, away⟩, fun away => away.2⟩
  · rename_i notRooted
    obtain ⟨_, served⟩ := Option.filter_eq_some_iff.mp anchored
    have notFile : base.scheme ≠ "file" := by
      rw [PackageHost.scheme_of_serves served]
      exact Url.scheme_ne_file web
    rw [host.serves_congr (relative_authority notFile relative found), served]
    simp [notRooted]

-- Resolution leaves the host of packages exactly where the text that the URL begins from leads away from it, be it the
-- specifier or its importer.
theorem target_foreign_iff {host : PackageHost} (web : host.base.isHttp = true) {importer : Option String}
    {specifier : String} {url : Url} (found : target host importer specifier = .ok (.hosted url)) :
    host.serves url = false ↔ ∃ text, rootText? importer specifier = some text ∧ LeadsAway host text := by
  unfold target at found
  dsimp only at found
  split at found
  · cases found
  · unfold targetOfTrimmed at found
    unfold rootText?
    dsimp only
    cases shape : form (Text.trim specifier).toList with
    | package spec =>
      simp only [shape] at found
      split at found <;> cases found
    | absolute =>
      simp only [shape] at found
      split at found
      · cases found
      · split at found
        · rename_i served
          cases found
          simp [served]
        · cases found
    | rooted =>
      simp only [shape] at found
      have rooted := isRooted_of_form shape
      cases result : host.rooted (Text.trim specifier) with
      | error fault => simp [result, locate] at found
      | ok other =>
        simp only [result, locate, Except.ok.injEq, Target.hosted.injEq] at found
        subst found
        refine (rooted_foreign_iff web rooted result).trans ?_
        simp
    | relative =>
      simp only [shape] at found
      have relative := isRelative_of_form shape
      split at found
      · cases found
      · rename_i base anchored
        obtain ⟨text, rfl, anchors⟩ := Option.bind_eq_some_iff.mp anchored
        cases result : base.join (Text.trim specifier) with
        | error fault => simp [result, locate] at found
        | ok other =>
          simp only [result, locate, Except.ok.injEq, Target.hosted.injEq] at found
          subst found
          refine (importer_foreign_iff web anchors relative result).trans ?_
          simp [Option.filter_eq_some_iff, and_comm]
    | other =>
      simp only [shape] at found
      cases found

-- One slash and one backslash are enough to leave the standard host.
theorem target_foreign_backslash :
    ∃ url : Url, url.hostText = some "evil.test" ∧ PackageHost.standard.base.isHttp = true ∧
      target .standard none "/\\evil.test/x.mjs" = .ok (.hosted url) ∧ PackageHost.standard.serves url = false ∧
      ∃ text, rootText? none "/\\evil.test/x.mjs" = some text ∧ LeadsAway .standard text := by
  have found : target .standard none "/\\evil.test/x.mjs" =
      .ok (.hosted ⟨"https", "", some "evil.test", none, "/x.mjs", none, none⟩) :=
    toOption_eq_some (by decide +kernel)
  exact ⟨_, by decide, by decide, found, by decide, (target_foreign_iff (by decide) found).mp (by decide)⟩

end Specifier

end GuestSandbox
