import GuestSandbox.Proofs.Module.Confinement
import GuestSandbox.Proofs.Text.Trimming
import GuestSandbox.Proofs.Url.Reread

namespace GuestSandbox

namespace PackageHost

variable {host : PackageHost} {url : Url}

theorem isHttp_of_serves (web : host.base.isHttp = true) (served : host.serves url = true) : url.isHttp = true := by
  rw [Url.isHttp, scheme_of_serves served]
  exact web

theorem host_of_serves (served : host.serves url = true) : url.host = host.base.host := by
  simp only [serves, Url.sameOrigin, Bool.and_eq_true, beq_iff_eq] at served
  obtain ⟨name, named⟩ := Option.isSome_iff_exists.mp host.hosted
  have same := served.1.2.trans named
  rw [Url.hostText, Option.filter_eq_some_iff] at named same
  rw [same.1, named.1]

end PackageHost

namespace Specifier

open Text (isBlank trim trimChars)

theorem isBlank_of_isVisible {c : Char} (visible : Url.isVisible c = true) : isBlank c = false := by
  simp only [Url.isVisible, Bool.and_eq_true, decide_eq_true_eq] at visible
  simp only [isBlank, Bool.or_eq_false_iff, Bool.and_eq_false_iff, decide_eq_false_iff_not, beq_eq_false_iff_ne]
  omega

variable {host : PackageHost}

-- Behind the mark of packages any text but a blank one is a package.
theorem target_packageMark {text : String} (filled : trim text ≠ "") (host : PackageHost) (importer : Option String) :
    target host importer (Target.packageMark ++ text) = .ok (.package (trim text)) := by
  let behind := Text.dropBlankEnd text.toList
  have marked : (Target.packageMark ++ text).toList = 'n' :: ("pm".toList ++ ':' :: text.toList) := by
    simp [Target.packageMark]
  have trimmed : trim (Target.packageMark ++ text) = String.ofList ("npm:".toList ++ behind) := by
    rw [trim, marked, Text.trimChars_cons_of_solid (by decide), Text.dropBlankEnd_cons_of_solid (by decide),
      Text.dropBlankEnd_append (by decide)]
    rfl
  have read : form ("npm:".toList ++ behind) = .package behind := by
    have begins : Text.afterStart? Target.packageMark.toList ("npm:".toList ++ behind) = some behind :=
      Text.afterStart?_iff.mpr rfl
    rw [form, begins]
  have spec : trimChars behind = trimChars text.toList := Text.trimChars_dropBlankEnd text.toList
  have nonempty : (trimChars text.toList).isEmpty = false := by
    rw [List.isEmpty_eq_false_iff]
    intro none
    exact filled (by rw [trim, none])
  have present : (String.ofList ("npm:".toList ++ behind) == "") = false := by
    rw [beq_eq_false_iff_ne]
    intro empty
    have chars := congrArg String.toList empty
    simp at chars
  unfold target
  dsimp only
  rw [trimmed, present, if_neg Bool.false_ne_true, targetOfTrimmed, String.toList_ofList, read]
  dsimp only
  rw [spec, nonempty, if_neg Bool.false_ne_true, trim]

theorem trim_text {url : Url} (canonical : url.Canonical) : trim url.text = url.text := by
  have solid : ∀ c ∈ url.text.toList, isBlank c = false :=
    fun c member => isBlank_of_isVisible (Url.isVisible_text canonical c member)
  rw [trim, Text.trimChars_of_solid (fun c first => solid c (List.mem_of_mem_head? first))
    (fun c last => solid c (List.mem_of_getLast? last)), String.ofList_toList]

theorem form_text {url : Url} (canonical : url.Canonical) : form url.text.toList = .absolute := by
  obtain ⟨host, hosted, _⟩ := canonical.host
  rw [Url.toList_text hosted]
  rcases Url.isHttp_cases canonical.web with scheme | scheme <;> rw [scheme] <;> rfl

theorem rooted_canonical (base : host.base.Canonical) {text : String} {url : Url} (rooted : isRooted text.toList = true)
    (found : host.rooted text = .ok url) : url.Canonical := by
  obtain ⟨rest, start⟩ := isRooted_start rooted
  exact Url.readRelative_canonical base (Url.readRelative_of_join start (.inl rfl) (Url.scheme_ne_file base.web) found)

theorem importerUrl?_canonical (base : host.base.Canonical) {importer : String} {url : Url}
    (anchored : importerUrl? host importer = some url) : url.Canonical := by
  unfold importerUrl? at anchored
  dsimp only at anchored
  split at anchored
  · rename_i rooted
    exact rooted_canonical base rooted (toOption_eq_some anchored)
  · obtain ⟨parsed, served⟩ := Option.filter_eq_some_iff.mp anchored
    exact Url.parse_canonical (toOption_eq_some parsed) (PackageHost.isHttp_of_serves base.web served)

inductive Canonical : Target → Prop where
  | package {spec : String} (filled : spec ≠ "") (trimmed : trim spec = spec) : Canonical (.package spec)
  | hosted {url : Url} (canonical : url.Canonical) : Canonical (.hosted url)

theorem locate_eq_ok {specifier : String} {result : Except UrlError Url} {found : Target}
    (located : locate specifier result = .ok found) : ∃ url, result = .ok url ∧ found = .hosted url := by
  cases result with
  | error fault => cases located
  | ok url =>
    cases located
    exact ⟨url, rfl, rfl⟩

theorem target_canonical (base : host.base.Canonical) {importer : Option String} {specifier : String} {found : Target}
    (read : target host importer specifier = .ok found) : Canonical found := by
  unfold target at read
  dsimp only at read
  split at read
  · cases read
  · unfold targetOfTrimmed at read
    cases shape : form (trim specifier).toList with
    | package spec =>
      simp only [shape] at read
      split at read
      · cases read
      · rename_i filled
        cases read
        refine .package (fun empty => filled ?_) ?_
        · rw [List.isEmpty_iff, ← String.toList_ofList (l := trimChars spec), empty]
          rfl
        · rw [trim, String.toList_ofList, Text.trimChars_trimChars]
    | absolute =>
      simp only [shape] at read
      split at read
      · cases read
      · rename_i url parsed
        split at read
        · rename_i served
          cases read
          exact .hosted (Url.parse_canonical parsed (PackageHost.isHttp_of_serves base.web served))
        · cases read
    | rooted =>
      simp only [shape] at read
      obtain ⟨url, located, rfl⟩ := locate_eq_ok read
      exact .hosted (rooted_canonical base (isRooted_of_form shape) located)
    | relative =>
      simp only [shape] at read
      split at read
      · cases read
      · rename_i anchor anchored
        obtain ⟨url, located, rfl⟩ := locate_eq_ok read
        obtain ⟨_, _, anchors⟩ := Option.bind_eq_some_iff.mp anchored
        have canonical := importerUrl?_canonical base anchors
        obtain ⟨rest, start⟩ := isRelative_start (isRelative_of_form shape)
        have joined := Url.readRelative_of_join start (.inr rfl) (Url.scheme_ne_file canonical.web) located
        exact .hosted (Url.readRelative_canonical canonical joined)
    | other =>
      simp only [shape] at read
      cases read

theorem target_text {url : Url} (canonical : url.Canonical) (reread : Url.parse url.text = .ok url)
    (served : host.serves url = true) (importer : Option String) : target host importer url.text = .ok (.hosted url) := by
  have filled : (url.text == "") = false := by
    rw [beq_eq_false_iff_ne]
    intro empty
    have shape := form_text canonical
    rw [empty] at shape
    cases shape
  unfold target
  dsimp only
  rw [trim_text canonical, filled, if_neg Bool.false_ne_true, targetOfTrimmed, form_text canonical]
  dsimp only
  rw [reread]
  exact if_pos served

theorem absolute_start {cs : List Char} (shape : form cs = .absolute) :
    ∃ scheme rest, (scheme = "http" ∨ scheme = "https") ∧ cs = scheme.toList ++ "://".toList ++ rest := by
  have absolute : isAbsolute cs = true := by
    unfold form at shape
    split at shape
    · cases shape
    · split at shape
      · assumption
      · split at shape
        · cases shape
        · split at shape <;> cases shape
  rcases Bool.or_eq_true_iff.mp absolute with secure | plain
  · obtain ⟨rest, after⟩ := Option.isSome_iff_exists.mp secure
    exact ⟨"https", rest, .inr rfl, Text.afterStart?_iff.mp after⟩
  · obtain ⟨rest, after⟩ := Option.isSome_iff_exists.mp plain
    exact ⟨"http", rest, .inl rfl, Text.afterStart?_iff.mp after⟩

theorem isRooted_of_absolute {cs : List Char} (shape : form cs = .absolute) : isRooted cs = false := by
  obtain ⟨scheme, rest, rfl | rfl, rfl⟩ := absolute_start shape <;> rfl

theorem isRooted_of_relative {cs : List Char} (shape : form cs = .relative) : isRooted cs = false := by
  obtain ⟨rest, rfl⟩ := isRelative_start (isRelative_of_form shape)
  rfl

theorem importerUrl?_text {url : Url} (canonical : url.Canonical) (reread : Url.parse url.text = .ok url)
    (served : host.serves url = true) : importerUrl? host url.text = some url := by
  have notRooted : isRooted url.text.toList = false := isRooted_of_absolute (form_text canonical)
  unfold importerUrl?
  dsimp only
  rw [trim_text canonical, notRooted, if_neg Bool.false_ne_true, reread]
  exact Option.filter_eq_some_iff.mpr ⟨rfl, served⟩

theorem target_congr {one two : String} {base : Url} (first : importerUrl? host one = some base)
    (second : importerUrl? host two = some base) (specifier : String) :
    target host (some one) specifier = target host (some two) specifier := by
  simp only [target, targetOfTrimmed, Option.bind_some, first, second]

-- A name means what it is the name of, for every importer. An importer at the root of the host and the URL that it is
-- put onto there are one and the same importer. All that is asked of URLs is that the host's own text names the host.
theorem target_of_moduleName (web : host.base.isHttp = true) (reread : Url.parse host.base.text = .ok host.base) :
    (∀ importer specifier found, target host importer specifier = .ok found →
      (∀ url, found = .hosted url → host.serves url = true) →
      ∀ other, target host other found.moduleName = .ok found) ∧
    (∀ path url, isRooted path.toList = true → trim path = path → host.rooted path = .ok url → host.serves url = true →
      ∀ specifier, target host (some path) specifier = target host (some url.text) specifier) := by
  have base : host.base.Canonical := Url.parse_canonical reread web
  have again {url : Url} (canonical : url.Canonical) (served : host.serves url = true) : Url.parse url.text = .ok url :=
    Url.parse_text_of_host web reread canonical (PackageHost.host_of_serves served)
  constructor
  · intro importer specifier found read owned other
    cases target_canonical base read with
    | @package spec filled trimmed =>
      have solid : trim spec ≠ "" := by rwa [trimmed]
      have named := target_packageMark solid host other
      rwa [trimmed] at named
    | @hosted url canonical =>
      have served := owned url rfl
      exact target_text canonical (again canonical served) served other
  · intro path url rooted trimmed put served specifier
    have canonical := rooted_canonical base rooted put
    have anchors : importerUrl? host path = some url := by
      unfold importerUrl?
      dsimp only
      rw [trimmed, if_pos rooted, put]
      rfl
    exact target_congr anchors (importerUrl?_text canonical (again canonical served) served) specifier

-- A file on the standard host, by a path with blanks around it. From there on its text and its path are as good.
theorem target_of_moduleName_standard :
    ∃ url : Url, target .standard (some "npm:lodash") " /lodash@4/fp.mjs\n" = .ok (.hosted url) ∧
      url.text = "https://esm.sh/lodash@4/fp.mjs" ∧ PackageHost.standard.serves url = true ∧
      (∀ other, target .standard other url.text = .ok (.hosted url)) ∧
      target .standard none "npm: lodash " = .ok (.package "lodash") ∧
      (∀ other, target .standard other "npm:lodash" = .ok (.package "lodash")) ∧
      ∀ specifier,
        target .standard (some "/lodash@4/fp.mjs") specifier = target .standard (some url.text) specifier := by
  have reread : Url.parse PackageHost.standard.base.text = .ok PackageHost.standard.base :=
    toOption_eq_some (by decide +kernel)
  have web : PackageHost.standard.base.isHttp = true := by decide
  obtain ⟨names, importers⟩ := target_of_moduleName web reread
  let url : Url := ⟨"https", "", some "esm.sh", none, "/lodash@4/fp.mjs", none, none⟩
  have found : target .standard (some "npm:lodash") " /lodash@4/fp.mjs\n" = .ok (.hosted url) :=
    toOption_eq_some (by decide +kernel)
  have package : target .standard none "npm: lodash " = .ok (.package "lodash") := toOption_eq_some (by decide +kernel)
  have name : (Target.package "lodash").moduleName = "npm:lodash" := by decide
  have served : PackageHost.standard.serves url = true := by decide
  have put : PackageHost.standard.rooted "/lodash@4/fp.mjs" = .ok url := toOption_eq_some (by decide +kernel)
  refine ⟨url, found, by decide, served, ?_, package, ?_, ?_⟩
  · exact names _ _ (.hosted url) found (by rintro _ ⟨⟩; exact served)
  · rw [← name]
    exact names _ _ (.package "lodash") package nofun
  · exact importers _ _ (by decide) (by decide) put served

end Specifier

end GuestSandbox
