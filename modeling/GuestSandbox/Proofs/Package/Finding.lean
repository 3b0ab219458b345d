import GuestSandbox.Package.Installing
import GuestSandbox.Proofs.Fetch.Outcome
import GuestSandbox.Proofs.Module.Confinement
import GuestSandbox.Proofs.Module.Gathering

namespace GuestSandbox

open Operation

theorem PackageSpec.isEdge_of_isAllowed {c : Char} (allowed : isAllowed c = true) : Url.isEdge c = false := by
  cases edge : Url.isEdge c with
  | false => rfl
  | true =>
    have low : c.toNat ≤ 0x20 := by simpa [Url.isEdge] using edge
    have refused : ∀ n ≤ 0x20, isAllowed (Char.ofNat n) = false := by decide
    rw [← Char.ofNat_toNat c, refused c.toNat low] at allowed
    cases allowed

namespace Url

theorem networkPath?_single {rest : List Char} (plain : ∀ c ∈ rest.head?, isAnySlash c = false) :
    networkPath? ('/' :: rest) = none := by
  cases rest with
  | nil => rfl
  | cons d rest =>
    have other : isAnySlash d = false := plain d rfl
    unfold networkPath?
    split
    · rename_i same
      cases same
      exact absurd other (by decide)
    · rename_i c d rest _ same
      cases same
      simp [other]
    · rfl

end Url

-- No spec leads away from the host of packages.
theorem PackageHost.serves_of_indexOf {host : PackageHost} (web : host.base.isHttp = true) {spec : String} {url : Url}
    (allowed : ∀ c ∈ spec.toList, PackageSpec.isAllowed c = true) (found : host.indexOf spec = .ok url) :
    host.serves url = true := by
  let rest := spec.toList.dropWhile (· == '/')
  let text := String.ofList ('/' :: rest)
  have inside (c : Char) (member : c ∈ rest) : PackageSpec.isAllowed c = true :=
    allowed c ((List.dropWhile_sublist _).subset member)
  have start : text.toList = '/' :: rest := String.toList_ofList
  have read := Url.readRelative_of_join start (.inl rfl) (Url.scheme_ne_file web) found
  have solid : Url.cleaned text.toList = '/' :: rest := by
    rw [start]
    refine Url.cleaned_of_solid fun c member => ?_
    rcases List.mem_cons.mp member with rfl | later
    · decide
    · exact PackageSpec.isEdge_of_isAllowed (inside c later)
  have single : Url.networkPath? ('/' :: rest) = none := by
    refine Url.networkPath?_single fun c first => ?_
    have other : (c == '/') = false := by
      have ends := List.head?_dropWhile_not (· == '/') spec.toList
      rw [show (spec.toList.dropWhile (· == '/')).head? = some c from first] at ends
      exact ends
    have backslash : (c == '\\') = false := by
      have allowed := inside c (List.mem_of_mem_head? first)
      cases same : c == '\\' with
      | false => rfl
      | true =>
        rw [eq_of_beq same] at allowed
        cases allowed
    rw [Url.isAnySlash, other, backslash]
    rfl
  rw [solid] at read
  rw [host.serves_congr (Url.readRelative_authority single read)]
  exact host.serves_base

namespace Installing

open Loading (request)

theorem download_ended (net : Network) (policy : Policy) (url : String) (journal : Journal) :
    match download net policy url journal with
    | .ok response last =>
      last.sent = journal.sent ++ [request policy url] ∧ (net journal.sent (request policy url)).outcome = .ok response
    | .error _ last => last.sent = journal.sent ++ [request policy url] := by
  have sent := exchange_sent net (request policy url) policy.pkgInstallTimeoutMs journal
  have ended := exchange_cases net (request policy url) policy.pkgInstallTimeoutMs journal
  have downloads : download net policy url journal =
      (exchange net (request policy url) policy.pkgInstallTimeoutMs >>= Operation.ofExcept) journal := rfl
  rw [downloads]
  cases ran : exchange net (request policy url) policy.pkgInstallTimeoutMs journal with
  | error stop last =>
    rw [after_of_error ran] at sent
    rw [bind_of_error ran]
    exact sent
  | ok outcome last =>
    rw [after_of_ok ran] at sent
    rw [ran] at ended
    rw [bind_of_ok ran]
    cases outcome with
    | error failure => exact sent
    | ok response => exact ⟨sent, ended.same⟩

theorem accepted_ok {spec what : String} {response other : Response} (ok : accepted spec what response = .ok other) :
    other = response := by
  unfold accepted at ok
  split at ok
  · cases ok
    rfl
  · cases ok

theorem entryUrl_serves {host : PackageHost} {spec index : String} {resolved entry : Url}
    (found : entryUrl host spec resolved index = .ok entry) : host.serves entry = true := by
  unfold entryUrl at found
  dsimp only at found
  split at found
  · cases found
  · split at found
    · cases found
      assumption
    · cases found

theorem entryUrl_itself {host : PackageHost} {spec index : String} {resolved entry : Url}
    (none : Imports.reexport? index = none) (found : entryUrl host spec resolved index = .ok entry) :
    entry = resolved := by
  simp only [entryUrl, none] at found
  split at found
  · cases found
    rfl
  · cases found

-- What is read from the index document of a package: where it is, and where the entry module is.
structure Indexed (net : Network) (policy : Policy) (host : PackageHost) (spec : String) (journal : Journal)
    (place resolved entry : Url) (index : Response) : Prop where
  found : host.indexOf spec = .ok place
  answered : (net journal.sent (request policy place.text)).outcome = .ok index
  final : resolved = (Url.parse index.finalUrl).toOption.getD place
  entry : entryUrl host spec resolved index.text = .ok entry

-- The documents that a search asks its host for before it fails.
inductive Route (host : PackageHost) (spec : String) : List Url → Prop where
  | nowhere : Route host spec []
  | index {place : Url} (found : host.indexOf spec = .ok place) : Route host spec [place]
  | both {place entry : Url} (found : host.indexOf spec = .ok place) (served : host.serves entry = true) :
      Route host spec [place, entry]

-- What a search comes to. The record is written from the index document or, where that hands on the names of another
-- module, from the answer to a second request.
inductive Finds (net : Network) (policy : Policy) (host : PackageHost) (stamp spec : String) (journal : Journal) :
    EStateM.Result Stop Journal (PackageRecord × String) → Prop where
  | failed {urls : List Url} {stop : Stop} {last : Journal} (route : Route host spec urls)
      (asked : last.sent = journal.sent ++ urls.map (request policy ·.text)) :
      Finds net policy host stamp spec journal (.error stop last)
  | itself {place resolved entry : Url} {index : Response} {found : PackageRecord × String} {last : Journal}
      (indexed : Indexed net policy host spec journal place resolved entry index)
      (same : entry.text = resolved.text) (asked : last.sent = journal.sent ++ [request policy place.text])
      (made : recordOf policy spec stamp resolved entry index = .ok found) :
      Finds net policy host stamp spec journal (.ok found last)
  | handedOn {place resolved entry : Url} {index response : Response} {found : PackageRecord × String} {last : Journal}
      (indexed : Indexed net policy host spec journal place resolved entry index)
      (other : entry.text ≠ resolved.text)
      (asked : last.sent = journal.sent ++ [request policy place.text] ++ [request policy entry.text])
      (answered : (net (journal.sent ++ [request policy place.text]) (request policy entry.text)).outcome = .ok response)
      (made : recordOf policy spec stamp resolved entry response = .ok found) :
      Finds net policy host stamp spec journal (.ok found last)

variable {net : Network} {policy : Policy} {host : PackageHost} {spec : String} {journal last : Journal}
  {place resolved entry : Url} {index : Response}

theorem Indexed.finds_entry {stamp : String} (indexed : Indexed net policy host spec journal place resolved entry index)
    (other : entry.text ≠ resolved.text) (asked : last.sent = journal.sent ++ [request policy place.text]) :
    Finds net policy host stamp spec journal ((download net policy entry.text >>= fun response =>
      Operation.ofExcept (accepted spec "entry" response) >>= fun response =>
      Operation.ofExcept (recordOf policy spec stamp resolved entry response)) last) := by
  have route := Route.both indexed.found (entryUrl_serves indexed.entry)
  have two : last.sent ++ [request policy entry.text] =
      journal.sent ++ [place, entry].map (request policy ·.text) := by
    rw [asked, List.append_assoc]
    rfl
  have ended := download_ended net policy entry.text last
  cases ran : download net policy entry.text last with
  | error stop final =>
    rw [ran] at ended
    rw [bind_of_error ran]
    exact .failed route (ended.trans two)
  | ok response final =>
    rw [ran] at ended
    obtain ⟨sent, answered⟩ := ended
    rw [bind_of_ok ran]
    cases taken : accepted spec "entry" response with
    | error failure => exact .failed route (sent.trans two)
    | ok got =>
      obtain rfl := accepted_ok taken
      rw [ofExcept_bind]
      cases made : recordOf policy spec stamp resolved entry got with
      | error failure => exact .failed route (sent.trans two)
      | ok found =>
        rw [asked] at sent answered
        exact .handedOn indexed other sent answered made

variable (net policy host spec journal) in
theorem find_finds (stamp : String) :
    Finds net policy host stamp spec journal (find net policy host stamp spec journal) := by
  unfold find
  cases found : host.indexOf spec with
  | error error => exact .failed .nowhere (List.append_nil _).symm
  | ok place =>
    rw [bind_of_ok (show Operation.ofExcept (Except.mapError _ (.ok place)) journal = .ok place journal from rfl)]
    have asked := download_ended net policy place.text journal
    cases ran : download net policy place.text journal with
    | error stop last =>
      rw [ran] at asked
      rw [bind_of_error ran]
      exact .failed (.index found) asked
    | ok index last =>
      rw [ran] at asked
      rw [bind_of_ok ran]
      obtain ⟨asked, answered⟩ := asked
      cases taken : accepted spec "index" index with
      | error failure => exact .failed (.index found) asked
      | ok response =>
        obtain rfl := accepted_ok taken
        rw [ofExcept_bind]
        cases leads : entryUrl host spec ((Url.parse response.finalUrl).toOption.getD place) response.text with
        | error failure => exact .failed (.index found) asked
        | ok entry =>
          rw [ofExcept_bind]
          have indexed : Indexed net policy host spec journal place _ entry response := ⟨found, answered, rfl, leads⟩
          split
          · rename_i same
            cases made : recordOf policy spec stamp _ entry response with
            | error failure => exact .failed (.index found) asked
            | ok pair => exact .itself indexed (eq_of_beq same) asked made
          · rename_i other
            exact indexed.finds_entry (by simpa using other) asked

variable (net policy host spec journal) in
theorem find_route (stamp : String) : ∃ urls, Route host spec urls ∧
    ((find net policy host stamp spec).after journal).sent = journal.sent ++ urls.map (request policy ·.text) := by
  have finds := find_finds net policy host spec journal stamp
  unfold Operation.after
  generalize find net policy host stamp spec journal = result at finds ⊢
  cases finds with
  | failed route asked => exact ⟨_, route, asked⟩
  | itself indexed same asked made => exact ⟨_, .index indexed.found, asked⟩
  | handedOn indexed other asked answered made =>
    refine ⟨_, .both indexed.found (entryUrl_serves indexed.entry), asked.trans ?_⟩
    rw [List.append_assoc]
    rfl

theorem Route.served {urls : List Url} (web : host.base.isHttp = true)
    (allowed : ∀ c ∈ spec.toList, PackageSpec.isAllowed c = true) (route : Route host spec urls) :
    urls.length ≤ 2 ∧ ∀ url ∈ urls, host.serves url = true := by
  cases route with
  | nowhere => exact ⟨Nat.zero_le 2, nofun⟩
  | index found =>
    refine ⟨Nat.le_succ 1, fun url member => ?_⟩
    obtain rfl := List.mem_singleton.mp member
    exact PackageHost.serves_of_indexOf web allowed found
  | both found served =>
    refine ⟨Nat.le_refl 2, fun url member => ?_⟩
    rcases List.mem_cons.mp member with rfl | last
    · exact PackageHost.serves_of_indexOf web allowed found
    · obtain rfl := List.mem_singleton.mp last
      exact served

end Installing

end GuestSandbox
