import GuestSandbox.Proofs.Url.Authority
import GuestSandbox.Proofs.Url.HostText
import GuestSandbox.Proofs.Url.Segments

-- Web URLs as they come from reading. Whatever text they are read from, alone or relative to another one, each of their
-- parts is in its canonical form.

namespace GuestSandbox.Url

def CredentialsText (cs : List Char) : Prop :=
  ∃ user password, (∀ c ∈ user, isKept inUserinfoSet c = true) ∧ (∀ c ∈ password, isKept inUserinfoSet c = true) ∧
    cs = user ++ if password.isEmpty then [] else ':' :: password

def PortNumber (scheme : String) (port : Nat) : Prop := port ≤ 65535 ∧ defaultPort scheme ≠ some port

structure CanonicalAuthority (url : Url) : Prop where
  web : url.isHttp = true
  credentials : CredentialsText url.credentials.toList
  host : ∃ text, url.host = some text ∧ HostText text.toList
  port : ∀ port ∈ url.port, PortNumber url.scheme port

structure Canonical (url : Url) : Prop extends CanonicalAuthority url where
  path : PathText url.path.toList
  query : ∀ query ∈ url.query, ∀ c ∈ query.toList, isKept inSpecialQuerySet c = true
  fragment : ∀ fragment ∈ url.fragment, ∀ c ∈ fragment.toList, isKept inFragmentSet c = true

theorem isHttp_cases {url : Url} (web : url.isHttp = true) : url.scheme = "http" ∨ url.scheme = "https" := by
  simpa [isHttp] using web

theorem isSpecial_of_isHttp {url : Url} (web : url.isHttp = true) : isSpecial url.scheme = true :=
  isSpecial_web (isHttp_cases web)

theorem rulesFor_of_isHttp {url : Url} (web : url.isHttp = true) : rulesFor url.scheme = webRules := by
  rcases isHttp_cases web with scheme | scheme <;> rw [scheme] <;> rfl

theorem CanonicalAuthority.congr {a b : Url} (canonical : CanonicalAuthority a) (same : SameAuthority b a)
    (credentials : b.credentials = a.credentials) : CanonicalAuthority b where
  web := by simpa [isHttp, same.scheme] using canonical.web
  credentials := credentials ▸ canonical.credentials
  host := same.host ▸ canonical.host
  port := by
    rw [same.port, same.scheme]
    exact canonical.port

theorem isKept_of_encoded {inSet : Char → Bool} (escapes : escapeChars.all (isKept inSet) = true) (cs : List Char) :
    ∀ c ∈ (String.ofList (encode inSet cs)).toList, isKept inSet c = true := by
  rw [String.toList_ofList]
  exact fun c member => isKept_of_mem_encode escapes member

theorem withTail_canonical {url : Url} (canonical : Canonical url) (cs : List Char) : Canonical (withTail url cs) := by
  have fragments (cs : List Char) : ∀ fragment ∈ some (String.ofList (encode inFragmentSet cs)),
      ∀ c ∈ fragment.toList, isKept inFragmentSet c = true := by
    rintro _ ⟨⟩
    exact isKept_of_encoded (by decide) cs
  have queries (cs : List Char) : ∀ query ∈ some (String.ofList (encode inSpecialQuerySet cs)),
      ∀ c ∈ query.toList, isKept inSpecialQuerySet c = true := by
    rintro _ ⟨⟩
    exact isKept_of_encoded (by decide) cs
  have authority := canonical.toCanonicalAuthority
  unfold withTail
  split
  · rename_i rest
    dsimp only
    rw [isSpecial_of_isHttp canonical.web, if_pos rfl]
    split
    · exact ⟨authority.congr ⟨rfl, rfl, rfl⟩ rfl, canonical.path, queries _, fragments _⟩
    · exact ⟨authority.congr ⟨rfl, rfl, rfl⟩ rfl, canonical.path, queries _, canonical.fragment⟩
  · exact ⟨authority.congr ⟨rfl, rfl, rfl⟩ rfl, canonical.path, canonical.query, fragments _⟩
  · exact canonical

theorem withFragment_canonical {url : Url} (canonical : Canonical url) (cs : List Char) :
    Canonical (withFragment url cs) := by
  apply withTail_canonical
  refine ⟨canonical.toCanonicalAuthority.congr ⟨rfl, rfl, rfl⟩ rfl, canonical.path, canonical.query, ?_⟩
  rintro _ ⟨⟩

theorem withPath_canonical {url : Url} (authority : CanonicalAuthority url) {closed : List (List Char)}
    (before : ∀ segment ∈ closed, Segment segment) (cs : List Char) : Canonical (withPath url closed cs) := by
  apply withTail_canonical
  refine ⟨authority.congr ⟨rfl, rfl, rfl⟩ rfl, ?_, ?_, ?_⟩
  · dsimp only
    rw [rulesFor_of_isHttp authority.web, String.toList_ofList]
    exact readPath_pathText before cs
  · rintro _ ⟨⟩
  · rintro _ ⟨⟩

theorem withRootedPath_canonical {url : Url} (authority : CanonicalAuthority url) (cs : List Char) :
    Canonical (withRootedPath url cs) := by
  unfold withRootedPath
  rw [if_pos (isSpecial_of_isHttp authority.web)]
  exact withPath_canonical authority (List.forall_mem_nil _) _

theorem credentialsText_text (cs : List Char) : CredentialsText (credentialsText cs) := by
  have encoded (cs : List Char) : ∀ c ∈ encode inUserinfoSet cs, isKept inUserinfoSet c = true :=
    fun c member => isKept_of_mem_encode (by decide) member
  refine ⟨encode inUserinfoSet (cs.takeWhile (· != ':')), encode inUserinfoSet ((cs.dropWhile (· != ':')).drop 1),
    encoded _, encoded _, ?_⟩
  unfold credentialsText
  dsimp only
  cases (cs.dropWhile (· != ':')).drop 1 with
  | nil => rfl
  | cons c rest =>
    have filled : encode inUserinfoSet (c :: rest) ≠ [] := encode_ne_nil (List.cons_ne_nil _ _)
    simp [List.isEmpty_iff, filled]

theorem splitCredentials_text {special : Bool} {cs credentials rest : List Char}
    (split : splitCredentials special cs = .ok (credentials, rest)) : CredentialsText credentials := by
  unfold splitCredentials at split
  dsimp only at split
  split at split
  · cases split
    exact ⟨[], [], nofun, nofun, rfl⟩
  · split at split
    · cases split
    · cases split
      exact credentialsText_text _

theorem readPort_number {scheme : String} {cs rest : List Char} {port : Option Nat}
    (read : readPort scheme cs = .ok (port, rest)) : ∀ number ∈ port, PortNumber scheme number := by
  unfold readPort at read
  split at read
  · dsimp only at read
    split at read
    · cases read
    · rename_i small
      cases read
      intro number given
      simp only [Bool.or_eq_true, decide_eq_true_eq, not_or] at small
      split at given
      · cases given
      · rename_i own
        cases given
        simp only [Bool.or_eq_true, beq_iff_eq, not_or] at own
        exact ⟨Nat.le_of_not_lt small.1, own.2⟩
  · cases read
    exact nofun

theorem authorityHost_text {cs host : List Char} (read : authorityHost true cs = .ok host) : HostText host := by
  unfold authorityHost at read
  rw [if_neg (by decide)] at read
  split at read
  · cases read
  · exact readHost_text read

theorem authorityPort_number {scheme : String} {host cs rest : List Char} {port : Option Nat}
    (read : authorityPort scheme host cs = .ok (port, rest)) : ∀ number ∈ port, PortNumber scheme number := by
  unfold authorityPort at read
  split at read
  · cases read
  · exact readPort_number read

theorem readAuthority_canonical {scheme : String} (web : scheme = "http" ∨ scheme = "https") {cs : List Char} {url : Url}
    (read : readAuthority scheme cs = .ok url) : Canonical url := by
  unfold readAuthority at read
  rw [isSpecial_web web] at read
  obtain ⟨⟨credentials, afterCredentials⟩, inFront, read⟩ := bind_eq_ok read
  obtain ⟨host, hosted, read⟩ := bind_eq_ok read
  obtain ⟨⟨port, afterPort⟩, ported, read⟩ := bind_eq_ok read
  dsimp only at read
  split at read
  · cases read
  · cases read
    refine withRootedPath_canonical ⟨?_, ?_, ?_, ?_⟩ _
    · simpa [isHttp] using web
    · rw [String.toList_ofList]
      exact splitCredentials_text inFront
    · refine ⟨_, rfl, ?_⟩
      rw [String.toList_ofList]
      exact authorityHost_text hosted
    · exact authorityPort_number ported

theorem readRelative_canonical {base url : Url} (canonical : Canonical base) {cs : List Char}
    (read : readRelative base cs = .ok url) : Canonical url := by
  have authority := canonical.toCanonicalAuthority
  unfold readRelative at read
  split at read
  · cases read
    refine ⟨authority.congr ⟨rfl, rfl, rfl⟩ rfl, canonical.path, canonical.query, ?_⟩
    rintro _ ⟨⟩
  · split at read
    · cases read
      apply withTail_canonical
      refine ⟨authority.congr ⟨rfl, rfl, rfl⟩ rfl, canonical.path, ?_, ?_⟩
      · rintro _ ⟨⟩
      · rintro _ ⟨⟩
    · split at read
      · cases read
        exact withFragment_canonical canonical _
      · split at read
        · split at read
          · exact readAuthority_canonical (isHttp_cases canonical.web) read
          · cases read
            exact withPath_canonical authority (List.forall_mem_nil _) _
        · cases read
          exact withPath_canonical authority (openPath_segments canonical.path) _

theorem takePath_scheme (url : Url) (closed : List (List Char)) (cs : List Char) :
    (takePath url closed cs).1.scheme = url.scheme := (withPath_authority url closed cs).scheme

theorem readFileHost_scheme {cs : List Char} {url : Url} (read : readFileHost cs = .ok url) : url.scheme = "file" := by
  have unhosted (found : Url × Bool) :
      (if found.2 then { found.1 with host := some "" } else found.1).scheme = found.1.scheme := by
    split <;> rfl
  unfold readFileHost at read
  dsimp only at read
  split at read
  · cases read
    exact (withPath_authority _ _ _).scheme
  · split at read
    all_goals
      obtain ⟨host, _, read⟩ := bind_eq_ok read
      cases read
      exact (unhosted _).trans (takePath_scheme _ _ _)

theorem readFile_scheme {cs : List Char} {url : Url} (read : readFile none cs = .ok url) : url.scheme = "file" := by
  have paths (cs : List Char) : (withPath emptyFile [] cs).scheme = "file" := (withPath_authority _ _ _).scheme
  unfold readFile at read
  split at read
  · split at read
    · split at read
      · split at read
        · exact readFileHost_scheme read
        · cases read
          exact paths _
      · cases read
        exact paths _
    · cases read
      exact paths _
  · cases read
    exact paths _

theorem readSchemed_scheme {scheme : String} {cs : List Char} {url : Url} (read : readSchemed none scheme cs = .ok url) :
    url.scheme = scheme := by
  unfold readSchemed at read
  split at read
  · rename_i file
    rw [eq_of_beq file]
    exact readFile_scheme read
  · split at read
    · exact readAuthority_scheme read
    · dsimp only at read
      split at read
      · exact readAuthority_scheme read
      · cases read
        exact (withPath_authority _ _ _).scheme
      · cases read
        exact (withTail_authority _ _).scheme

theorem parse_canonical {text : String} {url : Url} (read : parse text = .ok url) (web : url.isHttp = true) :
    Canonical url := by
  unfold parse readWith at read
  dsimp only at read
  split at read
  · rename_i scheme rest _
    have same := readSchemed_scheme read
    have schemes := isHttp_cases web
    rw [same] at schemes
    rw [readSchemed_web schemes] at read
    exact readAuthority_canonical schemes read
  · cases read

end GuestSandbox.Url
