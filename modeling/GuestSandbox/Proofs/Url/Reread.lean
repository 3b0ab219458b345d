import GuestSandbox.Proofs.Number.Digits
import GuestSandbox.Proofs.Url.Canonical

namespace GuestSandbox.Url

def credentialsFront (url : Url) : List Char := if url.credentials == "" then [] else url.credentials.toList ++ ['@']

def portBack (url : Url) : List Char :=
  match url.port with
  | none => []
  | some port => ':' :: Number.digits port

def markedText (mark : Char) : Option String → List Char
  | none => []
  | some part => mark :: part.toList

def tailText (url : Url) : List Char := markedText '?' url.query ++ markedText '#' url.fragment

def fromAuthority (url : Url) (host : List Char) : List Char :=
  url.credentialsFront ++ (host ++ url.portBack ++ (url.path.toList ++ url.tailText))

theorem toList_text {url : Url} {host : String} (hosted : url.host = some host) :
    url.text.toList = url.scheme.toList ++ "://".toList ++ url.fromAuthority host.toList := by
  obtain ⟨scheme, credentials, _, port, path, query, fragment⟩ := url
  cases hosted
  unfold text authorityText pathText fromAuthority credentialsFront portBack tailText markedText Number.digits
  dsimp only
  rw [Option.isNone_some, Bool.false_and, if_neg Bool.false_ne_true]
  cases credentials == "" <;> cases port <;> cases query <;> cases fragment <;> simp [String.toList_append]

theorem inAuthority_of_credentials {cs : List Char} (written : CredentialsText cs) :
    ∀ c ∈ cs, isInAuthority c = true := by
  have kept {c : Char} (kept : isKept inUserinfoSet c = true) : isInAuthority c = true :=
    forall_kept (P := fun c => isInAuthority c = true) (by decide) kept
  obtain ⟨user, password, users, passwords, rfl⟩ := written
  intro c member
  rcases List.mem_append.mp member with front | back
  · exact kept (users c front)
  · split at back
    · cases back
    · rcases List.mem_cons.mp back with rfl | inside
      · decide
      · exact kept (passwords c inside)

theorem credentialsText_of_written {cs : List Char} (written : CredentialsText cs) : credentialsText cs = cs := by
  obtain ⟨user, password, users, passwords, rfl⟩ := written
  have noColon : ∀ c ∈ user, (c != ':') = true :=
    fun c member => forall_kept (P := fun c => (c != ':') = true) (by decide) (users c member)
  unfold credentialsText
  dsimp only
  rw [List.takeWhile_append_of_pos noColon, List.dropWhile_append_of_pos noColon]
  cases password with
  | nil => simpa [encode] using encode_of_isKept users
  | cons c rest => simp [encode_of_isKept users, encode_of_isKept passwords]

theorem takeWhile_authority {cs rest : List Char} (goes : ∀ c ∈ cs, endsAuthority true c = false) :
    (cs ++ '/' :: rest).takeWhile (!endsAuthority true ·) = cs ∧
      (cs ++ '/' :: rest).dropWhile (!endsAuthority true ·) = '/' :: rest := by
  have goes : ∀ c ∈ cs, (!endsAuthority true c) = true := fun c member => by simp [goes c member]
  rw [List.takeWhile_append_of_pos goes, List.dropWhile_append_of_pos goes]
  simp [endsAuthority]

theorem ne_at_of_isInAuthority {c : Char} (inside : isInAuthority c = true) : (c != '@') = true :=
  (Bool.and_eq_true_iff.mp inside).2

-- Credentials end at the one at sign in front of a host, and where there are none there is no such sign.
theorem splitCredentials_of_written {credentials seat rest : List Char} (written : CredentialsText credentials)
    (inside : ∀ c ∈ seat, isInAuthority c = true) :
    splitCredentials true ((if credentials = [] then [] else credentials ++ ['@']) ++ (seat ++ '/' :: rest)) =
      .ok (credentials, seat ++ '/' :: rest) := by
  have noAt : ∀ c ∈ seat, (c != '@') = true := fun c member => ne_at_of_isInAuthority (inside c member)
  have goes : ∀ c ∈ seat, endsAuthority true c = false :=
    fun c member => endsAuthority_of_isInAuthority (inside c member)
  unfold splitCredentials
  by_cases empty : credentials = []
  · subst empty
    have absent : seat.contains '@' = false := by
      rw [Bool.eq_false_iff]
      intro present
      have contrary := noAt '@' (List.contains_iff_mem.mp present)
      exact absurd contrary (by decide)
    rw [if_pos rfl, List.nil_append, (takeWhile_authority goes).1]
    simp only [absent]
    rfl
  · have authority := inAuthority_of_credentials written
    have front : ∀ c ∈ credentials ++ '@' :: seat, endsAuthority true c = false := by
      intro c member
      rw [List.mem_append, List.mem_cons] at member
      rcases member with member | rfl | member
      · exact endsAuthority_of_isInAuthority (authority c member)
      · decide
      · exact goes c member
    have whole : credentials ++ ['@'] ++ (seat ++ '/' :: rest) = (credentials ++ '@' :: seat) ++ '/' :: rest := by simp
    have backwards : (credentials ++ '@' :: seat).reverse = seat.reverse ++ '@' :: credentials.reverse := by simp
    have noAtBehind : ∀ c ∈ seat.reverse, (c != '@') = true := fun c member => noAt c (List.mem_reverse.mp member)
    have present : (credentials ++ '@' :: seat).contains '@' = true := by simp
    rw [if_neg empty, whole, (takeWhile_authority front).1, (takeWhile_authority front).2]
    simp only [present, backwards, List.takeWhile_append_of_pos noAtBehind, List.dropWhile_append_of_pos noAtBehind]
    simp [empty, credentialsText_of_written written]

theorem readPort_of_number {scheme : String} {port : Nat} (number : PortNumber scheme port) (rest : List Char) :
    readPort scheme (':' :: (Number.digits port ++ '/' :: rest)) = .ok (some port, '/' :: rest) := by
  obtain ⟨small, other⟩ := number
  have front := Number.takeWhile_digits (n := port) (show '/'.isDigit = false by decide) rest
  have back : (Number.digits port ++ '/' :: rest).dropWhile Char.isDigit = '/' :: rest := by
    rw [List.dropWhile_append_of_pos fun _ => Number.isDigit_of_mem_digits]
    exact List.dropWhile_cons_of_neg (by decide)
  have value : (Number.digits port).foldl (fun value c => 10 * value + (c.toNat - 0x30)) 0 = port :=
    Number.digitsValue_digits port
  simp only [readPort, front, back, value]
  simp [small, other]

theorem authorityPort_portBack {url : Url} (numbers : ∀ port ∈ url.port, PortNumber url.scheme port) {host : List Char}
    (filled : host ≠ []) (rest : List Char) :
    authorityPort url.scheme host (url.portBack ++ '/' :: rest) = .ok (url.port, '/' :: rest) := by
  unfold authorityPort portBack
  rw [if_neg (by simp [filled])]
  cases given : url.port with
  | none => rfl
  | some port => exact readPort_of_number (numbers port given) rest

theorem takeWhile_query {query : List Char} (kept : ∀ c ∈ query, isKept inSpecialQuerySet c = true) (rest : List Char)
    (ends : rest.head?.all (· == '#') = true) :
    (query ++ rest).takeWhile (· != '#') = query ∧ (query ++ rest).dropWhile (· != '#') = rest := by
  have goes : ∀ c ∈ query, (c != '#') = true :=
    fun c member => forall_kept (P := fun c => (c != '#') = true) (by decide) (kept c member)
  rw [List.takeWhile_append_of_pos goes, List.dropWhile_append_of_pos goes]
  cases rest with
  | nil => simp
  | cons c rest =>
    have stop : c = '#' := eq_of_beq ends
    simp [stop]

theorem withTail_tailText {url : Url} (canonical : Canonical url) :
    withTail { url with query := none, fragment := none } url.tailText = url := by
  have special := isSpecial_of_isHttp canonical.web
  have queries := canonical.query
  have fragments := canonical.fragment
  obtain ⟨scheme, credentials, host, port, path, query, fragment⟩ := url
  unfold tailText
  cases query with
  | none =>
    cases fragment with
    | none => rfl
    | some fragment =>
      have same := encode_of_isKept (fragments fragment rfl)
      simp [markedText, withTail, same]
  | some query =>
    have same := encode_of_isKept (queries query rfl)
    cases fragment with
    | none =>
      obtain ⟨front, back⟩ := takeWhile_query (queries query rfl) [] rfl
      rw [List.append_nil] at front back
      simp only [markedText, List.append_nil, withTail, front, back]
      rw [if_pos special, same, String.ofList_toList]
    | some fragment =>
      have sameFragment := encode_of_isKept (fragments fragment rfl)
      obtain ⟨front, back⟩ := takeWhile_query (queries query rfl) ('#' :: fragment.toList) rfl
      simp only [markedText, List.cons_append, withTail, front, back]
      rw [if_pos special, same, sameFragment, String.ofList_toList, String.ofList_toList]

theorem tailText_ends (url : Url) : url.tailText.head?.all endsPath = true := by
  unfold tailText
  cases url.query <;> cases url.fragment <;> rfl

theorem withRootedPath_path {url : Url} (canonical : Canonical url) :
    withRootedPath { url with path := "", query := none, fragment := none } (url.path.toList ++ url.tailText) = url := by
  obtain ⟨segments, filled, good, path⟩ := canonical.path
  obtain ⟨result, read, text⟩ := readPath_of_segments filled good (tailText_ends url)
  have rules := rulesFor_of_isHttp canonical.web
  have reread : withPath { url with path := "", query := none, fragment := none } []
      (joinWith '/' segments ++ url.tailText) = url := by
    rw [withPath, takePath]
    dsimp only
    rw [rules, read]
    dsimp only
    rw [text, ← path, String.ofList_toList]
    exact withTail_tailText canonical
  unfold withRootedPath
  rw [if_pos (isSpecial_of_isHttp canonical.web), rules, path]
  exact reread

theorem credentialsFront_eq (url : Url) :
    url.credentialsFront = if url.credentials.toList = [] then [] else url.credentials.toList ++ ['@'] := by
  have same : (url.credentials == "") = decide (url.credentials.toList = []) := by
    rw [Bool.eq_iff_iff]
    simp [String.toList_eq_nil_iff]
  simp [credentialsFront, same]

theorem isVisible_of_isInAuthority {c : Char} (inside : isInAuthority c = true) : isVisible c = true := by
  simp only [isInAuthority, Bool.and_eq_true] at inside
  exact inside.1.1

theorem isVisible_credentialsFront {url : Url} (written : CredentialsText url.credentials.toList) :
    ∀ c ∈ url.credentialsFront, isVisible c = true := by
  intro c member
  rw [credentialsFront_eq] at member
  split at member
  · cases member
  · rcases List.mem_append.mp member with inside | mark
    · exact isVisible_of_isInAuthority (inAuthority_of_credentials written c inside)
    · rw [List.mem_singleton.mp mark]
      decide

theorem inAuthority_portBack (url : Url) : ∀ c ∈ url.portBack, isInAuthority c = true := by
  unfold portBack
  cases url.port with
  | none => exact nofun
  | some port =>
    refine List.forall_mem_cons.mpr ⟨by decide, fun c member => ?_⟩
    exact (isInAuthority_of_isHostChar (isHostChar_of_isDigit (Number.isDigit_of_mem_digits member))).1

theorem isVisible_path {path : List Char} (written : PathText path) : ∀ c ∈ path, isVisible c = true := by
  obtain ⟨segments, _, good, rfl⟩ := written
  refine List.forall_mem_cons.mpr ⟨by decide, fun c member => ?_⟩
  rcases mem_joinWith member with rfl | ⟨segment, listed, inside⟩
  · decide
  · exact forall_kept (P := fun c => isVisible c = true) (by decide) ((good segment listed).kept c inside).1

theorem isVisible_markedText {mark : Char} (visible : isVisible mark = true) {inSet : Char → Bool}
    (blanks : ∀ n < 128, isKept inSet (Char.ofNat n) = true → isVisible (Char.ofNat n) = true) {part : Option String}
    (kept : ∀ text ∈ part, ∀ c ∈ text.toList, isKept inSet c = true) :
    ∀ c ∈ markedText mark part, isVisible c = true := by
  cases part with
  | none => exact nofun
  | some text =>
    refine List.forall_mem_cons.mpr ⟨visible, fun c member => ?_⟩
    exact forall_kept (P := fun c => isVisible c = true) blanks (kept text rfl c member)

theorem isVisible_tailText {url : Url} (canonical : Canonical url) : ∀ c ∈ url.tailText, isVisible c = true :=
  List.forall_mem_append.mpr ⟨isVisible_markedText (by decide) (by decide) canonical.query,
    isVisible_markedText (by decide) (by decide) canonical.fragment⟩

theorem isVisible_text {url : Url} (canonical : Canonical url) : ∀ c ∈ url.text.toList, isVisible c = true := by
  obtain ⟨host, hosted, hostText⟩ := canonical.host
  have scheme : (url.scheme.toList ++ "://".toList).all isVisible = true := by
    rcases isHttp_cases canonical.web with scheme | scheme <;> rw [scheme] <;> decide
  have front := isVisible_credentialsFront canonical.credentials
  have seat : ∀ c ∈ host.toList ++ url.portBack, isVisible c = true :=
    List.forall_mem_append.mpr ⟨fun c member => isVisible_of_isInAuthority (hostText.inAuthority c member),
      fun c member => isVisible_of_isInAuthority (inAuthority_portBack url c member)⟩
  have back := List.forall_mem_append.mpr ⟨isVisible_path canonical.path, isVisible_tailText canonical⟩
  rw [toList_text hosted]
  exact List.forall_mem_append.mpr ⟨List.all_eq_true.mp scheme,
    List.forall_mem_append.mpr ⟨front, List.forall_mem_append.mpr ⟨seat, back⟩⟩⟩

theorem isEdge_of_isVisible {c : Char} (visible : isVisible c = true) : isEdge c = false := by
  simp only [isVisible, Bool.and_eq_true, decide_eq_true_eq] at visible
  simpa [isEdge] using visible.1

theorem cleaned_text {url : Url} (canonical : Canonical url) : cleaned url.text.toList = url.text.toList :=
  cleaned_of_solid fun c member => isEdge_of_isVisible (isVisible_text canonical c member)

-- No slash stands after the two in front of an authority.
theorem dropWhile_slashes {url : Url} {host : List Char} (written : CredentialsText url.credentials.toList)
    (hostText : HostText host) :
    ('/' :: '/' :: url.fromAuthority host).dropWhile isAnySlash = url.fromAuthority host := by
  have goes {c : Char} (inside : isInAuthority c = true) : isAnySlash c = false := by
    have goes := endsAuthority_of_isInAuthority inside
    simp only [endsAuthority, Bool.or_eq_false_iff, Bool.true_and] at goes
    simp [isAnySlash, goes]
  obtain ⟨c, rest, same, first⟩ : ∃ c rest, url.fromAuthority host = c :: rest ∧ isAnySlash c = false := by
    rw [fromAuthority, credentialsFront_eq]
    split
    · obtain ⟨c, rest, same⟩ := List.exists_cons_of_ne_nil hostText.filled
      exact ⟨c, _, by rw [same]; rfl, goes (hostText.inAuthority c (by simp [same]))⟩
    · rename_i filled
      obtain ⟨c, rest, same⟩ := List.exists_cons_of_ne_nil filled
      exact ⟨c, _, by rw [same]; rfl, goes (inAuthority_of_credentials written c (by simp [same]))⟩
  rw [same, List.dropWhile_cons_of_pos (by decide), List.dropWhile_cons_of_pos (by decide),
    List.dropWhile_cons_of_neg (by simp [first])]

theorem stopsHost_portBack (url : Url) (rest : List Char) : stopsHost (url.portBack ++ '/' :: rest) = true := by
  unfold portBack
  cases url.port <;> rfl

theorem withHost_canonical {url : Url} (canonical : Canonical url) {host : List Char} (hostText : HostText host) :
    Canonical { url with host := some (String.ofList host) } where
  web := canonical.web
  credentials := canonical.credentials
  host := ⟨_, rfl, by rwa [String.toList_ofList]⟩
  port := canonical.port
  path := canonical.path
  query := canonical.query
  fragment := canonical.fragment

-- The text of a URL names the URL, but for a host that reads as another one.
theorem parse_text {url : Url} {host : String} (canonical : Canonical url) (hosted : url.host = some host) :
    parse url.text = (readHost host.toList).map fun read => { url with host := some (String.ofList read) } := by
  have hostText : HostText host.toList := by
    obtain ⟨_, same, hostText⟩ := canonical.host
    cases hosted.symm.trans same
    exact hostText
  obtain ⟨segments, _, _, path⟩ := canonical.path
  have seat := List.forall_mem_append.mpr ⟨hostText.inAuthority, inAuthority_portBack url⟩
  have special := isSpecial_of_isHttp canonical.web
  have front : splitCredentials true (url.fromAuthority host.toList) =
      .ok (url.credentials.toList, host.toList ++ url.portBack ++ (url.path.toList ++ url.tailText)) := by
    rw [fromAuthority, credentialsFront_eq, path]
    exact splitCredentials_of_written canonical.credentials seat
  have split : splitHost true false (host.toList ++ url.portBack ++ (url.path.toList ++ url.tailText)) =
      (host.toList, url.portBack ++ (url.path.toList ++ url.tailText)) := by
    rw [List.append_assoc]
    apply hostText.split
    rw [path]
    exact stopsHost_portBack url _
  have authority : authorityHost true host.toList = readHost host.toList := by
    simp [authorityHost, hostText.filled]
  have start : parse url.text = readAuthority url.scheme (url.fromAuthority host.toList) := by
    rw [parse, readWith, cleaned_text canonical, toList_text hosted, splitScheme_web (isHttp_cases canonical.web)]
    dsimp only
    rw [readSchemed_web (isHttp_cases canonical.web), dropWhile_slashes canonical.credentials hostText]
  rw [start, readAuthority, special, front]
  cases read : readHost host.toList with
  | error fault =>
    simp only [bind, Except.bind, split, authority, read]
    rfl
  | ok found =>
    have foundText := readHost_text read
    have whole := withRootedPath_path (withHost_canonical canonical foundText)
    have port : authorityPort url.scheme found (url.portBack ++ (url.path.toList ++ url.tailText)) =
        .ok (url.port, url.path.toList ++ url.tailText) := by
      rw [path]
      exact authorityPort_portBack canonical.port foundText.filled _
    have filled : found.isEmpty = false := by simp [foundText.filled]
    simp only [bind, Except.bind, split, authority, read, port, filled, Bool.false_and, Bool.false_eq_true, if_false,
      String.ofList_toList]
    exact congrArg Except.ok whole

-- A host that one URL's text keeps is kept by the text of every URL with that host.
theorem parse_text_of_host {base url : Url} (web : base.isHttp = true) (reread : parse base.text = .ok base)
    (canonical : Canonical url) (same : url.host = base.host) : parse url.text = .ok url := by
  have baseCanonical := parse_canonical reread web
  obtain ⟨host, hosted, _⟩ := baseCanonical.host
  have kept : readHost host.toList = .ok host.toList := by
    rw [parse_text baseCanonical hosted] at reread
    cases read : readHost host.toList with
    | error fault =>
      rw [read] at reread
      cases reread
    | ok found =>
      rw [read] at reread
      have again : some (String.ofList found) = base.host := congrArg Url.host (Except.ok.inj reread)
      rw [hosted] at again
      rw [← Option.some.inj again, String.toList_ofList]
  obtain ⟨scheme, credentials, _, port, path, query, fragment⟩ := url
  cases same
  rw [parse_text canonical hosted, kept, Except.map, String.ofList_toList, ← hosted]

end GuestSandbox.Url
