import GuestSandbox.Proofs.Steps
import GuestSandbox.Url.Parser

-- What a URL read relative to a base keeps of the base. Unless two slashes stand at the beginning of the reference, the
-- authority of the base stays.

namespace GuestSandbox.Url

-- Which host answers for a URL. Credentials are no part of it.
structure SameAuthority (a b : Url) : Prop where
  scheme : a.scheme = b.scheme
  host : a.host = b.host
  port : a.port = b.port

theorem SameAuthority.refl (url : Url) : SameAuthority url url := ⟨rfl, rfl, rfl⟩

theorem SameAuthority.trans {a b c : Url} (left : SameAuthority a b) (right : SameAuthority b c) :
    SameAuthority a c :=
  ⟨left.scheme.trans right.scheme, left.host.trans right.host, left.port.trans right.port⟩

theorem SameAuthority.sameOrigin {a b : Url} (same : SameAuthority a b) (c : Url) :
    a.sameOrigin c = b.sameOrigin c := by
  simp only [Url.sameOrigin, hostText, effectivePort, same.scheme, same.host, same.port]

theorem sameOrigin_self (url : Url) : url.sameOrigin url = true := by simp [sameOrigin]

theorem withTail_authority (url : Url) (cs : List Char) : SameAuthority (withTail url cs) url := by
  unfold withTail
  split
  · dsimp only
    split <;> exact ⟨rfl, rfl, rfl⟩
  · exact ⟨rfl, rfl, rfl⟩
  · exact .refl url

theorem withFragment_authority (url : Url) (cs : List Char) : SameAuthority (withFragment url cs) url :=
  (withTail_authority _ _).trans ⟨rfl, rfl, rfl⟩

theorem withPath_authority (url : Url) (closed : List (List Char)) (cs : List Char) :
    SameAuthority (withPath url closed cs) url :=
  (withTail_authority _ _).trans ⟨rfl, rfl, rfl⟩

theorem withRootedPath_authority (url : Url) (cs : List Char) : SameAuthority (withRootedPath url cs) url := by
  unfold withRootedPath
  split
  · exact withPath_authority _ _ _
  · split
    · exact .refl url
    · split
      · exact withTail_authority _ _
      · split <;> exact withPath_authority _ _ _

theorem readAuthority_scheme {scheme : String} {cs : List Char} {url : Url}
    (read : readAuthority scheme cs = .ok url) : url.scheme = scheme := by
  unfold readAuthority at read
  obtain ⟨⟨credentials, afterCredentials⟩, _, read⟩ := bind_eq_ok read
  obtain ⟨host, _, read⟩ := bind_eq_ok read
  obtain ⟨⟨port, afterPort⟩, _, read⟩ := bind_eq_ok read
  dsimp only at read
  split at read
  · cases read
  · cases read
    exact (withRootedPath_authority _ _).scheme

theorem eq_slash_of_isAnySlash {c : Char} (slash : isAnySlash c = true) : c = '/' ∨ c = '\\' := by
  simpa [isAnySlash] using slash

-- The text from the authority on, where two slashes stand in front of it. Either of them may be a backslash; after
-- two plain slashes any further one belongs to the authority.
def networkPath? : List Char → Option (List Char)
  | '/' :: '/' :: rest => some rest
  | c :: d :: rest => if isAnySlash c && isAnySlash d then some (rest.dropWhile isAnySlash) else none
  | _ => none

theorem networkPath?_cons {c d : Char} (first : isAnySlash c = true) (second : isAnySlash d = true)
    (rest : List Char) : (networkPath? (c :: d :: rest)).isSome = true := by
  unfold networkPath?
  split
  · rfl
  · rename_i same
    cases same
    simp [first, second]
  · rename_i other
    exact absurd rfl (other c d rest)

theorem readRelative_networkPath {base : Url} {cs authority : List Char} (named : networkPath? cs = some authority) :
    readRelative base cs = readAuthority base.scheme authority := by
  unfold networkPath? at named
  split at named
  · cases named
    rfl
  · rename_i c d rest plain
    split at named
    · rename_i slashes
      obtain ⟨first, second⟩ := Bool.and_eq_true_iff.mp slashes
      cases named
      rcases eq_slash_of_isAnySlash first with rfl | rfl <;> rcases eq_slash_of_isAnySlash second with rfl | rfl
      · exact absurd rfl (plain rfl)
      all_goals rfl
    · cases named
  · cases named

theorem readRelative_authority {base url : Url} {cs : List Char} (unnamed : networkPath? cs = none)
    (read : readRelative base cs = .ok url) : SameAuthority url base := by
  unfold readRelative at read
  split at read
  · cases read
    exact ⟨rfl, rfl, rfl⟩
  · rename_i c rest
    split at read
    · cases read
      exact (withTail_authority _ _).trans ⟨rfl, rfl, rfl⟩
    · split at read
      · cases read
        exact withFragment_authority _ _
      · split at read
        · rename_i first
          split at read
          · rename_i second
            cases rest with
            | nil => cases second
            | cons d rest =>
              have named := networkPath?_cons first second rest
              rw [unnamed] at named
              cases named
          · cases read
            exact withPath_authority _ _ _
        · cases read
          exact withPath_authority _ _ _

theorem isIgnored_of_solid {c : Char} (solid : isEdge c = false) : isIgnored c = false := by
  cases ignored : isIgnored c with
  | false => rfl
  | true =>
    simp only [isIgnored, Bool.or_eq_true, beq_iff_eq] at ignored
    rcases ignored with (rfl | rfl) | rfl <;> cases solid

theorem cleaned_append {start : List Char} (filled : start ≠ []) (solid : ∀ c ∈ start, isEdge c = false)
    (rest : List Char) :
    cleaned (start ++ rest) = start ++ (rest.reverse.dropWhile isEdge).reverse.filter (!isIgnored ·) := by
  have starts {cs : List Char} (filled : cs ≠ []) (solid : ∀ c ∈ cs, isEdge c = false) (more : List Char) :
      (cs ++ more).dropWhile isEdge = cs ++ more := by
    obtain ⟨c, cs, rfl⟩ := List.exists_cons_of_ne_nil filled
    rw [List.cons_append, List.dropWhile_cons_of_neg (by simp [solid c List.mem_cons_self])]
  have behind : start.reverse.dropWhile isEdge = start.reverse := by
    have reversed := starts (List.reverse_ne_nil_iff.mpr filled) (fun c member => solid c (List.mem_reverse.mp member)) []
    rwa [List.append_nil] at reversed
  have ends : ((start ++ rest).reverse.dropWhile isEdge).reverse = start ++ (rest.reverse.dropWhile isEdge).reverse := by
    rw [List.reverse_append, List.dropWhile_append]
    split
    · rename_i blank
      simp [behind, List.isEmpty_iff.mp blank]
    · simp
  have kept : start.filter (!isIgnored ·) = start :=
    List.filter_eq_self.mpr fun c member => by simp [isIgnored_of_solid (solid c member)]
  rw [cleaned, starts filled solid rest, ends, List.filter_append, kept]

theorem cleaned_of_solid {cs : List Char} (solid : ∀ c ∈ cs, isEdge c = false) : cleaned cs = cs := by
  cases cs with
  | nil => rfl
  | cons c rest =>
    have whole := cleaned_append (List.cons_ne_nil c rest) solid []
    rw [List.append_nil] at whole
    simpa using whole

theorem networkPath?_dot (rest : List Char) : networkPath? ('.' :: rest) = none := by
  cases rest <;> rfl

-- A slash or a dot at the beginning of a text stays its beginning.
theorem cleaned_mark {c : Char} (mark : c = '/' ∨ c = '.') (rest : List Char) :
    ∃ tail, cleaned (c :: rest) = c :: tail := by
  have solid : isEdge c = false := by
    rcases mark with rfl | rfl <;> decide
  exact ⟨_, cleaned_append (List.cons_ne_nil c []) (List.forall_mem_singleton.mpr solid) rest⟩

-- A reference with such a beginning has no scheme of its own.
theorem readRelative_of_join {base url : Url} {reference : String} {c : Char} {rest : List Char}
    (start : reference.toList = c :: rest) (mark : c = '/' ∨ c = '.') (notFile : base.scheme ≠ "file")
    (joined : base.join reference = .ok url) : readRelative base (cleaned reference.toList) = .ok url := by
  obtain ⟨tail, text⟩ := cleaned_mark mark rest
  rw [← start] at text
  have noScheme : splitScheme (c :: tail) = none := by
    rcases mark with rfl | rfl <;> rfl
  have noFragment : ((c :: tail).head? == some '#') = false := by
    rcases mark with rfl | rfl <;> rfl
  simp only [join, readWith, text, noScheme, noFragment, Bool.false_eq_true, if_false] at joined
  split at joined
  · cases joined
  · rw [if_neg (by simpa using notFile)] at joined
    rwa [text]

theorem splitScheme_web {scheme : String} (web : scheme = "http" ∨ scheme = "https") (rest : List Char) :
    splitScheme (scheme.toList ++ "://".toList ++ rest) = some (scheme, '/' :: '/' :: rest) := by
  rcases web with rfl | rfl <;> rfl

theorem isSpecial_web {scheme : String} (web : scheme = "http" ∨ scheme = "https") : isSpecial scheme = true := by
  rcases web with rfl | rfl <;> decide

theorem readSchemed_web {scheme : String} (web : scheme = "http" ∨ scheme = "https") (cs : List Char) :
    readSchemed none scheme cs = readAuthority scheme (cs.dropWhile isAnySlash) := by
  rcases web with rfl | rfl <;> rfl

theorem readSchemed_slashes {scheme : String} (web : scheme = "http" ∨ scheme = "https") (base : Option Url)
    (rest : List Char) :
    readSchemed base scheme ('/' :: '/' :: rest) = readSchemed none scheme ('/' :: '/' :: rest) := by
  have slashes : ¬ (('/' :: '/' :: rest).takeWhile isAnySlash).length < 2 := by
    simp [isAnySlash]
  have notFile : ¬ (scheme == "file") = true := by
    rcases web with rfl | rfl <;> decide
  rw [readSchemed_web web, readSchemed, if_neg notFile, if_pos (isSpecial_web web)]
  split
  · exact if_neg slashes
  · rfl

theorem join_absolute {scheme reference : String} (web : scheme = "http" ∨ scheme = "https") {rest : List Char}
    (start : reference.toList = scheme.toList ++ "://".toList ++ rest) (base : Url) :
    base.join reference = parse reference := by
  have each : (scheme.toList ++ "://".toList).all (!isEdge ·) = true := by
    rcases web with rfl | rfl <;> decide
  have solid : ∀ c ∈ scheme.toList ++ "://".toList, isEdge c = false :=
    fun c member => by simpa using List.all_eq_true.mp each c member
  have filled : scheme.toList ++ "://".toList ≠ [] := List.append_ne_nil_of_right_ne_nil _ (by decide)
  have text := cleaned_append filled solid rest
  rw [← start] at text
  rw [join, parse, readWith, readWith, text, splitScheme_web web]
  exact readSchemed_slashes web (some base) _

end GuestSandbox.Url
