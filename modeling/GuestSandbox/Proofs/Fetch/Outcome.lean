import GuestSandbox.Proofs.Traffic

namespace GuestSandbox

open Operation

namespace Attempt

def isLate (attempt : Attempt) (timeoutMs : Nat) : Bool := attempt.takes.all (timeoutMs < ·)

-- The time that is left, if it is limited, is over before there is an answer or the timeout.
def isCut (attempt : Attempt) (timeoutMs : Nat) (left : Option Nat) : Bool :=
  left.any (· < min (attempt.takes.getD timeoutMs) timeoutMs)

-- There is an answer before the timeout and while there is time left.
structure Answers (attempt : Attempt) (timeoutMs : Nat) (left : Option Nat) (outcome : Except String Response) :
    Prop where
  uncut : attempt.isCut timeoutMs left = false
  timely : attempt.isLate timeoutMs = false
  same : attempt.outcome = outcome

theorem takesLonger_eq (attempt : Attempt) (timeoutMs : Nat) : attempt.takesLonger timeoutMs = attempt.isLate timeoutMs := by
  unfold takesLonger isLate
  cases attempt.takes <;> simp

theorem waited_eq (attempt : Attempt) (timeoutMs : Nat) :
    attempt.waited timeoutMs = min (attempt.takes.getD timeoutMs) timeoutMs := by
  unfold waited
  cases attempt.takes <;> simp

theorem spend_isSome (attempt : Attempt) (timeoutMs : Nat) (journal : Journal) :
    (journal.spend (attempt.waited timeoutMs)).isSome = !attempt.isCut timeoutMs journal.left := by
  rw [waited_eq, Journal.spend, isCut]
  cases journal.left with
  | none => rfl
  | some left =>
    dsimp only [Option.any_some]
    rcases Nat.lt_or_ge left (min (attempt.takes.getD timeoutMs) timeoutMs) with short | enough
    · rw [if_neg (Nat.not_le.mpr short), decide_eq_true short]
      rfl
    · rw [if_pos enough, decide_eq_false (Nat.not_lt.mpr enough)]
      rfl

end Attempt

-- An exchange is cut, or it ends with the answer of the network or with its timeout, by what the network does.
theorem exchange_cases (net : Network) (request : Request) (timeoutMs : Nat) (journal : Journal) :
    let attempt := net journal.sent request
    match exchange net request timeoutMs journal with
    | .error stop _ => stop = .cut ∧ attempt.isCut timeoutMs journal.left = true
    | .ok (.ok response) _ => attempt.Answers timeoutMs journal.left (.ok response)
    | .ok (.error failure) _ =>
      (failure = .requestTimeout request.url timeoutMs ∧ attempt.isCut timeoutMs journal.left = false ∧
        attempt.isLate timeoutMs = true) ∨
      ∃ text, failure = .network text ∧ attempt.Answers timeoutMs journal.left (.error text) := by
  intro attempt
  have spending := attempt.spend_isSome timeoutMs (journal.record (.sent request))
  rw [show (journal.record (.sent request)).left = journal.left from rfl] at spending
  unfold exchange
  dsimp only
  cases spent : (journal.record (.sent request)).spend (attempt.waited timeoutMs) with
  | none => exact ⟨rfl, by simpa [spent] using spending⟩
  | some later =>
    have uncut : attempt.isCut timeoutMs journal.left = false := by simpa [spent] using spending
    dsimp only
    rw [attempt.takesLonger_eq]
    cases late : attempt.isLate timeoutMs with
    | true => exact .inl ⟨rfl, uncut, rfl⟩
    | false =>
      cases answered : attempt.outcome with
      | ok response => exact ⟨uncut, late, answered⟩
      | error text => exact .inr ⟨text, rfl, uncut, late, answered⟩

namespace Fetch

inductive Refusal (policy : Policy) (tally : Tally) (url : String) (options : FetchOptions) : Prop where
  | disabled (off : policy.netFetchEnabled = false)
  | unreadable {error : UrlError} (read : Url.parse (Text.trim url) = .error error)
  | scheme {parsed : Url} (read : Url.parse (Text.trim url) = .ok parsed) (other : parsed.isHttp = false)
  | method {text : String} (given : options.method = some text) (unknown : Method.read? text = none)
  | redirect {text : String} (given : options.redirect = some text) (unknown : Redirect.ofName? text = none)
  | maxRedirects {asked : Int} (given : options.maxRedirects = some asked) (negative : asked < 0)
  | limit (reached : policy.netMaxRequestsPerRun ≤ tally.fetchRequests)

-- What a request may be that is sent for a guest. No answer may be larger, and no more redirects may be followed, than
-- the policy allows; a guest may ask for fewer redirects.
structure Accepted (policy : Policy) (tally : Tally) (url : String) (options : FetchOptions) (request : Request) :
    Prop where
  room : tally.fetchRequests < policy.netMaxRequestsPerRun
  unrefused : ¬Refusal policy tally url options
  address : ∃ parsed, Url.parse (Text.trim url) = .ok parsed ∧ parsed.isHttp = true ∧ request.url = parsed.text
  bodyLimit : request.bodyLimit = policy.netMaxResponseBytes
  maxRedirects : request.maxRedirects =
    min ((options.maxRedirects.map Int.toNat).getD policy.netMaxRedirects) (min policy.netMaxRedirects 0xFFFFFFFF)

theorem checkedMaxRedirects_ok {greatest asked : Nat} {given : Option Int}
    (checked : checkedMaxRedirects greatest given = .ok asked) :
    (∀ number, given = some number → 0 ≤ number) ∧ asked = min ((given.map Int.toNat).getD greatest) greatest := by
  unfold checkedMaxRedirects at checked
  split at checked
  · cases checked
    exact ⟨nofun, by simp⟩
  · cases checked
    exact ⟨by simp, by simp⟩
  · cases checked

theorem plan_ok {url : String} {options : FetchOptions} {policy : Policy} {request : Request}
    (planned : plan url options policy = .ok request) : ∃ parsed method redirect,
      Url.parse (Text.trim url) = .ok parsed ∧ parsed.isHttp = true ∧ checkedMethod options.method = .ok method ∧
      checkedRedirect options.redirect = .ok redirect ∧
      checkedMaxRedirects policy.maxRedirects options.maxRedirects = .ok request.maxRedirects ∧
      request.url = parsed.text ∧ request.bodyLimit = policy.netMaxResponseBytes := by
  obtain ⟨parsed, read, planned⟩ := bind_eq_ok planned
  obtain ⟨method, named, planned⟩ := bind_eq_ok planned
  obtain ⟨redirect, chosen, planned⟩ := bind_eq_ok planned
  obtain ⟨greatest, asked, planned⟩ := bind_eq_ok planned
  cases planned
  unfold checkedUrl at read
  split at read
  · cases read
  · rename_i url parsing
    split at read
    · rename_i web
      cases read
      exact ⟨_, _, _, parsing, web, named, chosen, asked, rfl, rfl⟩
    · cases read

theorem checkedUrl_error {url : String} {failure : Failure} (checked : checkedUrl url = .error failure) :
    (∃ text, failure = .network text) ∧ ∀ policy tally options, Refusal policy tally url options := by
  unfold checkedUrl at checked
  split at checked
  · rename_i unreadable
    cases checked
    exact ⟨⟨_, rfl⟩, fun _ _ _ => .unreadable unreadable⟩
  · rename_i parsing
    split at checked
    · cases checked
    · rename_i other
      cases checked
      exact ⟨⟨_, rfl⟩, fun _ _ _ => .scheme parsing (eq_false_of_ne_true other)⟩

theorem checkedMethod_error {given : Option String} {failure : Failure}
    (checked : checkedMethod given = .error failure) :
    (∃ text, failure = .network text) ∧ ∃ text, given = some text ∧ Method.read? text = none := by
  unfold checkedMethod at checked
  split at checked
  · cases checked
  · rename_i text
    split at checked
    · cases checked
    · rename_i unknown
      cases checked
      exact ⟨⟨_, rfl⟩, text, rfl, unknown⟩

theorem checkedRedirect_error {given : Option String} {failure : Failure}
    (checked : checkedRedirect given = .error failure) :
    (∃ text, failure = .network text) ∧ ∃ text, given = some text ∧ Redirect.ofName? text = none := by
  unfold checkedRedirect at checked
  split at checked
  · cases checked
  · rename_i text
    split at checked
    · cases checked
    · rename_i unknown
      cases checked
      exact ⟨⟨_, rfl⟩, text, rfl, unknown⟩

theorem checkedMaxRedirects_error {greatest : Nat} {given : Option Int} {failure : Failure}
    (checked : checkedMaxRedirects greatest given = .error failure) :
    (∃ text, failure = .network text) ∧ ∃ asked, given = some asked ∧ asked < 0 := by
  unfold checkedMaxRedirects at checked
  split at checked
  · cases checked
  · cases checked
  · rename_i asked notNat
    cases checked
    refine ⟨⟨_, rfl⟩, asked, rfl, ?_⟩
    cases asked with
    | ofNat number => exact absurd rfl (notNat number)
    | negSucc number => exact Int.negSucc_lt_zero number

theorem plan_error {url : String} {options : FetchOptions} {policy : Policy} {failure : Failure}
    (planned : plan url options policy = .error failure) :
    (∃ text, failure = .network text) ∧ ∀ tally, Refusal policy tally url options := by
  rcases bind_eq_error planned with unread | ⟨parsed, -, planned⟩
  · have ⟨kind, refusal⟩ := checkedUrl_error unread
    exact ⟨kind, fun tally => refusal policy tally options⟩
  rcases bind_eq_error planned with unnamed | ⟨method, -, planned⟩
  · obtain ⟨kind, text, given, unknown⟩ := checkedMethod_error unnamed
    exact ⟨kind, fun _ => .method given unknown⟩
  rcases bind_eq_error planned with unchosen | ⟨redirect, -, planned⟩
  · obtain ⟨kind, text, given, unknown⟩ := checkedRedirect_error unchosen
    exact ⟨kind, fun _ => .redirect given unknown⟩
  rcases bind_eq_error planned with unasked | ⟨greatest, -, planned⟩
  · obtain ⟨kind, asked, given, negative⟩ := checkedMaxRedirects_error unasked
    exact ⟨kind, fun _ => .maxRedirects given negative⟩
  cases planned

theorem accept_error {policy : Policy} {tally : Tally} {url : String} {options : FetchOptions} {failure : Failure}
    (refused : accept url options policy tally = .error failure) :
    Refusal policy tally url options ∧ ∀ limit, failure ≠ .downloadBudget limit := by
  unfold accept at refused
  split at refused
  · rename_i off
    cases refused
    exact ⟨.disabled (by simpa using off), nofun⟩
  · split at refused
    · rename_i unplanned
      cases refused
      obtain ⟨⟨text, rfl⟩, refusal⟩ := plan_error unplanned
      exact ⟨refusal tally, nofun⟩
    · split at refused
      · rename_i reached
        cases refused
        exact ⟨.limit reached, nofun⟩
      · cases refused

theorem accept_ok {policy : Policy} {tally : Tally} {url : String} {options : FetchOptions} {request : Request}
    (accepted : accept url options policy tally = .ok request) : Accepted policy tally url options request := by
  unfold accept at accepted
  split at accepted
  · cases accepted
  · rename_i on
    split at accepted
    · cases accepted
    · rename_i planned
      split at accepted
      · cases accepted
      · rename_i room
        cases accepted
        obtain ⟨parsed, method, redirect, parsing, web, named, chosen, asked, address, bodyLimit⟩ := plan_ok planned
        obtain ⟨natural, greatest⟩ := checkedMaxRedirects_ok asked
        refine ⟨Nat.lt_of_not_le room, fun refusal => ?_, ⟨parsed, parsing, web, address⟩, bodyLimit, ?_⟩
        · cases refusal with
          | disabled off => exact on (by simp [off])
          | unreadable read => simp [read] at parsing
          | scheme read other =>
            rw [read] at parsing
            cases parsing
            simp [other] at web
          | method given unknown => simp [checkedMethod, given, unknown] at named
          | redirect given unknown => simp [checkedRedirect, given, unknown] at chosen
          | maxRedirects given negative =>
            have := natural _ given
            omega
          | limit reached => exact room reached
        · rw [greatest, Policy.maxRedirects]
          cases options.maxRedirects <;> simp

-- What a guest is told of a request that is sent for it, by what the network does. `bytes` are those counted so far, with
-- the response of the request itself.
inductive Told (policy : Policy) (request : Request) (attempt : Attempt) (left : Option Nat) (bytes : Nat) :
    Except Stop Reply → Prop where
  | cut (cut : attempt.isCut policy.netRequestTimeoutMs left = true) : Told policy request attempt left bytes (.error .cut)
  | timedOut (uncut : attempt.isCut policy.netRequestTimeoutMs left = false)
      (late : attempt.isLate policy.netRequestTimeoutMs = true) :
      Told policy request attempt left bytes
        (.error (.failed (.requestTimeout request.url policy.netRequestTimeoutMs)))
  | failed {text : String} (answered : attempt.Answers policy.netRequestTimeoutMs left (.error text)) :
      Told policy request attempt left bytes (.error (.failed (.network text)))
  | oversized {response : Response} (answered : attempt.Answers policy.netRequestTimeoutMs left (.ok response))
      (large : policy.netMaxResponseBytes < response.size) :
      Told policy request attempt left bytes
        (.error (.failed (.responseTooLarge response.size policy.netMaxResponseBytes)))
  | overBudget {response : Response} (answered : attempt.Answers policy.netRequestTimeoutMs left (.ok response))
      (fits : response.size ≤ policy.netMaxResponseBytes) (exceeded : policy.netMaxTotalDownloadBytes < bytes) :
      Told policy request attempt left bytes (.error (.failed (.downloadBudget policy.netMaxTotalDownloadBytes)))
  | delivered {response : Response} (answered : attempt.Answers policy.netRequestTimeoutMs left (.ok response))
      (fits : response.size ≤ policy.netMaxResponseBytes) (within : bytes ≤ policy.netMaxTotalDownloadBytes) :
      Told policy request attempt left bytes (.ok (Reply.ofResponse response))

end Fetch

namespace Attempt

-- The answer is an error or later than it is waited for, or it is larger than the policy allows.
def fails (attempt : Attempt) (policy : Policy) : Bool :=
  attempt.isLate policy.netRequestTimeoutMs || match attempt.outcome with
    | .error _ => true
    | .ok response => policy.netMaxResponseBytes < response.size

def size (attempt : Attempt) : Nat :=
  match attempt.outcome with
  | .error _ => 0
  | .ok response => response.size

def charge (attempt : Attempt) (policy : Policy) (left : Option Nat) (tally : Tally) : Tally :=
  if attempt.isCut policy.netRequestTimeoutMs left then tally
  else if attempt.fails policy then { tally with fetchErrors := Tally.wrapped (tally.fetchErrors + 1) }
  else { tally with fetchBytes := Tally.wrapped (tally.fetchBytes + attempt.size) }

variable {attempt : Attempt} {policy : Policy} {left : Option Nat} {response : Response}

theorem charge_of_cut (cut : attempt.isCut policy.netRequestTimeoutMs left = true) (tally : Tally) :
    attempt.charge policy left tally = tally := by
  simp [charge, cut]

theorem charge_of_fails (uncut : attempt.isCut policy.netRequestTimeoutMs left = false)
    (fails : attempt.fails policy = true) (tally : Tally) :
    attempt.charge policy left tally = Fetch.oneErrorMore tally := by
  simp [charge, uncut, fails, Fetch.oneErrorMore]

theorem fails_of_late (late : attempt.isLate policy.netRequestTimeoutMs = true) : attempt.fails policy = true := by
  simp [fails, late]

theorem Answers.fails_of_error {text : String}
    (answers : attempt.Answers policy.netRequestTimeoutMs left (.error text)) : attempt.fails policy = true := by
  simp [fails, answers.same]

section

variable (answers : attempt.Answers policy.netRequestTimeoutMs left (.ok response))
include answers

theorem Answers.fails_of_large (large : policy.netMaxResponseBytes < response.size) : attempt.fails policy = true := by
  simp [fails, answers.same, large]

theorem Answers.fails_of_fits (fits : response.size ≤ policy.netMaxResponseBytes) : attempt.fails policy = false := by
  simp [fails, answers.timely, answers.same, Nat.not_lt.mpr fits]

theorem Answers.charge_eq (fits : response.size ≤ policy.netMaxResponseBytes) (tally : Tally) :
    attempt.charge policy left tally = Fetch.bytesMore response.size tally := by
  simp [charge, answers.uncut, answers.fails_of_fits fits, size, answers.same, Fetch.bytesMore]

end

end Attempt

namespace Fetch

-- What may come of a fetch: it is refused and leaves everything as it was, or it sends one request and counts it.
inductive Outcome (net : Network) (policy : Policy) (url : String) (options : FetchOptions) (before : Accounts)
    (result : Except Stop Reply) (after : Accounts) : Prop where
  | refused {failure : Failure} (refusal : Refusal policy before.tally url options)
      (other : ∀ limit, failure ≠ .downloadBudget limit) (got : result = .error (.failed failure))
      (same : after = before)
  | sent {request : Request} (accepted : Accepted policy before.tally url options request)
      (added : after.journal.sent = before.journal.sent ++ [request])
      (told : Told policy request (net before.journal.sent request) before.journal.left after.tally.fetchBytes result)
      (counted : after.tally =
        (net before.journal.sent request).charge policy before.journal.left (oneRequestMore before.tally))

-- The settlement of an exchange that was not cut, against what the network did.
theorem settle_told {net : Network} {policy : Policy} {request : Request} {journal last : Journal}
    {outcome : Except Failure Response} (tally : Tally)
    (ran : exchange net request policy.netRequestTimeoutMs journal = .ok outcome last) :
    let attempt := net journal.sent request
    let settled := settle policy tally outcome
    Told policy request attempt journal.left settled.2.fetchBytes (settled.1.mapError .failed) ∧
      settled.2 = attempt.charge policy journal.left tally := by
  intro attempt settled
  have ended := exchange_cases net request policy.netRequestTimeoutMs journal
  rw [ran] at ended
  cases outcome with
  | error failure =>
    obtain ⟨rfl, uncut, late⟩ | ⟨text, rfl, answered⟩ := ended
    · exact ⟨.timedOut uncut late, (Attempt.charge_of_fails uncut (Attempt.fails_of_late late) tally).symm⟩
    · exact ⟨.failed answered, (Attempt.charge_of_fails answered.uncut answered.fails_of_error tally).symm⟩
  | ok response =>
    have answered : attempt.Answers policy.netRequestTimeoutMs journal.left (.ok response) := ended
    by_cases large : policy.netMaxResponseBytes < response.size
    · simp only [settled, settle, if_pos large]
      have fails := answered.fails_of_large large
      exact ⟨.oversized answered large, (Attempt.charge_of_fails answered.uncut fails tally).symm⟩
    · have fits := Nat.not_lt.mp large
      have charged := (answered.charge_eq fits tally).symm
      by_cases exceeded : policy.netMaxTotalDownloadBytes < (bytesMore response.size tally).fetchBytes
      · simp only [settled, settle, if_neg large, if_pos exceeded]
        exact ⟨.overBudget answered fits exceeded, charged⟩
      · simp only [settled, settle, if_neg large, if_neg exceeded]
        exact ⟨.delivered answered fits (Nat.not_lt.mp exceeded), charged⟩

theorem carryOut_refused {net : Network} {policy : Policy} {url : String} {options : FetchOptions} {before : Accounts}
    {failure : Failure} (refused : accept url options policy before.tally = .error failure) :
    carryOut net url options policy before = .error (.failed failure) before := by
  rw [carryOut, get_bind]
  exact bind_of_error (by rw [refused]; rfl)

theorem carryOut_accepted {net : Network} {policy : Policy} {url : String} {options : FetchOptions} {before : Accounts}
    {request : Request} (accepted : accept url options policy before.tally = .ok request) :
    carryOut net url options policy before =
      match exchange net request policy.netRequestTimeoutMs before.journal with
      | .error stop last => .error stop ⟨last, oneRequestMore before.tally⟩
      | .ok outcome last =>
        let settled := settle policy (oneRequestMore before.tally) outcome
        Operation.ofExcept settled.1 ⟨last, settled.2⟩ := by
  have counted : (modify (·.count oneRequestMore) : Operation Accounts PUnit) before =
      .ok () (before.count oneRequestMore) := rfl
  rw [carryOut, get_bind, bind_of_ok (show _ = EStateM.Result.ok request before by rw [accepted]; rfl),
    bind_of_ok counted]
  cases ran : exchange net request policy.netRequestTimeoutMs before.journal with
  | error stop last => exact bind_of_error (on_of_error ran)
  | ok outcome last =>
    have answered : (exchange net request policy.netRequestTimeoutMs).on Accounts.journal
        (fun journal accounts => { accounts with journal }) (before.count oneRequestMore) =
          .ok outcome ⟨last, oneRequestMore before.tally⟩ := on_of_ok ran
    rw [bind_of_ok answered]
    rfl

theorem carryOut_outcome (net : Network) (policy : Policy) (url : String) (options : FetchOptions) (before : Accounts) :
    Outcome net policy url options before ((carryOut net url options policy).result before)
      ((carryOut net url options policy).after before) := by
  rw [result, after]
  cases asked : accept url options policy before.tally with
  | error failure =>
    obtain ⟨refusal, other⟩ := accept_error asked
    rw [carryOut_refused asked]
    exact .refused refusal other rfl rfl
  | ok request =>
    have accepted := accept_ok asked
    have added := exchange_sent net request policy.netRequestTimeoutMs before.journal
    have ended := exchange_cases net request policy.netRequestTimeoutMs before.journal
    rw [carryOut_accepted asked]
    cases ran : exchange net request policy.netRequestTimeoutMs before.journal with
    | error stop last =>
      rw [after_of_error ran] at added
      rw [ran] at ended
      obtain ⟨rfl, cut⟩ := ended
      exact .sent accepted added (.cut cut) (Attempt.charge_of_cut cut _).symm
    | ok outcome last =>
      rw [after_of_ok ran] at added
      obtain ⟨told, counted⟩ := settle_told (oneRequestMore before.tally) ran
      dsimp only
      cases settled : (settle policy (oneRequestMore before.tally) outcome).1 with
      | error failure =>
        rw [settled] at told
        exact .sent accepted added told counted
      | ok reply =>
        rw [settled] at told
        exact .sent accepted added told counted

end Fetch

end GuestSandbox
