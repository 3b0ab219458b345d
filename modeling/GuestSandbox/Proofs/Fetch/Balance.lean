import GuestSandbox.Fixture.Routes
import GuestSandbox.Proofs.Fetch.Outcome
import Mathlib.Algebra.GroupWithZero.Nat

namespace GuestSandbox.Fetch

open Operation

structure Call where
  url : String
  options : FetchOptions := {}
  left : Option Nat := none

structure Fetched where
  call : Call
  before : Accounts
  result : Except Stop Reply
  after : Accounts

def Call.carryOut (net : Network) (policy : Policy) (call : Call) (accounts : Accounts) : Fetched :=
  let operation := Fetch.carryOut net call.url call.options policy
  let before := { accounts with journal := accounts.journal.within call.left }
  ⟨call, before, operation.result before, operation.after before⟩

-- Each fetch begins with the accounts that the one before it has left, however it ended.
def fetchAll (net : Network) (policy : Policy) : List Call → Accounts → List Fetched × Accounts
  | [], accounts => ([], accounts)
  | call :: calls, accounts =>
    let fetched := call.carryOut net policy accounts
    let (later, last) := fetchAll net policy calls fetched.after
    (fetched :: later, last)

namespace Fetched

def sent (fetched : Fetched) : List Request := fetched.after.journal.sent.drop fetched.before.journal.sent.length

-- What the network does with the request of a fetch, whether or not the guest gets to see it.
def attempt? (net : Network) (fetched : Fetched) : Option Attempt :=
  fetched.sent.head?.map (net fetched.before.journal.sent)

def response? (net : Network) (fetched : Fetched) : Option Response :=
  (fetched.attempt? net).bind (·.outcome.toOption)

def size (net : Network) (fetched : Fetched) : Nat := ((fetched.response? net).map Response.size).getD 0

section

variable (net : Network) (policy : Policy) (fetched : Fetched)

-- Whether the time that was left for the fetch was over before its request came to anything.
def isCut : Bool := (fetched.attempt? net).any (·.isCut policy.netRequestTimeoutMs fetched.call.left)

-- Whether a request was sent, and the network answered with an error, too late, or with a response that is too large.
def isError : Bool := !fetched.isCut net policy && (fetched.attempt? net).any (·.fails policy)

-- Whether a request was sent, and the network answered it in another way.
def isTaken : Bool := !fetched.isCut net policy && (fetched.attempt? net).any (!·.fails policy)

def bytes : Nat := if fetched.isTaken net policy then fetched.size net else 0

end

def isDelivered (fetched : Fetched) : Bool :=
  match fetched.result with
  | .ok _ => true
  | .error _ => false

def delivered (net : Network) (fetched : Fetched) : Nat := if fetched.isDelivered then fetched.size net else 0

def isSpent (fetched : Fetched) : Bool :=
  match fetched.result with
  | .error (.failed (.downloadBudget _)) => true
  | _ => false

-- What is true of every single fetch: where it is refused nothing is sent or counted, else one request is sent that is
-- as the policy wants it, the guest is told what the network did, and a reply is that of the response.
structure Regular (net : Network) (policy : Policy) (fetched : Fetched) : Prop where
  refused : Refusal policy fetched.before.tally fetched.call.url fetched.call.options →
    fetched.sent = [] ∧ fetched.after.tally = fetched.before.tally ∧
      ∃ failure, fetched.result = .error (.failed failure)
  accepted : ¬Refusal policy fetched.before.tally fetched.call.url fetched.call.options →
    ∃ request, fetched.sent = [request] ∧
      Accepted policy fetched.before.tally fetched.call.url fetched.call.options request ∧
      Told policy request (net fetched.before.journal.sent request) fetched.call.left fetched.after.tally.fetchBytes
        fetched.result
  answered : fetched.isTaken net policy = true → ∃ response, fetched.response? net = some response ∧
    response.size ≤ policy.netMaxResponseBytes
  reply : ∀ reply, fetched.result = .ok reply → (fetched.response? net).map Reply.ofResponse = some reply

def tally (net : Network) (policy : Policy) (fetched : Fetched) : Tally :=
  let before := fetched.before.tally
  { before with
    fetchRequests := before.fetchRequests + fetched.sent.length
    fetchErrors := if fetched.isError net policy then Tally.wrapped (before.fetchErrors + 1) else before.fetchErrors
    fetchBytes :=
      if fetched.isTaken net policy then Tally.wrapped (before.fetchBytes + fetched.size net) else before.fetchBytes }

structure Charged (net : Network) (policy : Policy) (fetched : Fetched) : Prop where
  grown : fetched.after.journal.sent = fetched.before.journal.sent ++ fetched.sent
  tally : fetched.after.tally = fetched.tally net policy
  limit : fetched.sent = [] ∨
    fetched.sent.length = 1 ∧ fetched.before.tally.fetchRequests < policy.netMaxRequestsPerRun
  answered : fetched.isTaken net policy = true → ∃ response, fetched.response? net = some response ∧
    response.size ≤ policy.netMaxResponseBytes
  settled : fetched.isTaken net policy = true → fetched.isDelivered = true ∨ fetched.isSpent = true
  delivered : fetched.isDelivered = true → fetched.isTaken net policy = true ∧
    fetched.after.tally.fetchBytes ≤ policy.netMaxTotalDownloadBytes
  spent : fetched.isSpent = true → policy.netMaxTotalDownloadBytes < fetched.after.tally.fetchBytes

theorem sent_of_added {fetched : Fetched} {added : List Request}
    (grown : fetched.after.journal.sent = fetched.before.journal.sent ++ added) : fetched.sent = added := by
  simp [sent, grown]

theorem wrapped_of_le {n : Nat} (small : n ≤ greatestWord) : Tally.wrapped n = n := by
  rw [greatestWord] at small
  exact Nat.mod_eq_of_lt (by omega)

section Unsent

variable {fetched : Fetched} (net : Network) (policy : Policy) (unsent : fetched.sent = [])
include unsent

theorem isError_of_unsent : fetched.isError net policy = false := by simp [isError, attempt?, unsent]

theorem isTaken_of_unsent : fetched.isTaken net policy = false := by simp [isTaken, attempt?, unsent]

theorem tally_of_unsent : fetched.tally net policy = fetched.before.tally := by
  simp [tally, unsent, isError_of_unsent, isTaken_of_unsent]

end Unsent

section Sent

variable {net : Network} {policy : Policy} {fetched : Fetched} {request : Request} {response : Response}

theorem attempt?_of_sent (sent : fetched.sent = [request]) :
    fetched.attempt? net = some (net fetched.before.journal.sent request) := by
  simp [attempt?, sent]

theorem isError_of_sent (sent : fetched.sent = [request]) : fetched.isError net policy =
    (!(net fetched.before.journal.sent request).isCut policy.netRequestTimeoutMs fetched.call.left &&
      (net fetched.before.journal.sent request).fails policy) := by
  simp [isError, isCut, attempt?_of_sent sent]

theorem isTaken_of_sent (sent : fetched.sent = [request]) : fetched.isTaken net policy =
    (!(net fetched.before.journal.sent request).isCut policy.netRequestTimeoutMs fetched.call.left &&
      !(net fetched.before.journal.sent request).fails policy) := by
  simp [isTaken, isCut, attempt?_of_sent sent]

theorem size_of_sent (sent : fetched.sent = [request]) :
    fetched.size net = (net fetched.before.journal.sent request).size := by
  rw [size, response?, attempt?_of_sent sent, Option.bind_some, Attempt.size]
  cases (net fetched.before.journal.sent request).outcome <;> rfl

theorem response?_of_answered (sent : fetched.sent = [request])
    (answered : (net fetched.before.journal.sent request).outcome = .ok response) :
    fetched.response? net = some response := by
  simp [response?, attempt?_of_sent sent, answered, Except.toOption]

theorem tally_of_sent (sent : fetched.sent = [request]) : fetched.tally net policy =
    (net fetched.before.journal.sent request).charge policy fetched.call.left (oneRequestMore fetched.before.tally) := by
  rw [tally, isError_of_sent sent, isTaken_of_sent sent, size_of_sent sent, sent, Attempt.charge]
  cases (net fetched.before.journal.sent request).isCut policy.netRequestTimeoutMs fetched.call.left <;>
    cases (net fetched.before.journal.sent request).fails policy <;> rfl

end Sent

-- Where no response is taken in, nothing is delivered and no budget is broken by it.
theorem Charged.of_untaken {net : Network} {policy : Policy} {fetched : Fetched}
    (grown : fetched.after.journal.sent = fetched.before.journal.sent ++ fetched.sent)
    (told : fetched.after.tally = fetched.tally net policy)
    (limit : fetched.sent = [] ∨
      fetched.sent.length = 1 ∧ fetched.before.tally.fetchRequests < policy.netMaxRequestsPerRun)
    (untaken : fetched.isTaken net policy = false) (undelivered : fetched.isDelivered = false)
    (unspent : fetched.isSpent = false) : fetched.Charged net policy := by
  refine ⟨grown, told, limit, ?_, ?_, ?_, ?_⟩
  · simp [untaken]
  · simp [untaken]
  · simp [undelivered]
  · simp [unspent]

theorem charged_of_outcome {net : Network} {policy : Policy} {fetched : Fetched}
    (limited : fetched.before.journal.left = fetched.call.left)
    (outcome : Outcome net policy fetched.call.url fetched.call.options fetched.before fetched.result fetched.after) :
    fetched.Charged net policy := by
  cases outcome with
  | @refused failure refusal other got same =>
    have sent : fetched.sent = [] := sent_of_added (by simp [same])
    have untaken := isTaken_of_unsent net policy sent
    have unspent : fetched.isSpent = false := by
      cases failure with
      | downloadBudget limit => exact absurd rfl (other limit)
      | _ => simp [isSpent, got]
    exact .of_untaken (by simp [same, sent]) (by rw [tally_of_unsent net policy sent, same]) (.inl sent)
      (isTaken_of_unsent net policy sent) (by simp [isDelivered, got]) unspent
  | @sent request accepted added told counted =>
    have sent := sent_of_added added
    rw [limited] at told counted
    have grown : fetched.after.journal.sent = fetched.before.journal.sent ++ fetched.sent := by rw [added, sent]
    have charged := counted.trans (tally_of_sent sent).symm
    have limit : fetched.sent = [] ∨ fetched.sent.length = 1 ∧
      fetched.before.tally.fetchRequests < policy.netMaxRequestsPerRun := .inr ⟨by simp [sent], accepted.room⟩
    have taken : fetched.isTaken net policy = _ := isTaken_of_sent sent
    generalize got : fetched.result = result at told
    cases told with
    | cut cut =>
      exact .of_untaken grown charged limit (by simp [taken, cut]) (by simp [isDelivered, got]) (by simp [isSpent, got])
    | timedOut uncut late =>
      have fails := Attempt.fails_of_late late
      exact .of_untaken grown charged limit (by simp [taken, fails]) (by simp [isDelivered, got]) (by simp [isSpent, got])
    | failed answered =>
      have fails := answered.fails_of_error
      exact .of_untaken grown charged limit (by simp [taken, fails]) (by simp [isDelivered, got]) (by simp [isSpent, got])
    | oversized answered large =>
      have fails := answered.fails_of_large large
      exact .of_untaken grown charged limit (by simp [taken, fails]) (by simp [isDelivered, got]) (by simp [isSpent, got])
    | overBudget answered fits exceeded =>
      have spent : fetched.isSpent = true := by simp [isSpent, got]
      exact ⟨grown, charged, limit, fun _ => ⟨_, response?_of_answered sent answered.same, fits⟩, fun _ => .inr spent,
        by simp [isDelivered, got], fun _ => exceeded⟩
    | delivered answered fits within =>
      have delivered : fetched.isDelivered = true := by simp [isDelivered, got]
      have took : fetched.isTaken net policy = true := by simp [taken, answered.uncut, answered.fails_of_fits fits]
      exact ⟨grown, charged, limit, fun _ => ⟨_, response?_of_answered sent answered.same, fits⟩,
        fun _ => .inl delivered, fun _ => ⟨took, within⟩, by simp [isSpent, got]⟩

theorem regular_of_outcome {net : Network} {policy : Policy} {fetched : Fetched}
    (limited : fetched.before.journal.left = fetched.call.left)
    (outcome : Outcome net policy fetched.call.url fetched.call.options fetched.before fetched.result fetched.after) :
    fetched.Regular net policy := by
  have answered := (charged_of_outcome limited outcome).answered
  cases outcome with
  | refused refusal other got same =>
    have sent : fetched.sent = [] := sent_of_added (by simp [same])
    exact ⟨fun _ => ⟨sent, by rw [same], _, got⟩, fun unrefused => absurd refusal unrefused, answered, by simp [got]⟩
  | sent accepted added told counted =>
    have sent := sent_of_added added
    rw [limited] at told
    refine ⟨fun refusal => absurd refusal accepted.unrefused, fun _ => ⟨_, sent, accepted, told⟩, answered, ?_⟩
    intro reply replied
    rw [replied] at told
    cases told with
    | delivered served fits within => simp [response?_of_answered sent served.same]

theorem carryOut_regular (net : Network) (policy : Policy) (call : Call) (accounts : Accounts) :
    (call.carryOut net policy accounts).Regular net policy := by
  apply regular_of_outcome rfl
  exact carryOut_outcome net policy call.url call.options _

theorem carryOut_charged (net : Network) (policy : Policy) (call : Call) (accounts : Accounts) :
    (call.carryOut net policy accounts).Charged net policy := by
  apply charged_of_outcome rfl
  exact carryOut_outcome net policy call.url call.options _

theorem isError_le (net : Network) (policy : Policy) (fetched : Fetched) :
    (fetched.isError net policy).toNat ≤ fetched.sent.length := by
  cases sent : fetched.sent with
  | nil => simp [isError_of_unsent net policy sent]
  | cons request requests => exact Nat.le_trans (Bool.toNat_le _) (Nat.le_add_left 1 _)

theorem sent_of_isTaken {net : Network} {policy : Policy} {fetched : Fetched}
    (taken : fetched.isTaken net policy = true) : 0 < fetched.sent.length := by
  cases sent : fetched.sent with
  | nil => simp [isTaken_of_unsent net policy sent] at taken
  | cons request requests => exact Nat.succ_pos _

namespace Charged

variable {net : Network} {policy : Policy} {fetched : Fetched} (charged : fetched.Charged net policy)
include charged

theorem requests :
    fetched.after.tally.fetchRequests = fetched.before.tally.fetchRequests + fetched.sent.length := by
  rw [charged.tally, Fetched.tally]

theorem errors (fits : fetched.before.tally.fetchErrors + (fetched.isError net policy).toNat ≤ greatestWord) :
    fetched.after.tally.fetchErrors = fetched.before.tally.fetchErrors + (fetched.isError net policy).toNat := by
  rw [charged.tally, Fetched.tally]
  cases failed : fetched.isError net policy with
  | false => rfl
  | true =>
    rw [failed] at fits
    exact wrapped_of_le fits

theorem bytes (fits : fetched.before.tally.fetchBytes + fetched.bytes net policy ≤ greatestWord) :
    fetched.after.tally.fetchBytes = fetched.before.tally.fetchBytes + fetched.bytes net policy := by
  rw [charged.tally, Fetched.tally]
  unfold Fetched.bytes at fits ⊢
  cases taken : fetched.isTaken net policy with
  | false => rfl
  | true =>
    rw [taken] at fits
    exact wrapped_of_le fits

theorem bytes_le : fetched.bytes net policy ≤ fetched.sent.length * policy.netMaxResponseBytes := by
  unfold Fetched.bytes
  split
  · rename_i taken
    obtain ⟨response, found, fits⟩ := charged.answered taken
    have size : fetched.size net = response.size := by simp [size, found]
    rw [size]
    exact Nat.le_trans fits (Nat.le_mul_of_pos_left _ (sent_of_isTaken taken))
  · exact Nat.zero_le _

theorem delivered_le : fetched.delivered net ≤ fetched.bytes net policy := by
  unfold Fetched.delivered
  split
  · rename_i got
    simp [Fetched.bytes, (charged.delivered got).1]
  · exact Nat.zero_le _

theorem roomy (limit : fetched.before.tally.fetchRequests ≤ policy.netMaxRequestsPerRun) :
    fetched.after.tally.fetchRequests ≤ policy.netMaxRequestsPerRun := by
  rw [charged.requests]
  rcases charged.limit with none | ⟨one, room⟩
  · simpa [none] using limit
  · omega

end Charged

end Fetched

structure Balanced (net : Network) (policy : Policy) (begun : Journal) (history : List Fetched) (accounts : Accounts) :
    Prop where
  sent : accounts.journal.sent = begun.sent ++ history.flatMap Fetched.sent
  requests : accounts.tally.fetchRequests = (history.flatMap Fetched.sent).length
  limit : accounts.tally.fetchRequests ≤ policy.netMaxRequestsPerRun
  errors : accounts.tally.fetchErrors = history.countP (Fetched.isError net policy)
  fewErrors : accounts.tally.fetchErrors ≤ accounts.tally.fetchRequests
  bytes : accounts.tally.fetchBytes = (history.map (Fetched.bytes net policy)).sum
  ceiling : accounts.tally.fetchBytes ≤ accounts.tally.fetchRequests * policy.netMaxResponseBytes
  delivered : (history.map (Fetched.delivered net)).sum ≤ accounts.tally.fetchBytes
  budget : (history.map (Fetched.delivered net)).sum ≤ policy.netMaxTotalDownloadBytes
  spent : ∀ fetched ∈ history, fetched.isSpent = true → policy.netMaxTotalDownloadBytes < accounts.tally.fetchBytes
  silent : history.Pairwise fun earlier later => earlier.isSpent = true →
    later.isDelivered = false ∧ (later.isTaken net policy = true → later.isSpent = true)

theorem Balanced.start (net : Network) (policy : Policy) (begun : Journal) :
    Balanced net policy begun [] ⟨begun, {}⟩ := by
  constructor <;> simp

section Run

variable {net : Network} {policy : Policy} {begun : Journal} {history : List Fetched} {accounts : Accounts}

theorem Balanced.concat (balanced : Balanced net policy begun history accounts) {fetched : Fetched}
    (charged : fetched.Charged net policy) (counted : fetched.before.tally = accounts.tally)
    (recorded : fetched.before.journal.sent = accounts.journal.sent) (word : policy.netMaxRequestsPerRun ≤ greatestWord)
    (fits : ((history ++ [fetched]).map (Fetched.bytes net policy)).sum ≤ greatestWord) :
    Balanced net policy begun (history ++ [fetched]) fetched.after := by
  have failing := fetched.isError_le net policy
  have charging := charged.bytes_le
  have delivering := charged.delivered_le
  have requests := charged.requests
  have errors := charged.errors (by
    have := balanced.fewErrors
    have := charged.roomy (by simpa [counted] using balanced.limit)
    rw [counted] at requests ⊢
    omega)
  have bytes := charged.bytes (by simpa [counted, balanced.bytes] using fits)
  have delivered : ((history ++ [fetched]).map (Fetched.delivered net)).sum =
      (history.map (Fetched.delivered net)).sum + fetched.delivered net := by simp
  rw [counted] at requests errors bytes
  constructor
  case sent => simp [charged.grown, recorded, balanced.sent]
  case requests => simp [requests, balanced.requests]
  case limit => exact charged.roomy (by simpa [counted] using balanced.limit)
  case errors =>
    rw [errors, balanced.errors, List.countP_append, List.countP_singleton]
    cases fetched.isError net policy <;> rfl
  case fewErrors =>
    have := balanced.fewErrors
    omega
  case bytes => simp [bytes, balanced.bytes]
  case ceiling =>
    have := balanced.ceiling
    rw [requests, bytes, Nat.add_mul]
    omega
  case delivered =>
    have := balanced.delivered
    omega
  case budget =>
    cases got : fetched.isDelivered with
    | false => simpa [Fetched.delivered, got] using balanced.budget
    | true =>
      have := balanced.delivered
      have := (charged.delivered got).2
      omega
  case spent =>
    intro one present exhausted
    rcases List.mem_append.mp present with old | new
    · have := balanced.spent one old exhausted
      omega
    · cases List.mem_singleton.mp new
      exact charged.spent exhausted
  case silent =>
    refine List.pairwise_append.mpr ⟨balanced.silent, List.pairwise_singleton _ _, ?_⟩
    intro earlier old later new exhausted
    cases List.mem_singleton.mp new
    -- The bytes that broke the budget are still counted when the later fetch is settled.
    have exceeded := balanced.spent earlier old exhausted
    have undelivered : fetched.isDelivered ≠ true := by
      intro got
      have within := (charged.delivered got).2
      omega
    exact ⟨eq_false_of_ne_true undelivered, fun taken => (charged.settled taken).resolve_left undelivered⟩

theorem Balanced.all (word : policy.netMaxRequestsPerRun ≤ greatestWord) (calls : List Call)
    (balanced : Balanced net policy begun history accounts)
    (fits : ((history ++ (fetchAll net policy calls accounts).1).map (Fetched.bytes net policy)).sum ≤ greatestWord) :
    Balanced net policy begun (history ++ (fetchAll net policy calls accounts).1)
      (fetchAll net policy calls accounts).2 := by
  induction calls generalizing history accounts with
  | nil => simpa [fetchAll] using balanced
  | cons call calls ih =>
    have charged := Fetched.carryOut_charged net policy call accounts
    rw [fetchAll, List.append_cons] at fits ⊢
    refine ih (balanced.concat charged rfl rfl word ?_) fits
    rw [List.map_append, List.sum_append] at fits
    exact Nat.le_trans (Nat.le_add_right _ _) fits

end Run

theorem fetchAll_calls (net : Network) (policy : Policy) (calls : List Call) (accounts : Accounts) :
    (fetchAll net policy calls accounts).1.map Fetched.call = calls := by
  induction calls generalizing accounts with
  | nil => rfl
  | cons call calls ih => exact congrArg (call :: ·) (ih _)

theorem fetchAll_regular (net : Network) (policy : Policy) (calls : List Call) (accounts : Accounts) :
    ∀ fetched ∈ (fetchAll net policy calls accounts).1, fetched.Regular net policy := by
  intro fetched present
  induction calls generalizing accounts with
  | nil => cases present
  | cons call calls ih =>
    rcases List.mem_cons.mp present with rfl | later
    · exact Fetched.carryOut_regular net policy call accounts
    · exact ih _ later

-- Whatever a guest fetches in a run, its accounts fit what was sent and what came back, as long as a word can hold the
-- sizes of the responses; and every fetch is in order by itself.
theorem fetchAll_balanced (net : Network) (policy : Policy) (word : policy.netMaxRequestsPerRun ≤ greatestWord)
    (begun : Journal) (calls : List Call)
    (fits : ((fetchAll net policy calls ⟨begun, {}⟩).1.map (Fetched.bytes net policy)).sum ≤ greatestWord) :
    let ran := fetchAll net policy calls ⟨begun, {}⟩
    Balanced net policy begun ran.1 ran.2 ∧ ran.1.map Fetched.call = calls ∧
      ∀ fetched ∈ ran.1, fetched.Regular net policy :=
  ⟨Balanced.all word calls (.start net policy begun) fits, fetchAll_calls net policy calls _,
    fetchAll_regular net policy calls _⟩

-- A response that is too large and an error of the network are errors, but a page that is not found is a response like
-- any other. The second small response then breaks the budget, and a small one behind it is not delivered either.
theorem fetchAll_balanced_spent :
    let table := ((RouteTable.add {} "https://api.test/small" 200 "12345678").add "https://api.test/large" 200
      "0123456789ABC").add "https://api.test/gone" 404 "gone"
    let net : Network := fun sent request =>
      if request.url = "https://down.test/" then ⟨some 0, .error "connection reset"⟩ else table.network sent request
    let policy : Policy := { netMaxRequestsPerRun := 6, netMaxResponseBytes := 10, netMaxTotalDownloadBytes := 15 }
    let small : Call := { url := "https://api.test/small" }
    let calls : List Call := [small, { url := "file:///etc/passwd" }, { url := "https://api.test/large" },
      { url := "https://down.test/" }, { url := "https://api.test/gone" }, small, small, small]
    let ran := fetchAll net policy calls ⟨{}, {}⟩
    ran.2.tally = { fetchRequests := 6, fetchBytes := 28, fetchErrors := 2 } ∧
      ran.1.map (Fetched.isError net policy) = [false, false, true, true, false, false, false, false] ∧
      ran.1.map Fetched.isSpent = [false, false, false, false, false, true, true, false] ∧
      Balanced net policy {} ran.1 ran.2 := by
  intro table net policy small calls ran
  have counted : ran.2.tally = { fetchRequests := 6, fetchBytes := 28, fetchErrors := 2 } := by decide +kernel
  have fits : (ran.1.map (Fetched.bytes net policy)).sum ≤ greatestWord := by decide +kernel
  have errors : ran.1.map (Fetched.isError net policy) = [false, false, true, true, false, false, false, false] := by
    decide +kernel
  have spent : ran.1.map Fetched.isSpent = [false, false, false, false, false, true, true, false] := by decide +kernel
  exact ⟨counted, errors, spent, (fetchAll_balanced net policy (by decide) {} calls fits).1⟩

end GuestSandbox.Fetch
