import GuestSandbox.Proofs.Fetch.Balance

-- How far the bytes of a run can get past its budget. The budget is looked at when a response has been counted, so a
-- guest that goes on after the failure sends its next request all the same.

namespace GuestSandbox.Fetch

def Fetched.isOverdrawn (policy : Policy) (fetched : Fetched) : Bool :=
  decide (policy.netMaxTotalDownloadBytes < fetched.before.tally.fetchBytes) && !fetched.sent.isEmpty

-- The most that the bytes may come to: one response past the budget, and one more for each request that was overdrawn.
def ceiling (policy : Policy) (history : List Fetched) : Nat :=
  policy.netMaxTotalDownloadBytes + (1 + history.countP (Fetched.isOverdrawn policy)) * policy.netMaxResponseBytes

theorem ceiling_concat (policy : Policy) (history : List Fetched) (fetched : Fetched) :
    ceiling policy (history ++ [fetched]) =
      ceiling policy history + (fetched.isOverdrawn policy).toNat * policy.netMaxResponseBytes := by
  unfold ceiling
  rw [List.countP_append, List.countP_singleton]
  cases fetched.isOverdrawn policy with
  | false => simp
  | true =>
    simp only [if_true, Bool.toNat_true, Nat.add_mul]
    omega

theorem le_ceiling (policy : Policy) (history : List Fetched) :
    policy.netMaxTotalDownloadBytes + policy.netMaxResponseBytes ≤ ceiling policy history := by
  unfold ceiling
  rw [Nat.add_mul]
  omega

namespace Fetched

variable {net : Network} {policy : Policy} {fetched : Fetched}

-- Where the sum goes round it only becomes smaller.
theorem Charged.bytes_after_le (charged : fetched.Charged net policy) : fetched.after.tally.fetchBytes ≤
    fetched.before.tally.fetchBytes + fetched.sent.length * policy.netMaxResponseBytes := by
  have added : fetched.after.tally.fetchBytes ≤ fetched.before.tally.fetchBytes + fetched.bytes net policy := by
    rw [charged.tally, Fetched.tally, Fetched.bytes]
    cases fetched.isTaken net policy with
    | false => exact Nat.le_refl _
    | true => exact Nat.mod_le _ _
  exact Nat.le_trans added (Nat.add_le_add_left charged.bytes_le _)

theorem Charged.within_ceiling {history : List Fetched} (charged : fetched.Charged net policy)
    (within : fetched.before.tally.fetchBytes ≤ ceiling policy history) :
    fetched.after.tally.fetchBytes ≤ ceiling policy (history ++ [fetched]) := by
  have grown := charged.bytes_after_le
  rw [ceiling_concat]
  rcases charged.limit with refused | ⟨one, _⟩
  · rw [refused, List.length_nil, Nat.zero_mul] at grown
    omega
  · rw [one, Nat.one_mul] at grown
    by_cases past : policy.netMaxTotalDownloadBytes < fetched.before.tally.fetchBytes
    · have sent : fetched.sent ≠ [] := List.ne_nil_of_length_pos (by omega)
      have overdrawn : fetched.isOverdrawn policy = true := by simp [isOverdrawn, past, sent]
      rw [overdrawn, Bool.toNat_true, Nat.one_mul]
      omega
    · have least := le_ceiling policy history
      omega

theorem Regular.isOverdrawn_iff (regular : fetched.Regular net policy) : fetched.isOverdrawn policy = true ↔
    policy.netMaxTotalDownloadBytes < fetched.before.tally.fetchBytes ∧
      ¬Refusal policy fetched.before.tally fetched.call.url fetched.call.options := by
  have sends : fetched.sent ≠ [] ↔ ¬Refusal policy fetched.before.tally fetched.call.url fetched.call.options := by
    constructor
    · intro sent refusal
      exact sent (regular.refused refusal).1
    · intro accepted
      obtain ⟨request, sent, _⟩ := regular.accepted accepted
      simp [sent]
  simp [isOverdrawn, sends]

end Fetched

theorem fetchAll_within_ceiling (net : Network) (policy : Policy) (calls : List Call) (history : List Fetched)
    (accounts : Accounts) (within : accounts.tally.fetchBytes ≤ ceiling policy history) :
    (fetchAll net policy calls accounts).2.tally.fetchBytes ≤
      ceiling policy (history ++ (fetchAll net policy calls accounts).1) := by
  induction calls generalizing history accounts with
  | nil => simpa [fetchAll] using within
  | cons call calls ih =>
    have charged := Fetched.carryOut_charged net policy call accounts
    have next : (call.carryOut net policy accounts).after.tally.fetchBytes ≤
        ceiling policy (history ++ [call.carryOut net policy accounts]) := charged.within_ceiling within
    rw [fetchAll, List.append_cons]
    exact ih _ _ next

-- For all fetches of a run: the bytes are past the budget by at most one response and one for each request that was
-- sent when the budget was already broken, and a broken budget keeps no request back. Only where nothing is sent
-- behind a broken budget is one response all that it can be passed by.
theorem fetchAll_overshoot (net : Network) (policy : Policy) (begun : Journal) (calls : List Call) :
    let ran := fetchAll net policy calls ⟨begun, {}⟩
    ran.2.tally.fetchBytes ≤ policy.netMaxTotalDownloadBytes +
        (1 + ran.1.countP (Fetched.isOverdrawn policy)) * policy.netMaxResponseBytes ∧
      ∀ fetched ∈ ran.1, fetched.isOverdrawn policy = true ↔
        policy.netMaxTotalDownloadBytes < fetched.before.tally.fetchBytes ∧
          ¬Refusal policy fetched.before.tally fetched.call.url fetched.call.options := by
  intro ran
  constructor
  · exact fetchAll_within_ceiling net policy calls [] ⟨begun, {}⟩ (Nat.zero_le _)
  · intro fetched present
    exact (fetchAll_regular net policy calls _ fetched present).isOverdrawn_iff

-- Four small responses, the second of which breaks the budget: the third and the fourth are asked for as well, and the
-- bytes end up past the budget by more than the largest response there may be.
theorem fetchAll_overshoot_repeated :
    let net := (RouteTable.add {} "https://api.test/small" 200 "12345678").network
    let policy : Policy := { netMaxRequestsPerRun := 4, netMaxResponseBytes := 10, netMaxTotalDownloadBytes := 15 }
    let small : Call := { url := "https://api.test/small" }
    let ran := fetchAll net policy [small, small, small, small] ⟨{}, {}⟩
    ran.1.map (Fetched.isOverdrawn policy) = [false, false, true, true] ∧
      ran.1.map Fetched.isSpent = [false, true, true, true] ∧
      ¬ran.2.tally.fetchBytes ≤ policy.netMaxTotalDownloadBytes + policy.netMaxResponseBytes := by
  intro net policy small ran
  have overdrawn : ran.1.map (Fetched.isOverdrawn policy) = [false, false, true, true] := by decide +kernel
  have spent : ran.1.map Fetched.isSpent = [false, true, true, true] := by decide +kernel
  have bytes : ran.2.tally.fetchBytes = 32 := by decide +kernel
  exact ⟨overdrawn, spent, by rw [bytes]; decide⟩

end GuestSandbox.Fetch
