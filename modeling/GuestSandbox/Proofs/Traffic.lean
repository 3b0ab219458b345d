import GuestSandbox.Fetch.Accounted
import GuestSandbox.Module.Loading
import GuestSandbox.Proofs.Steps

-- What operations that use the network do to what they work on. To a journal they do nothing but add requests and use
-- up time.

namespace GuestSandbox

open Operation Relation

-- What is picked from the events of a journal does not mind an event that is not picked.
theorem Journal.filterMap_record {α : Type} {pick : Event → Option α} (journal : Journal) {event : Event}
    (other : pick event = none) : (journal.record event).events.filterMap pick = journal.events.filterMap pick := by
  simp [record, other]

inductive Journal.Sends (journal : Journal) : Journal → Prop where
  | sent (request : Request) : Sends journal (journal.record (.sent request))
  | waited (left : Option Nat) : Sends journal (journal.within left)

theorem Journal.spend_sends {journal after : Journal} {ms : Nat} (spent : journal.spend ms = some after) :
    journal.Sends after := by
  have same := spend_events spent
  obtain ⟨events, left⟩ := after
  cases same
  exact .waited left

theorem exchange_moves (net : Network) (request : Request) (timeoutMs : Nat) :
    Moves Journal.Sends (exchange net request timeoutMs) := by
  intro journal
  have sent : ReflTransGen Journal.Sends journal (journal.record (.sent request)) := .single (.sent request)
  unfold after exchange
  cases spent : (journal.record (.sent request)).spend ((net journal.sent request).waited timeoutMs) with
  | none => simpa only [spent] using sent
  | some later =>
    have waited := sent.tail (Journal.spend_sends spent)
    simp only [spent]
    cases (net journal.sent request).takesLonger timeoutMs with
    | true => exact waited
    | false => cases (net journal.sent request).outcome <;> exact waited

theorem exchange_sent (net : Network) (request : Request) (timeoutMs : Nat) (journal : Journal) :
    ((exchange net request timeoutMs).after journal).sent = journal.sent ++ [request] := by
  have recorded : (journal.record (.sent request)).sent = journal.sent ++ [request] :=
    Journal.sent_record journal (.sent request)
  unfold after exchange
  cases spent : (journal.record (.sent request)).spend ((net journal.sent request).waited timeoutMs) with
  | none => simpa only [spent] using recorded
  | some later =>
    have same : later.sent = journal.sent ++ [request] := by
      rw [Journal.sent, Journal.spend_events spent]
      exact recorded
    simp only [spent]
    cases (net journal.sent request).takesLonger timeoutMs with
    | true => exact same
    | false => cases (net journal.sent request).outcome <;> exact same

namespace Fetch

inductive Accounts.Sends (accounts : Accounts) : Accounts → Prop where
  | traffic {journal : Journal} (sends : accounts.journal.Sends journal) : Sends accounts { accounts with journal }
  | counted {tally : Tally} (installs : tally.packageInstalls = accounts.tally.packageInstalls) :
      Sends accounts { accounts with tally }

theorem settle_installs (policy : Policy) (tally : Tally) (outcome : Except Failure Response) :
    (settle policy tally outcome).2.packageInstalls = tally.packageInstalls := by
  cases outcome with
  | error failure => rfl
  | ok response =>
    simp only [settle]
    split
    · rfl
    · split <;> rfl

theorem carryOut_moves (net : Network) (url : String) (options : FetchOptions) (policy : Policy) :
    Moves Accounts.Sends (carryOut net url options policy) := by
  refine .get_bind fun before => Moves.bind_from (Moves.ofExcept _ before) fun request => ?_
  refine .bind (.modify fun _ => .counted rfl) fun _ => ?_
  refine .bind ((exchange_moves net request _).on (fun _ => rfl) fun _ _ _ sends => .traffic sends) fun outcome => ?_
  refine .get_bind fun accounts => Moves.bind_from (.single (.counted ?_)) fun _ => .ofExcept _
  exact settle_installs policy accounts.tally outcome

end Fetch

namespace Loading

inductive Adds (loading : Loading) : Loading → Prop where
  | traffic {journal : Journal} (sends : loading.journal.Sends journal) : Adds loading { loading with journal }
  | stored (library : Library) : Adds loading { loading with library }

theorem download_moves (net : Network) (policy : Policy) (url : String) :
    Moves Journal.Sends (download net policy url) := by
  refine (exchange_moves net _ _).bind fun outcome => ?_
  cases outcome with
  | error failure => exact .fail failure
  | ok response =>
    dsimp only
    split
    · exact .fail _
    · split
      · exact .fail _
      · exact .pure _

theorem download_ok {net : Network} {policy : Policy} {url source : String} {journal last : Journal}
    (ran : download net policy url journal = .ok source last) : ∃ response,
      exchange net (.download url policy.pkgMaxModuleBytes policy.maxRedirects) policy.pkgInstallTimeoutMs journal =
        .ok (.ok response) last ∧
      response.isSuccess = true ∧ response.size ≤ policy.pkgMaxModuleBytes ∧ source = response.text := by
  obtain ⟨outcome, middle, exchanged, rest⟩ := bind_ok ran
  cases outcome with
  | error failure => cases rest
  | ok response =>
    dsimp only at rest
    split at rest
    · cases rest
    · rename_i success
      split at rest
      · cases rest
      · rename_i small
        cases rest
        exact ⟨response, exchanged, by simpa using success, Nat.not_lt.mp small, rfl⟩

theorem sourceOf_moves (net : Network) (policy : Policy) (visit : Visit) :
    Moves Journal.Sends (sourceOf net policy visit) := by
  unfold sourceOf
  cases visit.known with
  | some source => exact .pure source
  | none => exact download_moves net policy _

def Pace.loading? : Pace → Option Loading
  | .finished => none
  | .stopped _ loading => some loading
  | .moved walk => some walk.loading

theorem advance_moves {net : Network} {policy : Policy} {walk : Walk} {loading : Loading}
    (left : (advance net policy walk).loading? = some loading) : ReflTransGen Adds walk.loading loading := by
  obtain ⟨⟨journal, library⟩, waiting, added⟩ := walk
  cases waiting with
  | nil => cases left
  | cons visit waiting =>
    simp only [advance] at left
    split at left
    · cases left
      exact .refl
    · have traffic : ReflTransGen Adds ⟨journal, library⟩ ⟨(sourceOf net policy visit).after journal, library⟩ :=
        ReflTransGen.lift (Loading.mk · library) (fun _ _ sends => .traffic sends) _ _
          (sourceOf_moves net policy visit journal)
      split at left
      · rename_i ran
        cases left
        rwa [after, ran] at traffic
      · rename_i ran
        rw [after, ran] at traffic
        split at left
        · rename_i refused
          cases left
          rw [(Library.insert_stop refused).2]
          exact traffic
        · cases left
          exact traffic.tail (.stored _)

theorem run_moves (net : Network) (policy : Policy) (walk : Walk) :
    ReflTransGen Adds walk.loading (Operation.after (fun _ => walk.run net policy) walk.loading) := by
  fun_induction Walk.run net policy walk with
  | case1 walk finished => exact .refl
  | case2 walk stop loading stopped => exact advance_moves (by rw [stopped]; rfl)
  | case3 walk next moved ih => exact (advance_moves (by rw [moved]; rfl)).trans ih

theorem gather_moves (net : Network) (policy : Policy) (entry : Url) (known : Option String) :
    Moves Adds (gather net policy entry known) := fun loading => run_moves net policy ⟨loading, [⟨entry, known⟩], 0⟩

end Loading

end GuestSandbox
