import GuestSandbox.Proofs.Deadline
import GuestSandbox.Proofs.Fetch.Outcome
import GuestSandbox.Proofs.Module.Termination
import GuestSandbox.Proofs.Package.Growth
import GuestSandbox.Proofs.Run.Inert

-- The deadline of a run. It ends an operation of guest code that waits too long, and changes nothing else about it.

namespace GuestSandbox

open Operation Timed

namespace Fetch

instance : Timed Accounts where
  journal := Accounts.journal
  within left accounts := { accounts with journal := accounts.journal.within left }
  Precedes before after := before.journal.events <+: after.journal.events
  journal_within _ _ := rfl
  within_within _ _ _ := rfl
  refl _ := List.prefix_rfl
  trans := List.IsPrefix.trans
  precedes_within := id
  within_precedes := id

theorem carryOut_paced (net : Network) (url : String) (options : FetchOptions) (policy : Policy) {accounts : Accounts}
    (free : within none accounts = accounts) :
    Paced policy.netRequestTimeoutMs (·.count oneErrorMore) (fun net => carryOut net url options policy) net
      accounts := by
  refine .congr (fun net => Operation.ofExcept (accept url options policy accounts.tally) >>= fun request =>
    modify (·.count oneRequestMore) >>= fun _ => (exchange net request policy.netRequestTimeoutMs).on Accounts.journal
      (fun journal accounts => { accounts with journal }) >>= fun outcome => get >>= fun later =>
      modify (·.count fun _ => (settle policy later.tally outcome).2) >>= fun _ =>
      Operation.ofExcept (settle policy later.tally outcome).1) (fun _ _ => rfl) ?_
  refine .bind (Aside.ofExcept free _).paced fun request accounts _ free => ?_
  refine .bind (Aside.modify free (fun _ => rfl) rfl List.prefix_rfl).paced fun _ accounts _ free => ?_
  let posted : Accounts := { accounts with journal := accounts.journal.record (.sent request) }
  have open_ended : within none posted = posted :=
    congrArg (fun accounts : Accounts => { accounts with journal := accounts.journal.record (.sent request) }) free
  refine .ask posted open_ended (Journal.sent_record accounts.journal _) (List.prefix_append _ _) ?_ rfl ?_
  · intro net left
    have timed : within left accounts = ⟨accounts.journal.within left, accounts.tally⟩ := rfl
    have before : Timed.sent accounts = accounts.journal.sent := rfl
    simp only [Operation.on, timed, before, exchange_within]
    cases remaining left ((net accounts.journal.sent request).waited policy.netRequestTimeoutMs) <;> rfl
  · intro answer
    let settled := settle policy accounts.tally answer
    have last : within none (posted.count fun _ => settled.2) = posted.count fun _ => settled.2 :=
      congrArg (·.count fun _ => settled.2) open_ended
    have given : Aside (Operation.ofExcept settled.1) (posted.count fun _ => settled.2) settled.1 _ := .ofExcept last _
    exact ⟨settled.1, _, last, rfl, List.prefix_rfl, fun left => given.ends left⟩

theorem carryOut_cut {net : Network} {url : String} {options : FetchOptions} {policy : Policy} {before last : Accounts}
    (ran : carryOut net url options policy before = .error .cut last) : last.tally = oneRequestMore before.tally := by
  have outcome := carryOut_outcome net policy url options before
  rw [result, after, ran] at outcome
  cases outcome with
  | refused refusal other got same => cases got
  | sent accepted added told counted =>
    cases told with
    | cut cut => exact counted.trans (Attempt.charge_of_cut cut _)

end Fetch

namespace Installing

structure Precedes (before after : Installing) : Prop where
  events : before.journal.events <+: after.journal.events
  packages : before.inventory.records.Sublist after.inventory.records

instance : Timed Installing where
  journal := Installing.journal
  within left installing := { installing with journal := installing.journal.within left }
  Precedes := Precedes
  journal_within _ _ := rfl
  within_within _ _ _ := rfl
  refl _ := ⟨List.prefix_rfl, .refl _⟩
  trans one two := ⟨one.events.trans two.events, one.packages.trans two.packages⟩
  precedes_within same := ⟨same.events, same.packages⟩
  within_precedes same := ⟨same.events, same.packages⟩

theorem holds_journal : Holds Installing.journal (fun journal installing => { installing with journal }) where
  journal_part _ := rfl
  journal_put _ _ := rfl
  part_within _ _ := rfl
  put_within _ _ _ := rfl
  put_over _ _ _ := rfl
  part_precedes _ grows := ⟨grows, .refl _⟩
  put_precedes _ _ grows := ⟨grows, .refl _⟩

variable (policy : Policy) (host : PackageHost) (stamp : String) (net : Network)

theorem download_paced (url : String) {journal : Journal} (free : within none journal = journal) :
    Paced policy.pkgInstallTimeoutMs id (fun net => download net policy url) net journal :=
  .exchange free (fun _ => rfl) fun answer _ free => ⟨answer, .ofExcept free answer⟩

theorem find_paced (spec : String) {journal : Journal} (free : within none journal = journal) :
    Paced policy.pkgInstallTimeoutMs id (fun net => find net policy host stamp spec) net journal := by
  refine .bind (Aside.ofExcept free _).paced fun place journal _ free => ?_
  refine .bind (download_paced policy net _ free) fun index journal _ free => ?_
  refine .bind (Aside.ofExcept free _).paced fun index journal _ free => ?_
  refine .bind (Aside.ofExcept free _).paced fun entry journal _ free => ?_
  split
  · exact (Aside.ofExcept free _).paced
  · refine .bind (download_paced policy net _ free) fun response journal _ free => ?_
    refine .bind (Aside.ofExcept free _).paced fun response journal _ free => ?_
    exact (Aside.ofExcept free _).paced

theorem add_aside {installing : Installing} {record : PackageRecord} (free : within none installing = installing)
    (absent : installing.inventory.get? record.spec = none) :
    Aside (modify (·.add record)) installing (.ok ⟨⟩) (installing.add record) := by
  obtain ⟨front, back, split, inserted⟩ := Inventory.insert_absent absent
  have more : installing.inventory.records.Sublist (installing.inventory.insert record).records := by
    rw [split, inserted]
    exact (List.Sublist.refl front).append (List.sublist_cons_self record back)
  exact .modify free (fun _ => rfl) (sent_add installing record) ⟨List.prefix_append _ _, more⟩

theorem obtain_paced (text : String) {installing : Installing} (free : within none installing = installing) :
    Paced policy.pkgInstallTimeoutMs id (fun net => obtain net policy host stamp text) net installing := by
  refine .bind (Aside.ofExcept free _).paced fun spec installing _ free => ?_
  cases absent : installing.inventory.get? spec with
  | some record =>
    refine .congr (fun _ => pure ⟨record, none⟩) (fun net left => ?_) (Aside.pure free _).paced
    rw [get_bind, show (within left installing).inventory.get? spec = some record from absent]
  | none =>
    refine .congr (fun net =>
      if policy.pkgMaxInstallsPerRun ≤ installing.tally.packageInstalls then
        Operation.fail (.installLimit policy.pkgMaxInstallsPerRun)
      else (find net policy host stamp spec).on Installing.journal
        (fun journal installing => { installing with journal }) >>= fun found =>
        modify (·.add found.1) >>= fun _ => pure ⟨found.1, some found.2⟩) (fun net left => ?_) ?_
    · rw [get_bind, show (within left installing).inventory.get? spec = none from absent]
      rfl
    · split
      · exact (Aside.fail free _).paced
      · have searched : Paced policy.pkgInstallTimeoutMs id (fun net => (find net policy host stamp spec).on
            Installing.journal fun journal installing => { installing with journal }) net installing :=
          .on holds_journal (fun _ => rfl) (find_paced policy host stamp net spec (congrArg Installing.journal free))
        refine .bind searched fun found later ran free => ?_
        obtain ⟨journal, searching, rfl⟩ := on_ok ran
        have new : installing.inventory.get? found.1.spec = none := by
          rw [find_spec net policy host stamp spec _ _ _ searching, absent]
        exact .bind (add_aside free new).paced fun _ _ _ free => (Aside.pure free _).paced

end Installing

namespace Loading

structure Precedes (before after : Loading) : Prop where
  events : before.journal.events <+: after.journal.events
  modules : before.library.sources <:+ after.library.sources

instance : Timed Loading where
  journal := Loading.journal
  within left loading := { loading with journal := loading.journal.within left }
  Precedes := Precedes
  journal_within _ _ := rfl
  within_within _ _ _ := rfl
  refl _ := ⟨List.prefix_rfl, List.suffix_rfl⟩
  trans one two := ⟨one.events.trans two.events, one.modules.trans two.modules⟩
  precedes_within same := ⟨same.events, same.modules⟩
  within_precedes same := ⟨same.events, same.modules⟩

theorem holds_journal : Holds Loading.journal (fun journal loading => { loading with journal }) where
  journal_part _ := rfl
  journal_put _ _ := rfl
  part_within _ _ := rfl
  put_within _ _ _ := rfl
  put_over _ _ _ := rfl
  part_precedes _ grows := ⟨grows, List.suffix_rfl⟩
  put_precedes _ _ grows := ⟨grows, List.suffix_rfl⟩

variable (policy : Policy) (net : Network)

theorem download_paced (url : String) {journal : Journal} (free : within none journal = journal) :
    Paced policy.pkgInstallTimeoutMs id (fun net => download net policy url) net journal := by
  refine .exchange free (fun _ => rfl) fun answer _ free => ?_
  cases answer with
  | error failure => exact ⟨_, .fail free failure⟩
  | ok response =>
    dsimp only
    split
    · exact ⟨_, .fail free _⟩
    · split
      · exact ⟨_, .fail free _⟩
      · exact ⟨_, .pure free _⟩

theorem sourceOf_paced (visit : Visit) {journal : Journal} (free : within none journal = journal) :
    Paced policy.pkgInstallTimeoutMs id (fun net => sourceOf net policy visit) net journal := by
  unfold sourceOf
  cases visit.known with
  | some source => exact (Aside.pure free source).paced
  | none => exact download_paced policy net _ free

def walkOn (policy : Policy) (waiting : List Visit) (added : Nat) (net : Network) : Operation Loading Nat :=
  fun loading => Walk.run net policy ⟨loading, waiting, added⟩

-- A visit to a module that is not stored: the module is read and stored, and the walk goes on with what it imports.
theorem walkOn_visit (net : Network) (visit : Visit) (waiting : List Visit) (added : Nat) {loading : Loading}
    {library : Library} (stored : loading.library = library) (absent : library.contains visit.url.text = false) :
    walkOn policy (visit :: waiting) added net loading =
      ((sourceOf net policy visit).on Loading.journal (fun journal loading => { loading with journal }) >>= fun source =>
        (Library.insert visit.url.text source policy).on Loading.library
          (fun library loading => { loading with library }) >>= fun _ =>
        walkOn policy (waiting ++ imported library visit.url.text source) (added + 1) net) loading := by
  subst stored
  rw [walkOn, run_eq]
  simp only [advance, absent, Bool.false_eq_true, if_false]
  cases read : sourceOf net policy visit loading.journal with
  | error stop journal =>
    refine Eq.symm (bind_of_error ?_)
    exact on_of_error read
  | ok source journal =>
    rw [bind_of_ok (on_of_ok read)]
    dsimp only
    cases inserted : Library.insert visit.url.text source policy loading.library with
    | ok stored larger =>
      refine Eq.symm (bind_of_ok (?_ : _ = EStateM.Result.ok stored _))
      exact on_of_ok inserted
    | error stop kept =>
      refine Eq.symm (bind_of_error ?_)
      exact on_of_error inserted

theorem insert_aside (url source : String) {loading : Loading} (free : within none loading = loading) :
    ∃ outcome last, Aside ((Library.insert url source policy).on Loading.library
      fun library loading => { loading with library }) loading outcome last := by
  cases inserted : Library.insert url source policy loading.library with
  | ok stored larger =>
    exact ⟨.ok stored, ⟨loading.journal, larger⟩, congrArg (Loading.mk · larger) (congrArg Loading.journal free), rfl,
      ⟨List.prefix_rfl, Library.sources_insert inserted⟩, fun left => on_of_ok inserted⟩
  | error stop kept =>
    obtain ⟨⟨failure, rfl⟩, rfl⟩ := Library.insert_stop inserted
    exact ⟨.error failure, loading, free, rfl, Timed.refl loading, fun left => on_of_error inserted⟩

-- No walk is longer than it can reach, so that of all visits one may be taken at a time.
theorem walkOn_paced (waiting : List Visit) (added : Nat) {loading : Loading} (free : within none loading = loading) :
    Paced policy.pkgInstallTimeoutMs id (walkOn policy waiting added) net loading := by
  generalize reach : (Walk.mk loading waiting added).reach policy = most
  induction most using Nat.strong_induction_on generalizing loading waiting added with
  | _ most ih =>
  cases waiting with
  | nil =>
    refine .congr (fun _ => pure added) (fun net left => ?_) (Aside.pure free added).paced
    rw [walkOn, run_eq]
    rfl
  | cons visit waiting =>
    cases there : loading.library.contains visit.url.text with
    | true =>
      have passed (net : Network) (journal : Journal) :
          advance net policy ⟨⟨journal, loading.library⟩, visit :: waiting, added⟩ =
            .moved ⟨⟨journal, loading.library⟩, waiting, added⟩ := by
        simp [advance, there]
      have less := advance_reach (passed net loading.journal)
      refine .congr (walkOn policy waiting added) (fun net left => ?_)
        (ih _ (reach ▸ less) waiting added free rfl)
      rw [walkOn, run_eq]
      simp only [show within left loading = ⟨loading.journal.within left, loading.library⟩ from rfl, passed]
      rfl
    | false =>
      refine .congr _ (fun net left => walkOn_visit policy net visit waiting added rfl there) ?_
      have reading : Paced policy.pkgInstallTimeoutMs id (fun net => (sourceOf net policy visit).on Loading.journal
          fun journal loading => { loading with journal }) net loading :=
        .on holds_journal (fun _ => rfl) (sourceOf_paced policy net visit (congrArg Loading.journal free))
      refine .bind reading fun source later ran unlimited => ?_
      rw [free] at ran
      obtain ⟨journal, read, rfl⟩ := on_ok ran
      obtain ⟨outcome, last, aside⟩ := insert_aside policy visit.url.text source unlimited
      refine .bind aside.paced fun _ last stored free => ?_
      obtain ⟨larger, inserted, rfl⟩ := on_ok stored
      change Library.insert visit.url.text source policy loading.library = _ at inserted
      have moved : advance net policy ⟨loading, visit :: waiting, added⟩ = .moved ⟨⟨journal, larger⟩,
          waiting ++ imported loading.library visit.url.text source, added + 1⟩ := by
        simp only [advance, there, read, inserted, Bool.false_eq_true, if_false]
      have less := advance_reach moved
      exact ih _ (reach ▸ less) _ _ free rfl

theorem gather_paced (entry : Url) (known : Option String) {loading : Loading} (free : within none loading = loading) :
    Paced policy.pkgInstallTimeoutMs id (fun net => gather net policy entry known) net loading :=
  walkOn_paced policy net [⟨entry, known⟩] 0 free

end Loading

namespace RunState

-- Of what is written down, of the packages and of the modules, a later state has all that an earlier one has.
structure Precedes (before after : RunState) : Prop where
  events : before.journal.events <+: after.journal.events
  packages : before.inventory.records.Sublist after.inventory.records
  modules : before.library.sources <:+ after.library.sources

instance : Timed RunState where
  journal := RunState.journal
  within := RunState.within
  Precedes := Precedes
  journal_within _ _ := rfl
  within_within _ _ _ := rfl
  refl _ := ⟨List.prefix_rfl, .refl _, List.suffix_rfl⟩
  trans one two := ⟨one.events.trans two.events, one.packages.trans two.packages, one.modules.trans two.modules⟩
  precedes_within same := ⟨same.events, same.packages, same.modules⟩
  within_precedes same := ⟨same.events, same.packages, same.modules⟩

theorem holds_loading : Holds RunState.loading RunState.withLoading where
  journal_part _ := rfl
  journal_put _ _ := rfl
  part_within _ _ := rfl
  put_within _ _ _ := rfl
  put_over _ _ _ := rfl
  part_precedes _ grows := ⟨grows.events, .refl _, grows.modules⟩
  put_precedes _ _ grows := ⟨grows.events, .refl _, grows.modules⟩

theorem holds_installing : Holds RunState.installing RunState.withInstalling where
  journal_part _ := rfl
  journal_put _ _ := rfl
  part_within _ _ := rfl
  put_within _ _ _ := rfl
  put_over _ _ _ := rfl
  part_precedes _ grows := ⟨grows.events, grows.packages, List.suffix_rfl⟩
  put_precedes _ _ grows := ⟨grows.events, grows.packages, List.suffix_rfl⟩

theorem holds_accounts : Holds RunState.accounts RunState.withAccounts where
  journal_part _ := rfl
  journal_put _ _ := rfl
  part_within _ _ := rfl
  put_within _ _ _ := rfl
  put_over _ _ _ := rfl
  part_precedes _ grows := ⟨grows, .refl _, List.suffix_rfl⟩
  put_precedes _ _ grows := ⟨grows, .refl _, List.suffix_rfl⟩

end RunState

namespace Sandbox

variable (sandbox : Sandbox)

def onNet (net : Network) : Sandbox := { sandbox with net }

theorem gather_paced (entry : Url) (known : Option String) (net : Network) {run : RunState}
    (free : within none run = run) :
    Paced sandbox.policy.pkgInstallTimeoutMs id (fun net => (sandbox.onNet net).gather entry known) net run :=
  .on RunState.holds_loading (fun _ => rfl)
    (Loading.gather_paced sandbox.policy net entry known (congrArg RunState.loading free))

theorem link_paced (installed : Obtained) (net : Network) {run : RunState} (free : within none run = run) :
    Paced sandbox.policy.pkgInstallTimeoutMs id (fun net => (sandbox.onNet net).link installed) net run := by
  unfold link
  cases Url.parse installed.record.entryUrl with
  | error error => exact (Aside.fail free _).paced
  | ok entry =>
    refine .bind (Aside.modify free (fun _ => rfl) rfl ⟨List.prefix_rfl, .refl _, List.suffix_rfl⟩).paced
      fun _ run _ free => ?_
    refine .bind (sandbox.gather_paced entry installed.source net free) fun _ run _ free => ?_
    exact (Aside.pure free _).paced

theorem install_paced (spec : String) (net : Network) {run : RunState} (free : within none run = run) :
    Paced sandbox.policy.pkgInstallTimeoutMs id (fun net => (sandbox.onNet net).install spec) net run := by
  have obtains : Paced sandbox.policy.pkgInstallTimeoutMs id (fun net => (Installing.obtain net sandbox.policy
      sandbox.host sandbox.stamp spec).on RunState.installing RunState.withInstalling) net run :=
    .on RunState.holds_installing (fun _ => rfl)
      (Installing.obtain_paced sandbox.policy sandbox.host sandbox.stamp net spec (congrArg RunState.installing free))
  refine .bind obtains fun installed run _ free => ?_
  by_cases new : installed.source.isSome = true
  · simp only [if_pos new]
    refine .bind (Aside.modify free (fun _ => rfl) rfl ⟨List.prefix_rfl, .refl _, List.suffix_rfl⟩).paced
      fun _ run _ free => sandbox.link_paced installed net free
  · simp only [if_neg new]
    exact sandbox.link_paced installed net free

theorem fetch_paced (url : String) (options : FetchOptions) (net : Network) {run : RunState}
    (free : within none run = run) :
    Paced sandbox.policy.netRequestTimeoutMs (fun run => { run with tally := Fetch.oneErrorMore run.tally })
      (fun net => (sandbox.onNet net).fetch url options) net run := by
  have fetches : Paced sandbox.policy.netRequestTimeoutMs
      (fun run => { run with tally := Fetch.oneErrorMore run.tally }) (fun net => (Fetch.carryOut net url options
        sandbox.policy).on RunState.accounts RunState.withAccounts) net run :=
    .on RunState.holds_accounts (fun _ => rfl)
      (Fetch.carryOut_paced net url options sandbox.policy (congrArg RunState.accounts free))
  exact .bind fetches fun reply run _ free => (Aside.pure free _).paced

def patience : HostOperation → Nat
  | .pkgInstall _ => sandbox.policy.pkgInstallTimeoutMs
  | .fetch _ _ => sandbox.policy.netRequestTimeoutMs

-- What a request that is not answered in time changes by its failure: the errors of fetching are counted.
def blame : HostOperation → RunState → RunState
  | .pkgInstall _, run => run
  | .fetch _ _, run => { run with tally := Fetch.oneErrorMore run.tally }

theorem carryOut_paced (operation : HostOperation) (net : Network) {run : RunState} (free : within none run = run) :
    Paced (sandbox.patience operation) (blame operation) (fun net => (sandbox.onNet net).carryOut operation) net run := by
  cases operation with
  | pkgInstall spec => exact sandbox.install_paced spec net free
  | fetch url options => exact sandbox.fetch_paced url options net free

def fetches : HostOperation → Nat
  | .pkgInstall _ => 0
  | .fetch _ _ => 1

def timeLeft (run : RunState) : Nat := sandbox.policy.execTimeoutMs - sandbox.timeTaken run

-- What is left behind by an operation that the deadline ends while it waits for `request`, after the exchanges of `done`.
-- It is what the operation leaves behind where the network falls silent after these exchanges, apart from an error that
-- is counted for the silence.
structure CutShort (operation : HostOperation) (run last : RunState) (asked done : List Request) (request : Request)
    (cut : RunState) : Prop where
  sent : cut.journal.sent = run.journal.sent ++ (done ++ [request])
  begun : done ++ [request] <+: asked
  fits : sandbox.net.takes (sandbox.patience operation) run.journal.sent done ≤ sandbox.timeLeft run
  late : sandbox.timeLeft run < sandbox.net.takes (sandbox.patience operation) run.journal.sent (done ++ [request])
  before : run.Precedes cut
  behind : cut.Precedes last
  requests : cut.tally.fetchRequests = run.tally.fetchRequests + fetches operation
  bytes : cut.tally.fetchBytes = run.tally.fetchBytes
  errors : cut.tally.fetchErrors = run.tally.fetchErrors
  silent : (sandbox.onNet (sandbox.net.silentFrom (run.journal.sent ++ done).length)).carryOut operation
      (run.within none) =
    .error (.failed (.requestTimeout request.url (sandbox.patience operation))) (blame operation cut)

theorem cut_tally {operation : HostOperation} {run cut : RunState}
    (ran : sandbox.carryOut operation run = .error .cut cut) :
    cut.tally.fetchRequests = run.tally.fetchRequests + fetches operation ∧
      cut.tally.fetchBytes = run.tally.fetchBytes ∧ cut.tally.fetchErrors = run.tally.fetchErrors := by
  cases operation with
  | pkgInstall spec =>
    have same := RunState.unfetched_of_moves (sandbox.install_unfetched spec) run
    rw [show (sandbox.install spec).after run = cut from after_of_error ran] at same
    exact ⟨same.requests, same.bytes, same.errors⟩
  | fetch url options =>
    rcases bind_error ran with stopped | ⟨reply, middle, _, ended⟩
    · obtain ⟨accounts, fetched, rfl⟩ := on_error stopped
      have counted : (RunState.withAccounts accounts run).tally = Fetch.oneRequestMore run.tally :=
        Fetch.carryOut_cut fetched
      rw [counted]
      exact ⟨rfl, rfl, rfl⟩
    · cases ended

variable {sandbox} {α : Type} {operation : Operation RunState α} {run : RunState}

theorem inTime_of_ended {outcome : Except Failure α} {last : RunState} {rest : Option Nat}
    (free : within none last = last)
    (ran : operation (run.within (some (sandbox.timeLeft run))) = ended outcome (within rest last)) :
    sandbox.inTime operation run = .ok outcome last := by
  have same : (within rest last : RunState).within none = last := (within_within none rest last).trans free
  rw [timeLeft] at ran
  rw [inTime, ran]
  cases outcome with
  | error failure => exact congrArg (EStateM.Result.ok _) same
  | ok value => exact congrArg (EStateM.Result.ok _) same

theorem inTime_of_cut {cut : RunState}
    (ran : operation (run.within (some (sandbox.timeLeft run))) = .error .cut cut) :
    sandbox.inTime operation run = .error (.failed sandbox.timeout) (cut.within none) := by
  rw [timeLeft] at ran
  rw [inTime, ran]

variable (sandbox)

theorem cutShort_of_cuts {operation : HostOperation} {run last cut : RunState} {asked done : List Request}
    {request : Request} (sent : last.journal.sent = run.journal.sent ++ asked)
    (ran : sandbox.carryOut operation (run.within (some (sandbox.timeLeft run))) = .error .cut cut)
    (cuts : Cuts (sandbox.patience operation) (blame operation) (fun net => (sandbox.onNet net).carryOut operation)
      sandbox.net (run.within none) last (sandbox.timeLeft run) done request cut) :
    sandbox.CutShort operation run last asked done request (cut.within none) := by
  have begun : cut.journal.sent <+: last.journal.sent := cuts.begins.events.filterMap _
  have asking : cut.journal.sent = run.journal.sent ++ (done ++ [request]) := cuts.sent
  have ⟨requests, bytes, errors⟩ := sandbox.cut_tally ran
  refine ⟨asking, ?_, cuts.fits, cuts.late, precedes_within (within_precedes cuts.grows), ?_, requests, bytes, errors,
    cuts.silent⟩
  · rw [asking, sent] at begun
    exact (List.prefix_append_right_inj _).mp begun
  · exact within_precedes cuts.begins

-- The deadline only ever cuts an operation. It does so exactly if the requests that the operation sends in all, each
-- waited for as long as a request is, take more time than is left. Otherwise the operation ends as it does without a
-- deadline, in the same state; and if it is cut, it has done what it does up to the exchange that did not end in time.
theorem inTime_exact (operation : HostOperation) (run : RunState) : ∃ asked outcome last,
    sandbox.carryOut operation (run.within none) = ended outcome last ∧
      last.journal.sent = run.journal.sent ++ asked ∧
      ((∃ cut, sandbox.inTime (sandbox.carryOut operation) run = .error (.failed sandbox.timeout) cut) ↔
        sandbox.timeLeft run < sandbox.net.takes (sandbox.patience operation) run.journal.sent asked) ∧
      ((¬∃ cut, sandbox.inTime (sandbox.carryOut operation) run = .error (.failed sandbox.timeout) cut) →
        sandbox.inTime (sandbox.carryOut operation) run = .ok outcome last) ∧
      ∀ cut, sandbox.inTime (sandbox.carryOut operation) run = .error (.failed sandbox.timeout) cut →
        ∃ done request, sandbox.CutShort operation run last asked done request cut := by
  obtain ⟨asked, outcome, last, runs⟩ := sandbox.carryOut_paced operation sandbox.net (free_within run)
  have sent : last.journal.sent = run.journal.sent ++ asked := runs.sent
  refine ⟨asked, outcome, last, runs.unlimited, sent, ?_⟩
  rcases Nat.lt_or_ge (sandbox.timeLeft run)
    (sandbox.net.takes (sandbox.patience operation) run.journal.sent asked) with late | enough
  · obtain ⟨cut, done, request, ran, cuts⟩ := runs.cuts _ late
    have ended : sandbox.inTime (sandbox.carryOut operation) run = .error (.failed sandbox.timeout) (cut.within none) :=
      inTime_of_cut ran
    refine ⟨iff_of_true ⟨_, ended⟩ late, fun kept => absurd ⟨_, ended⟩ kept, fun other same => ?_⟩
    rw [ended] at same
    cases same
    exact ⟨done, request, sandbox.cutShort_of_cuts sent ran cuts⟩
  · have ended : sandbox.inTime (sandbox.carryOut operation) run = .ok outcome last :=
      inTime_of_ended runs.free (runs.ends _ _ (remaining_of_le enough))
    have kept : ¬∃ cut, sandbox.inTime (sandbox.carryOut operation) run = .error (.failed sandbox.timeout) cut := by
      rintro ⟨cut, same⟩
      rw [ended] at same
      cases same
    exact ⟨iff_of_false kept (Nat.not_lt.mpr enough), fun _ => ended, fun cut same => absurd ⟨cut, same⟩ kept⟩

-- An entry module that never comes: the deadline ends the install before a record is written.
theorem inTime_exact_hangs :
    let net : Network := fun sent _ => if sent.isEmpty
      then ⟨some 10, .ok ⟨200, [], Text.utf8 "export * from '/a.mjs'", "https://esm.sh/a"⟩⟩ else ⟨none, .error ""⟩
    let sandbox : Sandbox := { policy := { execTimeoutMs := 50 }, net, stamp := "" }
    let run : RunState := .start sandbox.policy sandbox.host .empty
    ∃ cut last asked done request,
      sandbox.inTime (sandbox.carryOut (.pkgInstall "a")) run = .error (.failed (.timeout 50)) cut ∧
      sandbox.CutShort (.pkgInstall "a") run last asked done request cut ∧
      done.map Request.url = ["https://esm.sh/a"] ∧ request.url = "https://esm.sh/a.mjs" ∧
      cut.inventory = .empty := by
  intro net sandbox run
  let operation := sandbox.inTime (sandbox.carryOut (.pkgInstall "a"))
  have failed : operation.failure? run = some (.timeout 50) := by decide +kernel
  have left : ((operation.after run).inventory == .empty && (operation.after run).journal.sent.map Request.url ==
      ["https://esm.sh/a", "https://esm.sh/a.mjs"]) = true := by decide +kernel
  obtain ⟨cut, ended⟩ := error_of_failure? failed
  rw [after_of_error ended, Bool.and_eq_true, beq_iff_eq, beq_iff_eq] at left
  obtain ⟨none, urls⟩ := left
  obtain ⟨asked, outcome, last, _, _, _, _, short⟩ := sandbox.inTime_exact (.pkgInstall "a") run
  obtain ⟨done, request, cuts⟩ := short cut ended
  rw [show cut.journal.sent = done ++ [request] from cuts.sent, List.map_append] at urls
  have parts : done.map Request.url ++ [request.url] = ["https://esm.sh/a"] ++ ["https://esm.sh/a.mjs"] := urls
  obtain ⟨first, second⟩ := List.append_inj' parts rfl
  exact ⟨cut, last, asked, done, request, ended, cuts, first, List.singleton_inj.mp second, none⟩

end Sandbox

end GuestSandbox
