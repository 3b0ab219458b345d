import GuestSandbox.Proofs.Traffic

-- Operations whose time is limited. An operation waits for its exchanges and for nothing else, so what it does in a
-- limited time is told by what it does without a limit: the same, or all of it up to the exchange that does not fit.

namespace GuestSandbox

open Operation

def remaining : Option Nat → Nat → Option (Option Nat)
  | none, _ => some none
  | some left, ms => if ms ≤ left then some (some (left - ms)) else none

theorem remaining_zero (left : Option Nat) : remaining left 0 = some left := by
  cases left <;> rfl

theorem remaining_add (left : Option Nat) (first second : Nat) :
    remaining left (first + second) = (remaining left first).bind (remaining · second) := by
  cases left with
  | none => rfl
  | some left =>
    by_cases fits : first ≤ left
    · simp only [remaining, fits, if_true, Option.bind_some]
      by_cases both : first + second ≤ left
      · rw [if_pos both, if_pos (by omega), Nat.sub_add_eq]
      · rw [if_neg both, if_neg (by omega)]
    · simp only [remaining, fits, if_false, Option.bind_none]
      rw [if_neg (by omega)]

theorem remaining_of_le {left ms : Nat} (fits : ms ≤ left) : remaining (some left) ms = some (some (left - ms)) :=
  if_pos fits

theorem remaining_of_lt {left ms : Nat} (late : left < ms) : remaining (some left) ms = none :=
  if_neg (Nat.not_le.mpr late)

theorem Journal.spend_within (journal : Journal) (left : Option Nat) (ms : Nat) :
    (journal.within left).spend ms = (remaining left ms).map journal.within := by
  cases left with
  | none => rfl
  | some left =>
    simp only [spend, within, remaining]
    split <;> rfl

namespace Network

def takes (net : Network) (ms : Nat) : List Request → List Request → Nat
  | _, [] => 0
  | sent, request :: rest => (net sent request).waited ms + net.takes ms (sent ++ [request]) rest

theorem takes_append (net : Network) (ms : Nat) (sent one two : List Request) :
    net.takes ms sent (one ++ two) = net.takes ms sent one + net.takes ms (sent ++ one) two := by
  induction one generalizing sent with
  | nil => simp [takes]
  | cons request rest ih =>
    rw [List.cons_append, takes, takes, ih, List.append_assoc, List.singleton_append, Nat.add_assoc]

-- A network that answers like another one at first and falls silent once so many requests have been sent.
def silentFrom (net : Network) (count : Nat) : Network := fun sent request =>
  if sent.length < count then net sent request else { net sent request with takes := none }

def answer (net : Network) (ms : Nat) (sent : List Request) (request : Request) : Except Failure Response :=
  if (net sent request).takesLonger ms then .error (.requestTimeout request.url ms)
  else (net sent request).outcome.mapError .network

theorem silentFrom_of_lt (net : Network) {count : Nat} {sent : List Request} (early : sent.length < count)
    (request : Request) : net.silentFrom count sent request = net sent request := if_pos early

theorem answer_silentFrom (net : Network) (ms : Nat) (sent : List Request) (request : Request) :
    (net.silentFrom sent.length).answer ms sent request = .error (.requestTimeout request.url ms) := by
  simp [answer, silentFrom, Attempt.takesLonger]

end Network

theorem exchange_within (net : Network) (request : Request) (ms : Nat) (journal : Journal) (left : Option Nat) :
    exchange net request ms (journal.within left) =
      match remaining left ((net journal.sent request).waited ms) with
      | some rest => .ok (net.answer ms journal.sent request) ((journal.record (.sent request)).within rest)
      | none => .error .cut ((journal.record (.sent request)).within left) := by
  have recorded : (journal.within left).record (.sent request) = (journal.record (.sent request)).within left := rfl
  have sent : (journal.within left).sent = journal.sent := rfl
  simp only [exchange, recorded, sent, Journal.spend_within]
  cases remaining left ((net journal.sent request).waited ms) with
  | none => rfl
  | some rest =>
    simp only [Option.map_some, Network.answer]
    split
    · rfl
    · cases (net journal.sent request).outcome <;> rfl

-- States that hold a journal, and in it the time that is left. What a state holds besides is only added to: one state
-- precedes another if the other has all that it has, and the time that is left does not count for this.
class Timed (σ : Type) where
  journal : σ → Journal
  within : Option Nat → σ → σ
  Precedes : σ → σ → Prop
  journal_within : ∀ left state, journal (within left state) = (journal state).within left
  within_within : ∀ left other state, within left (within other state) = within left state
  refl : ∀ state, Precedes state state
  trans : ∀ {one two three}, Precedes one two → Precedes two three → Precedes one three
  precedes_within : ∀ {left one two}, Precedes one two → Precedes one (within left two)
  within_precedes : ∀ {left one two}, Precedes one two → Precedes (within left one) two

namespace Timed

def sent {σ : Type} [Timed σ] (state : σ) : List Request := (journal state).sent

theorem sent_within {σ : Type} [Timed σ] (left : Option Nat) (state : σ) : sent (within left state) = sent state := by
  rw [sent, journal_within]
  rfl

theorem free_within {σ : Type} [Timed σ] (state : σ) : within none (within none state) = within none state :=
  within_within none none state

instance : Timed Journal where
  journal := id
  within left journal := journal.within left
  Precedes before after := before.events <+: after.events
  journal_within _ _ := rfl
  within_within _ _ _ := rfl
  refl _ := List.prefix_rfl
  trans := List.IsPrefix.trans
  precedes_within := id
  within_precedes := id

structure Holds {σ τ : Type} [Timed σ] [Timed τ] (part : σ → τ) (put : τ → σ → σ) : Prop where
  journal_part : ∀ state, journal (part state) = journal state
  journal_put : ∀ value state, journal (put value state) = journal value
  part_within : ∀ left state, part (within left state) = within left (part state)
  put_within : ∀ left value state, within left (put value state) = put (within left value) state
  put_over : ∀ left value state, put value (within left state) = put value state
  part_precedes : ∀ {state} value, Precedes (part state) value → Precedes state (put value state)
  put_precedes : ∀ {state} before after, Precedes before after → Precedes (put before state) (put after state)

end Timed

open Timed

namespace Operation

variable {σ τ α β : Type} [Timed σ] [Timed τ]

def ended (outcome : Except Failure α) (last : σ) : EStateM.Result Stop σ α :=
  match outcome with
  | .ok value => .ok value last
  | .error failure => .error (.failed failure) last

-- An operation that waits for nothing and asks for nothing.
structure Aside (operation : Operation σ α) (state : σ) (outcome : Except Failure α) (last : σ) : Prop where
  free : within none last = last
  sent : Timed.sent last = Timed.sent state
  grows : Precedes state last
  ends : ∀ left, operation (within left state) = ended outcome (within left last)

-- An operation is cut while it waits for `request`, after the exchanges of `done`. It has done what it does in all up to
-- that exchange, and what it does in all where the network falls silent there: then it ends with a failure, and `blame`
-- says what the failure itself changes.
structure Cuts (ms : Nat) (blame : σ → σ) (operation : Network → Operation σ α) (net : Network) (state last : σ)
    (left : Nat) (done : List Request) (request : Request) (cut : σ) : Prop where
  sent : Timed.sent cut = Timed.sent state ++ (done ++ [request])
  fits : net.takes ms (Timed.sent state) done ≤ left
  late : left < net.takes ms (Timed.sent state) (done ++ [request])
  grows : Precedes state cut
  begins : Precedes cut last
  silent : operation (net.silentFrom (Timed.sent state ++ done).length) (within none state) =
    .error (.failed (.requestTimeout request.url ms)) (blame (within none cut))

-- What an operation comes to without a limit, and the requests it sends for it; with a limit it comes to the same or it
-- is cut.
structure Runs (ms : Nat) (blame : σ → σ) (operation : Network → Operation σ α) (net : Network) (state : σ)
    (asked : List Request) (outcome : Except Failure α) (last : σ) : Prop where
  free : within none last = last
  sent : Timed.sent last = Timed.sent state ++ asked
  grows : Precedes state last
  ends : ∀ left rest, remaining left (net.takes ms (Timed.sent state) asked) = some rest →
    operation net (within left state) = ended outcome (within rest last)
  cuts : ∀ left, left < net.takes ms (Timed.sent state) asked → ∃ cut done request,
    operation net (within (some left) state) = .error .cut cut ∧
      Cuts ms blame operation net state last left done request cut
  quiet : ∀ count, (Timed.sent last).length ≤ count →
    operation (net.silentFrom count) (within none state) = ended outcome last

-- Requests are waited for `ms` at most, and each failure of one ends the operation.
def Paced (ms : Nat) (blame : σ → σ) (operation : Network → Operation σ α) (net : Network) (state : σ) : Prop :=
  ∃ asked outcome last, Runs ms blame operation net state asked outcome last

variable {ms : Nat} {blame : σ → σ} {net : Network} {state last : σ} {outcome : Except Failure α}

theorem Runs.unlimited {operation : Network → Operation σ α} {asked : List Request}
    (runs : Runs ms blame operation net state asked outcome last) :
    operation net (within none state) = ended outcome last := by
  have ended := runs.ends none none rfl
  rwa [runs.free] at ended

theorem Cuts.carried {operation : Network → Operation σ α} (other : Network → Operation σ β) {final cut : σ} {left : Nat}
    {done : List Request} {request : Request} (further : Precedes last final)
    (stops : ∀ net stop stopped, operation net (within none state) = .error stop stopped →
      other net (within none state) = .error stop stopped)
    (cuts : Cuts ms blame operation net state last left done request cut) :
    Cuts ms blame other net state final left done request cut where
  sent := cuts.sent
  fits := cuts.fits
  late := cuts.late
  grows := cuts.grows
  begins := Timed.trans cuts.begins further
  silent := stops _ _ _ cuts.silent

namespace Aside

theorem pure (free : within none state = state) (value : α) :
    Aside (Pure.pure value : Operation σ α) state (.ok value) state :=
  ⟨free, rfl, Timed.refl state, fun _ => rfl⟩

theorem fail (free : within none state = state) (failure : Failure) :
    Aside (Operation.fail failure : Operation σ α) state (.error failure) state :=
  ⟨free, rfl, Timed.refl state, fun _ => rfl⟩

theorem ofExcept (free : within none state = state) (result : Except Failure α) :
    Aside (Operation.ofExcept result : Operation σ α) state result state := by
  cases result with
  | ok value => exact pure free value
  | error failure => exact fail free failure

theorem modify {change : σ → σ} (free : within none state = state)
    (apart : ∀ left, change (within left state) = within left (change state))
    (sent : Timed.sent (change state) = Timed.sent state) (grows : Precedes state (change state)) :
    Aside (modify change : Operation σ PUnit) state (.ok ⟨⟩) (change state) where
  free := by rw [← apart, free]
  sent := sent
  grows := grows
  ends left := congrArg (EStateM.Result.ok PUnit.unit) (apart left)

end Aside

theorem Aside.paced {operation : Operation σ α} (aside : Aside operation state outcome last) :
    Paced ms blame (fun _ => operation) net state := by
  refine ⟨[], outcome, last, aside.free, ?_, aside.grows, ?_, ?_, ?_⟩
  · rw [aside.sent, List.append_nil]
  · intro left rest fits
    rw [Network.takes, remaining_zero] at fits
    cases fits
    exact aside.ends left
  · intro left late
    exact absurd late (Nat.not_lt_zero left)
  · intro count _
    have ends := aside.ends none
    rwa [aside.free] at ends

theorem Paced.congr {operation : Network → Operation σ α} (other : Network → Operation σ α)
    (same : ∀ net left, operation net (within left state) = other net (within left state))
    (paced : Paced ms blame other net state) : Paced ms blame operation net state := by
  obtain ⟨asked, outcome, last, runs⟩ := paced
  refine ⟨asked, outcome, last, runs.free, runs.sent, runs.grows, ?_, ?_, ?_⟩
  · intro left rest fits
    rw [same, runs.ends left rest fits]
  · intro left late
    obtain ⟨cut, done, request, ran, cuts⟩ := runs.cuts left late
    refine ⟨cut, done, request, (same net (some left)).trans ran, ?_⟩
    exact cuts.carried operation (Timed.refl last) fun net _ _ stopped => (same net none).trans stopped
  · intro count enough
    rw [same, runs.quiet count enough]

theorem Runs.bind_error {first : Network → Operation σ α} {next : α → Network → Operation σ β} {asked : List Request}
    {failure : Failure} (runs : Runs ms blame first net state asked (.error failure) last) :
    Runs ms blame (fun net => first net >>= fun value => next value net) net state asked (.error failure) last where
  free := runs.free
  sent := runs.sent
  grows := runs.grows
  ends left rest fits := bind_of_error (runs.ends left rest fits)
  cuts left late := by
    obtain ⟨cut, done, request, ran, cuts⟩ := runs.cuts left late
    exact ⟨cut, done, request, bind_of_error ran, cuts.carried _ (Timed.refl last) fun _ _ _ => bind_of_error⟩
  quiet count enough := bind_of_error (runs.quiet count enough)

theorem Runs.bind_ok {first : Network → Operation σ α} {next : α → Network → Operation σ β} {asked more : List Request}
    {value : α} {middle : σ} {outcome : Except Failure β} (one : Runs ms blame first net state asked (.ok value) middle)
    (two : Runs ms blame (next value) net middle more outcome last) :
    Runs ms blame (fun net => first net >>= fun value => next value net) net state (asked ++ more) outcome last where
  free := two.free
  sent := by rw [two.sent, one.sent, List.append_assoc]
  grows := Timed.trans one.grows two.grows
  ends left rest fits := by
    rw [Network.takes_append, remaining_add] at fits
    obtain ⟨between, enough, others⟩ := Option.bind_eq_some_iff.mp fits
    rw [← one.sent] at others
    exact (bind_of_ok (one.ends left between enough)).trans (two.ends between rest others)
  cuts left late := by
    rw [Network.takes_append, ← one.sent] at late
    by_cases enough : net.takes ms (Timed.sent state) asked ≤ left
    · obtain ⟨cut, done, request, ran, cuts⟩ := two.cuts (left - net.takes ms (Timed.sent state) asked) (by omega)
      refine ⟨cut, asked ++ done, request, (bind_of_ok (one.ends _ _ (remaining_of_le enough))).trans ran, ?_⟩
      have fits := cuts.fits
      have tooMuch := cuts.late
      rw [one.sent] at fits tooMuch
      refine ⟨?_, ?_, ?_, Timed.trans one.grows cuts.grows, cuts.begins, ?_⟩
      · rw [cuts.sent, one.sent, List.append_assoc, List.append_assoc]
      · rw [Network.takes_append]
        omega
      · rw [List.append_assoc, Network.takes_append]
        omega
      · have silent := cuts.silent
        have counted : (Timed.sent state ++ (asked ++ done)).length = (Timed.sent middle ++ done).length := by
          rw [one.sent, List.append_assoc]
        rw [one.free] at silent
        rw [counted]
        exact (bind_of_ok (one.quiet _ (by simp))).trans silent
    · obtain ⟨cut, done, request, ran, cuts⟩ := one.cuts left (Nat.not_le.mp enough)
      exact ⟨cut, done, request, bind_of_error ran, cuts.carried _ two.grows fun _ _ _ => bind_of_error⟩
  quiet count enough := by
    have fewer : (Timed.sent middle).length ≤ count := by
      rw [two.sent, List.length_append] at enough
      omega
    have later := two.quiet count enough
    rw [one.free] at later
    exact (bind_of_ok (one.quiet count fewer)).trans later

theorem Paced.bind {first : Network → Operation σ α} {next : α → Network → Operation σ β}
    (one : Paced ms blame first net state)
    (two : ∀ value middle, first net (within none state) = .ok value middle → within none middle = middle →
      Paced ms blame (next value) net middle) :
    Paced ms blame (fun net => first net >>= fun value => next value net) net state := by
  obtain ⟨asked, outcome, middle, runs⟩ := one
  cases outcome with
  | error failure => exact ⟨asked, .error failure, middle, runs.bind_error⟩
  | ok value =>
    obtain ⟨more, outcome, last, later⟩ := two value middle runs.unlimited runs.free
    exact ⟨asked ++ more, outcome, last, runs.bind_ok later⟩

-- One exchange and what is made of it. If the request is not answered in time, nothing but the blame is made of it.
theorem Paced.ask {request : Request} {ask : Network → Operation σ (Except Failure Response)}
    {next : Except Failure Response → Operation σ α} (posted : σ) (free : within none posted = posted)
    (sent : Timed.sent posted = Timed.sent state ++ [request]) (grows : Precedes state posted)
    (asks : ∀ net left, ask net (within left state) =
      match remaining left ((net (Timed.sent state) request).waited ms) with
      | some rest => .ok (net.answer ms (Timed.sent state) request) (within rest posted)
      | none => .error .cut (within left posted))
    (blames : next (.error (.requestTimeout request.url ms)) posted =
      .error (.failed (.requestTimeout request.url ms)) (blame posted))
    (settles : ∀ answer, ∃ outcome last, Aside (next answer) posted outcome last) :
    Paced ms blame (fun net => ask net >>= next) net state := by
  obtain ⟨outcome, last, aside⟩ := settles (net.answer ms (Timed.sent state) request)
  have takes : net.takes ms (Timed.sent state) [request] = (net (Timed.sent state) request).waited ms := Nat.add_zero _
  refine ⟨[request], outcome, last, aside.free, ?_, Timed.trans grows aside.grows, ?_, ?_, ?_⟩
  · rw [aside.sent, sent]
  · intro left rest fits
    rw [takes] at fits
    have asked := asks net left
    rw [fits] at asked
    exact (bind_of_ok asked).trans (aside.ends rest)
  · intro left late
    rw [takes] at late
    have asked := asks net (some left)
    rw [remaining_of_lt late] at asked
    refine ⟨within (some left) posted, [], request, bind_of_error asked, ?_, Nat.zero_le _, ?_, precedes_within grows,
      within_precedes aside.grows, ?_⟩
    · rw [sent_within, sent, List.nil_append]
    · rwa [List.nil_append, takes]
    · rw [List.append_nil, within_within, free]
      have silent := asks (net.silentFrom (Timed.sent state).length) none
      simp only [Network.answer_silentFrom, remaining, free] at silent
      exact (bind_of_ok silent).trans blames
  · intro count enough
    rw [aside.sent, sent, List.length_append, List.length_singleton] at enough
    have early := net.silentFrom_of_lt (show (Timed.sent state).length < count by omega) request
    have asked := asks (net.silentFrom count) none
    simp only [remaining, free] at asked
    have same : (net.silentFrom count).answer ms (Timed.sent state) request =
        net.answer ms (Timed.sent state) request := by rw [Network.answer, Network.answer, early]
    rw [same] at asked
    have ended := aside.ends none
    rw [free, aside.free] at ended
    exact (bind_of_ok asked).trans ended

theorem Paced.exchange {request : Request} {journal : Journal}
    {next : Except Failure Response → Operation Journal α} (free : within none journal = journal)
    (fails : ∀ failure, next (.error failure) = Operation.fail failure)
    (settles : ∀ answer journal, within none journal = journal → ∃ outcome, Aside (next answer) journal outcome journal) :
    Paced ms id (fun net => GuestSandbox.exchange net request ms >>= next) net journal := by
  let posted := journal.record (.sent request)
  have open_ended : within none posted = posted := congrArg (fun journal : Journal => journal.record (.sent request)) free
  refine .ask posted open_ended (Journal.sent_record journal _) (List.prefix_append _ _) ?_ ?_ ?_
  · intro net left
    exact exchange_within net request ms journal left
  · rw [fails]
    rfl
  · intro answer
    obtain ⟨outcome, aside⟩ := settles answer posted open_ended
    exact ⟨outcome, posted, aside⟩

theorem Paced.on {part : σ → τ} {put : τ → σ → σ} {inner : τ → τ} {operation : Network → Operation τ α}
    (holds : Holds part put) (blame_put : ∀ value, blame (put value state) = put (inner value) state)
    (paced : Paced ms inner operation net (part state)) :
    Paced ms blame (fun net => (operation net).on part put) net state := by
  have sent_part : Timed.sent (part state) = Timed.sent state := congrArg Journal.sent (holds.journal_part state)
  have sent_put (value : τ) : Timed.sent (put value state) = Timed.sent value :=
    congrArg Journal.sent (holds.journal_put value state)
  have lifted {net : Network} {left : Option Nat} (outcome : Except Failure α) {last : τ}
      (ran : operation net (within left (part state)) = ended outcome last) :
      (operation net).on part put (within left state) = ended outcome (put last state) := by
    unfold Operation.on
    rw [holds.part_within, ran]
    cases outcome <;> simp only [ended, holds.put_over]
  obtain ⟨asked, outcome, last, runs⟩ := paced
  refine ⟨asked, outcome, put last state, ?_, ?_, ?_, ?_, ?_, ?_⟩
  · rw [holds.put_within, runs.free]
  · rw [sent_put, runs.sent, sent_part]
  · exact holds.part_precedes last runs.grows
  · intro left rest fits
    rw [holds.put_within]
    exact lifted outcome (runs.ends left rest (by rwa [sent_part]))
  · intro left late
    obtain ⟨cut, done, request, ran, cuts⟩ := runs.cuts left (by rwa [sent_part])
    have stopped : (operation net).on part put (within (some left) state) = .error .cut (put cut state) := by
      unfold Operation.on
      rw [holds.part_within, ran]
      simp only [holds.put_over]
    have silent := cuts.silent
    rw [sent_part] at silent
    refine ⟨put cut state, done, request, stopped, ?_, ?_, ?_, holds.part_precedes cut cuts.grows,
      holds.put_precedes cut last cuts.begins, ?_⟩
    · rw [sent_put, cuts.sent, sent_part]
    · exact sent_part ▸ cuts.fits
    · exact sent_part ▸ cuts.late
    · rw [holds.put_within, blame_put]
      exact lifted (.error (.requestTimeout request.url ms)) silent
  · intro count enough
    rw [sent_put] at enough
    exact lifted outcome (runs.quiet count enough)

end Operation

end GuestSandbox
