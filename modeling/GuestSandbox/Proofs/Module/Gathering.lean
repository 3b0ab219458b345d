import GuestSandbox.Fixture.Routes
import GuestSandbox.Proofs.Fetch.Outcome
import GuestSandbox.Proofs.Module.Growth

namespace GuestSandbox

open Operation Relation

namespace Loading

-- What becomes of one visit. A module that is stored already is passed over, and any other is read and stored before
-- its imports are visited.
inductive Advances (net : Network) (policy : Policy) (walk : Walk) : Pace → Prop where
  | finished (none : walk.waiting = []) : Advances net policy walk .finished
  | seen {visit : Visit} {rest : List Visit} (next : walk.waiting = visit :: rest)
      (there : walk.loading.library.contains visit.url.text = true) :
      Advances net policy walk (.moved { walk with waiting := rest })
  | unread {visit : Visit} {rest : List Visit} {stop : Stop} {journal : Journal} (next : walk.waiting = visit :: rest)
      (absent : walk.loading.library.contains visit.url.text = false)
      (read : sourceOf net policy visit walk.loading.journal = .error stop journal) :
      Advances net policy walk (.stopped stop ⟨journal, walk.loading.library⟩)
  | refused {visit : Visit} {rest : List Visit} {source : String} {journal : Journal} {stop : Stop}
      (next : walk.waiting = visit :: rest) (absent : walk.loading.library.contains visit.url.text = false)
      (read : sourceOf net policy visit walk.loading.journal = .ok source journal)
      (full : Library.insert visit.url.text source policy walk.loading.library = .error stop walk.loading.library) :
      Advances net policy walk (.stopped stop ⟨journal, walk.loading.library⟩)
  | stored {visit : Visit} {rest : List Visit} {source : String} {journal : Journal}
      (next : walk.waiting = visit :: rest) (absent : walk.loading.library.contains visit.url.text = false)
      (read : sourceOf net policy visit walk.loading.journal = .ok source journal) :
      Advances net policy walk (.moved
        ⟨⟨journal, walk.loading.library.extended [(visit.url.text, source)]⟩,
          rest ++ imported walk.loading.library visit.url.text source, walk.added + 1⟩)

theorem advance_cases (net : Network) (policy : Policy) (walk : Walk) :
    Advances net policy walk (advance net policy walk) := by
  unfold advance
  cases next : walk.waiting with
  | nil => exact .finished next
  | cons visit rest =>
    dsimp only
    cases there : walk.loading.library.contains visit.url.text with
    | true => exact .seen next there
    | false =>
      simp only [Bool.false_eq_true, if_false]
      cases read : sourceOf net policy visit walk.loading.journal with
      | error stop journal => exact .unread next there read
      | ok source journal =>
        cases inserted : Library.insert visit.url.text source policy walk.loading.library with
        | error stop kept =>
          obtain ⟨-, rfl⟩ := Library.insert_stop inserted
          simp only [inserted]
          exact .refused next there read inserted
        | ok _ larger =>
          simp only [inserted]
          obtain rfl := Library.insert_eq_extended there inserted
          exact .stored next there read

theorem mem_imported {library : Library} {importer source : String} {visit : Visit} :
    visit ∈ imported library importer source ↔ ∃ specifier ∈ Imports.specifiers source, ∃ url,
      Specifier.target library.host (some importer) specifier = .ok (.hosted url) ∧
        library.contains url.text = false ∧ visit = { url } := by
  unfold imported
  rw [List.mem_filterMap]
  refine exists_congr fun specifier => and_congr_right fun _ => ?_
  constructor
  · intro found
    split at found
    · rename_i url resolved
      split at found
      · cases found
      · rename_i absent
        cases found
        exact ⟨url, resolved, Bool.eq_false_iff.mpr absent, rfl⟩
    · cases found
  · rintro ⟨url, resolved, absent, rfl⟩
    simp [resolved, absent]

theorem run_gains (net : Network) (policy : Policy) (walk : Walk) :
    ∃ stored, walk.loading.library.Gains
      (after (fun _ => walk.run net policy) walk.loading).library stored := by
  fun_induction Walk.run net policy walk with
  | case1 walk finished => exact ⟨[], .refl _⟩
  | case2 walk stop loading stopped =>
    have step := advance_cases net policy walk
    rw [stopped] at step
    cases step with
    | unread next absent read => exact ⟨[], .refl _⟩
    | refused next absent read full => exact ⟨[], .refl _⟩
  | case3 walk next moved ih =>
    obtain ⟨stored, gains⟩ := ih
    have step := advance_cases net policy walk
    rw [moved] at step
    cases step with
    | seen next there => exact ⟨stored, gains⟩
    | stored next absent read => exact ⟨_, gains.cons absent⟩

def request (policy : Policy) (name : String) : Request :=
  .download name policy.pkgMaxModuleBytes policy.maxRedirects

theorem download_asks (net : Network) (policy : Policy) (name : String) (journal : Journal) :
    ((download net policy name).after journal).sent = journal.sent ++ [request policy name] := by
  have asked := exchange_sent net (request policy name) policy.pkgInstallTimeoutMs journal
  refine (after_bind_of_still Journal.sent (fun outcome journal => ?_) journal).trans asked
  cases outcome with
  | error failure => rfl
  | ok response =>
    dsimp only
    split
    · rfl
    · split
      · rfl
      · rfl

theorem run_asks (net : Network) (policy : Policy) (walk : Walk) : ∃ names : List String,
    (after (fun _ => walk.run net policy) walk.loading).journal.sent =
      walk.loading.journal.sent ++ names.map (request policy) := by
  have visited (visit : Visit) (journal : Journal) : ∃ names : List String,
      ((sourceOf net policy visit).after journal).sent = journal.sent ++ names.map (request policy) := by
    unfold sourceOf
    cases visit.known with
    | some source => exact ⟨[], (List.append_nil _).symm⟩
    | none => exact ⟨[visit.url.text], download_asks net policy _ journal⟩
  fun_induction Walk.run net policy walk with
  | case1 walk finished => exact ⟨[], (List.append_nil _).symm⟩
  | case2 walk stop loading stopped =>
    have step := advance_cases net policy walk
    rw [stopped] at step
    cases step with
    | @unread visit _ _ _ next absent read =>
      have asked := visited visit walk.loading.journal
      rwa [after_of_error read] at asked
    | @refused visit _ _ _ _ next absent read full =>
      have asked := visited visit walk.loading.journal
      rwa [after_of_ok read] at asked
  | case3 walk next moved ih =>
    obtain ⟨names, asked⟩ := ih
    have step := advance_cases net policy walk
    rw [moved] at step
    cases step with
    | seen next there => exact ⟨names, asked⟩
    | @stored visit _ _ _ next absent read =>
      obtain ⟨first, before⟩ := visited visit walk.loading.journal
      rw [after_of_ok read] at before
      refine ⟨first ++ names, asked.trans ?_⟩
      rw [before, List.map_append, List.append_assoc]

theorem sourceOf_sent {net : Network} {policy : Policy} {visit : Visit} {journal last : Journal} {source : String}
    (unknown : visit.known = none) (read : sourceOf net policy visit journal = .ok source last) :
    last.sent = journal.sent ++ [request policy visit.url.text] := by
  simp only [sourceOf, unknown] at read
  obtain ⟨response, exchanged, _⟩ := download_ok read
  rw [← after_of_ok exchanged]
  exact exchange_sent net _ _ journal

theorem sourceOf_known {net : Network} {policy : Policy} {visit : Visit} {journal last : Journal}
    {source text : String} (known : visit.known = some text)
    (read : sourceOf net policy visit journal = .ok source last) : source = text ∧ last = journal := by
  simp only [sourceOf, known] at read
  cases read
  exact ⟨rfl, rfl⟩

-- The text of a module is that of a response to the request for it. Among what has been sent in all, the request has its
-- place behind what was sent before.
def Answered (net : Network) (policy : Policy) (sent : List Request) (name source : String) : Prop :=
  ∃ earlier response, earlier ++ [request policy name] <+: sent ∧
    (net earlier (request policy name)).outcome = .ok response ∧ response.isSuccess = true ∧
    response.size ≤ policy.pkgMaxModuleBytes ∧ source = response.text

theorem sourceOf_answered {net : Network} {policy : Policy} {visit : Visit} {journal last : Journal} {source : String}
    (unknown : visit.known = none) (read : sourceOf net policy visit journal = .ok source last) :
    Answered net policy last.sent visit.url.text source := by
  have sent := sourceOf_sent unknown read
  simp only [sourceOf, unknown] at read
  obtain ⟨response, exchanged, success, small, same⟩ := download_ok read
  have ended := exchange_cases net (request policy visit.url.text) policy.pkgInstallTimeoutMs journal
  rw [show exchange net (request policy visit.url.text) policy.pkgInstallTimeoutMs journal = _ from exchanged] at ended
  exact ⟨journal.sent, response, sent ▸ List.prefix_rfl, ended.same, success, small, same⟩

theorem Answered.later {net : Network} {policy : Policy} {sent all : List Request} {name source : String}
    (answered : Answered net policy sent name source) (more : sent <+: all) : Answered net policy all name source := by
  obtain ⟨earlier, response, asked, others⟩ := answered
  exact ⟨earlier, response, asked.trans more, others⟩

-- Wherever a walk ends: a module was stored before, or it came with its text, or its text is an answer of the network.
theorem run_texts (net : Network) (policy : Policy) (walk : Walk) {name source : String}
    (found : (after (fun _ => walk.run net policy) walk.loading).library.source? name = some source) :
    walk.loading.library.source? name = some source ∨
      (∃ visit ∈ walk.waiting, visit.url.text = name ∧ visit.known = some source) ∨
      Answered net policy (after (fun _ => walk.run net policy) walk.loading).journal.sent name source := by
  fun_induction Walk.run net policy walk with
  | case1 walk finished => exact .inl found
  | case2 walk stop loading stopped =>
    have step := advance_cases net policy walk
    rw [stopped] at step
    cases step with
    | unread next absent read => exact .inl found
    | refused next absent read full => exact .inl found
  | case3 walk next moved ih =>
    have step := advance_cases net policy walk
    rw [moved] at step
    cases step with
    | @seen visit rest next there =>
      rcases ih found with old | ⟨other, waits, told⟩ | answered
      · exact .inl old
      · exact .inr (.inl ⟨other, by rw [next]; exact List.mem_cons_of_mem _ waits, told⟩)
      · exact .inr (.inr answered)
    | @stored visit rest text journal next absent read =>
      rcases ih found with here | ⟨other, waits, same, told⟩ | answered
      · rw [Library.source?, Library.extended] at here
        by_cases same : name = visit.url.text
        · obtain rfl : text = source := by simpa [same] using here
          cases known : visit.known with
          | some told =>
            obtain ⟨rfl, _⟩ := sourceOf_known known read
            exact .inr (.inl ⟨visit, by simp [next], same.symm, known⟩)
          | none =>
            obtain ⟨names, more⟩ := run_asks net policy
              ⟨⟨journal, walk.loading.library.extended [(visit.url.text, text)]⟩,
                rest ++ imported walk.loading.library visit.url.text text, walk.added + 1⟩
            rw [same]
            exact .inr (.inr ((sourceOf_answered known read).later ⟨_, more.symm⟩))
        · left
          simpa [Library.source?, List.lookup_cons, beq_eq_false_iff_ne.mpr same] using here
      · rcases List.mem_append.mp waits with earlier | new
        · exact .inr (.inl ⟨other, by rw [next]; exact List.mem_cons_of_mem _ earlier, same, told⟩)
        · obtain ⟨_, _, _, _, _, rfl⟩ := mem_imported.mp new
          cases told
      · exact .inr (.inr answered)

structure Completes (policy : Policy) (walk : Walk) (stored : List (String × String)) (added : Nat) (last : Loading) :
    Prop where
  gains : walk.loading.library.Gains last.library stored
  count : added = walk.added + stored.length
  found : ∀ name ∈ Library.names stored, ∃ visit ∈ walk.waiting,
    ReflTransGen (walk.loading.library.Discovers last.library) visit.url.text name
  visited : ∀ visit ∈ walk.waiting, last.library.contains visit.url.text = true
  linked : ∀ name ∈ Library.names stored, ∀ url, last.library.Links name url → last.library.contains url.text = true
  sent : (∀ visit ∈ walk.waiting, visit.known = none) →
    last.journal.sent = walk.loading.journal.sent ++ (Library.names stored).map (request policy)

namespace Completes

variable {net : Network} {policy : Policy} {walk : Walk} {stored : List (String × String)} {added : Nat}
  {last : Loading} {visit : Visit} {rest : List Visit}

theorem finished (none : walk.waiting = []) : Completes policy walk [] walk.added walk.loading where
  gains := .refl _
  count := rfl
  found := nofun
  visited := by simp [none]
  linked := nofun
  sent _ := by simp [Library.names]

theorem seen (next : walk.waiting = visit :: rest)
    (there : walk.loading.library.contains visit.url.text = true)
    (completes : Completes policy { walk with waiting := rest } stored added last) :
    Completes policy walk stored added last := by
  obtain ⟨gains, count, found, visited, linked, sent⟩ := completes
  refine ⟨gains, count, ?_, ?_, linked, ?_⟩
  · intro name member
    obtain ⟨other, waits, path⟩ := found name member
    exact ⟨other, by rw [next]; exact List.mem_cons_of_mem _ waits, path⟩
  · intro other waits
    rw [next] at waits
    rcases List.mem_cons.mp waits with rfl | later
    · exact gains.contains_mono there
    · exact visited other later
  · intro unknown
    exact sent fun other waits => unknown other (by rw [next]; exact List.mem_cons_of_mem _ waits)

-- What a module imports in the end is what it was stored with: its imports were there, or they waited to be visited.
theorem entered {source : String} {journal : Journal} (next : walk.waiting = visit :: rest)
    (absent : walk.loading.library.contains visit.url.text = false)
    (read : sourceOf net policy visit walk.loading.journal = .ok source journal)
    (completes : Completes policy ⟨⟨journal, walk.loading.library.extended [(visit.url.text, source)]⟩,
      rest ++ imported walk.loading.library visit.url.text source, walk.added + 1⟩ stored added last) :
    Completes policy walk ((visit.url.text, source) :: stored) added last := by
  obtain ⟨gains, count, found, visited, linked, sent⟩ := completes
  have grown : walk.loading.library.Gains last.library ((visit.url.text, source) :: stored) := gains.cons absent
  have there : last.library.source? visit.url.text = some source := grown.source?_new List.mem_cons_self
  refine ⟨grown, ?_, ?_, ?_, ?_, ?_⟩
  · have more : added = walk.added + 1 + stored.length := count
    rw [more, List.length_cons]
    omega
  · intro name member
    rcases List.mem_cons.mp member with rfl | later
    · exact ⟨visit, by simp [next], .refl⟩
    · obtain ⟨other, waits, path⟩ := found name later
      have path : ReflTransGen (walk.loading.library.Discovers last.library) other.url.text name := by
        refine ReflTransGen.mono ?_ _ _ path
        rintro one two ⟨url, link, same, unstored⟩
        refine ⟨url, link, same, Bool.eq_false_iff.mpr fun old => ?_⟩
        rw [Library.contains_extended.mpr (.inr old)] at unstored
        cases unstored
      rcases List.mem_append.mp waits with earlier | new
      · exact ⟨other, by simp [next, earlier], path⟩
      · obtain ⟨specifier, listed, url, resolved, unstored, rfl⟩ := mem_imported.mp new
        have link : last.library.Links visit.url.text url := ⟨source, specifier, there, listed, by rwa [grown.host]⟩
        exact ⟨visit, by simp [next], .head ⟨url, link, rfl, unstored⟩ path⟩
  · intro other waits
    rw [next] at waits
    rcases List.mem_cons.mp waits with rfl | later
    · exact Library.contains_of_source? there
    · exact visited other (List.mem_append_left _ later)
  · intro name member url link
    rcases List.mem_cons.mp member with rfl | later
    · obtain ⟨text, specifier, same, listed, resolved⟩ := link
      obtain rfl : source = text := Option.some.inj (there.symm.trans same)
      rw [grown.host] at resolved
      cases old : walk.loading.library.contains url.text with
      | true => exact grown.contains_mono old
      | false =>
        refine visited { url } (List.mem_append_right _ ?_)
        exact mem_imported.mpr ⟨specifier, listed, url, resolved, old, rfl⟩
    · exact linked name later url link
  · intro unknown
    have one := sourceOf_sent (unknown visit (by simp [next])) read
    have more := sent fun other waits => by
      rcases List.mem_append.mp waits with earlier | new
      · exact unknown other (by simp [next, earlier])
      · obtain ⟨_, _, _, _, _, rfl⟩ := mem_imported.mp new
        rfl
    rw [more, one, List.append_assoc]
    rfl

end Completes

-- From the only module that waited, imports lead to all modules that were added and to no others that are new.
theorem Completes.mem_iff {policy : Policy} {walk : Walk} {stored : List (String × String)} {added : Nat}
    {last : Loading} {visit : Visit} (completes : Completes policy walk stored added last)
    (only : walk.waiting = [visit]) (absent : walk.loading.library.contains visit.url.text = false) {name : String} :
    name ∈ Library.names stored ↔
      ReflTransGen (walk.loading.library.Discovers last.library) visit.url.text name := by
  have new : ∀ other, last.library.contains other = true → walk.loading.library.contains other = false →
      other ∈ Library.names stored := by
    intro other there unstored
    rcases completes.gains.contains.mp there with member | old
    · exact member
    · rw [old] at unstored
      cases unstored
  constructor
  · intro member
    obtain ⟨other, waits, path⟩ := completes.found name member
    rw [only, List.mem_singleton] at waits
    rwa [waits] at path
  · intro path
    induction path with
    | refl => exact new _ (completes.visited visit (by simp [only])) absent
    | tail _ step ih =>
      obtain ⟨url, link, rfl, unstored⟩ := step
      exact new _ (completes.linked _ ih url link) unstored

-- One visit is enough to carry the account of a walk from its rest to the whole.
theorem run_completes {net : Network} {policy : Policy} {walk : Walk} {added : Nat} {last : Loading}
    (ran : walk.run net policy = .ok added last) : ∃ stored, Completes policy walk stored added last := by
  fun_induction Walk.run net policy walk with
  | case1 walk finished =>
    cases ran
    have step := advance_cases net policy walk
    rw [finished] at step
    cases step with
    | finished none => exact ⟨[], .finished none⟩
  | case2 walk stop loading stopped => cases ran
  | case3 walk next moved ih =>
    obtain ⟨stored, completes⟩ := ih ran
    have step := advance_cases net policy walk
    rw [moved] at step
    cases step with
    | seen next there => exact ⟨stored, completes.seen next there⟩
    | stored next absent read => exact ⟨_, completes.entered next absent read⟩

theorem run_eq (net : Network) (policy : Policy) (walk : Walk) : walk.run net policy =
    match advance net policy walk with
    | .finished => .ok walk.added walk.loading
    | .stopped stop loading => .error stop loading
    | .moved next => next.run net policy := by
  rw [Walk.run]
  split <;> rename_i here <;> rw [here]

theorem gather_asks (net : Network) (policy : Policy) {entry : Url} {loading : Loading}
    (absent : loading.library.contains entry.text = false) : ∃ names : List String,
    ((gather net policy entry none).after loading).journal.sent =
      loading.journal.sent ++ (entry.text :: names).map (request policy) := by
  have asked : ((sourceOf net policy ⟨entry, none⟩).after loading.journal).sent =
      loading.journal.sent ++ [request policy entry.text] := download_asks net policy entry.text loading.journal
  have step := advance_cases net policy ⟨loading, [⟨entry, none⟩], 0⟩
  rw [after, gather, run_eq]
  generalize advance net policy ⟨loading, [⟨entry, none⟩], 0⟩ = pace at step ⊢
  cases step with
  | finished none => cases none
  | seen next there =>
    cases next
    rw [absent] at there
    cases there
  | unread next absent read =>
    cases next
    rw [after_of_error read] at asked
    exact ⟨[], asked⟩
  | refused next absent read full =>
    cases next
    rw [after_of_ok read] at asked
    exact ⟨[], asked⟩
  | stored next absent read =>
    cases next
    rw [after_of_ok read] at asked
    obtain ⟨names, more⟩ := run_asks net policy _
    refine ⟨names, more.trans ?_⟩
    dsimp only
    rw [asked, List.append_assoc]
    rfl

theorem gather_gains (net : Network) (policy : Policy) (entry : Url) (known : Option String) (loading : Loading) :
    ∃ stored, loading.library.Gains ((gather net policy entry known).after loading).library stored :=
  run_gains net policy ⟨loading, [⟨entry, known⟩], 0⟩

-- A walk of no more than so many visits, as a test for fixed walks.
def Walk.runFor (net : Network) (policy : Policy) : Nat → Walk → Option (EStateM.Result Stop Loading Nat)
  | 0, _ => none
  | visits + 1, walk => match advance net policy walk with
    | .finished => some (.ok walk.added walk.loading)
    | .stopped stop loading => some (.error stop loading)
    | .moved next => next.runFor net policy visits

theorem run_of_runFor {net : Network} {policy : Policy} {visits : Nat} {walk : Walk}
    {result : EStateM.Result Stop Loading Nat} (ended : walk.runFor net policy visits = some result) :
    walk.run net policy = result := by
  induction visits generalizing walk with
  | zero => cases ended
  | succ visits ih =>
    unfold Walk.runFor at ended
    rw [run_eq]
    split at ended
    · cases ended
      rfl
    · cases ended
      rfl
    · exact ih ended

theorem gather_of_contains {net : Network} {policy : Policy} {entry : Url} {known : Option String} {loading : Loading}
    (there : loading.library.contains entry.text = true) : gather net policy entry known loading = .ok 0 loading := by
  have passed : advance net policy ⟨loading, [⟨entry, known⟩], 0⟩ = .moved ⟨loading, [], 0⟩ := by
    simp [advance, there]
  have idle : advance net policy ⟨loading, [], 0⟩ = .finished := rfl
  rw [gather, run_eq, passed]
  dsimp only
  rw [run_eq, idle]

-- The modules that have to be asked for: an entry that comes with its text is none of them.
def downloaded (entry : String) (known : Option String) (stored : List (String × String)) : List String :=
  (Library.names stored).filter fun name => known.isNone || name != entry

theorem downloaded_cons {entry source : String} {known : Option String} {stored : List (String × String)}
    (distinct : (Library.names ((entry, source) :: stored)).Nodup) :
    downloaded entry known ((entry, source) :: stored) =
      (if known.isNone then [entry] else []) ++ Library.names stored := by
  have others : ∀ name ∈ Library.names stored, (known.isNone || name != entry) = true := by
    intro name member
    have apart : name ≠ entry := by
      rintro rfl
      exact (List.nodup_cons.mp distinct).1 member
    simp [apart]
  have rest : (Library.names stored).filter (fun name => known.isNone || name != entry) = Library.names stored :=
    List.filter_eq_self.mpr others
  unfold downloaded
  rw [show Library.names ((entry, source) :: stored) = entry :: Library.names stored from rfl, List.filter_cons, rest]
  cases known <;> simp

theorem sourceOf_asks {net : Network} {policy : Policy} {entry : Url} {known : Option String} {journal last : Journal}
    {source : String} (read : sourceOf net policy ⟨entry, known⟩ journal = .ok source last) :
    last.sent = journal.sent ++ (if known.isNone then [entry.text] else []).map (request policy) := by
  cases known with
  | none =>
    have asked := sourceOf_sent rfl read
    simpa using asked
  | some text =>
    obtain ⟨_, rfl⟩ := sourceOf_known rfl read
    simp

theorem gather_completes {net : Network} {policy : Policy} {entry : Url} {known : Option String}
    {loading last : Loading} {added : Nat} (absent : loading.library.contains entry.text = false)
    (gathered : gather net policy entry known loading = .ok added last) : ∃ stored,
      Completes policy ⟨loading, [⟨entry, known⟩], 0⟩ stored added last ∧
      last.journal.sent = loading.journal.sent ++ (downloaded entry.text known stored).map (request policy) := by
  unfold gather at gathered
  have step := advance_cases net policy ⟨loading, [⟨entry, known⟩], 0⟩
  rw [run_eq] at gathered
  split at gathered
  · rename_i finished
    rw [finished] at step
    cases step with
    | finished none => cases none
  · cases gathered
  · rename_i moved
    rw [moved] at step
    cases step with
    | seen next there =>
      cases next
      rw [absent] at there
      cases there
    | @stored _ _ source journal next _ read =>
      cases next
      obtain ⟨stored, rest⟩ := run_completes gathered
      have only : (Walk.mk loading [⟨entry, known⟩] 0).waiting = ⟨entry, known⟩ :: [] := rfl
      have whole := Completes.entered only absent read rest
      have more : last.journal.sent = journal.sent ++ (Library.names stored).map (request policy) := by
        refine rest.sent fun visit waits => ?_
        rw [List.nil_append] at waits
        obtain ⟨_, _, _, _, _, rfl⟩ := mem_imported.mp waits
        rfl
      refine ⟨_, whole, ?_⟩
      rw [more, sourceOf_asks read, downloaded_cons whole.gains.distinct, List.map_append, List.append_assoc]

theorem gather_texts {net : Network} {policy : Policy} {entry : Url} {known : Option String} {loading last : Loading}
    {added : Nat} (gathered : gather net policy entry known loading = .ok added last) {name source : String}
    (found : last.library.source? name = some source) : loading.library.source? name = some source ∨
      (name = entry.text ∧ known = some source) ∨ Answered net policy last.journal.sent name source := by
  obtain rfl : (gather net policy entry known).after loading = last := after_of_ok gathered
  rcases run_texts net policy ⟨loading, [⟨entry, known⟩], 0⟩ found with old | ⟨visit, waits, rfl, told⟩ | answered
  · exact .inl old
  · obtain rfl := List.mem_singleton.mp waits
    exact .inr (.inl ⟨rfl, told⟩)
  · exact .inr (.inr answered)

theorem gather_contains {net : Network} {policy : Policy} {entry : Url} {known : Option String} {loading last : Loading}
    {added : Nat} (gathered : gather net policy entry known loading = .ok added last) :
    last.library.contains entry.text = true := by
  cases there : loading.library.contains entry.text with
  | true =>
    rw [gather_of_contains there] at gathered
    cases gathered
    exact there
  | false =>
    obtain ⟨stored, whole, _⟩ := gather_completes there gathered
    exact whole.visited ⟨entry, known⟩ (List.mem_singleton_self _)

end Loading

theorem Library.load_link {library : Library} {name specifier : String} {url : Url}
    (resolved : Specifier.target library.host (some name) specifier = .ok (.hosted url))
    (there : library.contains url.text = true) : ∃ found text,
      library.moduleName (some name) specifier = .ok found ∧ library.load found = .ok text := by
  obtain ⟨text, stored⟩ := Library.source?_of_contains there
  refine ⟨url.text, text, ?_, ?_⟩
  · simp [moduleName, resolved]
  · simp [load, stored]

namespace Loading

-- A gathering that succeeds adds the modules that imports of new modules lead to from its entry, each once, and sends
-- one request for each of them that did not come with its text. Each of their imports can be loaded. What was stored
-- stays as it was.
theorem gather_exact {net : Network} {policy : Policy} {entry : Url} {known : Option String} {loading last : Loading}
    {added : Nat} (gathered : gather net policy entry known loading = .ok added last) :
    ∃ stored, loading.library.Gains last.library stored ∧ stored.length = added ∧
      (loading.library.contains entry.text = true → stored = []) ∧
      (loading.library.contains entry.text = false → ∀ name, name ∈ Library.names stored ↔
        ReflTransGen (loading.library.Discovers last.library) entry.text name) ∧
      (∀ name source, (name, source) ∈ stored → ∀ specifier ∈ Imports.specifiers source, ∀ url,
        Specifier.target last.library.host (some name) specifier = .ok (.hosted url) →
        ∃ found text, last.library.moduleName (some name) specifier = .ok found ∧
          last.library.load found = .ok text) ∧
      last.journal.sent = loading.journal.sent ++ (downloaded entry.text known stored).map (request policy) ∧
      (∀ name source, (name, source) ∈ stored → (name = entry.text ∧ known = some source) ∨
        Answered net policy last.journal.sent name source) ∧
      (∀ name, loading.library.contains name = true →
        last.library.source? name = loading.library.source? name) ∧
      last.library.aliases = loading.library.aliases ∧ last.library.failures = loading.library.failures := by
  cases there : loading.library.contains entry.text with
  | true =>
    rw [gather_of_contains there] at gathered
    cases gathered
    refine ⟨[], .refl _, rfl, fun _ => rfl, nofun, nofun, ?_, nofun, fun _ _ => rfl, rfl, rfl⟩
    exact (List.append_nil _).symm
  | false =>
    obtain ⟨stored, whole, sent⟩ := gather_completes there gathered
    refine ⟨stored, whole.gains, ?_, nofun, ?_, ?_, sent, ?_, ?_, ?_, ?_⟩
    · rw [whole.count]
      exact (Nat.zero_add _).symm
    · intro _ name
      exact whole.mem_iff rfl there
    · intro name source member specifier listed url resolved
      have found : last.library.source? name = some source := whole.gains.source?_new member
      have link : last.library.Links name url := ⟨source, specifier, found, listed, resolved⟩
      exact Library.load_link resolved (whole.linked name (List.mem_map_of_mem member) url link)
    · intro name source member
      rcases gather_texts gathered (whole.gains.source?_new member) with old | told
      · have absent := whole.gains.fresh name (List.mem_map_of_mem member)
        rw [Library.contains_of_source? old] at absent
        cases absent
      · exact told
    · intro name old
      exact whole.gains.source?_kept old
    · rw [whole.gains.whole]
      rfl
    · rw [whole.gains.whole]
      rfl

-- Two modules that import each other, the first of which comes with its text: one request, and both are there.
theorem gather_exact_cycle :
    let net := (RouteTable.add {} "https://esm.sh/b.mjs" 200 "import '/a.mjs'").network
    let entry : Url := ⟨"https", "", some "esm.sh", none, "/a.mjs", none, none⟩
    let start : Loading := ⟨{}, .empty .standard⟩
    let stored := [("https://esm.sh/a.mjs", "import '/b.mjs'"), ("https://esm.sh/b.mjs", "import '/a.mjs'")]
    ∃ last, gather net {} entry (some "import '/b.mjs'") start = .ok 2 last ∧
      start.library.Gains last.library stored ∧
      ReflTransGen (start.library.Discovers last.library) "https://esm.sh/a.mjs" "https://esm.sh/b.mjs" ∧
      last.journal.sent = [request {} "https://esm.sh/b.mjs"] ∧
      Answered net {} last.journal.sent "https://esm.sh/b.mjs" "import '/a.mjs'" := by
  intro net entry start stored
  let walk : Walk := ⟨start, [⟨entry, some "import '/b.mjs'"⟩], 0⟩
  have ended : (walk.runFor net {} 4).any (fun result => match result with
      | .ok added last => added == 2 && last.library.sources == stored.reverse
      | .error _ _ => false) = true := by decide +kernel
  obtain ⟨result, ran, test⟩ := (Option.any_eq_true _ _).mp ended
  have gathered : gather net {} entry (some "import '/b.mjs'") start = result := run_of_runFor ran
  cases result with
  | error stop last => cases test
  | ok added last =>
    obtain ⟨two, there⟩ := Bool.and_eq_true_iff.mp test
    obtain rfl : added = 2 := by simpa using two
    obtain ⟨modules, gains, _, _, reached, _, sent, texts, _⟩ := gather_exact gathered
    have sources : last.library.sources = modules.reverse := by
      rw [gains.whole]
      simp [Library.extended, start, Library.empty]
    obtain rfl : modules = stored := by
      rw [← List.reverse_reverse modules, ← sources, eq_of_beq there, List.reverse_reverse]
    refine ⟨last, gathered, gains, ?_, ?_, ?_⟩
    · exact (reached (by decide +kernel) _).mp (by decide)
    · rw [sent]
      decide +kernel
    · refine (texts _ _ (by decide)).resolve_left ?_
      decide

end Loading

end GuestSandbox
