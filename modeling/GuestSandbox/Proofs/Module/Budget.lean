import GuestSandbox.Proofs.Module.Gaps

namespace GuestSandbox

open Operation Relation

namespace Library

variable {library after : Library} {url source : String} {policy : Policy}

def Stores (policy : Policy) (before after : Library) : Prop :=
  ∃ url source, insert url source policy before = .ok () after

structure WithinBudget (policy : Policy) (library : Library) : Prop where
  distinct : (names library.sources).Nodup
  counted : library.totalBytes = (library.sources.map fun pair => pair.2.utf8ByteSize).sum
  total : library.totalBytes ≤ policy.pkgMaxTotalInstallBytesPerRun
  each : ∀ pair ∈ library.sources, pair.2.utf8ByteSize ≤ policy.pkgMaxModuleBytes

theorem withinBudget_empty (policy : Policy) (host : PackageHost) : (empty host).WithinBudget policy :=
  ⟨List.nodup_nil, rfl, Nat.zero_le _, nofun⟩

theorem WithinBudget.insert (budget : library.WithinBudget policy)
    (inserted : insert url source policy library = .ok () after) : after.WithinBudget policy := by
  have step := insert_cases url source policy library
  rw [inserted] at step
  cases step with
  | present there => exact budget
  | added absent small room =>
    refine ⟨List.nodup_cons.mpr ⟨fun taken => ?_, budget.distinct⟩, ?_, room, ?_⟩
    · rw [contains_iff.mpr taken] at absent
      cases absent
    · simp [budget.counted, Nat.add_comm]
    · intro pair member
      rcases List.mem_cons.mp member with rfl | old
      · exact small
      · exact budget.each pair old

theorem withinBudget_of_stores (stores : ReflTransGen (Stores policy) library after)
    (budget : library.WithinBudget policy) : after.WithinBudget policy := by
  induction stores with
  | refl => exact budget
  | tail _ step ih =>
    obtain ⟨url, source, inserted⟩ := step
    exact ih.insert inserted

theorem source?_of_stores (stores : ReflTransGen (Stores policy) library after)
    (found : library.source? url = some source) : after.source? url = some source := by
  induction stores with
  | refl => exact found
  | tail _ step ih =>
    obtain ⟨_, _, inserted⟩ := step
    rw [source?_insert inserted (contains_of_source? ih), ih]

end Library

namespace Loading

open Library

theorem advance_stores {net : Network} {policy : Policy} {walk next : Walk} (moved : advance net policy walk = .moved next) :
    ReflTransGen (Stores policy) walk.loading.library next.loading.library := by
  obtain ⟨⟨journal, library⟩, waiting, added⟩ := walk
  cases waiting with
  | nil => cases moved
  | cons visit waiting =>
    simp only [advance] at moved
    split at moved
    · cases moved
      exact .refl
    · split at moved
      · cases moved
      · split at moved
        · cases moved
        · rename_i larger inserted
          cases moved
          exact .single ⟨_, _, inserted⟩

theorem run_stores (net : Network) (policy : Policy) (walk : Walk) :
    ReflTransGen (Stores policy) walk.loading.library (after (fun _ => walk.run net policy) walk.loading).library := by
  fun_induction Walk.run net policy walk with
  | case1 walk finished => exact .refl
  | case2 walk stop loading stopped =>
    have step := advance_cases net policy walk
    rw [stopped] at step
    cases step with
    | unread next absent read => exact .refl
    | refused next absent read full => exact .refl
  | case3 walk next moved ih => exact (advance_stores moved).trans ih

theorem carryOut_stores (policy : Policy) (gathering : Gathering) (loading : Loading) :
    ReflTransGen (Stores policy) loading.library ((gathering.carryOut policy).after loading).library :=
  run_stores gathering.net policy
    ⟨⟨loading.journal.within gathering.left, loading.library⟩, [⟨gathering.entry, gathering.known⟩], 0⟩

end Loading

inductive Storing where
  | single (url source : String)
  | graph (gathering : Gathering)

namespace Storing

open Library

def carryOut (policy : Policy) : Storing → Operation Loading Unit
  | .single url source => (insert url source policy).on Loading.library fun library loading => { loading with library }
  | .graph gathering => Functor.discard (gathering.carryOut policy)

def all (policy : Policy) (storings : List Storing) (start : Loading) : Loading :=
  storings.foldl (fun loading storing => (storing.carryOut policy).after loading) start

theorem carryOut_stores (policy : Policy) (storing : Storing) (loading : Loading) :
    ReflTransGen (Stores policy) loading.library ((storing.carryOut policy).after loading).library := by
  cases storing with
  | single url source =>
    rw [carryOut, after_on]
    cases inserted : insert url source policy loading.library with
    | ok _ library =>
      rw [after_of_ok inserted]
      exact .single ⟨url, source, inserted⟩
    | error stop library =>
      rw [after_of_error inserted, (insert_stop inserted).2]
  | graph gathering =>
    have stores := Loading.carryOut_stores policy gathering loading
    rwa [← after_discard] at stores

theorem all_stores (policy : Policy) (storings : List Storing) (start : Loading) :
    ReflTransGen (Stores policy) start.library (all policy storings start).library := by
  induction storings generalizing start with
  | nil => exact .refl
  | cons storing rest ih => exact (carryOut_stores policy storing start).trans (ih _)

theorem all_append (policy : Policy) (earlier later : List Storing) (start : Loading) :
    all policy (earlier ++ later) start = all policy later (all policy earlier start) := List.foldl_append

-- Whatever has been stored from an empty library on, and whether or not it could be: the count of bytes is that of the
-- stored texts, it keeps to the limits, and what is stored stays. Below the greatest number it makes no difference
-- whether the count can get past that.
theorem all_withinBudget {policy : Policy} (limited : policy.pkgMaxTotalInstallBytesPerRun < 0xFFFFFFFFFFFFFFFF)
    (host : PackageHost) (journal : Journal) (storings : List Storing) :
    let loading := all policy storings ⟨journal, .empty host⟩
    loading.library.WithinBudget policy ∧
      (∀ url source, loading.library.source? url = some source → ∀ later,
        (all policy (storings ++ later) ⟨journal, .empty host⟩).library.source? url = some source) ∧
      (∀ url source, insertSaturating url source policy loading.library = insert url source policy loading.library) ∧
      ∀ url source stop last, (single url source).carryOut policy loading = .error stop last → last = loading := by
  intro loading
  refine ⟨?_, ?_, ?_, ?_⟩
  · exact withinBudget_of_stores (all_stores policy storings _) (withinBudget_empty policy host)
  · intro url source found later
    rw [all_append]
    exact source?_of_stores (all_stores policy later loading) found
  · exact fun url source => insertSaturating_eq limited
  · intro url source stop last failed
    rw [carryOut] at failed
    obtain ⟨kept, refused, same⟩ := on_error failed
    rw [same, (insert_stop refused).2]

-- A module is stored. Then the same name is given another text, a module is too large for what is left, and a gathering
-- fails.
theorem all_withinBudget_refused :
    let policy : Policy := { pkgMaxTotalInstallBytesPerRun := 30 }
    let entry : Url := ⟨"https", "", some "esm.sh", none, "/b.mjs", none, none⟩
    let start : Loading := ⟨{}, .empty .standard⟩
    let first : Storing := .single "https://esm.sh/a.mjs" "export default 1"
    let others : List Storing := [.single "https://esm.sh/a.mjs" "", .single "https://esm.sh/c.mjs" "import '/a.mjs'",
      .graph { net := Network.disabled, entry, known := some "import '/d'" }]
    policy.pkgMaxTotalInstallBytesPerRun < 0xFFFFFFFFFFFFFFFF ∧
      ((all policy ([first] ++ others) start).library.WithinBudget policy ∧
        (all policy ([first] ++ others) start).library.source? "https://esm.sh/a.mjs" = some "export default 1") ∧
      (Storing.single "https://esm.sh/c.mjs" "import '/a.mjs'").carryOut policy (all policy [first] start) =
        .error (.failed (.moduleTooLarge "https://esm.sh/c.mjs" 31 30)) (all policy [first] start) := by
  intro policy entry start first others
  have limited : policy.pkgMaxTotalInstallBytesPerRun < 0xFFFFFFFFFFFFFFFF := by decide
  obtain ⟨_, stays, _, _⟩ := all_withinBudget limited .standard {} [first]
  have budget := (all_withinBudget limited .standard {} ([first] ++ others)).1
  exact ⟨limited, ⟨budget, stays _ _ (by decide +kernel) others⟩, rfl⟩

end Storing

end GuestSandbox
