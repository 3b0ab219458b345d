import GuestSandbox.Proofs.Module.Budget
import Mathlib.Data.String.Basic

-- How long a walk over imports can get. The modules that it meets may import ever new ones, and so it is not the modules
-- that come to an end but the bytes that they may have: a text has no more imports than bytes.

namespace GuestSandbox

open Operation

namespace Imports

theorem length_eraseDups_le (texts : List String) : texts.eraseDups.length ≤ texts.length := by
  match texts with
  | [] => exact Nat.le_refl 0
  | text :: rest =>
    have fewer : (rest.filter fun other => !other == text).length ≤ rest.length := List.length_filter_le _ _
    have later := length_eraseDups_le (rest.filter fun other => !other == text)
    rw [List.eraseDups_cons, List.length_cons, List.length_cons]
    omega
  termination_by texts.length
  decreasing_by
    rw [List.length_cons]
    omega

-- Every import that is found takes up some of the text.
theorem specifiersFrom_length (fresh : Bool) (cs : List Char) : (specifiersFrom fresh cs).length ≤ cs.length := by
  fun_induction specifiersFrom fresh cs with
  | case1 => exact Nat.le_refl _
  | case2 fresh c rest text after found ih =>
    have shorter : after.length < (c :: rest).length := by
      cases fresh with
      | true => exact importStart?_shorter found
      | false => cases found
    rw [List.length_cons]
    omega
  | case3 fresh c rest none ih =>
    rw [List.length_cons]
    omega

theorem length_le_utf8ByteSize (text : String) : text.toList.length ≤ text.utf8ByteSize := by
  rw [← String.utf8Len_toList]
  induction text.toList with
  | nil => exact Nat.le_refl _
  | cons c rest ih =>
    have some := c.utf8Size_pos
    rw [List.length_cons, String.utf8Len_cons]
    omega

theorem specifiers_length (source : String) : (specifiers source).length ≤ source.utf8ByteSize := by
  have found : ((specifiersFrom true source.toList).map String.ofList).length ≤ source.toList.length := by
    rw [List.length_map]
    exact specifiersFrom_length true _
  exact Nat.le_trans (length_eraseDups_le _) (Nat.le_trans found (length_le_utf8ByteSize source))

end Imports

namespace Loading

theorem imported_length (library : Library) (importer source : String) :
    (imported library importer source).length ≤ source.utf8ByteSize :=
  Nat.le_trans (List.length_filterMap_le _ _) (Imports.specifiers_length source)

-- How many more visits a walk can come to: those that wait, and one for each byte that modules may still have.
def Walk.reach (policy : Policy) (walk : Walk) : Nat :=
  walk.waiting.length + (policy.pkgMaxTotalInstallBytesPerRun - walk.loading.library.totalBytes)

theorem Walk.reach_pos {policy : Policy} (walk : Walk) {visit : Visit} {rest : List Visit}
    (next : walk.waiting = visit :: rest) : 1 ≤ walk.reach policy := by
  rw [reach, next, List.length_cons]
  omega

-- A module brings no more visits than it uses up bytes.
theorem advance_reach {net : Network} {policy : Policy} {walk next : Walk}
    (moved : advance net policy walk = .moved next) : next.reach policy < walk.reach policy := by
  obtain ⟨⟨journal, library⟩, waiting, added⟩ := walk
  cases waiting with
  | nil => cases moved
  | cons visit waiting =>
    simp only [advance] at moved
    split at moved
    · cases moved
      simp only [Walk.reach, List.length_cons]
      omega
    · rename_i absent
      split at moved
      · cases moved
      · rename_i source journal' _
        split at moved
        · cases moved
        · rename_i larger inserted
          cases moved
          obtain ⟨total, bound⟩ := Library.insert_total inserted (by simpa using absent)
          have few := imported_length library visit.url.text source
          simp only [Walk.reach, List.length_append, List.length_cons]
          omega

theorem runFor_ends (net : Network) {policy : Policy} {visits : Nat} {walk : Walk}
    (enough : walk.reach policy < visits) : ∃ result, walk.runFor net policy visits = some result := by
  induction visits generalizing walk with
  | zero => omega
  | succ visits ih =>
    unfold Walk.runFor
    split
    · exact ⟨_, rfl⟩
    · exact ⟨_, rfl⟩
    · rename_i next moved
      have less := advance_reach moved
      exact ih (by omega)

theorem sourceOf_sent_le (net : Network) (policy : Policy) (visit : Visit) (journal : Journal) :
    ((sourceOf net policy visit).after journal).sent.length ≤ journal.sent.length + 1 := by
  unfold sourceOf
  cases visit.known with
  | some source => exact Nat.le_succ _
  | none =>
    dsimp only
    rw [download_asks, List.length_append, List.length_singleton]

theorem run_sent_le (net : Network) (policy : Policy) (walk : Walk) :
    (after (fun _ => walk.run net policy) walk.loading).journal.sent.length ≤
      walk.loading.journal.sent.length + walk.reach policy := by
  fun_induction Walk.run net policy walk with
  | case1 walk finished => exact Nat.le_add_right _ _
  | case2 walk stop loading stopped =>
    have step := advance_cases net policy walk
    rw [stopped] at step
    cases step with
    | @unread visit rest _ _ next absent read =>
      have one := sourceOf_sent_le net policy visit walk.loading.journal
      rw [after_of_error read] at one
      exact Nat.le_trans one (Nat.add_le_add_left (walk.reach_pos next) _)
    | @refused visit rest _ _ _ next absent read full =>
      have one := sourceOf_sent_le net policy visit walk.loading.journal
      rw [after_of_ok read] at one
      exact Nat.le_trans one (Nat.add_le_add_left (walk.reach_pos next) _)
  | case3 walk next moved ih =>
    have less := advance_reach moved
    have sent : next.loading.journal.sent.length ≤ walk.loading.journal.sent.length + 1 := by
      have step := advance_cases net policy walk
      rw [moved] at step
      cases step with
      | seen _ there => exact Nat.le_succ _
      | @stored visit _ _ _ _ absent read =>
        have one := sourceOf_sent_le net policy visit walk.loading.journal
        rwa [after_of_ok read] at one
    have rest : (after (fun _ => next.run net policy) next.loading).journal.sent.length ≤ _ := ih
    exact Nat.le_trans rest (by omega)

-- Whatever modules a network makes up, gathering comes to an end: after no more visits than there are bytes left for
-- modules, and two, and with no more requests than that many bytes and one. The limit is below the greatest number, so
-- a count of bytes that stops there would not let more modules in.
theorem gather_ends {policy : Policy} (limited : policy.pkgMaxTotalInstallBytesPerRun < 0xFFFFFFFFFFFFFFFF)
    (net : Network) (entry : Url) (known : Option String) (loading : Loading) :
    let left := policy.pkgMaxTotalInstallBytesPerRun - loading.library.totalBytes
    (∃ result, Walk.runFor net policy (left + 2) ⟨loading, [⟨entry, known⟩], 0⟩ = some result ∧
        gather net policy entry known loading = result) ∧
      ((gather net policy entry known).after loading).journal.sent.length ≤ loading.journal.sent.length + (left + 1) ∧
      ∀ (library : Library) (url source : String),
        Library.insertSaturating url source policy library = Library.insert url source policy library := by
  intro left
  let walk : Walk := ⟨loading, [⟨entry, known⟩], 0⟩
  have reach : walk.reach policy = left + 1 := Nat.add_comm 1 left
  refine ⟨?_, ?_, fun library url source => Library.insertSaturating_eq limited⟩
  · have enough : walk.reach policy < left + 2 := by omega
    obtain ⟨result, ended⟩ := runFor_ends net enough
    exact ⟨result, ended, run_of_runFor ended⟩
  · have few := run_sent_le net policy walk
    rwa [reach] at few

-- Every module imports one that nobody has asked for yet: the walk ends when the bytes are used up.
theorem gather_ends_endless :
    let net : Network := fun sent _ =>
      ⟨some 0, .ok ⟨200, [], Text.utf8 ("import '/" ++ toString sent.length ++ "'"), ""⟩⟩
    let policy : Policy := { pkgMaxTotalInstallBytesPerRun := 25 }
    let entry : Url := ⟨"https", "", some "esm.sh", none, "/", none, none⟩
    policy.pkgMaxTotalInstallBytesPerRun < 0xFFFFFFFFFFFFFFFF ∧
      ∃ last, gather net policy entry none ⟨{}, .empty .standard⟩ =
        .error (.failed (.moduleTooLarge "https://esm.sh/1" 33 25)) last ∧ last.journal.sent.length ≤ 26 := by
  intro net policy entry
  have limited : policy.pkgMaxTotalInstallBytesPerRun < 0xFFFFFFFFFFFFFFFF := by decide
  obtain ⟨⟨result, ended, gathered⟩, few, _⟩ := gather_ends limited net entry none ⟨{}, .empty .standard⟩
  have test : (Walk.runFor net policy 27 ⟨⟨{}, .empty .standard⟩, [⟨entry, none⟩], 0⟩).any (fun result =>
      failure? (fun _ => result) (Loading.mk {} (.empty .standard)) ==
        some (.moduleTooLarge "https://esm.sh/1" 33 25)) = true := by decide +kernel
  rw [show Walk.runFor net policy 27 _ = some result from ended, Option.any_some, beq_iff_eq] at test
  obtain ⟨last, same⟩ := error_of_failure? test
  rw [same] at gathered
  refine ⟨limited, last, gathered, ?_⟩
  rwa [after_of_error gathered] at few

end Loading

end GuestSandbox
