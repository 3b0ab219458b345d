import GuestSandbox.Package.Installing
import GuestSandbox.Proofs.Traffic

namespace GuestSandbox.Installing

open Operation Relation

theorem download_moves (net : Network) (policy : Policy) (url : String) :
    Moves Journal.Sends (download net policy url) :=
  (exchange_moves net _ _).bind fun outcome => .ofExcept outcome

theorem find_moves (net : Network) (policy : Policy) (host : PackageHost) (stamp spec : String) :
    Moves Journal.Sends (find net policy host stamp spec) := by
  refine .bind (.ofExcept _) fun place => .bind (download_moves net policy _) fun index => ?_
  refine .bind (.ofExcept _) fun index => .bind (.ofExcept _) fun entry => ?_
  split
  · exact .ofExcept _
  · exact .bind (download_moves net policy _) fun response => .bind (.ofExcept _) fun response => .ofExcept _

theorem recordOf_spec {policy : Policy} {spec stamp : String} {resolved entry : Url} {response : Response}
    {found : PackageRecord × String} (made : recordOf policy spec stamp resolved entry response = .ok found) :
    found.1.spec = spec := by
  unfold recordOf at made
  split at made
  · cases made
  · cases made
    rfl

theorem find_spec (net : Network) (policy : Policy) (host : PackageHost) (stamp spec : String) :
    Returns (fun found : PackageRecord × String => found.1.spec = spec) (find net policy host stamp spec) := by
  refine .bind fun place => .bind fun index => .bind fun index => .bind fun entry => ?_
  split
  · exact .ofExcept fun _ => recordOf_spec
  · exact .bind fun response => .bind fun response => .ofExcept fun _ => recordOf_spec

theorem sent_add (installing : Installing) (record : PackageRecord) :
    (installing.add record).journal.sent = installing.journal.sent :=
  (Journal.sent_record installing.journal _).trans (List.append_nil _)

-- What asking for a package comes to. Only a package that is named and missing is searched for, as long as there may be
-- more installs, and only one that is found changes anything but the journal.
inductive Settles (net : Network) (policy : Policy) (host : PackageHost) (stamp text : String) (before : Installing) :
    EStateM.Result Stop Installing Obtained → Prop where
  | invalid {failure : Failure} (unread : PackageSpec.read text policy = .error failure) :
      Settles net policy host stamp text before (.error (.failed failure) before)
  | present {spec : String} {record : PackageRecord} (read : PackageSpec.read text policy = .ok spec)
      (there : before.inventory.get? spec = some record) :
      Settles net policy host stamp text before (.ok ⟨record, none⟩ before)
  | limited {spec : String} (read : PackageSpec.read text policy = .ok spec) (absent : before.inventory.get? spec = none)
      (reached : policy.pkgMaxInstallsPerRun ≤ before.tally.packageInstalls) :
      Settles net policy host stamp text before
        (.error (.failed (.installLimit policy.pkgMaxInstallsPerRun)) before)
  | missed {spec : String} {stop : Stop} {journal : Journal} (read : PackageSpec.read text policy = .ok spec)
      (absent : before.inventory.get? spec = none) (room : before.tally.packageInstalls < policy.pkgMaxInstallsPerRun)
      (searched : find net policy host stamp spec before.journal = .error stop journal) :
      Settles net policy host stamp text before (.error stop { before with journal })
  | found {spec source : String} {record : PackageRecord} {journal : Journal}
      (read : PackageSpec.read text policy = .ok spec) (absent : before.inventory.get? spec = none)
      (room : before.tally.packageInstalls < policy.pkgMaxInstallsPerRun)
      (searched : find net policy host stamp spec before.journal = .ok (record, source) journal) :
      Settles net policy host stamp text before (.ok ⟨record, some source⟩ ({ before with journal }.add record))

theorem obtain_settles (net : Network) (policy : Policy) (host : PackageHost) (stamp text : String)
    (before : Installing) :
    Settles net policy host stamp text before (obtain net policy host stamp text before) := by
  unfold obtain
  cases read : PackageSpec.read text policy with
  | error failure => exact .invalid read
  | ok spec =>
    rw [ofExcept_bind, get_bind]
    cases there : before.inventory.get? spec with
    | some record => exact .present read there
    | none =>
      dsimp only
      split
      · rename_i reached
        exact .limited read there reached
      · rename_i room
        cases searched : find net policy host stamp spec before.journal with
        | error stop journal =>
          rw [bind_of_error (on_of_error searched)]
          exact .missed read there (Nat.not_le.mp room) searched
        | ok found journal =>
          obtain ⟨record, source⟩ := found
          rw [bind_of_ok (on_of_ok searched)]
          exact .found read there (Nat.not_le.mp room) searched

-- What asking for a package by a text comes to, by what was there before. Only a package that was not there counts as
-- an install, and what is written down is the inventory with it.
inductive Obtains (policy : Policy) (text : String) (before : Installing) :
    EStateM.Result Stop Installing Obtained → Prop where
  | present {record : PackageRecord} {spec : String} (read : PackageSpec.read text policy = .ok spec)
      (there : before.inventory.get? spec = some record) : Obtains policy text before (.ok ⟨record, none⟩ before)
  | added {record : PackageRecord} {source : String} {journal : Journal}
      (read : PackageSpec.read text policy = .ok record.spec) (absent : before.inventory.get? record.spec = none)
      (room : before.tally.packageInstalls < policy.pkgMaxInstallsPerRun)
      (traffic : ReflTransGen Journal.Sends before.journal journal) :
      Obtains policy text before (.ok ⟨record, some source⟩ ({ before with journal }.add record))
  | failed {stop : Stop} {journal : Journal} (traffic : ReflTransGen Journal.Sends before.journal journal) :
      Obtains policy text before (.error stop { before with journal })

theorem obtain_outcome (net : Network) (policy : Policy) (host : PackageHost) (stamp text : String)
    (before : Installing) : Obtains policy text before (obtain net policy host stamp text before) := by
  have settles := obtain_settles net policy host stamp text before
  generalize obtain net policy host stamp text before = result at settles ⊢
  cases settles with
  | invalid unread => exact .failed .refl
  | present read there => exact .present read there
  | limited read absent reached => exact .failed .refl
  | @missed spec _ _ read absent room searched =>
    have traffic := find_moves net policy host stamp spec before.journal
    rw [after_of_error searched] at traffic
    exact .failed traffic
  | @found spec _ record _ read absent room searched =>
    have traffic := find_moves net policy host stamp spec before.journal
    rw [after_of_ok searched] at traffic
    obtain rfl : record.spec = spec := find_spec net policy host stamp spec _ _ _ searched
    exact .added read absent room traffic

end GuestSandbox.Installing
