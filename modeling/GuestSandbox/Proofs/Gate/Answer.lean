import GuestSandbox.Gate

-- What can come of one call of a host function. Every call is counted first; only a call within the budget is looked at
-- any further, and only an accepted one changes anything else.

namespace GuestSandbox

@[simp] def Envelope.id? : Envelope → Option UInt32
  | .pending id => some id
  | _ => none

def Inventory.listing (inventory : Inventory) : Json := .arr (inventory.records.map PackageRecord.toJson)

namespace Gate

def overBudget (policy : Policy) : Envelope := .refused (Failure.hostCallLimit policy.execMaxHostCalls).message

def operation? (first second : String) : HostCall → Option HostOperation
  | .pkgInstall => some (.pkgInstall first)
  | .fetch => (readOptions second).toOption.map (.fetch first)
  | .log => none
  | .pkgList => none

inductive Answer (gate : Gate) (first second : String) : HostCall → Envelope → Gate → Prop where
  | spent {function : HostCall} (beyond : gate.policy.execMaxHostCalls ≤ gate.hostCalls) :
      Answer gate first second function (overBudget gate.policy) gate.count
  | refused {function : HostCall} {text : String} (within : gate.hostCalls < gate.policy.execMaxHostCalls)
      (other : Envelope.refused text ≠ overBudget gate.policy) :
      Answer gate first second function (.refused text) gate.count
  | logged {level : ConsoleLevel} (within : gate.hostCalls < gate.policy.execMaxHostCalls)
      (named : ConsoleLevel.ofName? first = some level) :
      Answer gate first second .log (.value .null)
        { gate.count with console := gate.console.push level second }
  | listed (within : gate.hostCalls < gate.policy.execMaxHostCalls) :
      Answer gate first second .pkgList (.value gate.inventory.listing) gate.count
  | deferred {function : HostCall} {operation : HostOperation}
      (within : gate.hostCalls < gate.policy.execMaxHostCalls)
      (accepted : operation? first second function = some operation) :
      Answer gate first second function (.pending gate.nextId) (gate.count.enqueue operation).2

-- The other refusals begin with other letters than the one for a spent budget.
theorem refused_ne_overBudget {text : String} (begins : text.toList.head? ≠ some 'h') (policy : Policy) :
    Envelope.refused text ≠ overBudget policy := by
  intro same
  have wording : text = "host call budget exhausted (" ++ toString policy.execMaxHostCalls ++ " calls per run)" :=
    Envelope.refused.inj same
  exact begins (by simp [wording, String.toList_append])

theorem serve_answer {gate : Gate} (first second : String) (function : HostCall)
    (within : gate.hostCalls < gate.policy.execMaxHostCalls) :
    Answer gate first second function (gate.count.serve first second function).1
      (gate.count.serve first second function).2 := by
  cases function with
  | log =>
    simp only [serve]
    split
    · exact .refused within (refused_ne_overBudget (by simp [String.toList_append]) _)
    · rename_i level named
      exact .logged within named
  | pkgInstall =>
    simp only [serve]
    split
    · exact .deferred within rfl
    · exact .refused within (refused_ne_overBudget (by decide) _)
  | pkgList => exact .listed within
  | fetch =>
    simp only [serve]
    split
    · split
      · rename_i options read
        exact .deferred within (by simp [operation?, read, Except.toOption])
      · exact .refused within (refused_ne_overBudget (by simp [String.toList_append]) _)
    · exact .refused within (refused_ne_overBudget (by decide) _)

theorem call_answer {gate after : Gate} {function : HostCall} {first second : String} {reply : Envelope}
    (called : gate.call function first second = (reply, after)) : Answer gate first second function reply after := by
  simp only [call] at called
  split at called
  · rename_i exhausted
    have beyond : gate.policy.execMaxHostCalls < gate.hostCalls + 1 := of_decide_eq_true exhausted
    cases called
    exact .spent (Nat.lt_succ_iff.mp beyond)
  · rename_i left
    have within : ¬ gate.policy.execMaxHostCalls < gate.hostCalls + 1 := fun beyond => left (decide_eq_true beyond)
    have answer := serve_answer first second function (show gate.hostCalls < gate.policy.execMaxHostCalls by omega)
    rw [called] at answer
    exact answer

structure Call where
  function : HostCall
  first : String
  second : String
  reply : Envelope

namespace Call

def request? (call : Call) : Option Deferred :=
  match call.reply with
  | .pending id => (operation? call.first call.second call.function).map (⟨id, ·⟩)
  | _ => none

-- What a call has written to the console, room allowing: at most 2000 characters of its text.
def line? (call : Call) : Option ConsoleLine :=
  match call.function, call.reply with
  | .log, .value _ => (ConsoleLevel.ofName? call.first).map (⟨·, String.ofList (call.second.toList.take 2000)⟩)
  | _, _ => none

end Call

variable {gate after : Gate} {first second : String} {function : HostCall} {reply : Envelope}

theorem Answer.policy (answer : Answer gate first second function reply after) : after.policy = gate.policy := by
  cases answer <;> rfl

theorem Answer.hostCalls (answer : Answer gate first second function reply after) :
    after.hostCalls = gate.hostCalls + 1 := by
  cases answer <;> rfl

theorem Answer.overBudget_iff (answer : Answer gate first second function reply after) :
    reply = overBudget gate.policy ↔ gate.policy.execMaxHostCalls ≤ gate.hostCalls := by
  cases answer with
  | spent beyond => exact ⟨fun _ => beyond, fun _ => rfl⟩
  | refused within other => exact ⟨fun same => absurd same other, fun beyond => absurd within (Nat.not_lt.mpr beyond)⟩
  | logged within named => exact ⟨nofun, fun beyond => absurd within (Nat.not_lt.mpr beyond)⟩
  | listed within => exact ⟨nofun, fun beyond => absurd within (Nat.not_lt.mpr beyond)⟩
  | deferred within accepted => exact ⟨nofun, fun beyond => absurd within (Nat.not_lt.mpr beyond)⟩

theorem Answer.rejected {text : String} (answer : Answer gate first second function (.refused text) after) :
    after = gate.count := by
  cases answer <;> rfl

theorem Answer.queue (answer : Answer gate first second function reply after) :
    after.queue = gate.queue ++ (Call.request? ⟨function, first, second, reply⟩).toList := by
  cases answer with
  | deferred within accepted => simp [Call.request?, accepted, enqueue, count]
  | spent beyond => simp [Call.request?, overBudget, count]
  | refused within other => simp [Call.request?, count]
  | logged within named => simp [Call.request?, count]
  | listed within => simp [Call.request?, count]

theorem Answer.request_id (answer : Answer gate first second function reply after) :
    (Call.request? ⟨function, first, second, reply⟩).map (·.id) = reply.id? := by
  cases answer with
  | deferred within accepted => simp [Call.request?, accepted]
  | spent beyond => rfl
  | refused within other => rfl
  | logged within named => rfl
  | listed within => rfl

theorem Answer.console (answer : Answer gate first second function reply after) :
    after.console = gate.console ∧ Call.line? ⟨function, first, second, reply⟩ = none ∨
      ∃ level, ConsoleLevel.ofName? first = some level ∧ after.console = gate.console.push level second ∧
        Call.line? ⟨function, first, second, reply⟩ = some ⟨level, String.ofList (second.toList.take 2000)⟩ := by
  cases answer with
  | logged within named => exact .inr ⟨_, named, rfl, by simp [Call.line?, named]⟩
  | spent beyond => exact .inl ⟨rfl, by cases function <;> rfl⟩
  | refused within other => exact .inl ⟨rfl, by cases function <;> rfl⟩
  | listed within => exact .inl ⟨rfl, rfl⟩
  | deferred within accepted => exact .inl ⟨rfl, by cases function <;> rfl⟩

end Gate

end GuestSandbox
