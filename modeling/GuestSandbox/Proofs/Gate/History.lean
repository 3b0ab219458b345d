import GuestSandbox.Proofs.Gate.Answer

namespace GuestSandbox.Gate

inductive Action where
  | call (name first second : String)
  | takeWaiting
  | showInventory (inventory : Inventory)

inductive Effect where
  | answered (name first second : String) (reply : Envelope)
  | taken (requests : List Deferred)
  | shown (inventory : Inventory)

def act (gate : Gate) : Action → Effect × Gate
  | .call name first second =>
    let (reply, after) := gate.callNamed name first second
    (.answered name first second reply, after)
  | .takeWaiting =>
    let (requests, after) := gate.takeWaiting
    (.taken requests, after)
  | .showInventory inventory => (.shown inventory, gate.showInventory inventory)

def acts (gate : Gate) : List Action → List Effect × Gate
  | [] => ([], gate)
  | action :: rest =>
    let (effect, next) := gate.act action
    let (effects, last) := next.acts rest
    (effect :: effects, last)

-- A call whose name is a host function's. Calls by any other name are no calls of the host.
def Effect.call? : Effect → Option Call
  | .answered name first second reply => (HostCall.ofName? name).map (⟨·, first, second, reply⟩)
  | _ => none

def Effect.requests : Effect → List Deferred
  | .taken requests => requests
  | _ => []

def calls (effects : List Effect) : List Call := effects.filterMap Effect.call?

-- The numbers handed out, the operations put off and the lines written, each in the order of the calls.
def numbers (effects : List Effect) : List UInt32 := (calls effects).filterMap (·.reply.id?)
def requests (effects : List Effect) : List Deferred := (calls effects).filterMap Call.request?
def lines (effects : List Effect) : List ConsoleLine := (calls effects).filterMap Call.line?

def taken (effects : List Effect) : List Deferred := effects.flatMap Effect.requests

-- Numbers go up from 1. A gate has handed out no more of them than it has counted calls, nor more than the budget
-- allows, so that they do not go round.
structure Numbered (ids : List UInt32) (gate : Gate) : Prop where
  order : ids.map UInt32.toNat = List.range' 1 ids.length
  next : gate.nextId = UInt32.ofNat (ids.length + 1)
  counted : ids.length ≤ gate.hostCalls
  budget : ids.length ≤ gate.policy.execMaxHostCalls

theorem Numbered.start (policy : Policy) (inventory : Inventory) : Numbered [] (.start policy inventory) :=
  ⟨rfl, rfl, Nat.zero_le _, Nat.zero_le _⟩

theorem Numbered.nodup {ids : List UInt32} {gate : Gate} (numbered : Numbered ids gate) : ids.Nodup := by
  have order : (ids.map UInt32.toNat).Nodup := by
    rw [numbered.order]
    exact List.nodup_range'
  exact List.Pairwise.of_map _ (fun _ _ distinct same => distinct (congrArg _ same)) order

theorem Numbered.kept {ids : List UInt32} {gate after : Gate} (numbered : Numbered ids gate)
    (next : after.nextId = gate.nextId) (hostCalls : gate.hostCalls ≤ after.hostCalls)
    (policy : after.policy = gate.policy) : Numbered ids after :=
  ⟨numbered.order, next.trans numbered.next, Nat.le_trans numbered.counted hostCalls,
    policy.symm ▸ numbered.budget⟩

theorem Numbered.answered {ids : List UInt32} {gate after : Gate} {first second : String} {function : HostCall}
    {reply : Envelope} (small : gate.policy.execMaxHostCalls < UInt32.size) (numbered : Numbered ids gate)
    (answer : Answer gate first second function reply after) : Numbered (ids ++ reply.id?.toList) after := by
  have counted : Numbered ids gate.count := numbered.kept rfl (Nat.le_succ _) rfl
  cases answer with
  | deferred within accepted =>
    obtain ⟨order, next, counted, budget⟩ := numbered
    have number : gate.nextId.toNat = ids.length + 1 := by
      rw [next]
      exact UInt32.toNat_ofNat_of_lt (by omega)
    refine ⟨?_, ?_, ?_, ?_⟩
    · simp [order, number, List.range'_concat, Nat.add_comm]
    · simp [enqueue, count, next]
    · simpa [enqueue, count] using counted
    · have below : ids.length + 1 ≤ gate.policy.execMaxHostCalls := Nat.lt_of_le_of_lt counted within
      simpa [enqueue, count] using below
  | spent beyond => simpa [overBudget] using counted
  | refused within other => simpa using counted
  | logged within named =>
    rw [show Envelope.id? (.value .null) = none from rfl, Option.toList_none, List.append_nil]
    exact counted.kept rfl (Nat.le_refl _) rfl
  | listed within => simpa using counted

structure Accounted (policy : Policy) (effects : List Effect) (gate : Gate) : Prop where
  samePolicy : gate.policy = policy
  hostCalls : gate.hostCalls = (calls effects).length
  refusals : ∀ k call, (calls effects)[k]? = some call →
    (call.reply = overBudget policy ↔ policy.execMaxHostCalls < k + 1)
  numbered : Numbered (numbers effects) gate
  requestIds : (requests effects).map (·.id) = numbers effects
  queue : taken effects ++ gate.queue = requests effects
  maxLines : gate.console.maxLines = policy.execMaxLogLines
  console : gate.console.lines = (lines effects).take policy.execMaxLogLines

theorem Accounted.start (policy : Policy) (inventory : Inventory) : Accounted policy [] (.start policy inventory) where
  samePolicy := rfl
  hostCalls := rfl
  refusals := by simp [calls]
  numbered := .start policy inventory
  requestIds := rfl
  queue := rfl
  maxLines := rfl
  console := by simp [lines, calls, Gate.start]

theorem filterMap_concat {α β : Type} (f : α → Option β) (xs : List α) (x : α) :
    (xs ++ [x]).filterMap f = xs.filterMap f ++ (f x).toList := by
  cases result : f x <;> simp [result]

theorem take_concat_take {α : Type} (lines : List α) (line : α) (room : Nat) :
    (lines.take room ++ [line]).take (max room (lines.take room).length) = (lines ++ [line]).take room := by
  have greatest : max room (lines.take room).length = room := Nat.max_eq_left (List.length_take_le _ _)
  rw [greatest, List.take_append, List.take_append, List.take_take, Nat.min_self, List.length_take]
  congr 2
  omega

theorem calls_answered {name : String} {function : HostCall} (named : HostCall.ofName? name = some function)
    (effects : List Effect) (first second : String) (reply : Envelope) :
    calls (effects ++ [.answered name first second reply]) = calls effects ++ [⟨function, first, second, reply⟩] := by
  simp [calls, Effect.call?, named]

theorem Accounted.answered {policy : Policy} {effects : List Effect} {gate after : Gate} {name first second : String}
    {function : HostCall} {reply : Envelope} (small : policy.execMaxHostCalls < UInt32.size)
    (accounted : Accounted policy effects gate) (named : HostCall.ofName? name = some function)
    (answer : Answer gate first second function reply after) :
    Accounted policy (effects ++ [.answered name first second reply]) after := by
  have called := calls_answered named effects first second reply
  refine ⟨?_, ?_, ?_, ?_, ?_, ?_, ?_, ?_⟩
  · rw [answer.policy, accounted.samePolicy]
  · rw [answer.hostCalls, called, accounted.hostCalls, List.length_append, List.length_singleton]
  · intro k call there
    rw [called] at there
    rcases Nat.lt_trichotomy k (calls effects).length with earlier | here | later
    · rw [List.getElem?_append_left earlier] at there
      exact accounted.refusals k call there
    · subst here
      rw [List.getElem?_concat_length] at there
      cases there
      have spent := answer.overBudget_iff
      rw [accounted.samePolicy, accounted.hostCalls] at spent
      exact spent.trans Nat.lt_succ_iff.symm
    · rw [List.getElem?_eq_none (by simpa using Nat.succ_le_of_lt later)] at there
      cases there
  · have next := accounted.numbered.answered (by rwa [accounted.samePolicy]) answer
    rwa [numbers, called, filterMap_concat]
  · rw [requests, numbers, called, filterMap_concat, filterMap_concat, List.map_append, ← answer.request_id]
    rw [← requests, accounted.requestIds, ← numbers]
    cases Call.request? ⟨function, first, second, reply⟩ <;> rfl
  · have none : taken (effects ++ [.answered name first second reply]) = taken effects := by
      simp [taken, Effect.requests]
    rw [none, answer.queue, ← List.append_assoc, accounted.queue, requests, requests, called, filterMap_concat]
  · rcases answer.console with ⟨same, _⟩ | ⟨level, _, pushed, _⟩
    · rw [same, accounted.maxLines]
    · rw [pushed, Console.push_maxLines, accounted.maxLines]
  · rw [lines, called, filterMap_concat, ← lines]
    rcases answer.console with ⟨same, unwritten⟩ | ⟨level, _, pushed, written⟩
    · rw [same, unwritten, Option.toList_none, List.append_nil, accounted.console]
    · rw [pushed, written, Console.push_lines, accounted.console, accounted.maxLines]
      exact take_concat_take _ _ _

theorem Accounted.uncalled {policy : Policy} {effects : List Effect} {effect : Effect} {gate after : Gate}
    (accounted : Accounted policy effects gate) (uncalled : effect.call? = none)
    (samePolicy : after.policy = gate.policy) (hostCalls : after.hostCalls = gate.hostCalls)
    (nextId : after.nextId = gate.nextId) (console : after.console = gate.console)
    (queue : effect.requests ++ after.queue = gate.queue) : Accounted policy (effects ++ [effect]) after := by
  have called : calls (effects ++ [effect]) = calls effects := by simp [calls, uncalled]
  have asked : taken (effects ++ [effect]) = taken effects ++ effect.requests := by simp [taken]
  refine ⟨?_, ?_, ?_, ?_, ?_, ?_, ?_, ?_⟩
  · rw [samePolicy, accounted.samePolicy]
  · rw [hostCalls, called, accounted.hostCalls]
  · rw [called]
    exact accounted.refusals
  · rw [numbers, called]
    exact accounted.numbered.kept nextId (Nat.le_of_eq hostCalls.symm) samePolicy
  · rw [requests, numbers, called]
    exact accounted.requestIds
  · rw [asked, List.append_assoc, queue, requests, called]
    exact accounted.queue
  · rw [console, accounted.maxLines]
  · rw [console, lines, called]
    exact accounted.console

theorem Accounted.act {policy : Policy} {effects : List Effect} {gate : Gate}
    (small : policy.execMaxHostCalls < UInt32.size) (accounted : Accounted policy effects gate) (action : Action) :
    Accounted policy (effects ++ [(gate.act action).1]) (gate.act action).2 := by
  cases action with
  | call name first second =>
    simp only [Gate.act, callNamed]
    cases named : HostCall.ofName? name with
    | some function => exact accounted.answered small named (call_answer rfl)
    | none => exact accounted.uncalled (by simp [Effect.call?, named]) rfl rfl rfl rfl rfl
  | takeWaiting => exact accounted.uncalled rfl rfl rfl rfl rfl (by simp [Gate.act, takeWaiting, Effect.requests])
  | showInventory inventory => exact accounted.uncalled rfl rfl rfl rfl rfl rfl

theorem Accounted.acts {policy : Policy} {effects : List Effect} {gate : Gate}
    (small : policy.execMaxHostCalls < UInt32.size) (accounted : Accounted policy effects gate)
    (actions : List Action) : Accounted policy (effects ++ (gate.acts actions).1) (gate.acts actions).2 := by
  induction actions generalizing effects gate with
  | nil => simpa [Gate.acts] using accounted
  | cons action rest ih =>
    have last := ih (accounted.act small action)
    simpa [Gate.acts] using last

theorem callNamed_unknown {name : String} (unknown : HostCall.ofName? name = none) (gate : Gate)
    (first second : String) : (gate.callNamed name first second).2 = gate := by
  simp [callNamed, unknown]

theorem callNamed_refused {gate after : Gate} {name first second text : String}
    (called : gate.callNamed name first second = (.refused text, after)) :
    after.console = gate.console ∧ after.queue = gate.queue ∧ after.nextId = gate.nextId ∧
      after.inventory = gate.inventory := by
  unfold callNamed at called
  split at called
  · rw [(call_answer called).rejected]
    exact ⟨rfl, rfl, rfl, rfl⟩
  · cases called
    exact ⟨rfl, rfl, rfl, rfl⟩

-- After any uses of a fresh gate, its counter, queue, numbers and console follow from the answers that it gave. A name
-- that is no host function's changes nothing, and a rejected call nothing but the count.
theorem acts_accounted {policy : Policy} (small : policy.execMaxHostCalls < UInt32.size) (inventory : Inventory)
    (actions : List Action) :
    let (effects, gate) := (start policy inventory).acts actions
    Accounted policy effects gate ∧ (numbers effects).Nodup ∧
      (∀ name first second, HostCall.ofName? name = none → (gate.callNamed name first second).2 = gate) ∧
      ∀ name first second text after, gate.callNamed name first second = (.refused text, after) →
        after.console = gate.console ∧ after.queue = gate.queue ∧ after.nextId = gate.nextId ∧
          after.inventory = gate.inventory := by
  have accounted := (Accounted.start policy inventory).acts small actions
  rw [List.nil_append] at accounted
  exact ⟨accounted, accounted.numbered.nodup, fun _ first second unknown => callNamed_unknown unknown _ first second,
    fun _ _ _ _ _ called => callNamed_refused called⟩

-- With a budget of three calls, the fourth is refused and the unknown fifth is not counted. The second line is longer
-- than a console keeps by one character.
theorem acts_accounted_overspent :
    let policy : Policy := { execMaxHostCalls := 3 }
    let history := (start policy .empty).acts
      [.call "__host_log" "warn" "hello", .call "__host_log" "log" (String.ofList (List.replicate 2000 'x' ++ ['y'])),
        .call "__host_pkg_install" "zod" "", .takeWaiting, .call "__host_pkg_list" "" "", .call "__host_clock" "" ""]
    policy.execMaxHostCalls < UInt32.size ∧ Accounted policy history.1 history.2 ∧ history.2.hostCalls = 4 ∧
      numbers history.1 = [1] ∧ taken history.1 = [⟨1, .pkgInstall "zod"⟩] ∧
      history.2.console.lines = [⟨.warn, "hello"⟩, ⟨.log, String.ofList (List.replicate 2000 'x')⟩] := by
  intro policy history
  have small : policy.execMaxHostCalls < UInt32.size := by decide
  have accounted : Accounted policy history.1 history.2 := (acts_accounted small .empty _).1
  have written : lines history.1 = [⟨.warn, String.ofList ("hello".toList.take 2000)⟩,
      ⟨.log, String.ofList ((String.ofList (List.replicate 2000 'x' ++ ['y'])).toList.take 2000)⟩] := rfl
  have cut : (String.ofList (List.replicate 2000 'x' ++ ['y'])).toList.take 2000 = List.replicate 2000 'x' := by
    rw [String.toList_ofList, List.take_left' List.length_replicate]
  refine ⟨small, accounted, by decide +kernel, by decide +kernel, by decide +kernel, ?_⟩
  rw [accounted.console, written, cut]
  rfl

end GuestSandbox.Gate
