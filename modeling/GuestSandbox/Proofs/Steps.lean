import GuestSandbox.Operation
import Mathlib.Logic.Relation

namespace GuestSandbox

theorem bind_eq_ok {ε α β : Type} {first : Except ε α} {next : α → Except ε β} {value : β}
    (ran : (first >>= next) = .ok value) : ∃ middle, first = .ok middle ∧ next middle = .ok value := by
  cases first with
  | error fault => cases ran
  | ok middle => exact ⟨middle, rfl, ran⟩

theorem bind_eq_error {ε α β : Type} {first : Except ε α} {next : α → Except ε β} {fault : ε}
    (ran : (first >>= next) = .error fault) :
    first = .error fault ∨ ∃ middle, first = .ok middle ∧ next middle = .error fault := by
  cases first with
  | error other =>
    cases ran
    exact .inl rfl
  | ok middle => exact .inr ⟨middle, rfl, ran⟩

theorem toOption_eq_some {ε α : Type} {result : Except ε α} {value : α} (found : result.toOption = some value) :
    result = .ok value := by
  cases result with
  | error fault => cases found
  | ok other =>
    cases found
    rfl

namespace Operation

open Relation

variable {σ τ α β : Type} {first : Operation σ α} {next : α → Operation σ β}

theorem bind_ok {state last : σ} {value : β} (ran : (first >>= next) state = .ok value last) :
    ∃ found middle, first state = .ok found middle ∧ next found middle = .ok value last := by
  change EStateM.bind first next state = _ at ran
  unfold EStateM.bind at ran
  split at ran
  · exact ⟨_, _, by assumption, ran⟩
  · cases ran

theorem bind_error {state last : σ} {stop : Stop} (ran : (first >>= next) state = .error stop last) :
    first state = .error stop last ∨
      ∃ found middle, first state = .ok found middle ∧ next found middle = .error stop last := by
  change EStateM.bind first next state = _ at ran
  unfold EStateM.bind at ran
  split at ran
  · exact .inr ⟨_, _, by assumption, ran⟩
  · cases ran
    exact .inl (by assumption)

@[simp] theorem get_bind {next : σ → Operation σ β} (state : σ) : (get >>= next) state = next state state := rfl

theorem bind_of_ok {state middle : σ} {found : α} (ran : first state = .ok found middle) :
    (first >>= next) state = next found middle := by
  change EStateM.bind first next state = _
  simp [EStateM.bind, ran]

theorem bind_of_error {state last : σ} {stop : Stop} (ran : first state = .error stop last) :
    (first >>= next) state = .error stop last := by
  change EStateM.bind first next state = _
  simp [EStateM.bind, ran]

theorem after_of_ok {operation : Operation σ α} {state last : σ} {value : α} (ran : operation state = .ok value last) :
    operation.after state = last := by
  rw [after, ran]

theorem after_of_error {operation : Operation σ α} {state last : σ} {stop : Stop}
    (ran : operation state = .error stop last) : operation.after state = last := by
  rw [after, ran]

theorem after_bind (first : Operation σ α) (next : α → Operation σ β) (state : σ) :
    (first >>= next).after state = first.after state ∨ ∃ value, first state = .ok value (first.after state) ∧
      (first >>= next).after state = (next value).after (first.after state) := by
  cases ran : first state with
  | ok value middle =>
    rw [after_of_ok ran]
    exact .inr ⟨value, rfl, by rw [after, bind_of_ok ran, after]⟩
  | error stop last =>
    rw [after_of_error ran]
    exact .inl (after_of_error (bind_of_error ran))

theorem after_bind_of_still {γ : Type} (part : σ → γ)
    (still : ∀ value state, part ((next value).after state) = part state) (state : σ) :
    part ((first >>= next).after state) = part (first.after state) := by
  rcases after_bind first next state with same | ⟨value, _, same⟩
  · rw [same]
  · rw [same, still]

def result (operation : Operation σ α) (state : σ) : Except Stop α :=
  match operation state with
  | .ok value _ => .ok value
  | .error stop _ => .error stop

-- Whether an operation comes to a value, as a test for fixed states.
def succeeds (operation : Operation σ Unit) (state : σ) : Bool :=
  match operation state with
  | .ok _ _ => true
  | .error _ _ => false

theorem ok_of_succeeds {operation : Operation σ Unit} {state : σ} (tested : operation.succeeds state = true) :
    operation state = .ok () (operation.after state) := by
  cases ran : operation state with
  | ok value last => rw [after_of_ok ran]
  | error stop last => simp [succeeds, ran] at tested

def failure? (operation : Operation σ α) (state : σ) : Option Failure :=
  match operation state with
  | .ok _ _ => none
  | .error .cut _ => none
  | .error (.failed failure) _ => some failure

theorem error_of_failure? {operation : Operation σ α} {state : σ} {failure : Failure}
    (tested : operation.failure? state = some failure) : ∃ last, operation state = .error (.failed failure) last := by
  unfold failure? at tested
  split at tested
  · cases tested
  · cases tested
  · cases tested
    exact ⟨_, by assumption⟩

def ending? (operation : Operation σ α) (state : σ) : Option (α × σ) :=
  match operation state with
  | .ok value last => some (value, last)
  | .error _ _ => none

theorem ok_of_ending? {operation : Operation σ α} {state : σ} {test : α × σ → Bool}
    (tested : (operation.ending? state).any test = true) :
    ∃ value last, operation state = .ok value last ∧ test (value, last) = true := by
  unfold ending? at tested
  split at tested
  · exact ⟨_, _, by assumption, tested⟩
  · cases tested

theorem on_of_ok {part : σ → τ} {put : τ → σ → σ} {operation : Operation τ α} {state : σ} {value : α} {last : τ}
    (ran : operation (part state) = .ok value last) : operation.on part put state = .ok value (put last state) := by
  simp [on, ran]

theorem on_of_error {part : σ → τ} {put : τ → σ → σ} {operation : Operation τ α} {state : σ} {stop : Stop} {last : τ}
    (ran : operation (part state) = .error stop last) : operation.on part put state = .error stop (put last state) := by
  simp [on, ran]

theorem on_ok {part : σ → τ} {put : τ → σ → σ} {operation : Operation τ α} {state last : σ} {value : α}
    (ran : operation.on part put state = .ok value last) :
    ∃ inner, operation (part state) = .ok value inner ∧ last = put inner state := by
  unfold on at ran
  split at ran
  · cases ran
    exact ⟨_, by assumption, rfl⟩
  · cases ran

theorem on_error {part : σ → τ} {put : τ → σ → σ} {operation : Operation τ α} {state last : σ} {stop : Stop}
    (ran : operation.on part put state = .error stop last) :
    ∃ inner, operation (part state) = .error stop inner ∧ last = put inner state := by
  unfold on at ran
  split at ran
  · cases ran
  · cases ran
    exact ⟨_, by assumption, rfl⟩

@[simp] theorem ofExcept_bind {next : α → Operation σ β} (value : α) (state : σ) :
    (Operation.ofExcept (.ok value) >>= next) state = next value state := rfl

theorem discard_of_error {state last : σ} {stop : Stop} (ran : first state = .error stop last) :
    (discard first) state = .error stop last := by
  change EStateM.map _ first state = _
  simp [EStateM.map, ran]

theorem after_discard (operation : Operation σ α) (state : σ) : (discard operation).after state = operation.after state := by
  change after (EStateM.map _ operation) state = _
  unfold after EStateM.map
  cases operation state <;> rfl

def Moves (step : σ → σ → Prop) (operation : Operation σ α) : Prop :=
  ∀ state, ReflTransGen step state (operation.after state)

namespace Moves

variable {step : σ → σ → Prop}

theorem pure (value : α) : Moves step (Pure.pure value : Operation σ α) := fun _ => .refl

theorem fail (failure : Failure) : Moves step (Operation.fail failure : Operation σ α) := fun _ => .refl

theorem ofExcept (result : Except Failure α) : Moves step (Operation.ofExcept result : Operation σ α) := by
  cases result with
  | ok value => exact .pure value
  | error failure => exact .fail failure

theorem modify {change : σ → σ} (changed : ∀ state, step state (change state)) :
    Moves step (modify change : Operation σ PUnit) := fun state => .single (changed state)

theorem bind_from {state : σ} (one : ReflTransGen step state (first.after state))
    (two : ∀ value, Moves step (next value)) : ReflTransGen step state ((first >>= next).after state) := by
  unfold after at one ⊢
  cases ran : first state with
  | ok value middle =>
    rw [ran] at one
    rw [bind_of_ok ran]
    exact one.trans (two value middle)
  | error stop last =>
    rw [ran] at one
    rwa [bind_of_error ran]

theorem bind (one : Moves step first) (two : ∀ value, Moves step (next value)) : Moves step (first >>= next) :=
  fun state => bind_from (one state) two

theorem get_bind {next : σ → Operation σ β} (moves : ∀ state, ReflTransGen step state ((next state).after state)) :
    Moves step (get >>= next) := moves

theorem discard (moves : Moves step first) : Moves step (Functor.discard first) := by
  intro state
  rw [after_discard]
  exact moves state

theorem on {part : σ → τ} {put : τ → σ → σ} {inner : τ → τ → Prop} {operation : Operation τ α}
    (whole : ∀ state, put (part state) state = state)
    (lifted : ∀ state before after, inner before after → step (put before state) (put after state))
    (moves : Moves inner operation) : Moves step (operation.on part put) := by
  intro state
  rw [after_on]
  have chain : ReflTransGen step (put (part state) state) (put (operation.after (part state)) state) :=
    (moves (part state)).lift (put · state) (lifted state)
  rwa [whole] at chain

theorem mono {wider : σ → σ → Prop} {operation : Operation σ α} (moves : Moves step operation)
    (within : ∀ before after, step before after → wider before after) : Moves wider operation :=
  fun state => ReflTransGen.mono within _ _ (moves state)

-- What every step keeps, the whole operation keeps.
theorem keeps (holds : σ → Prop) {operation : Operation σ α} (moves : Moves step operation)
    (kept : ∀ before after, step before after → holds before → holds after) {state : σ} (begun : holds state) :
    holds (operation.after state) := by
  have chain := moves state
  generalize operation.after state = last at chain
  induction chain with
  | refl => exact begun
  | tail _ step ih => exact kept _ _ step ih

end Moves

def Returns (kind : α → Prop) (operation : Operation σ α) : Prop :=
  ∀ state value last, operation state = .ok value last → kind value

namespace Returns

variable {kind : β → Prop}

theorem pure {value : β} (of_kind : kind value) : Returns kind (Pure.pure value : Operation σ β) := by
  intro state found last ran
  cases ran
  exact of_kind

theorem fail (failure : Failure) : Returns kind (Operation.fail failure : Operation σ β) := by
  intro state found last ran
  cases ran

theorem bind (two : ∀ value, Returns kind (next value)) : Returns kind (first >>= next) := by
  intro state value last ran
  obtain ⟨found, middle, _, rest⟩ := bind_ok ran
  exact two found middle value last rest

theorem ofExcept {result : Except Failure β} (of_kind : ∀ value, result = .ok value → kind value) :
    Returns kind (Operation.ofExcept result : Operation σ β) := by
  intro state value last ran
  cases result with
  | error failure => cases ran
  | ok found =>
    cases ran
    exact of_kind value rfl

end Returns

def Stops (kind : Stop → Prop) (operation : Operation σ α) : Prop :=
  ∀ state stop last, operation state = .error stop last → kind stop

namespace Stops

variable {kind : Stop → Prop}

theorem pure (value : α) : Stops kind (Pure.pure value : Operation σ α) := nofun

theorem fail {failure : Failure} (of_kind : kind (.failed failure)) :
    Stops kind (Operation.fail failure : Operation σ α) := by
  intro state stop last ran
  cases ran
  exact of_kind

theorem ofExcept {result : Except Failure α} (of_kind : ∀ failure, result = .error failure → kind (.failed failure)) :
    Stops kind (Operation.ofExcept result : Operation σ α) := by
  cases result with
  | ok value => exact .pure value
  | error failure => exact .fail (of_kind failure rfl)

theorem modify (change : σ → σ) : Stops kind (modify change : Operation σ PUnit) := nofun

theorem get_bind {next : σ → Operation σ β} (stops : ∀ state, Stops kind (next state)) : Stops kind (get >>= next) :=
  fun state => stops state state

theorem mono {wider : Stop → Prop} {operation : Operation σ α} (stops : Stops kind operation)
    (within : ∀ stop, kind stop → wider stop) : Stops wider operation :=
  fun state stop last ran => within stop (stops state stop last ran)

theorem bind (one : Stops kind first) (two : ∀ value, Stops kind (next value)) : Stops kind (first >>= next) := by
  intro state stop last ran
  rcases bind_error ran with here | ⟨found, middle, _, later⟩
  · exact one state stop last here
  · exact two found middle stop last later

theorem on {part : σ → τ} {put : τ → σ → σ} {operation : Operation τ α} (stops : Stops kind operation) :
    Stops kind (operation.on part put) := by
  intro state stop last ran
  unfold Operation.on at ran
  split at ran
  · cases ran
  · cases ran
    exact stops _ _ _ (by assumption)

end Stops

-- From a state of one kind, an operation that comes to a value ends in a state that is good for the value, and one that
-- ends early in a state that is bad.
def Leads (holds : σ → Prop) (operation : Operation σ α) (good : α → σ → Prop) (bad : σ → Prop) : Prop :=
  ∀ state, holds state → match operation state with
    | .ok value last => good value last
    | .error _ last => bad last

namespace Leads

variable {holds bad : σ → Prop} {good : α → σ → Prop} {better : β → σ → Prop}

theorem pure {good : σ → Prop} (value : α) : Leads good (Pure.pure value : Operation σ α) (fun _ => good) bad :=
  fun _ begun => begun

theorem fail (failure : Failure) : Leads bad (Operation.fail failure : Operation σ α) good bad := fun _ begun => begun

theorem ofExcept {good : σ → Prop} (result : Except Failure α) :
    Leads good (Operation.ofExcept result : Operation σ α) (fun _ => good) good := by
  cases result with
  | ok value => exact .pure value
  | error failure => exact .fail failure

theorem get_bind {next : σ → Operation σ β} (leads : ∀ state, Leads holds (next state) better bad) :
    Leads holds (get >>= next) better bad := fun state begun => leads state state begun

theorem of_after {operation : Operation σ α} {good : σ → Prop}
    (ends : ∀ state, holds state → good (operation.after state)) (worse : ∀ state, good state → bad state) :
    Leads holds operation (fun _ => good) bad := by
  intro state begun
  have ended := ends state begun
  cases ran : operation state with
  | ok value last => rwa [after_of_ok ran] at ended
  | error stop last => exact worse last (by rwa [after_of_error ran] at ended)

theorem bind (one : Leads holds first good bad) (two : ∀ value, Leads (good value) (next value) better bad) :
    Leads holds (first >>= next) better bad := by
  intro state begun
  have middle := one state begun
  cases ran : first state with
  | ok value last =>
    rw [ran] at middle
    rw [bind_of_ok ran]
    exact two value last middle
  | error stop last =>
    rw [ran] at middle
    rw [bind_of_error ran]
    exact middle

theorem good_of_ok {operation : Operation σ α} {state last : σ} {value : α} (leads : Leads holds operation good bad)
    (begun : holds state) (ran : operation state = .ok value last) : good value last := by
  have ended := leads state begun
  rwa [ran] at ended

theorem after_of {operation : Operation σ α} {state : σ} {good : σ → Prop}
    (leads : Leads holds operation (fun _ => good) good) (begun : holds state) : good (operation.after state) := by
  have ended := leads state begun
  cases ran : operation state with
  | ok value last =>
    rw [ran] at ended
    rwa [after_of_ok ran]
  | error stop last =>
    rw [ran] at ended
    rwa [after_of_error ran]

theorem bad_of_error {operation : Operation σ α} {state last : σ} {stop : Stop} (leads : Leads holds operation good bad)
    (begun : holds state) (ran : operation state = .error stop last) : bad last := by
  have ended := leads state begun
  rwa [ran] at ended

end Leads

end Operation

end GuestSandbox
