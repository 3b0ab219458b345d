import GuestSandbox.Failure

-- Operations on a state that may end early. What was done to the state before the end stays done.

namespace GuestSandbox

-- `cut` is the end of an operation whose time ran out while it waited for an exchange.
inductive Stop where
  | failed (failure : Failure)
  | cut
deriving Repr, DecidableEq, Inhabited

abbrev Operation (σ α : Type) := EStateM Stop σ α

namespace Operation

variable {σ τ α : Type}

def fail (failure : Failure) : Operation σ α := throw (.failed failure)

def ofExcept (result : Except Failure α) : Operation σ α :=
  match result with
  | .ok value => pure value
  | .error failure => fail failure

def on (part : σ → τ) (put : τ → σ → σ) (operation : Operation τ α) : Operation σ α := fun state =>
  match operation (part state) with
  | .ok value after => .ok value (put after state)
  | .error stop after => .error stop (put after state)

def after (operation : Operation σ α) (state : σ) : σ :=
  match operation state with
  | .ok _ final => final
  | .error _ final => final

@[simp] theorem after_on (part : σ → τ) (put : τ → σ → σ) (operation : Operation τ α) (state : σ) :
    (operation.on part put).after state = put (operation.after (part state)) state := by
  unfold after on
  cases operation (part state) <;> rfl

end Operation

end GuestSandbox
