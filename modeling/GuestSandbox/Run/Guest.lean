import GuestSandbox.Run.State

namespace GuestSandbox

-- Every stretch of guest code ends; an engine stops one that does not. `sleep` is time that passes in it.
inductive Guest (α : Type) where
  | done (result : α)
  | ask (function : HostCall) (first second : String) (resume : Envelope → Guest α)
  | look (resume : Library → Guest α)
  | sleep (ms : Nat) (resume : Guest α)

namespace Guest

variable {α β : Type}

def bind (guest : Guest α) (next : α → Guest β) : Guest β :=
  match guest with
  | .done result => next result
  | .ask function first second resume => .ask function first second fun reply => (resume reply).bind next
  | .look resume => .look fun library => (resume library).bind next
  | .sleep ms resume => .sleep ms (resume.bind next)

instance : Monad Guest where
  pure := .done
  bind := bind

def play (guest : Guest α) (run : RunState) : α × RunState :=
  match guest with
  | .done result => (result, run)
  | .ask function first second resume =>
    let (reply, run) := run.ask function first second
    (resume reply).play run
  | .look resume => (resume run.library).play run
  | .sleep ms resume => resume.play { run with elapsed := run.elapsed + ms }

end Guest

end GuestSandbox
