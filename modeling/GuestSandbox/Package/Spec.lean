import GuestSandbox.Failure
import GuestSandbox.Policy
import GuestSandbox.Text.Blank
import GuestSandbox.Text.Quoted

namespace GuestSandbox.PackageSpec

def isAllowed (c : Char) : Bool := c.isAlphanum || ['@', '/', '.', '_', '+', '-'].contains c

def read (text : String) (policy : Policy) : Except Failure String :=
  let spec := Text.trimChars text.toList
  if spec.isEmpty then .error (.invalidSpec "spec is empty")
  else if policy.pkgMaxSpecLength < spec.length then
    .error (.invalidSpec ("spec is longer than " ++ toString policy.pkgMaxSpecLength ++ " characters"))
  else match spec.find? (!isAllowed ·) with
    | some bad => .error (.invalidSpec
        ("character " ++ Text.quotedOne bad ++ " is not allowed in " ++ Text.quoted (String.ofList spec)))
    | none => .ok (String.ofList spec)

theorem read_eq_ok {text : String} {policy : Policy} {spec : String} (valid : read text policy = .ok spec) :
    spec = Text.trim text ∧ spec ≠ "" ∧ spec.length ≤ policy.pkgMaxSpecLength ∧
      ∀ c ∈ spec.toList, isAllowed c = true := by
  simp only [read] at valid
  split at valid
  · cases valid
  · rename_i filled
    split at valid
    · cases valid
    · rename_i short
      split at valid
      · cases valid
      · rename_i none
        cases valid
        refine ⟨rfl, fun empty => filled ?_, ?_, fun c member => ?_⟩
        · have : (String.ofList (Text.trimChars text.toList)).toList = [] := by rw [empty]; rfl
          simpa using this
        · simpa using Nat.not_lt.mp short
        · simpa using List.find?_eq_none.mp none c (by simpa using member)

end GuestSandbox.PackageSpec
