import GuestSandbox.Console
import GuestSandbox.Tally

namespace GuestSandbox

structure RunInput where
  code : String
  input : Json := .null
deriving Repr

namespace RunInput

def ofRequest (request : Json) : Except Failure RunInput :=
  match request.field? "code" with
  | none => .error (.invalidInput "code is required")
  | some (.str code) => .ok ⟨code, (request.field? "input").getD .null⟩
  | some _ => .error (.invalidInput "code must be text")

def toJson (input : RunInput) : Json := .ofFields [("code", .str input.code), ("input", input.input)]

def ofJson? (json : Json) : Option RunInput := do
  let field ← json.record? ["code", "input"]
  let code ← Json.need field "code" Json.text?
  let input ← Json.orElse field "input" some .null
  some ⟨code, input⟩

end RunInput

structure RunResult where
  ok : Bool
  result : Json
  logs : List ConsoleLine
  stats : Tally
  error : Option Reported
deriving Repr

namespace RunResult

def success (result : Json) (logs : List ConsoleLine) (stats : Tally) : RunResult :=
  ⟨true, result, logs, stats, none⟩

def failure (failure : Failure) (logs : List ConsoleLine) (stats : Tally) : RunResult :=
  ⟨false, .null, logs, stats, some (.ofFailure failure)⟩

def refusal (failure : Failure) : RunResult := .failure failure [] {}

def code? (result : RunResult) : Option FailureCode := result.error.map Reported.code

-- A result without an error has no field for it.
def toJson (result : RunResult) : Json :=
  .ofFields ([("ok", .bool result.ok), ("result", result.result), ("logs", .arr (result.logs.map ConsoleLine.toJson)),
    ("stats", result.stats.toJson)] ++ (result.error.map fun error => ("error", error.toJson)).toList)

def ofJson? (json : Json) : Option RunResult := do
  let field ← json.record? ["ok", "result", "logs", "stats", "error"]
  let ok ← Json.need field "ok" Json.bool?
  let result ← Json.need field "result" some
  let logs ← Json.need field "logs" (Json.list? ConsoleLine.ofJson?)
  let stats ← Json.need field "stats" Tally.ofJson?
  let error ← Json.orElse field "error" (Json.optional? Reported.ofJson?) none
  some ⟨ok, result, logs, stats, error⟩

end RunResult

end GuestSandbox
