import GuestSandbox.Text.Blank

-- Every way a run, a host call or a package operation can fail, with the wording and the code of each.
-- A failure with a code of its own has the code's token in front of its text: the text survives a trip through guest
-- code and still gets the same code there.

namespace GuestSandbox

inductive FailureCode where
  | codeExecDisabled
  | invalidInput
  | timeout
  | pkgInstallDisabled
  | netFetchDisabled
  | maxPendingJobs
  | executionError
deriving Repr, DecidableEq, Inhabited

namespace FailureCode

def name : FailureCode → String
  | .codeExecDisabled => "CODE_EXEC_DISABLED"
  | .invalidInput => "INVALID_INPUT"
  | .timeout => "TIMEOUT"
  | .pkgInstallDisabled => "PKG_INSTALL_DISABLED"
  | .netFetchDisabled => "NET_FETCH_DISABLED"
  | .maxPendingJobs => "MAX_PENDING_JOBS"
  | .executionError => "EXECUTION_ERROR"

def all : List FailureCode :=
  [.codeExecDisabled, .invalidInput, .timeout, .pkgInstallDisabled, .netFetchDisabled, .maxPendingJobs, .executionError]

def ofName? (name : String) : Option FailureCode := all.find? (·.name == name)

-- The tokens looked for in a guest's text, in this order. The last one is what an engine says when it was stopped.
def tokens : List (String × FailureCode) :=
  [("CODE_EXEC_DISABLED", .codeExecDisabled), ("INVALID_INPUT", .invalidInput),
   ("PKG_INSTALL_DISABLED", .pkgInstallDisabled), ("NET_FETCH_DISABLED", .netFetchDisabled),
   ("MAX_PENDING_JOBS", .maxPendingJobs), ("TIMEOUT", .timeout), ("interrupted", .timeout)]

def ofText (text : String) : FailureCode :=
  match tokens.find? (fun token => Text.occursIn token.1.toList text.toList) with
  | some token => token.2
  | none => .executionError

def isLimit : FailureCode → Bool
  | .timeout => true
  | .maxPendingJobs => true
  | _ => false

end FailureCode

inductive Failure where
  | codeExecDisabled
  | invalidInput (text : String)
  | timeout (ms : Nat)
  | pkgInstallDisabled
  | netFetchDisabled
  | pendingJobs (rounds : Nat)
  | hostCallLimit (calls : Nat)
  | requestLimit (requests : Nat)
  | responseTooLarge (size limit : Nat)
  | downloadBudget (bytes : Nat)
  | requestTimeout (url : String) (ms : Nat)
  | network (text : String)
  | invalidSpec (text : String)
  | installLimit (installs : Nat)
  | unresolved (spec reason : String)
  | moduleTooLarge (url : String) (size limit : Nat)
  | moduleMissing (text : String)
  | guest (text : String)
  | engine (text : String)
deriving Repr, DecidableEq, Inhabited

namespace Failure

def message : Failure → String
  | .codeExecDisabled => "CODE_EXEC_DISABLED: code execution is disabled"
  | .invalidInput text => "INVALID_INPUT: " ++ text
  | .timeout ms => "TIMEOUT: execution exceeded " ++ toString ms ++ "ms"
  | .pkgInstallDisabled => "PKG_INSTALL_DISABLED: package installation is disabled"
  | .netFetchDisabled => "NET_FETCH_DISABLED: network fetch is disabled"
  | .pendingJobs rounds => "MAX_PENDING_JOBS: pending work still queued after " ++ toString rounds ++ " drain rounds"
  | .hostCallLimit calls => "host call budget exhausted (" ++ toString calls ++ " calls per run)"
  | .requestLimit requests => "fetch request limit reached (" ++ toString requests ++ " per run)"
  | .responseTooLarge size limit =>
    "response of " ++ toString size ++ " bytes exceeds the " ++ toString limit ++ " byte limit"
  | .downloadBudget bytes => "download budget of " ++ toString bytes ++ " bytes per run exceeded"
  | .requestTimeout url ms => "request to " ++ url ++ " timed out after " ++ toString ms ++ "ms"
  | .network text => "network error: " ++ text
  | .invalidSpec text => "invalid package spec: " ++ text
  | .installLimit installs => "package install limit reached (" ++ toString installs ++ " per run)"
  | .unresolved spec reason => "package " ++ spec ++ " could not be resolved: " ++ reason
  | .moduleTooLarge url size limit =>
    "module " ++ url ++ " is " ++ toString size ++ " bytes, above the " ++ toString limit ++ " byte limit"
  | .moduleMissing text => "module " ++ text ++ " is not available"
  | .guest text => text
  | .engine text => "interpreter error: " ++ text

def code : Failure → FailureCode
  | .codeExecDisabled => .codeExecDisabled
  | .invalidInput _ => .invalidInput
  | .timeout _ => .timeout
  | .pkgInstallDisabled => .pkgInstallDisabled
  | .netFetchDisabled => .netFetchDisabled
  | .pendingJobs _ => .maxPendingJobs
  | .guest text => .ofText text
  | _ => .executionError

def isLimit (failure : Failure) : Bool :=
  failure.code.isLimit || match failure with
    | .hostCallLimit _ => true
    | .requestLimit _ => true
    | .responseTooLarge _ _ => true
    | .downloadBudget _ => true
    | .installLimit _ => true
    | .moduleTooLarge _ _ _ => true
    | _ => false

end Failure

end GuestSandbox
