import GuestSandbox.Json.Value
import GuestSandbox.Number.Figure
import GuestSandbox.Text.Blank

-- Settings as they come in: texts under option names. What a text means is decided where a policy is derived from
-- it, so a bad value is no error here.

namespace GuestSandbox

inductive Feature where
  | codeExec
  | netFetch
  | pkgInstall
deriving Repr, DecidableEq

inductive Limit where
  | execTimeoutMs
  | execMemoryMb
  | execStackKb
  | execMaxHostCalls
  | execMaxLogLines
  | execMaxOutputBytes
  | netMaxRequestsPerRun
  | netMaxParallelRequests
  | netRequestTimeoutMs
  | netMaxResponseBytes
  | netMaxTotalDownloadBytes
  | netMaxRedirects
  | pkgInstallTimeoutMs
  | pkgMaxSpecLength
  | pkgMaxModuleBytes
  | pkgMaxTotalInstallBytesPerRun
  | pkgMaxInstallsPerRun
deriving Repr, DecidableEq

def Feature.all : List Feature := [.codeExec, .netFetch, .pkgInstall]

def Feature.name : Feature → String
  | .codeExec => "codeExecEnabled"
  | .netFetch => "netFetchEnabled"
  | .pkgInstall => "pkgInstallEnabled"

def Limit.all : List Limit :=
  [.execTimeoutMs, .execMemoryMb, .execStackKb, .execMaxHostCalls, .execMaxLogLines, .execMaxOutputBytes,
   .netMaxRequestsPerRun, .netMaxParallelRequests, .netRequestTimeoutMs, .netMaxResponseBytes,
   .netMaxTotalDownloadBytes, .netMaxRedirects, .pkgInstallTimeoutMs, .pkgMaxSpecLength, .pkgMaxModuleBytes,
   .pkgMaxTotalInstallBytesPerRun, .pkgMaxInstallsPerRun]

def Limit.name : Limit → String
  | .execTimeoutMs => "execTimeoutMs"
  | .execMemoryMb => "execMemoryMb"
  | .execStackKb => "execStackKb"
  | .execMaxHostCalls => "execMaxHostCalls"
  | .execMaxLogLines => "execMaxLogLines"
  | .execMaxOutputBytes => "execMaxOutputBytes"
  | .netMaxRequestsPerRun => "netMaxRequestsPerRun"
  | .netMaxParallelRequests => "netMaxParallelRequests"
  | .netRequestTimeoutMs => "netRequestTimeoutMs"
  | .netMaxResponseBytes => "netMaxResponseBytes"
  | .netMaxTotalDownloadBytes => "netMaxTotalDownloadBytes"
  | .netMaxRedirects => "netMaxRedirects"
  | .pkgInstallTimeoutMs => "pkgInstallTimeoutMs"
  | .pkgMaxSpecLength => "pkgMaxSpecLength"
  | .pkgMaxModuleBytes => "pkgMaxModuleBytes"
  | .pkgMaxTotalInstallBytesPerRun => "pkgMaxTotalInstallBytesPerRun"
  | .pkgMaxInstallsPerRun => "pkgMaxInstallsPerRun"

def allOptions : List String :=
  ["codeExecEnabled", "netFetchEnabled", "pkgInstallEnabled", "execTimeoutMs", "execMemoryMb", "execStackKb",
   "execMaxHostCalls", "execMaxLogLines", "execMaxOutputBytes", "netMaxRequestsPerRun", "netMaxParallelRequests",
   "netRequestTimeoutMs", "netMaxResponseBytes", "netMaxTotalDownloadBytes", "netMaxRedirects", "pkgInstallTimeoutMs",
   "pkgMaxSpecLength", "pkgMaxModuleBytes", "pkgMaxTotalInstallBytesPerRun", "pkgMaxInstallsPerRun"]

theorem allOptions_eq : allOptions = Feature.all.map Feature.name ++ Limit.all.map Limit.name := rfl

-- `execTimeoutMs` is `EXEC_TIMEOUT_MS`: every capital but one at the beginning gets an underscore in front.
def variableChars : List Char → List Char
  | [] => []
  | c :: rest => c.toUpper :: rest.flatMap fun c => if c.isUpper then ['_', c] else [c.toUpper]

def variableName (option : String) : String := String.ofList (variableChars option.toList)

structure Settings where
  entries : List (String × String) := []
deriving Repr, DecidableEq, Inhabited

namespace Settings

def get? (settings : Settings) (option : String) : Option String := settings.entries.lookup option

def set (settings : Settings) (option value : String) : Settings := ⟨Json.insertField option value settings.entries⟩

def isEmpty (settings : Settings) : Bool := settings.entries.isEmpty

def ofPairs (pairs : List (String × String)) : Settings := ⟨Json.sortFields pairs⟩

def ofVariables (lookup : String → Option String) : Settings :=
  .ofPairs (allOptions.filterMap fun option => (lookup (variableName option)).map fun value => (option, value))

def scalarText? : Json → Option String
  | .str s => some s
  | .num n => some n.text
  | .bool b => some (toString b)
  | _ => none

-- The texts, numbers and truth values of an object; any other value of a field leaves the option unset.
def ofJson : Json → Settings
  | .obj fields => .ofPairs (fields.filterMap fun (name, value) => (scalarText? value).map fun text => (name, text))
  | _ => {}

end Settings

def greatestWord : Nat := 0xFFFFFFFFFFFFFFFF

-- A limit is the whole part of a number between one and the greatest word; the number just past the greatest word,
-- the nearest that texts of that size can mean, counts as the greatest.
def readLimit? (text : String) : Option Nat :=
  match Number.Figure.read? (Text.trimChars text.toList) with
  | some (.finite value) =>
    if value.negative || value.floor < 1 || greatestWord + 1 < value.floor then none
    else some (min value.floor greatestWord)
  | _ => none

def readSwitch? (text : String) : Option Bool :=
  let word := String.ofList ((Text.trimChars text.toList).map Char.toLower)
  if ["1", "true", "yes", "on"].contains word then some true
  else if ["0", "false", "no", "off"].contains word then some false
  else none

theorem allOptions_nodup : allOptions.Nodup := by decide

theorem readLimit?_bounds (text : String) (value : Nat) (read : readLimit? text = some value) :
    1 ≤ value ∧ value ≤ greatestWord := by
  unfold readLimit? at read
  split at read
  · rename_i figure _
    split at read
    · cases read
    · rename_i inRange
      simp only [Bool.or_eq_true, decide_eq_true_eq, not_or, Nat.not_lt] at inRange
      cases read
      simp only [greatestWord]
      omega
  · cases read

end GuestSandbox
