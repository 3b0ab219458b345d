import GuestSandbox.Json.Record
import GuestSandbox.Settings

-- The limits of a run. A policy is derived once from settings and never changes while a run is under way.

namespace GuestSandbox

structure Policy where
  codeExecEnabled : Bool := true
  netFetchEnabled : Bool := true
  pkgInstallEnabled : Bool := true
  execTimeoutMs : Nat := 2000
  execMemoryMb : Nat := 32
  execStackKb : Nat := 512
  execMaxHostCalls : Nat := 25
  execMaxLogLines : Nat := 120
  execMaxOutputBytes : Nat := 65536
  netMaxRequestsPerRun : Nat := 25
  netMaxParallelRequests : Nat := 4
  netRequestTimeoutMs : Nat := 10000
  netMaxResponseBytes : Nat := 2 * 1024 * 1024
  netMaxTotalDownloadBytes : Nat := 10 * 1024 * 1024
  netMaxRedirects : Nat := 5
  pkgInstallTimeoutMs : Nat := 15000
  pkgMaxSpecLength : Nat := 120
  pkgMaxModuleBytes : Nat := 3 * 1024 * 1024
  pkgMaxTotalInstallBytesPerRun : Nat := 15 * 1024 * 1024
  pkgMaxInstallsPerRun : Nat := 5
deriving Repr, DecidableEq, Inhabited

namespace Policy

def feature (policy : Policy) : Feature → Bool
  | .codeExec => policy.codeExecEnabled
  | .netFetch => policy.netFetchEnabled
  | .pkgInstall => policy.pkgInstallEnabled

def limit (policy : Policy) : Limit → Nat
  | .execTimeoutMs => policy.execTimeoutMs
  | .execMemoryMb => policy.execMemoryMb
  | .execStackKb => policy.execStackKb
  | .execMaxHostCalls => policy.execMaxHostCalls
  | .execMaxLogLines => policy.execMaxLogLines
  | .execMaxOutputBytes => policy.execMaxOutputBytes
  | .netMaxRequestsPerRun => policy.netMaxRequestsPerRun
  | .netMaxParallelRequests => policy.netMaxParallelRequests
  | .netRequestTimeoutMs => policy.netRequestTimeoutMs
  | .netMaxResponseBytes => policy.netMaxResponseBytes
  | .netMaxTotalDownloadBytes => policy.netMaxTotalDownloadBytes
  | .netMaxRedirects => policy.netMaxRedirects
  | .pkgInstallTimeoutMs => policy.pkgInstallTimeoutMs
  | .pkgMaxSpecLength => policy.pkgMaxSpecLength
  | .pkgMaxModuleBytes => policy.pkgMaxModuleBytes
  | .pkgMaxTotalInstallBytesPerRun => policy.pkgMaxTotalInstallBytesPerRun
  | .pkgMaxInstallsPerRun => policy.pkgMaxInstallsPerRun

def ofParts (feature : Feature → Bool) (limit : Limit → Nat) : Policy where
  codeExecEnabled := feature .codeExec
  netFetchEnabled := feature .netFetch
  pkgInstallEnabled := feature .pkgInstall
  execTimeoutMs := limit .execTimeoutMs
  execMemoryMb := limit .execMemoryMb
  execStackKb := limit .execStackKb
  execMaxHostCalls := limit .execMaxHostCalls
  execMaxLogLines := limit .execMaxLogLines
  execMaxOutputBytes := limit .execMaxOutputBytes
  netMaxRequestsPerRun := limit .netMaxRequestsPerRun
  netMaxParallelRequests := limit .netMaxParallelRequests
  netRequestTimeoutMs := limit .netRequestTimeoutMs
  netMaxResponseBytes := limit .netMaxResponseBytes
  netMaxTotalDownloadBytes := limit .netMaxTotalDownloadBytes
  netMaxRedirects := limit .netMaxRedirects
  pkgInstallTimeoutMs := limit .pkgInstallTimeoutMs
  pkgMaxSpecLength := limit .pkgMaxSpecLength
  pkgMaxModuleBytes := limit .pkgMaxModuleBytes
  pkgMaxTotalInstallBytesPerRun := limit .pkgMaxTotalInstallBytesPerRun
  pkgMaxInstallsPerRun := limit .pkgMaxInstallsPerRun

def standard : Policy := {}

-- Each part is read on its own: an option that is unset or cannot be read leaves its part at the standard value.
def ofSettings (settings : Settings) : Policy :=
  let switch (option : String) (otherwise : Bool) := ((settings.get? option).bind readSwitch?).getD otherwise
  let number (option : String) (otherwise : Nat) := ((settings.get? option).bind readLimit?).getD otherwise
  { codeExecEnabled := switch "codeExecEnabled" standard.codeExecEnabled
    netFetchEnabled := switch "netFetchEnabled" standard.netFetchEnabled
    pkgInstallEnabled := switch "pkgInstallEnabled" standard.pkgInstallEnabled
    execTimeoutMs := number "execTimeoutMs" standard.execTimeoutMs
    execMemoryMb := number "execMemoryMb" standard.execMemoryMb
    execStackKb := number "execStackKb" standard.execStackKb
    execMaxHostCalls := number "execMaxHostCalls" standard.execMaxHostCalls
    execMaxLogLines := number "execMaxLogLines" standard.execMaxLogLines
    execMaxOutputBytes := number "execMaxOutputBytes" standard.execMaxOutputBytes
    netMaxRequestsPerRun := number "netMaxRequestsPerRun" standard.netMaxRequestsPerRun
    netMaxParallelRequests := number "netMaxParallelRequests" standard.netMaxParallelRequests
    netRequestTimeoutMs := number "netRequestTimeoutMs" standard.netRequestTimeoutMs
    netMaxResponseBytes := number "netMaxResponseBytes" standard.netMaxResponseBytes
    netMaxTotalDownloadBytes := number "netMaxTotalDownloadBytes" standard.netMaxTotalDownloadBytes
    netMaxRedirects := number "netMaxRedirects" standard.netMaxRedirects
    pkgInstallTimeoutMs := number "pkgInstallTimeoutMs" standard.pkgInstallTimeoutMs
    pkgMaxSpecLength := number "pkgMaxSpecLength" standard.pkgMaxSpecLength
    pkgMaxModuleBytes := number "pkgMaxModuleBytes" standard.pkgMaxModuleBytes
    pkgMaxTotalInstallBytesPerRun := number "pkgMaxTotalInstallBytesPerRun" standard.pkgMaxTotalInstallBytesPerRun
    pkgMaxInstallsPerRun := number "pkgMaxInstallsPerRun" standard.pkgMaxInstallsPerRun }

def memoryBytes (policy : Policy) : Nat := min (policy.execMemoryMb * (1024 * 1024)) greatestWord
def stackBytes (policy : Policy) : Nat := min (policy.execStackKb * 1024) greatestWord

-- Redirects are counted in 32 bits.
def maxRedirects (policy : Policy) : Nat := min policy.netMaxRedirects 0xFFFFFFFF

def fieldNames : List String := Feature.all.map Feature.name ++ Limit.all.map Limit.name

def toFields (policy : Policy) : List (String × Json) :=
  Feature.all.map (fun feature => (feature.name, .bool (policy.feature feature)))
    ++ Limit.all.map fun limit => (limit.name, .ofNat (policy.limit limit))

def toJson (policy : Policy) : Json := .ofFields policy.toFields

def ofJson? (json : Json) : Option Policy := do
  let field ← json.record? fieldNames
  let feature (feature : Feature) : Option Bool := Json.need field feature.name Json.bool?
  let limit (limit : Limit) : Option Nat := Json.need field limit.name (Json.word? 64)
  if Feature.all.all (fun f => (feature f).isSome) && Limit.all.all (fun l => (limit l).isSome) then
    some (ofParts (fun f => (feature f).getD false) (fun l => (limit l).getD 0))
  else none

@[simp] theorem feature_ofParts (feature : Feature → Bool) (limit : Limit → Nat) (f : Feature) :
    (ofParts feature limit).feature f = feature f := by cases f <;> rfl

@[simp] theorem limit_ofParts (feature : Feature → Bool) (limit : Limit → Nat) (l : Limit) :
    (ofParts feature limit).limit l = limit l := by cases l <;> rfl

@[simp] theorem ofParts_parts (policy : Policy) : ofParts policy.feature policy.limit = policy := rfl

theorem ofSettings_eq (settings : Settings) :
    ofSettings settings =
      ofParts (fun feature => ((settings.get? feature.name).bind readSwitch?).getD (standard.feature feature))
        (fun limit => ((settings.get? limit.name).bind readLimit?).getD (standard.limit limit)) := rfl

end Policy

end GuestSandbox
