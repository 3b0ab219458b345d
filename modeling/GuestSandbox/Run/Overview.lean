import GuestSandbox.HostCall
import GuestSandbox.Package.Inventory
import GuestSandbox.Run.EngineCall
import GuestSandbox.Run.Sandbox

namespace GuestSandbox

structure Features where
  codeExec : Bool
  netFetch : Bool
  pkgInstall : Bool
deriving Repr, DecidableEq

def Features.toJson (features : Features) : Json :=
  .ofFields [("codeExec", .bool features.codeExec), ("netFetch", .bool features.netFetch),
    ("pkgInstall", .bool features.pkgInstall)]

def Features.ofJson? (json : Json) : Option Features := do
  let field ← json.record? ["codeExec", "netFetch", "pkgInstall"]
  let codeExec ← Json.need field "codeExec" Json.bool?
  let netFetch ← Json.need field "netFetch" Json.bool?
  let pkgInstall ← Json.need field "pkgInstall" Json.bool?
  some ⟨codeExec, netFetch, pkgInstall⟩

structure Surface where
  engine : String
  operations : List String
  globals : List String
  features : Features
  host : String
deriving Repr, DecidableEq

def Surface.toJson (runtime : Surface) : Json :=
  .ofFields [("engine", .str runtime.engine), ("operations", .ofStrings runtime.operations),
    ("globals", .ofStrings runtime.globals), ("features", runtime.features.toJson), ("cdn", .str runtime.host)]

def Surface.ofJson? (json : Json) : Option Surface := do
  let field ← json.record? ["engine", "operations", "globals", "features", "cdn"]
  let engine ← Json.need field "engine" Json.text?
  let operations ← Json.need field "operations" (Json.list? Json.text?)
  let globals ← Json.need field "globals" (Json.list? Json.text?)
  let features ← Json.need field "features" Features.ofJson?
  let host ← Json.need field "cdn" Json.text?
  some ⟨engine, operations, globals, features, host⟩

structure Overview where
  runtime : Surface
  limits : Policy
  packages : List PackageRecord
deriving Repr, DecidableEq

def Overview.toJson (result : Overview) : Json :=
  .ofFields [("runtime", result.runtime.toJson), ("limits", result.limits.toJson),
    ("packages", .arr (result.packages.map PackageRecord.toJson))]

def Overview.ofJson? (json : Json) : Option Overview := do
  let field ← json.record? ["runtime", "limits", "packages"]
  let runtime ← Json.need field "runtime" Surface.ofJson?
  let limits ← Json.need field "limits" Policy.ofJson?
  let packages ← Json.need field "packages" (Json.list? PackageRecord.ofJson?)
  some ⟨runtime, limits, packages⟩

def surfaceGlobals : List String := ["console", "fetch", "pkg", "input", resultName]

def Policy.features (policy : Policy) : Features :=
  ⟨policy.codeExecEnabled, policy.netFetchEnabled, policy.pkgInstallEnabled⟩

def Sandbox.surface (sandbox : Sandbox) (engineName : String) : Surface where
  engine := engineName
  operations := HostCall.all.map HostCall.operation
  globals := surfaceGlobals
  features := sandbox.policy.features
  host := sandbox.host.baseText

def Sandbox.overview (sandbox : Sandbox) (engineName : String) (query : Option String) (inventory : Inventory) :
    Overview :=
  ⟨sandbox.surface engineName, sandbox.policy, inventory.matching query⟩

end GuestSandbox
