import GuestSandbox.Package.Host
import GuestSandbox.Text.Blank
import GuestSandbox.Text.Quoted
import GuestSandbox.Text.Start

namespace GuestSandbox

inductive Target where
  | package (spec : String)
  | hosted (url : Url)
deriving Repr, DecidableEq

def Target.packageMark : String := "npm:"

def Target.moduleName : Target → String
  | .package spec => packageMark ++ spec
  | .hosted url => url.text

inductive SpecifierError where
  | empty
  | foreignHost (specifier : String)
  | noBase (base specifier : String)
  | unsupported (specifier : String)
  | malformed (specifier : String)
deriving Repr, DecidableEq

def SpecifierError.message : SpecifierError → String
  | .empty => "empty module specifier"
  | .foreignHost specifier => "module " ++ Text.quoted specifier ++ " is not on the package CDN"
  | .noBase base specifier => "cannot resolve " ++ Text.quoted specifier ++ " from " ++ Text.quoted base
  | .unsupported specifier =>
    "unsupported module specifier " ++ Text.quoted specifier ++ "; use \"npm:<package>\""
  | .malformed specifier => "malformed module url " ++ Text.quoted specifier

namespace Specifier

-- How a specifier is read, judged by its beginning alone.
inductive Form where
  | package (spec : List Char)
  | absolute
  | rooted
  | relative
  | other
deriving Repr, DecidableEq

def isRooted (cs : List Char) : Bool := cs.head? == some '/' && (cs.drop 1).head? != some '/'

def isAbsolute (cs : List Char) : Bool :=
  Text.startsWith "https://".toList cs || Text.startsWith "http://".toList cs

def isRelative (cs : List Char) : Bool := Text.startsWith "./".toList cs || Text.startsWith "../".toList cs

def form (cs : List Char) : Form :=
  match Text.afterStart? Target.packageMark.toList cs with
  | some spec => .package spec
  | none =>
    if isAbsolute cs then .absolute
    else if isRooted cs then .rooted
    else if isRelative cs then .relative
    else .other

def importerUrl? (host : PackageHost) (importer : String) : Option Url :=
  let importer := Text.trim importer
  if isRooted importer.toList then (host.rooted importer).toOption
  else (Url.parse importer).toOption.filter host.serves

def locate (specifier : String) : Except UrlError Url → Except SpecifierError Target
  | .ok url => .ok (.hosted url)
  | .error _ => .error (.malformed specifier)

def targetOfTrimmed (host : PackageHost) (importer : Option String) (specifier : String) :
    Except SpecifierError Target :=
  match form specifier.toList with
  | .package spec =>
    let spec := Text.trimChars spec
    if spec.isEmpty then .error .empty else .ok (.package (String.ofList spec))
  | .absolute => match Url.parse specifier with
    | .error _ => .error (.malformed specifier)
    | .ok url => if host.serves url then .ok (.hosted url) else .error (.foreignHost specifier)
  | .rooted => locate specifier (host.rooted specifier)
  | .relative => match importer.bind (importerUrl? host) with
    | none => .error (.noBase (importer.getD "") specifier)
    | some base => locate specifier (base.join specifier)
  | .other => .error (.unsupported specifier)

def target (host : PackageHost) (importer : Option String) (specifier : String) : Except SpecifierError Target :=
  let specifier := Text.trim specifier
  if specifier == "" then .error .empty else targetOfTrimmed host importer specifier

end Specifier

end GuestSandbox
