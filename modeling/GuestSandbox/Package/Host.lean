import GuestSandbox.Url.Parser

namespace GuestSandbox

structure PackageHost where
  base : Url
  hosted : base.hostText.isSome = true

namespace PackageHost

-- A base without a host cannot say where a module is.
def ofUrl (base : Url) : Except UrlError PackageHost :=
  if hosted : base.hostText.isSome = true then .ok ⟨base, hosted⟩ else .error .relativeToOpaque

def ofText (text : String) : Except UrlError PackageHost := (Url.parse text).bind ofUrl

def standard : PackageHost := ⟨⟨"https", "", some "esm.sh", none, "/", none, none⟩, by decide⟩

instance : Inhabited PackageHost := ⟨standard⟩

def baseText (host : PackageHost) : String := host.base.text

def serves (host : PackageHost) (url : Url) : Bool := url.sameOrigin host.base

def rooted (host : PackageHost) (path : String) : Except UrlError Url := host.base.join path

def indexOf (host : PackageHost) (spec : String) : Except UrlError Url :=
  host.rooted (String.ofList ('/' :: spec.toList.dropWhile (· == '/')))

end PackageHost

end GuestSandbox
