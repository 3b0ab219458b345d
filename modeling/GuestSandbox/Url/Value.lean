-- URLs as values. Every part is held in its canonical text, so the text of a URL is its parts in a row.

namespace GuestSandbox

structure Url where
  scheme : String
  credentials : String
  host : Option String
  port : Option Nat
  path : String
  query : Option String
  fragment : Option String
deriving Repr, DecidableEq, Inhabited

namespace Url

def defaultPort (scheme : String) : Option Nat :=
  if scheme == "http" || scheme == "ws" then some 80
  else if scheme == "https" || scheme == "wss" then some 443
  else if scheme == "ftp" then some 21
  else none

-- Schemes whose URLs always have a host; `file` is the one whose host may be empty.
def isSpecial (scheme : String) : Bool := scheme == "file" || (defaultPort scheme).isSome

-- A URL whose path is plain text has nothing that a relative reference could be joined to.
def isOpaque (url : Url) : Bool := url.host.isNone && url.path.toList.head? != some '/'

def hostText (url : Url) : Option String := url.host.filter (· != "")

def effectivePort (url : Url) : Option Nat := url.port.or (defaultPort url.scheme)

def authorityText (url : Url) : String :=
  match url.host with
  | none => ""
  | some host =>
    "//" ++ (if url.credentials == "" then "" else url.credentials ++ "@") ++ host
      ++ (match url.port with
        | none => ""
        | some port => ":" ++ toString port)

-- Without an authority, a path that begins with two slashes would read as one; two characters in front prevent that.
def pathText (url : Url) : String :=
  if url.host.isNone && url.path.startsWith "//" then "/." ++ url.path else url.path

def text (url : Url) : String :=
  url.scheme ++ ":" ++ url.authorityText ++ url.pathText
    ++ (match url.query with
      | none => ""
      | some query => "?" ++ query)
    ++ (match url.fragment with
      | none => ""
      | some fragment => "#" ++ fragment)

def isHttp (url : Url) : Bool := url.scheme == "http" || url.scheme == "https"

def sameOrigin (a b : Url) : Bool :=
  a.scheme == b.scheme && a.hostText == b.hostText && a.effectivePort == b.effectivePort

end Url

end GuestSandbox
