import GuestSandbox.Url.Host
import GuestSandbox.Url.Path
import GuestSandbox.Url.Value

-- Reading URLs, alone or relative to a base.
-- Controls and spaces around a text and tabs and line ends inside it are no part of the URL.

namespace GuestSandbox.Url

def isIgnored (c : Char) : Bool := c == '\t' || c == '\n' || c == '\r'

def isEdge (c : Char) : Bool := c.toNat ≤ 0x20

def cleaned (text : List Char) : List Char :=
  ((text.dropWhile isEdge).reverse.dropWhile isEdge).reverse.filter (!isIgnored ·)

def isSchemeChar (c : Char) : Bool := c.isAlphanum || c == '+' || c == '-' || c == '.'

def splitScheme (cs : List Char) : Option (String × List Char) :=
  match cs with
  | [] => none
  | c :: _ =>
    if !c.isAlpha then none
    else match cs.dropWhile isSchemeChar with
      | ':' :: rest => some (String.ofList ((cs.takeWhile isSchemeChar).map Char.toLower), rest)
      | _ => none

def rulesFor (scheme : String) : PathRules := ⟨scheme == "file", isSpecial scheme⟩

def withTail (url : Url) (cs : List Char) : Url :=
  let fragmentOf (cs : List Char) : String := String.ofList (encode inFragmentSet cs)
  match cs with
  | '?' :: rest =>
    let query := rest.takeWhile (· != '#')
    let inSet := if isSpecial url.scheme then inSpecialQuerySet else inQuerySet
    let url := { url with query := some (String.ofList (encode inSet query)) }
    match rest.dropWhile (· != '#') with
    | _ :: fragment => { url with fragment := some (fragmentOf fragment) }
    | [] => url
  | '#' :: rest => { url with fragment := some (fragmentOf rest) }
  | _ => url

def takePath (url : Url) (closed : List (List Char)) (cs : List Char) : Url × Bool :=
  let rules := rulesFor url.scheme
  let (result, rest) := readPath rules closed cs
  (withTail { url with path := String.ofList (result.text rules), query := none, fragment := none } rest,
    result.hasDrive)

def withPath (url : Url) (closed : List (List Char)) (cs : List Char) : Url := (takePath url closed cs).1

def dropSlash (rules : PathRules) (cs : List Char) : List Char :=
  match cs with
  | c :: rest => if rules.isSlash c then rest else cs
  | [] => []

def withRootedPath (url : Url) (cs : List Char) : Url :=
  if isSpecial url.scheme then withPath url [] (dropSlash (rulesFor url.scheme) cs)
  else match cs with
    | [] => url
    | c :: rest => if endsPath c then withTail url cs else if c == '/' then withPath url [] rest else withPath url [] cs

def endsAuthority (special : Bool) (c : Char) : Bool := c == '/' || c == '?' || c == '#' || (special && c == '\\')

def credentialsText (cs : List Char) : List Char :=
  let user := cs.takeWhile (· != ':')
  let password := (cs.dropWhile (· != ':')).drop 1
  encode inUserinfoSet user ++ (if password.isEmpty then [] else ':' :: encode inUserinfoSet password)

def splitCredentials (special : Bool) (cs : List Char) : Except UrlError (List Char × List Char) :=
  let front := cs.takeWhile (!endsAuthority special ·)
  if !front.contains '@' then .ok ([], cs)
  else
    let behind := (front.reverse.takeWhile (· != '@')).reverse
    let before := ((front.reverse.dropWhile (· != '@')).drop 1).reverse
    let rest := behind ++ cs.dropWhile (!endsAuthority special ·)
    if before.isEmpty && rest.head?.any (endsAuthority special) then .error .emptyHost
    else .ok (credentialsText before, rest)

-- The text of a host ends at a colon outside brackets, or where the authority ends.
def splitHost (special : Bool) (bracketed : Bool) : List Char → List Char × List Char
  | [] => ([], [])
  | c :: rest =>
    if (c == ':' && !bracketed) || endsAuthority special c then ([], c :: rest)
    else
      let inside := if c == '[' then true else if c == ']' then false else bracketed
      let (host, after) := splitHost special inside rest
      (c :: host, after)

def readPort (scheme : String) (cs : List Char) : Except UrlError (Option Nat × List Char) :=
  match cs with
  | ':' :: rest =>
    let digits := rest.takeWhile Char.isDigit
    let after := rest.dropWhile Char.isDigit
    let port := digits.foldl (fun value c => 10 * value + (c.toNat - 0x30)) 0
    if 65535 < port || !(after.head?.all fun c => c == '/' || c == '\\' || c == '?' || c == '#') then .error .invalidPort
    else .ok (if digits.isEmpty || defaultPort scheme == some port then none else some port, after)
  | _ => .ok (none, cs)

-- The host that stands in an authority. Only a scheme without rules for hosts of its own can do without one.
def authorityHost (special : Bool) (text : List Char) : Except UrlError (List Char) :=
  if !special then readOpaqueHost text
  else if text.isEmpty then .error .emptyHost
  else readHost text

def authorityPort (scheme : String) (host cs : List Char) : Except UrlError (Option Nat × List Char) :=
  if host.isEmpty && cs.head? == some ':' then .error .emptyHost else readPort scheme cs

def readAuthority (scheme : String) (cs : List Char) : Except UrlError Url := do
  let (credentials, cs) ← splitCredentials (isSpecial scheme) cs
  let (hostText, cs) := splitHost (isSpecial scheme) false cs
  let host ← authorityHost (isSpecial scheme) hostText
  let (port, cs) ← authorityPort scheme host cs
  if host.isEmpty && !credentials.isEmpty then .error .emptyHost
  else .ok (withRootedPath ⟨scheme, String.ofList credentials, some (String.ofList host), port, "", none, none⟩ cs)

def emptyFile : Url := ⟨"file", "", some "", none, "", none, none⟩

def fileRules : PathRules := rulesFor "file"

def startsWithDrive (cs : List Char) : Bool :=
  match cs with
  | letter :: mark :: rest =>
    isLetter letter && (mark == ':' || mark == '|') && rest.head?.all fun c => fileRules.isSlash c || endsPath c
  | _ => false

-- A file host; `localhost` is no host at all, a drive letter belongs to the path, and a path with one needs no host.
def readFileHost (cs : List Char) : Except UrlError Url := do
  let text := cs.takeWhile fun c => !endsAuthority true c
  let rest := cs.dropWhile fun c => !endsAuthority true c
  if isDriveLetter text then return withPath emptyFile [] cs
  let host ← if text.isEmpty then pure [] else readHost text
  let host := if host == "localhost".toList then [] else host
  let (url, hasDrive) := takePath { emptyFile with host := some (String.ofList host) } [] (dropSlash fileRules rest)
  return if hasDrive then { url with host := some "" } else url

-- One slash: the host of the base stays unless a drive letter decides, its own or one of the base.
def readFileRoot (base : Option Url) (cs : List Char) : Url :=
  match base with
  | none => withPath emptyFile [] cs
  | some base =>
    let first := (Text.partsBetween (· == '/') (base.path.toList.drop 1)).head?.getD []
    if startsWithDrive cs then withPath emptyFile [] cs
    else if isPlainDriveLetter first then withPath emptyFile [first] cs
    else withPath { emptyFile with host := base.host } [] cs

def withFragment (url : Url) (cs : List Char) : Url := withTail { url with fragment := none } ('#' :: cs)

def readFile (base : Option Url) (cs : List Char) : Except UrlError Url :=
  match cs with
  | c :: rest =>
    if fileRules.isSlash c then
      match rest with
      | d :: more => if fileRules.isSlash d then readFileHost more else .ok (readFileRoot base rest)
      | [] => .ok (readFileRoot base rest)
    else match base with
      | none => .ok (withPath emptyFile [] cs)
      | some base =>
        if c == '?' then .ok (withTail { base with query := none, fragment := none } cs)
        else if c == '#' then .ok (withFragment base rest)
        else if startsWithDrive cs then .ok (withPath emptyFile [] cs)
        else
          let (closed, last) := openPath base.path.toList
          .ok (withPath base closed (if isPlainDriveLetter last then last ++ cs else cs))
  | [] => .ok (match base with
    | none => withPath emptyFile [] []
    | some base => { base with fragment := none })

def isAnySlash (c : Char) : Bool := c == '/' || c == '\\'

def readRelative (base : Url) (cs : List Char) : Except UrlError Url :=
  match cs with
  | [] => .ok { base with fragment := none }
  | c :: rest =>
    if c == '?' then .ok (withTail { base with query := none, fragment := none } cs)
    else if c == '#' then .ok (withFragment base rest)
    else if isAnySlash c then
      if rest.head?.any isAnySlash then
        readAuthority base.scheme (if c == '/' && rest.head? == some '/' then rest.drop 1 else cs.dropWhile isAnySlash)
      else .ok (withPath base [] rest)
    else .ok (withPath base (openPath base.path.toList).1 cs)

-- A text with a scheme. A base of the same scheme takes part only where no authority follows.
def readSchemed (base : Option Url) (scheme : String) (cs : List Char) : Except UrlError Url :=
  if scheme == "file" then readFile (base.filter (·.scheme == "file")) cs
  else if isSpecial scheme then
    match base.filter (·.scheme == scheme) with
    | some base =>
      if (cs.takeWhile isAnySlash).length < 2 then readRelative base cs
      else readAuthority scheme (cs.dropWhile isAnySlash)
    | none => readAuthority scheme (cs.dropWhile isAnySlash)
  else
    let bare : Url := ⟨scheme, "", none, none, "", none, none⟩
    match cs with
    | '/' :: '/' :: rest => readAuthority scheme rest
    | '/' :: rest => .ok (withPath bare [] rest)
    | _ =>
      let path := String.ofList (encode isControl (cs.takeWhile (!endsPath ·)))
      .ok (withTail { bare with path := path } (cs.dropWhile (!endsPath ·)))

def readWith (base : Option Url) (text : List Char) : Except UrlError Url :=
  let cs := cleaned text
  match splitScheme cs with
  | some (scheme, rest) => readSchemed base scheme rest
  | none => match base with
    | none => .error .relativeWithoutBase
    | some base =>
      if cs.head? == some '#' then .ok (withFragment base (cs.drop 1))
      else if base.isOpaque then .error .relativeToOpaque
      else if base.scheme == "file" then readFile (some base) cs
      else readRelative base cs

def parse (text : String) : Except UrlError Url := readWith none text.toList

def join (base : Url) (reference : String) : Except UrlError Url := readWith (some base) reference.toList

end GuestSandbox.Url
