import GuestSandbox.Failure
import GuestSandbox.Fetch.Message
import GuestSandbox.Fetch.Options
import GuestSandbox.Policy
import GuestSandbox.Text.Quoted
import GuestSandbox.Url.Parser

namespace GuestSandbox.Fetch

def checkedUrl (url : String) : Except Failure Url :=
  match Url.parse (Text.trim url) with
  | .error error => .error (.network ("invalid url " ++ Text.quoted url ++ ": " ++ error.message))
  | .ok parsed =>
    if parsed.isHttp then .ok parsed
    else .error (.network ("unsupported url scheme " ++ Text.quoted parsed.scheme))

def checkedMethod : Option String → Except Failure Method
  | none => .ok .get
  | some text => match Method.read? text with
    | some method => .ok method
    | none => .error (.network ("unsupported method " ++ Text.quoted text))

def checkedRedirect : Option String → Except Failure Redirect
  | none => .ok .follow
  | some text => match Redirect.ofName? text with
    | some redirect => .ok redirect
    | none => .error (.network ("unsupported redirect mode " ++ Text.quoted text))

-- A guest may ask for fewer redirects than the policy allows, never for more.
def checkedMaxRedirects (greatest : Nat) : Option Int → Except Failure Nat
  | none => .ok greatest
  | some (.ofNat asked) => .ok (min asked greatest)
  | some asked => .error (.network ("maxRedirects must be non-negative, got " ++ toString asked))

def plan (url : String) (options : FetchOptions) (policy : Policy) : Except Failure Request := do
  let parsed ← checkedUrl url
  let method ← checkedMethod options.method
  let redirect ← checkedRedirect options.redirect
  let maxRedirects ← checkedMaxRedirects policy.maxRedirects options.maxRedirects
  pure {
    method, url := parsed.text, headers := options.headers, body := options.body, redirect, maxRedirects,
    bodyLimit := policy.netMaxResponseBytes }

end GuestSandbox.Fetch
