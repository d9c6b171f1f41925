import LongPoll.Query
import LongPoll.Text.HeaderValue
import LongPoll.Text.Quoted
import LongPoll.Url.Parser

/-!
The client of an agent: where it is, and what is sent to it.
-/

namespace LongPoll.Agent

open LongPoll.Text

/-- Why there is no client. -/
inductive ClientFault where
  /-- The text is no address. -/
  | badAddress (text : String) (fault : Url.Fault)
  /-- Nothing can be appended to the address. -/
  | bareAddress (url : Url)
  /-- The user agent cannot stand in a header. -/
  | badUserAgent
  deriving DecidableEq

namespace ClientFault

def message : ClientFault → String
  | badAddress text fault => "invalid agent address " ++ Quoted.encode text ++ ": " ++ fault.message
  | bareAddress url => "agent address " ++ String.ofList url.text ++ " cannot hold a path"
  | badUserAgent => "builder error"

end ClientFault

/-- A client. -/
structure Client where
  address : Url
  userAgent : String
  deriving DecidableEq

/-- How a client calls itself if nothing else is said. -/
def defaultUserAgent : String := "consulwatch/0.1.0"

/-- Where an agent is if nothing else is said. -/
def defaultAddress : String := "http://127.0.0.1:8500"

/-- What is sent. -/
structure Request where
  method : String
  url : Url
  /-- The access token. -/
  token : Option String
  userAgent : String
  deriving DecidableEq

namespace Request

def target (r : Request) : String := String.ofList r.url.target

end Request

def isHeaderText (s : String) : Bool := HeaderValue.isLegal (Utf8.encodeString s)

def headerText (s : String) : String :=
  Utf8.decodeLossyString (HeaderValue.trimmed (Utf8.encodeString s))

namespace Client

/-- A client for the agent at an address. -/
def ofAddress (address : String) (userAgent : Option String) : Except ClientFault Client :=
  match Url.parse address with
  | .error fault => .error (.badAddress address fault)
  | .ok url =>
    if url.isBare then .error (.bareAddress url)
    else
      let userAgent := userAgent.getD defaultUserAgent
      if isHeaderText userAgent then .ok ⟨url, userAgent⟩ else .error .badUserAgent

/-- The address of a resource of the agent. -/
def url (c : Client) (segments : List String) : Url := c.address.extend segments

/-- The request for a resource, with parameters after those of the query. A token that cannot stand
in a header makes it impossible. -/
def request? (c : Client) (segments : List String) (query : Query)
    (extra : List (String × String)) : Option Request :=
  if query.token.all isHeaderText then
    some {
      method := "GET"
      url := (c.url segments).addParameters (query.parameters ++ extra)
      token := query.token.map headerText
      userAgent := headerText c.userAgent }
  else none

end Client

end LongPoll.Agent
