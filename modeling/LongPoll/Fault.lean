import LongPoll.Duration
import LongPoll.Lifecycle
import LongPoll.Text.HeaderValue

/-!
What can go wrong, and how it is said.
-/

namespace LongPoll

/-- Which part of an answer could not be read. -/
inductive Unreadable where
  /-- The body, for a reason in words. -/
  | body (reason : String)
  /-- The index, which was given by these bytes. -/
  | index (value : List UInt8)
  deriving DecidableEq, Repr

namespace Unreadable

def message : Unreadable → String
  | body reason => reason
  | index value => "malformed X-Consul-Index header: " ++ Text.HeaderValue.shown value

end Unreadable

/-- Why one blocking query gave no entries. -/
inductive FetchFault where
  /-- The agent answered with a status other than success. -/
  | status (code : Nat) (body : String)
  /-- No complete answer arrived. -/
  | transport (text : String)
  /-- The answer could not be read. -/
  | undecodable (part : Unreadable)
  /-- No answer arrived in time. -/
  | timedOut (limit : Duration)
  /-- The answer carried no index. -/
  | noIndex
  /-- A source of another kind failed. -/
  | source (text : String)
  deriving DecidableEq

namespace FetchFault

def message : FetchFault → String
  | status code body => "source responded with HTTP " ++ Text.writeNatural code ++ ": " ++ body
  | transport text => "transport failure: " ++ text
  | undecodable part => "failed to decode response: " ++ part.message
  | timedOut limit => "blocking query did not complete within " ++ limit.text
  | noIndex => "response carried no index"
  | source text => text

end FetchFault

/-- Why the cache refused a call or a cycle failed. -/
inductive Fault where
  /-- It was started in a phase other than latent. -/
  | misuse (found : Phase)
  /-- Its settings are not acceptable. -/
  | settings (text : String)
  /-- The base query sets a field that belongs to the cache. -/
  | reserved (field : String)
  /-- A blocking query failed. -/
  | fetch (fault : FetchFault)
  /-- A part of it was left unusable by a callback that panicked. -/
  | poisoned (text : String)
  /-- There is nothing to run its poll loop on. -/
  | noRuntime
  deriving DecidableEq

/-- How much attention a report asks for. -/
inductive Level where
  | error
  | warn
  | info
  | debug
  deriving DecidableEq, Repr

namespace Level

def name : Level → String
  | error => "ERROR"
  | warn => "WARN"
  | info => "INFO"
  | debug => "DEBUG"

/-- Higher is more talkative. -/
def verbosity : Level → Nat
  | error => 0
  | warn => 1
  | info => 2
  | debug => 3

end Level

namespace Fault

/-- An unacceptable value of a setting. -/
def ofSetting (field reason : String) : Fault := .settings (field ++ ": " ++ reason)

def ofPoisoned (part : String) : Fault :=
  .poisoned (part ++ " - this indicates a prior panic, cache may be in an inconsistent state")

def message : Fault → String
  | misuse found => "cache cannot be started from state " ++ found.name
  | settings text => "invalid cache configuration: " ++ text
  | reserved field =>
    "base query options must not set `" ++ field ++ "`, it is managed by the cache"
  | fetch fault => fault.message
  | poisoned text => text
  | noRuntime => "no tokio runtime available to spawn the poll loop"

/-- A failed query passes by itself; everything else is an error. -/
def severity : Fault → Level
  | fetch _ => .warn
  | _ => .error

end Fault

end LongPoll
