import LongPoll.Agent.Session
import LongPoll.CommandLine
import LongPoll.Settings.Environment

/-!
The program: watch one resource of an agent and print every snapshot of it.

What the program does apart from talking to the agent is decided here: what its arguments and its
environment ask it to watch, and which lines it prints.
-/

namespace LongPoll.Program

open LongPoll.Text

/-- Why the program gives up before it watches anything. -/
inductive Fault where
  | client (fault : Agent.ClientFault)
  | cache (fault : LongPoll.Fault)
  | noTarget
  deriving DecidableEq

namespace Fault

/-- A fault that is a text and nothing else. -/
def shownText (text : String) : String := "Custom(" ++ Quoted.encode text ++ ")"

def shown : Fault → String
  | client .badUserAgent => "Http"
  | client fault => shownText fault.message
  | cache (.settings text) => "Cache(Config(" ++ Quoted.encode text ++ "))"
  | cache fault => "Cache(" ++ fault.message ++ ")"
  | noTarget => shownText "nothing to watch: pass one of --kv, --service, --node or --state"

def message (f : Fault) : String := "Error: " ++ f.shown

end Fault

/-- What is to be done. -/
structure Plan where
  client : Agent.Client
  settings : Settings
  target : CommandLine.Target
  passing : Bool
  /-- How many seconds to wait for the first snapshot. -/
  patience : Nat

/-- The variable with the name that the program gives to itself. -/
def userAgentVariable : String := "CONSULWATCH_USER_AGENT"

/-- Make a plan from the options and the environment. -/
def plan (o : CommandLine.Options) (env : Settings.Environment) : Except Fault Plan := do
  let client ←
    (Agent.Client.ofAddress (o.address.getD Agent.defaultAddress) (env userAgentVariable)).mapError
      .client
  let settings ← (Settings.ofEnvironment env).mapError .cache
  match o.targets with
  | [] => throw .noTarget
  | target :: _ =>
    return {
      client, settings, target, passing := o.passing
      patience := o.patience.getD CommandLine.Options.defaultPatience }

/-! ### What is printed -/

def entryLine (key : String) (e : Kv.Entry) : String :=
  Quoted.encode key ++ " = " ++ Quoted.encode (e.text.getD "")

def instanceLine (key : Health.InstanceKey) (i : Health.Instance) : String :=
  key.serviceId ++ "@" ++ key.host ++ ":" ++ writeNatural key.port.toNat ++ " on " ++ i.node.name

def nodeCheckLine (key : String) (c : Health.Check) : String := key ++ ": " ++ c.status

def stateCheckLine (key : String) (c : Health.Check) : String :=
  key ++ " on " ++ c.node ++ ": " ++ c.status

/-- A snapshot in lines: how many entries there are, and then each of them. -/
def snapshotLines {K V : Type} (resource : Agent.Resource K V) (line : K → V → String)
    (s : Snapshot K V) : List String :=
  ("--- " ++ writeNatural s.size ++ " entries") ::
    (resource.sorted s).map fun e => line e.1 e.2

/-- What is printed at an event. -/
def eventLines {K V : Type} (resource : Agent.Resource K V) (line : K → V → String) :
    Event K V → List String
  | .notified _ _ s => snapshotLines resource line s
  | _ => []

/-- What is said when the wait for the first snapshot ends without one. The program goes on. -/
def stillWaiting? {K V : Type} (p : Plan) (session : Agent.Session K V) : Option LogRecord :=
  if session.cache.core.lifecycle.initialized then none
  else
    some ⟨.warn, "No snapshot yet, still waiting", [("timeout_secs", writeNatural p.patience)]⟩

/-! ### One run -/

/-- A session that prints, up to its first request. -/
def opening {K V : Type} [DecidableEq K] [DecidableEq V] (p : Plan)
    (resource : Agent.Resource K V) : Except Fault (Agent.Session K V) := do
  let session ←
    (Agent.Session.begin p.client resource p.settings .blank fun _ => .idle).mapError .cache
  return ((session.listen "printer").start).settle

end LongPoll.Program
