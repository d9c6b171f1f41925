import LongPoll.Agent.Wire
import LongPoll.Program
import Std.Async.DNS
import Std.Async.Signal
import Std.Async.TCP
import Std.Async.Timer

/-!
The program itself: it connects to the agent, waits, and prints.

What is asked, what an answer means and what is printed is decided by the modules imported here.
-/

namespace LongPoll.Main

open Std.Async Std.Net

/-- What the program says about itself. -/
def usage : String :=
  String.intercalate "\n" [
    "Watch a resource of an agent and print every snapshot of it.", "",
    "  -a, --addr <ADDR>              address of the agent [default: " ++ Agent.defaultAddress ++
      "]",
    "      --kv <ROOT>                watch the key/value subtree under this root",
    "      --service <SERVICE>        watch the instances of this service",
    "      --passing                  only report passing instances (with --service)",
    "      --node <NODE>              watch the checks registered on this node",
    "      --state <STATE>            watch every check in this state",
    "      --init-timeout <SECONDS>   seconds to wait for the first snapshot [default: " ++
      Text.writeNatural CommandLine.Options.defaultPatience ++ "]",
    "  -h, --help                     print this help",
    "  -V, --version                  print the version"]

def socketAddress (address : IPAddr) (port : UInt16) : SocketAddress :=
  match address with
  | .v4 addr => .v4 ⟨addr, port⟩
  | .v6 addr => .v6 ⟨addr, port⟩

/-- The name of a host as the resolver wants it. -/
def hostName : Url.Host → String
  | .ipv6 pieces => String.ofList (Url.ipv6Text pieces)
  | host => String.ofList host.text

/-- Receive until the other side closes. -/
partial def receiveAll (socket : TCP.Socket.Client) (soFar : ByteArray) : Async ByteArray := do
  match ← socket.recv? 65536 with
  | none => return soFar
  | some bytes => receiveAll socket (soFar ++ bytes)

/-- Send a request and receive the answer. -/
def exchange (r : Agent.Request) : Async Agent.Delivery := do
  let some authority := r.url.authority | return none
  let port := (authority.port <|> Url.standardPort? r.url.scheme).getD 80
  let addresses ← DNS.getAddrInfo (hostName authority.host) (toString port)
  let some address := addresses[0]? | return none
  let socket ← TCP.Socket.Client.mk
  socket.connect (socketAddress address (.ofNat port))
  socket.send ⟨r.wire.toArray⟩
  return Agent.Reply.ofWire? (← receiveAll socket .empty).toList

/-- How a wait ends. -/
inductive Wake where
  | delivered (delivery : Agent.Delivery)
  | timeout
  | interrupted
  deriving Inhabited

/-- Sleep for so many nanoseconds, rounded up to milliseconds. A timer counts 64 bits of them. -/
def sleepFor (nanos : Nat) : Async Wake := do
  sleep (.ofNat (min ((nanos + 999999) / 1000000) (UInt64.size - 1)))
  return .timeout

/-- An exchange that ends in a delivery whatever happens. -/
def delivered (r : Agent.Request) : Async Wake := do
  try return .delivered (← exchange r)
  catch _ => return .delivered none

variable {K V : Type} [DecidableEq K] [DecidableEq V]

/-- Print the lines of the events after the first `seen`, and count them. -/
def printFrom (line : K → V → String) (seen : Nat) (s : Agent.Session K V) : IO Nat := do
  let events := s.cache.history.map Prod.snd
  let output ← IO.getStdout
  for text in (events.drop seen).flatMap (Program.eventLines s.resource line) do
    output.putStrLn text
  output.flush
  return events.length

/-- Wait for the first snapshot, and say so if there is none by then. -/
def awaitFirst (p : Program.Plan) (latest : IO.Ref (Agent.Session K V)) : Async Unit := do
  discard <| sleepFor (p.patience * 1000000000)
  if let some record := Program.stillWaiting? p (← latest.get) then
    (← IO.getStderr).putStrLn record.line

/-- Go on until interrupted. The session is left in `latest` for others to look at. -/
partial def follow (line : K → V → String) (interrupt : Async Wake)
    (latest : IO.Ref (Agent.Session K V)) (seen : Nat) (s : Agent.Session K V) : Async Unit := do
  latest.set s
  let seen ← printFrom line seen s
  let began ← IO.monoNanosNow
  let wake : Wake ←
    match s.asking?, s.pause? with
    | some (some request, none), _ => Async.race (delivered request) interrupt
    | some (some request, some limit), _ =>
      Async.race (Async.race (delivered request) (sleepFor limit.nanos)) interrupt
    | some (none, _), _ => pure (.delivered none)
    | none, some nanos => Async.race (sleepFor nanos) interrupt
    | none, none => interrupt
  let passed := (← IO.monoNanosNow) - began
  let s := s.happen (.elapse passed)
  match wake with
  | .interrupted => discard <| printFrom line seen s.shutdown
  | .timeout => follow line interrupt latest seen (s.happen .turn)
  | .delivered d => follow line interrupt latest seen (s.happen (.answer [] (s.resource.answer d)))

def watch (p : Program.Plan) (resource : Agent.Resource K V) (line : K → V → String) :
    IO UInt32 := do
  match Program.opening p resource with
  | .error fault =>
    (← IO.getStderr).putStrLn fault.message
    return 1
  | .ok session =>
    let signal ← Signal.Waiter.mk .sigint false
    let interrupted ← signal.wait
    let interrupt : Async Wake := do
      discard <| await interrupted
      return .interrupted
    let latest ← IO.mkRef session
    let work : Async Unit := do
      background (awaitFirst p latest)
      follow line interrupt latest 0 session
    work.block
    return 0

def run (p : Program.Plan) : IO UInt32 :=
  match p.target with
  | .subtree root => watch p (Agent.subtree root) Program.entryLine
  | .service name => watch p (Agent.instances name p.passing) Program.instanceLine
  | .node name => watch p (Agent.nodeChecks name) Program.nodeCheckLine
  | .state state => watch p (Agent.stateChecks state) Program.stateCheckLine

/-- The variables that the program looks at, with their values. -/
def environment : IO (List (String × String)) :=
  (Program.userAgentVariable :: Settings.variableNames).filterMapM fun name => do
    return (← IO.getEnv name).map (name, ·)

end LongPoll.Main

open LongPoll in
def main (arguments : List String) : IO UInt32 := do
  match CommandLine.read arguments with
  | .error misuse =>
    (← IO.getStderr).putStrLn ("error: " ++ misuse.message)
    return 2
  | .ok .help =>
    IO.println Main.usage
    return 0
  | .ok .version =>
    IO.println Agent.defaultUserAgent
    return 0
  | .ok (.watch options) =>
    let env ← Main.environment
    match Program.plan options (fun name => env.lookup name) with
    | .error fault =>
      (← IO.getStderr).putStrLn fault.message
      return 1
    | .ok p => Main.run p
