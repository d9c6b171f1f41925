import LongPoll.Cache.Poll

/-!
What can happen to a cache, and the state after it.

Everything that reaches a cache from outside is a happening: the calls of its owner, the answers of
its source, time, and the turns that the worker is given. Happenings come in any order. A run is a
list of them, and `replay` gives the state at its end.
-/

namespace LongPoll

/-- What can happen to a cache. -/
inductive Happening (V : Type) where
  /-- The owner starts it. Without a runtime there is nothing to run the worker on. -/
  | start (runtime : Bool)
  /-- The owner stops it, or lets go of it. -/
  | stop
  /-- The owner stops it and waits for the worker to end. -/
  | shutdown
  /-- A listener is added. -/
  | join (name : Name) (react : Nat → Reaction)
  /-- A listener is removed. -/
  | leave (name : Name)
  /-- The source answers the query, after acts of its own on the cache. -/
  | answer (acts : List Act) (answer : Answer V)
  /-- Nanoseconds pass. -/
  | elapse (nanos : Nat)
  /-- The worker gets its turn. -/
  | turn

namespace Cache

variable {K V : Type} (feed : Feed K V)

def start (runtime : Bool) (c : Cache K V) : Cache K V × Except Fault Unit :=
  if !runtime then (c, .error .noRuntime)
  else
    match c.core.lifecycle.start with
    | .error found => (c, .error (.misuse found))
    | .ok lifecycle =>
      let c := (c.modify fun core => { core with lifecycle }).becomes .spawned
      (c.log (feed.record .info "Watch cache starting" []), .ok ())

/-- Stop it. The worker ends at its next turn. -/
def stop (c : Cache K V) : Cache K V := c.modify (Core.stop feed)

def join (name : Name) (react : Nat → Reaction) (c : Cache K V) : Cache K V × Outcome Unit :=
  let (shared, outcome) :=
    Scene.join (Shared.setting feed) Shared.joinGate name react c.shared
  ({ c with shared }, outcome)

/-- Remove the listener that a name means. Says whether it was there, or `none` if the name means
nobody. -/
def leave (name : Name) (c : Cache K V) : Cache K V × Option Bool :=
  let (audience, found) := c.shared.audience.leave name
  ({ c with shared := { c.shared with audience } }, found)

/-- What is said about the worker that a panic tore down. -/
def crashText : Panic → String
  | .text message => "task N panicked with message " ++ Text.Quoted.encode message
  | .other => "task N panicked"

/-- Say once that the worker was torn down. -/
def reportCrash (c : Cache K V) : Cache K V :=
  match c.worker with
  | .crashed p =>
    (c.log (feed.record .warn "Poll loop ended abnormally" [("error", crashText p)])).becomes .ended
  | _ => c

variable [DecidableEq K] [DecidableEq V]

/-- Stop it and wait for the worker to end. -/
def shutdown (c : Cache K V) : Cache K V := ((c.stop feed).turn feed).reportCrash feed

/-- The source answers. An answer that nobody waits for is lost. The time limit is what the runtime
promises of a timeout, on one exact clock: an answer up to the limit is taken, and one after it is
too late. In what order a runtime looks at the answer and at the timer, and how coarsely the timer
ticks, is not modelled. -/
def receive (acts : List Act) (answer : Answer V) (c : Cache K V) : Cache K V :=
  match c.worker with
  | .fetching cycle limit =>
    if (expiry cycle limit).any fun e => e.1 < c.core.now then c.turn feed
    else
      let c := { c with shared := c.shared.performAll (Shared.setting feed) acts }
      c.finish feed cycle answer
  | _ => c

/-- The state after a happening. -/
def happen (h : Happening V) (c : Cache K V) : Cache K V :=
  match h with
  | .start runtime => (c.start feed runtime).1
  | .stop => c.stop feed
  | .shutdown => c.shutdown feed
  | .join name react => (c.join feed name react).1
  | .leave name => (c.leave name).1
  | .answer acts answer => c.receive feed acts answer
  | .elapse nanos => c.modify fun core => { core with now := core.now + nanos }
  | .turn => c.turn feed

/-- The state after a run of happenings. -/
def replay (run : List (Happening V)) (c : Cache K V) : Cache K V :=
  run.foldl (fun c h => c.happen feed h) c

end Cache

end LongPoll
