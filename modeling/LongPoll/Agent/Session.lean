import LongPoll.Agent.Resource
import LongPoll.Cache.Happening

/-!
A cache that watches a resource of an agent.

The session knows which request each query of the cache is, and what the agent's answer to it means
for the cache. What it does not know is the network: deliveries come from outside, one for each
request.
-/

namespace LongPoll.Agent

/-- A cache with its resource and the client to ask. -/
structure Session (K V : Type) where
  client : Client
  resource : Resource K V
  feed : Feed K V
  cache : Cache K V

namespace Session

variable {K V : Type}

/-- A session with a fresh cache. Unacceptable settings are the error. -/
def begin (client : Client) (resource : Resource K V) (settings : Settings) (base : Query)
    (consumer : Nat → Reaction) : Except Fault (Session K V) := do
  let feed := resource.feed settings base consumer
  feed.check
  return { client, resource, feed, cache := .initial }

def text (s : Session K V) : String := s.cache.text s.feed

/-- Add a listener that does nothing but listen. -/
def listen (name : Name) (s : Session K V) : Session K V :=
  { s with cache := (s.cache.join s.feed name fun _ => .idle).1 }

def start (s : Session K V) : Session K V := { s with cache := (s.cache.start s.feed true).1 }

/-- The time for which the worker pauses from now on, if it does. -/
def pause? (s : Session K V) : Option Nat :=
  match s.cache.worker with
  | .backingOff _ due | .resting _ due => some (due - s.cache.core.now)
  | _ => none

/-- The request that waits for a delivery, with its time limit. A request that cannot be made is
`none` inside. -/
def asking? (s : Session K V) : Option (Option Request × Option Duration) :=
  match s.cache.worker with
  | .fetching cycle limit =>
    match s.feed.base.forCycle cycle.requested s.feed.settings.watchSeconds with
    | .ok query => some (s.resource.request? s.client query, limit)
    | .error _ => none
  | _ => none

variable [DecidableEq K] [DecidableEq V]

def happen (h : Happening V) (s : Session K V) : Session K V :=
  { s with cache := s.cache.happen s.feed h }

/-- Let the worker move and its pauses pass, at most so many, until it asks. -/
def settleFor : Nat → Session K V → Session K V
  | 0, s => s
  | n + 1, s =>
    match s.cache.worker with
    | .spawned => settleFor n (s.happen .turn)
    | _ =>
      match s.pause? with
      | some nanos => settleFor n ((s.happen (.elapse nanos)).happen .turn)
      | none => s

/-- Let the worker move until it asks. After a failed cycle it pauses twice at most. -/
def settle (s : Session K V) : Session K V := settleFor 4 s

def deliver (delivery : Delivery) (s : Session K V) : Session K V :=
  (s.happen (.answer [] (s.resource.answer delivery))).settle

/-- Hand over deliveries, one for each request, until there is none left or no request is made. -/
def converse : List Delivery → Session K V → Session K V
  | [], s => s
  | d :: rest, s =>
    match s.asking? with
    | some (some _, _) => converse rest (s.deliver d)
    | _ => s

/-- Stop the cache and wait for its worker. -/
def shutdown (s : Session K V) : Session K V := s.happen .shutdown

end Session

end LongPoll.Agent
