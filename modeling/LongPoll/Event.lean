import LongPoll.Query
import LongPoll.Settings
import LongPoll.Snapshot

/-!
What callbacks do, and what happens to a cache.

A callback is known by what it does each time it is called: some acts on the cache, and then an
ending. The history of a cache is the list of its events.
-/

namespace LongPoll

/-- The name under which a listener is added. -/
abbrev Name := String

/-- Who a listener is. Several can have one name, over time or at once; the number tells them
apart, for no number is given twice. -/
structure Listener where
  id : Nat
  name : Name
  deriving DecidableEq, Repr

namespace Listener

instance : Coe Listener Name := ⟨name⟩

end Listener

/-- What a callback can do to the cache while it runs. -/
inductive Act where
  /-- Remove the listener that is known under a name. -/
  | remove (target : Name)
  /-- Stop the cache. -/
  | stop
  /-- Look at the phase and the current snapshot. -/
  | observe
  deriving DecidableEq, Repr

/-- How a callback ends. -/
inductive Ending where
  | returned
  | failed (text : String)
  | panicked (payload : Panic)
  deriving DecidableEq, Repr

/-- What a callback does in one call. -/
structure Reaction where
  acts : List Act
  ending : Ending
  deriving DecidableEq, Repr

namespace Reaction

def idle : Reaction := ⟨[], .returned⟩

end Reaction

/-- How a cycle of polling ends. -/
inductive CycleEnd where
  | published
  | unchanged
  | failed
  deriving DecidableEq, Repr

namespace CycleEnd

def name : CycleEnd → String
  | published => "Published"
  | unchanged => "Unchanged"
  | failed => "Failed"

end CycleEnd

/-- A cycle of polling: the index that its query carries, and when it began. -/
structure Cycle where
  requested : Option Index
  started : Nat
  deriving DecidableEq, Repr

/-- What happens to a cache. The first three kinds are steps of its worker that nobody sees; they
are there so that a history tells everything. -/
inductive Event (K V : Type) where
  | began (cycle : Cycle)
  | ended (cycle : Cycle) (how : CycleEnd)
  /-- A snapshot becomes the current one. -/
  | published (snapshot : Snapshot K V)
  | log (record : LogRecord)
  /-- A listener is called, for the `call`-th time. -/
  | notified (listener : Listener) (call : Nat) (snapshot : Snapshot K V)
  /-- A callback removed a listener, or found it gone. -/
  | removed (target : Name) (found : Bool)
  /-- A callback looked at the cache. -/
  | observed (phase : Phase) (snapshot : Snapshot K V)
  /-- A blocking query is sent. -/
  | asked (query : Query) (limit : Option Duration)
  /-- A blocking query is given up before it is answered. -/
  | abandoned (cancelled : Bool)
  /-- A failed cycle is reported to the owner. -/
  | reported (severity : Level) (message : String) (fault : Fault)

namespace Event

variable {K V : Type}

/-- The report of a failure, where the owner wants it. The log gets it at the level that the owner
chose; the owner's callback gets it with its own severity. -/
def ofFailure (target : ErrorLog) (message : String) (fault : Fault) : Event K V :=
  match target with
  | .error => .log ⟨.error, message, [("error", fault.message)]⟩
  | .warn => .log ⟨.warn, message, [("error", fault.message)]⟩
  | .custom => .reported fault.severity message fault

/-- The log hides what is too talkative, and the steps of the worker are hidden anyway. -/
def isShownAt (limit : Level) : Event K V → Bool
  | .began _ | .ended _ _ | .published _ => false
  | .log r => r.isShownAt limit
  | _ => true

end Event

end LongPoll
