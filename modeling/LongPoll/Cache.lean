import LongPoll.Audience
import LongPoll.Feed

/-!
The state of a cache, and what its owner and its callbacks do to it.

The state has a part that everybody shares, with the audience in it, and a part of the worker. The
worker polls the source, one cycle after the other; where it waits is a value of `Worker`. Nothing
here runs by itself. Time is a number that grows, and the worker moves when it is given its turn
(`LongPoll.Cache.Happening`).
-/

namespace LongPoll

/-- What was counted and noted so far. -/
structure Stats where
  /-- Responses taken. -/
  succeeded : Nat
  /-- Cycles failed. -/
  failed : Nat
  /-- Responses that changed nothing. -/
  unchanged : Nat
  /-- Snapshots published. -/
  published : Nat
  /-- The index that the next query will carry. -/
  lastIndex : Option Index
  /-- When the last response was taken. -/
  lastContact : Option Nat
  deriving DecidableEq, Repr

namespace Stats

def none : Stats := ⟨0, 0, 0, 0, .none, .none⟩

end Stats

/-- What there is to see of a cache at one moment, its audience aside. -/
structure View (K V : Type) where
  lifecycle : Lifecycle
  /-- The worker is told to end. -/
  cancelled : Bool
  /-- The snapshot that readers get. -/
  current : Issue K V
  stats : Stats
  /-- The time, in nanoseconds. -/
  now : Nat

namespace View

def initial {K V : Type} : View K V := ⟨.initial, false, ⟨0, .empty⟩, .none, 0⟩

end View

/-- An event, and the view of the cache when it happened. -/
structure Moment (K V : Type) where
  view : View K V
  event : Event K V

/-- The shared part of a cache, its audience aside. -/
structure Core (K V : Type) extends View K V where
  /-- All that happened, latest first. -/
  moments : List (Moment K V)

namespace Core

variable {K V : Type}

def initial : Core K V := ⟨.initial, []⟩

/-- All events with their times, latest first. -/
def history (c : Core K V) : List (Nat × Event K V) :=
  c.moments.map fun m => (m.view.now, m.event)

def record (e : Event K V) (c : Core K V) : Core K V :=
  { c with moments := ⟨c.toView, e⟩ :: c.moments }

/-- Stop, for good. The log hears of it the first time. -/
def stop (feed : Feed K V) (c : Core K V) : Core K V :=
  let (lifecycle, first) := c.lifecycle.stop
  let c := { c with lifecycle, cancelled := true }
  if first then c.record (.log (feed.record .info "Watch cache stopped" [])) else c

end Core

/-- The shared part of a cache. -/
abbrev Shared (K V : Type) := Scene (Core K V) K V

namespace Shared

variable {K V : Type}

/-- Change what surrounds the audience. -/
def modify (f : Core K V → Core K V) (s : Shared K V) : Shared K V :=
  { s with around := f s.around }

def perform (feed : Feed K V) : Act → Shared K V → Shared K V
  | .remove target, s => s.removeBy ⟨Core.record, fun _ s => s⟩ target
  | .stop, s => s.modify (Core.stop feed)
  | .observe, s =>
    s.modify fun c => c.record (.observed c.lifecycle.phase c.current.content)

/-- How a cache surrounds its audience. -/
def setting (feed : Feed K V) : Setting (Core K V) K V where
  record := Core.record
  perform := perform feed

/-- A listener that joins hears the latest snapshot unless the cache is stopped. -/
def joinGate : Gate (Core K V) K V :=
  fun _ s => if s.around.lifecycle.isStopped then .closed else .open

/-- A broadcast goes on until the worker is told to end. -/
def broadcastGate : Gate (Core K V) K V :=
  fun _ s => if s.around.cancelled then .closed else .open

end Shared

/-- What the worker keeps from one cycle to the next. -/
structure Cursor (K V : Type) where
  /-- The index that the next query will carry. -/
  index : Option Index
  /-- The snapshot published last. -/
  published : Option (Snapshot K V)

namespace Cursor

def initial {K V : Type} : Cursor K V := ⟨none, none⟩

end Cursor

/-- Where the worker is. -/
inductive Worker where
  | absent
  /-- About to run for the first time. -/
  | spawned
  /-- Waiting for an answer, at most for the limit. -/
  | fetching (cycle : Cycle) (limit : Option Duration)
  /-- Pausing after a failed cycle, until `due`. -/
  | backingOff (cycle : Cycle) (due : Nat)
  /-- Pausing until the next cycle may begin, at `due`. -/
  | resting (cycle : Cycle) (due : Nat)
  | ended
  | crashed (payload : Panic)

/-- A cache. -/
structure Cache (K V : Type) where
  shared : Shared K V
  cursor : Cursor K V
  worker : Worker

namespace Cache

variable {K V : Type}

def initial : Cache K V := ⟨⟨.empty, .initial⟩, .initial, .absent⟩

/-- The shared part, its audience aside. -/
def core (c : Cache K V) : Core K V := c.shared.around

/-- The snapshot that readers get. -/
def snapshot (c : Cache K V) : Snapshot K V := c.core.current.content

def listeners (c : Cache K V) : Nat := c.shared.audience.size

/-- All events with their times, in order. -/
def history (c : Cache K V) : List (Nat × Event K V) := c.core.history.reverse

/-- Change the shared part, its audience aside. -/
def modify (f : Core K V → Core K V) (c : Cache K V) : Cache K V :=
  { c with shared := c.shared.modify f }

/-- Change the counters. -/
def count (f : Stats → Stats) (c : Cache K V) : Cache K V :=
  c.modify fun core => { core with stats := f core.stats }

def record (e : Event K V) (c : Cache K V) : Cache K V := c.modify (Core.record e)

def log (r : LogRecord) (c : Cache K V) : Cache K V := c.record (.log r)

/-- Let the worker wait here, or end. -/
def becomes (worker : Worker) (c : Cache K V) : Cache K V := { c with worker }

def text (feed : Feed K V) (c : Cache K V) : String :=
  "WatchCache \x7b source: " ++ Text.Quoted.encode feed.source ++ ", state: " ++
    c.core.lifecycle.phase.title ++ ", listeners: " ++ Text.writeNatural c.listeners ++ ", .. \x7d"

end Cache

end LongPoll
