import LongPoll.Cache

/-!
The cycles of the worker.

A cycle asks a blocking query and ends in one of three ways: a snapshot is published, nothing has
changed, or it has failed. After a failed cycle the worker pauses; and the next cycle does not begin
before the least delay has passed since this one began. Wherever the worker would go on, it first
looks whether it was told to end.

`turn` moves the worker as far as it gets without an answer and without time.
-/

namespace LongPoll

namespace Cache

variable {K V : Type} (feed : Feed K V)

/-- The worker was told to end. -/
def isCancelled (c : Cache K V) : Bool := c.core.cancelled

def exit (c : Cache K V) : Cache K V :=
  (c.log (feed.record .info "Poll loop exited" [])).becomes .ended

/-- The worker is torn down by a panic. -/
def crash (p : Panic) (c : Cache K V) : Cache K V := c.becomes (.crashed p)

def cycleRecord (cycle : Cycle) (how : CycleEnd) (now : Nat) : LogRecord :=
  feed.record .debug "Poll cycle complete"
    [("requested", Index.shown cycle.requested), ("outcome", how.name),
      ("elapsed_ms", Text.writeNatural ((now - cycle.started) / 1000000))]

def noteEnd (cycle : Cycle) (how : CycleEnd) (c : Cache K V) : Cache K V :=
  (c.record (.ended cycle how)).log (cycleRecord feed cycle how c.core.now)

/-! ### Failure -/

def failureMessage : String := "Error getting response from " ++ feed.source

/-- What the callback for failed cycles does about the latest one; nothing if the log has it. -/
def reactionToFailure (c : Cache K V) : Reaction :=
  match feed.settings.errorLog with
  | .custom => feed.consumer c.core.stats.failed
  | _ => .idle

/-- Report a failed cycle. The callback may panic. -/
def report (fault : Fault) (c : Cache K V) : Cache K V × Option Panic :=
  let c := c.record (.ofFailure feed.settings.errorLog (failureMessage feed) fault)
  let reaction := c.reactionToFailure feed
  let c := { c with shared := c.shared.performAll (Shared.setting feed) reaction.acts }
  match reaction.ending with
  | .panicked p => (c, some p)
  | _ => (c, none)

def fail (cycle : Cycle) (fault : Fault) (c : Cache K V) : Cache K V :=
  let (c, panic) := (c.count fun s => { s with failed := s.failed + 1 }).report feed fault
  match panic with
  | some p => c.crash p
  | none =>
    let c := c.noteEnd feed cycle .failed
    if c.isCancelled then c.exit feed
    else c.becomes (.backingOff cycle (c.core.now + feed.settings.backoff.nanos))

/-! ### From one cycle to the next -/

def beginCycle (c : Cache K V) : Cache K V :=
  let cycle : Cycle := ⟨c.cursor.index, c.core.now⟩
  let c := c.record (.began cycle)
  match feed.base.forCycle cycle.requested feed.settings.watchSeconds with
  | .error fault => c.fail feed cycle fault
  | .ok query =>
    match feed.settings.readLimit with
    | .error overflow => c.crash (.text overflow.message)
    | .ok limit => (c.record (.asked query limit)).becomes (.fetching cycle limit)

/-- Begin the next cycle unless told to end. -/
def goOn (c : Cache K V) : Cache K V :=
  if c.isCancelled then c.exit feed else c.beginCycle feed

/-- Let the least delay since the begin of a cycle pass, and go on. -/
def rest (cycle : Cycle) (c : Cache K V) : Cache K V :=
  let due := cycle.started + feed.settings.minDelay.nanos
  if c.core.now < due then
    if c.isCancelled then c.exit feed else c.becomes (.resting cycle due)
  else c.goOn feed

/-! ### Responses -/

variable [DecidableEq K] [DecidableEq V]

def noteUnchanged (c : Cache K V) : Cache K V :=
  c.count fun s => { s with unchanged := s.unchanged + 1 }

/-- The first response is applied: note that the cache is ready, and say so. -/
def settle (c : Cache K V) : Cache K V × Bool :=
  let (lifecycle, first) := c.core.lifecycle.settle
  (c.modify fun core => { core with lifecycle }, first)

/-- Hold an index for the next query. -/
def hold (next : Option Index) (c : Cache K V) : Cache K V :=
  { c.count (fun s => { s with lastIndex := next }) with cursor := { c.cursor with index := next } }

/-- Hand a snapshot to the readers. -/
def issue (candidate : Snapshot K V) (c : Cache K V) : Cache K V :=
  (c.modify fun core => { core with current := ⟨core.current.serial + 1, candidate⟩ }).record
    (.published candidate)

def broadcastRecord (entries : Nat) : Outcome Nat → Option LogRecord
  | .done delivered =>
    some (feed.record .debug "Published snapshot"
      [("entries", Text.writeNatural entries), ("delivered", Text.writeNatural delivered)])
  | .refused fault =>
    some (feed.record .warn "Failed to publish snapshot" [("error", fault.message)])
  | .panicked _ => none

def announce (candidate : Snapshot K V) (c : Cache K V) : Cache K V :=
  let (shared, outcome) :=
    c.shared.broadcast (Shared.setting feed) Shared.broadcastGate candidate
  let c := { c with shared }
  match broadcastRecord feed candidate.size outcome with
  | some r => c.log r
  | none => c

/-- Publish a snapshot: readers first, then the audience. -/
def publish (candidate : Snapshot K V) (c : Cache K V) : Cache K V :=
  let (c, first) := (c.issue candidate).settle
  let c :=
    if first then
      c.log (feed.record .info "Watch cache initialized"
        [("entries", Text.writeNatural candidate.size)])
    else c
  let c := c.announce feed candidate
  { c.count (fun s => { s with published := s.published + 1 }) with
    cursor := { c.cursor with published := some candidate } }

/-- The candidate differs from what was published last. -/
def isNews (candidate : Snapshot K V) (c : Cache K V) : Bool :=
  match c.cursor.published with
  | none => true
  | some published => !published.agrees candidate

/-- Build the snapshot of a response and publish it if it is news. Where the key of an entry
panics, nothing but the log has changed. -/
def absorb (entries : List V) (next : Option Index) (c : Cache K V) :
    Cache K V × Except Panic CycleEnd :=
  let built := Snapshot.build feed.keyOf entries
  let c := built.repeated.foldl (fun c k => c.log (Snapshot.repeatedRecord feed.showKey k)) c
  match built.outcome with
  | .error p => (c, .error p)
  | .ok candidate =>
    let c := c.hold next
    if c.isNews candidate then (c.publish feed candidate, .ok .published)
    else (c.settle.1.noteUnchanged, .ok .unchanged)

/-- The record of an index that went back. -/
def backwardRecord (last : Option Index) (returned : Index) : LogRecord :=
  feed.record .warn "Index went backwards, restarting the watch without an index"
    [("last", Index.shown last), ("returned", returned.text)]

def noteContact (c : Cache K V) : Cache K V :=
  c.count fun s => { s with succeeded := s.succeeded + 1, lastContact := some c.core.now }

/-- Apply a response. One that comes after the worker was told to end is dropped, and one with the
index that is held changes nothing. -/
def apply (entries : List V) (returned : Index) (c : Cache K V) :
    Cache K V × Except Panic CycleEnd :=
  if c.isCancelled then (c, .ok .unchanged)
  else
    let c := c.noteContact
    match Index.movement c.cursor.index returned with
    | .still =>
      if c.cursor.published.isSome then (c.noteUnchanged, .ok .unchanged)
      else c.absorb feed entries (some returned)
    | .backward =>
      (c.log (backwardRecord feed c.cursor.index returned)).absorb feed entries none
    | .forward next => c.absorb feed entries (some next)

def finish (cycle : Cycle) (answer : Answer V) (c : Cache K V) : Cache K V :=
  match answer with
  | .panicked p => c.crash p
  | .failed fault => c.fail feed cycle (.fetch fault)
  | .entries list index =>
    match c.apply feed list index with
    | (c, .error p) => c.crash p
    | (c, .ok how) => (c.noteEnd feed cycle how).rest feed cycle

/-! ### Turns -/

/-- When an unanswered query runs out of time. -/
def expiry (cycle : Cycle) (limit : Option Duration) : Option (Nat × Duration) :=
  limit.map fun d => (cycle.started + d.nanos, d)

def abandon (c : Cache K V) : Cache K V := c.record (.abandoned c.isCancelled)

/-- The worker moves as far as it gets. -/
def turn (c : Cache K V) : Cache K V :=
  match c.worker with
  | .absent | .ended | .crashed _ => c
  | .spawned =>
    (c.log (feed.record .info "Poll loop started"
      [("watch_seconds", Text.writeNatural feed.settings.watchSeconds)])).goOn feed
  | .fetching cycle limit =>
    if c.isCancelled then c.abandon.exit feed
    else
      match expiry cycle limit with
      | none => c
      | some (due, d) =>
        if due ≤ c.core.now then c.abandon.fail feed cycle (.fetch (.timedOut d)) else c
  | .backingOff cycle due =>
    if c.isCancelled then c.exit feed else if due ≤ c.core.now then c.rest feed cycle else c
  | .resting _ due =>
    if c.isCancelled then c.exit feed else if due ≤ c.core.now then c.goOn feed else c

/-- The next moment at which a turn would move the worker by itself. -/
def due? (c : Cache K V) : Option Nat :=
  match c.worker with
  | .fetching cycle limit => (expiry cycle limit).map Prod.fst
  | .backingOff _ due => some due
  | .resting _ due => some due
  | _ => none

end Cache

end LongPoll
