import LongPoll.Cache.Happening

/-!
A cache with a scripted source, on a clock of its own.

The script says how each blocking query is answered, and after what time; a query waits while the
script is empty. The clock moves only while a step waits, and then it jumps from one moment at which
something is due to the next. It ticks in milliseconds: what is due between two ticks happens at the
later one.

Of two things that are due at one moment an answer comes before the time limit of its query, and the
end of a wait before everything else. After each step the cache runs on until it waits for time or
for the script.
-/

namespace LongPoll

/-- How a query is answered. -/
structure Cue (V : Type) where
  /-- After so many milliseconds. -/
  delay : Nat
  /-- What the source does to the cache first. -/
  acts : List Act
  answer : Answer V

/-- A cache under rehearsal. -/
structure Rehearsal (K V : Type) where
  feed : Feed K V
  cache : Cache K V
  script : List (Cue V)
  /-- The cue taken for the query under way, and when it is due. -/
  pending : Option (Nat × Cue V)
  /-- The snapshot that was looked at last. -/
  seen : Issue K V
  /-- The owner has let go of the cache. -/
  gone : Bool

namespace Rehearsal

variable {K V : Type}

/-- A rehearsal with a fresh cache. Unacceptable settings are the error. -/
def begin (feed : Feed K V) (script : List (Cue V)) : Except Fault (Rehearsal K V) := do
  feed.check
  let cache : Cache K V := .initial
  return { feed, cache, script, pending := none, seen := cache.core.current, gone := false }

def now (r : Rehearsal K V) : Nat := r.cache.core.now

/-- The first tick that is not before a moment. -/
def tick (moment : Nat) : Nat := (moment + 999999) / 1000000 * 1000000

def isAsking (r : Rehearsal K V) : Bool :=
  match r.cache.worker with
  | .fetching _ _ => !r.cache.isCancelled
  | _ => false

/-- The worker would move if it had its turn. -/
def isDue (r : Rehearsal K V) : Bool :=
  match r.cache.worker with
  | .absent | .ended | .crashed _ => false
  | .spawned => true
  | _ => r.cache.isCancelled || r.cache.due?.any fun due => tick due ≤ r.now

/-- The next moment at which something is due by itself. -/
def nextDue? (r : Rehearsal K V) : Option Nat :=
  match r.cache.due?, if r.isAsking then r.pending.map Prod.fst else none with
  | some a, some b => some (tick (min a b))
  | some a, none => some (tick a)
  | none, some b => some (tick b)
  | none, none => none

variable [DecidableEq K] [DecidableEq V]

/-- The worker has its turn. A query given up takes its cue with it. -/
def turn (r : Rehearsal K V) : Rehearsal K V :=
  { r with cache := r.cache.turn r.feed, pending := none }

/-- One more thing that happens without time, if there is any. -/
def step? (r : Rehearsal K V) : Option (Rehearsal K V) :=
  if r.isAsking then
    match r.pending, r.script with
    | some (ready, cue), _ =>
      if ready ≤ r.now then
        some { r with cache := r.cache.receive r.feed cue.acts cue.answer, pending := none }
      else if r.isDue then some r.turn
      else none
    | none, cue :: script =>
      some { r with pending := some (r.now + cue.delay * 1000000, cue), script }
    | none, [] => if r.isDue then some r.turn else none
  else if r.isDue then some r.turn
  else none

/-- Run on, for at most so many things. -/
def runFor : Nat → Rehearsal K V → Rehearsal K V
  | 0, r => r
  | n + 1, r =>
    match r.step? with
    | none => r
    | some r' => runFor n r'

/-- Run on until the cache waits for time or for the script. Each cue takes two things, and between
two cues at most one turn comes in. -/
def runOn (r : Rehearsal K V) : Rehearsal K V := runFor (3 * r.script.length + 9) r

def setClock (moment : Nat) (r : Rehearsal K V) : Rehearsal K V :=
  { r with cache := r.cache.happen r.feed (.elapse (moment - r.now)) }

/-- Let time pass until a moment, with at most so many jumps. Everything due then happens. -/
def passFor : Nat → Nat → Rehearsal K V → Rehearsal K V
  | 0, target, r => (r.setClock target).runOn
  | n + 1, target, r =>
    match r.nextDue? with
    | none => (r.setClock target).runOn
    | some due =>
      if due ≤ target then passFor n target (r.setClock due).runOn
      else (r.setClock target).runOn

def pass (d : Duration) (r : Rehearsal K V) : Rehearsal K V :=
  let target := tick (r.now + d.nanos)
  passFor (target - r.now) target r

/-- Wait until the cache is ready, at most until a moment and with at most so many jumps. -/
def awaitFor : Nat → Nat → Rehearsal K V → Rehearsal K V × Bool
  | 0, target, r => ((r.setClock target).runOn, false)
  | n + 1, target, r =>
    if r.cache.core.lifecycle.initialized then (r, true)
    else
      match r.nextDue? with
      | none => ((r.setClock target).runOn, false)
      | some due =>
        if due < target then awaitFor n target (r.setClock due).runOn
        else ((r.setClock target).runOn, false)

/-- Wait until the cache is ready, at most for a time. -/
def await (d : Duration) (r : Rehearsal K V) : Rehearsal K V × Bool :=
  let target := tick (r.now + d.nanos)
  awaitFor (target - r.now + 1) target r

/-- What the owner does. -/
inductive Step (V : Type) where
  | start (runtime : Bool)
  | stop
  | shutdown
  /-- Let go of the cache, which stops it. -/
  | release
  | join (name : Name) (react : Nat → Reaction)
  | leave (name : Name)
  | await (d : Duration)
  | pass (d : Duration)
  /-- Add to the script. -/
  | extend (script : List (Cue V))
  /-- Look at the snapshot. -/
  | look
  /-- Show the cache. -/
  | showText
  /-- Ask for the wait and the time limit of the queries. -/
  | recall

/-- What a step gives. -/
inductive Result (K V : Type) where
  | nothing
  | started (outcome : Except Fault Unit)
  | joined (outcome : Outcome Unit)
  | left (found : Option Bool)
  | ready (yes : Bool)
  /-- The snapshot, and whether it is the one that was looked at last. -/
  | looked (snapshot : Snapshot K V) (same : Bool)
  | text (text : String)
  | recalled (seconds : Nat) (limit : Except DurationOverflow (Option Duration))
  /-- There is no cache any more. -/
  | gone

def take (s : Step V) (r : Rehearsal K V) : Rehearsal K V × Result K V :=
  match s with
  | .extend script => ({ r with script := r.script ++ script }.runOn, .nothing)
  | .pass d => (r.pass d, .nothing)
  | s =>
    if r.gone then (r, .gone)
    else
      match s with
      | .start runtime =>
        let (cache, outcome) := r.cache.start r.feed runtime
        ({ r with cache }.runOn, .started outcome)
      | .stop => ({ r with cache := r.cache.stop r.feed }.runOn, .nothing)
      | .shutdown => ({ r with cache := r.cache.shutdown r.feed }.runOn, .nothing)
      | .release => ({ r with cache := r.cache.stop r.feed, gone := true }.runOn, .nothing)
      | .join name react =>
        let (cache, outcome) := r.cache.join r.feed name react
        ({ r with cache }.runOn, .joined outcome)
      | .leave name =>
        let (cache, found) := r.cache.leave name
        ({ r with cache }.runOn, .left found)
      | .await d =>
        let (r, yes) := r.await d
        (r, .ready yes)
      | .look =>
        let current := r.cache.core.current
        ({ r with seen := current }, .looked current.content (current.isSame r.seen))
      | .showText => (r, .text (r.cache.text r.feed))
      | .recall => (r, .recalled r.feed.settings.watchSeconds r.feed.settings.readLimit)
      | .extend _ | .pass _ => (r, .nothing)

end Rehearsal

end LongPoll
