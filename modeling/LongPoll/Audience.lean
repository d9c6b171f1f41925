import LongPoll.Event

/-!
The audience of a cache: its listeners, in the order in which they were added, and the snapshot they
heard of last.

A listener that joins hears the latest snapshot at once; a broadcast tells each member of the moment
it began. Before every delivery a gate is asked. A listener may fail, panic, or remove members while
it is called, and none of this keeps the others from being called. A gate that panics leaves the
audience unable to deliver: later joins and broadcasts are refused, while members can still leave.

What else a callback can reach is not the audience's affair. It is the surroundings, of any type,
and the ways to act on them are parameters.
-/

namespace LongPoll

/-- A listener that was added. -/
structure Member extends Listener where
  /-- What it does in its first, second, … call, counted from one. -/
  react : Nat → Reaction
  /-- How often it was called. -/
  calls : Nat

/-- The listeners and the latest snapshot. -/
structure Audience (K V : Type) where
  members : List Member
  latest : Option (Snapshot K V)
  /-- A gate panicked during a delivery. -/
  poisoned : Bool
  /-- The number of the next member. -/
  nextId : Nat
  /-- Who is meant by a name: the member whose joining under it was completed last. -/
  known : List (Name × Nat)

namespace Audience

variable {K V : Type}

def empty : Audience K V := ⟨[], none, false, 0, []⟩

def size (a : Audience K V) : Nat := a.members.length

/-- Add a listener at the end. -/
def enrol (a : Audience K V) (name : Name) (react : Nat → Reaction) : Audience K V :=
  { a with
    members := a.members ++ [⟨⟨a.nextId, name⟩, react, 0⟩]
    nextId := a.nextId + 1 }

/-- From now on the name means the member with this number. -/
def introduce (a : Audience K V) (name : Name) (id : Nat) : Audience K V :=
  { a with known := (name, id) :: a.known }

/-- Take the member with a number out. -/
def expel (a : Audience K V) (id : Nat) : Audience K V :=
  { a with members := a.members.filter fun m => m.id != id }

/-- Take out the member that a name means. Says whether it was still there, or `none` if the name
means nobody. -/
def leave (a : Audience K V) (name : Name) : Audience K V × Option Bool :=
  match a.known.lookup name with
  | none => (a, none)
  | some id => (a.expel id, some (a.members.any fun m => m.id == id))

/-- Note that the member with a number was called once more. -/
def countCall (a : Audience K V) (id : Nat) : Audience K V :=
  { a with
    members := a.members.map fun m => if m.id = id then { m with calls := m.calls + 1 } else m }

end Audience

/-- An audience in its surroundings. -/
structure Scene (α K V : Type) where
  audience : Audience K V
  around : α

/-- How the surroundings take part. -/
structure Setting (α K V : Type) where
  /-- Write an event down. -/
  record : Event K V → α → α
  /-- Carry out an act of a callback. -/
  perform : Act → Scene α K V → Scene α K V

/-- What a gate says. -/
inductive Verdict where
  | open
  | closed
  | panicked (payload : Panic)
  deriving DecidableEq, Repr

/-- A gate: what it says when it is asked in a scene, after so many times before. -/
abbrev Gate (α K V : Type) := Nat → Scene α K V → Verdict

/-- The outcome of a call. -/
inductive Outcome (ρ : Type) where
  | done (result : ρ)
  | refused (fault : Fault)
  | panicked (payload : Panic)
  deriving DecidableEq

namespace Scene

variable {α K V : Type}

def record (set : Setting α K V) (e : Event K V) (s : Scene α K V) : Scene α K V :=
  { s with around := set.record e s.around }

def log (set : Setting α K V) (r : LogRecord) (s : Scene α K V) : Scene α K V :=
  s.record set (.log r)

/-- Carry out acts in order. -/
def performAll (set : Setting α K V) (acts : List Act) (s : Scene α K V) : Scene α K V :=
  acts.foldl (fun s a => set.perform a s) s

/-- What the log says about the end of a callback. -/
def endingRecord : Ending → Option LogRecord
  | .returned => none
  | .failed text => some ⟨.warn, "Listener failed to handle snapshot", [("error", text)]⟩
  | .panicked p => some ⟨.warn, "Listener panicked while handling snapshot", [("panic", p.message)]⟩

/-- Call a member with a snapshot. -/
def call (set : Setting α K V) (m : Member) (snapshot : Snapshot K V) (s : Scene α K V) :
    Scene α K V :=
  let n := m.calls + 1
  let s := { s with audience := s.audience.countCall m.id }
  let s := s.record set (.notified m.toListener n snapshot)
  let s := s.performAll set (m.react n).acts
  match endingRecord (m.react n).ending with
  | none => s
  | some r => s.log set r

/-- The audience cannot deliver any more. -/
def poison (s : Scene α K V) : Scene α K V :=
  { s with audience := { s.audience with poisoned := true } }

/-- Why an audience that cannot deliver refuses. -/
def poisonedFault : Fault := .ofPoisoned "listener delivery"

/-- Complete a joining: the name means the new member. -/
def introduce (name : Name) (id : Nat) (s : Scene α K V) : Scene α K V :=
  { s with audience := s.audience.introduce name id }

/-- Add a listener. If there is a latest snapshot and the gate is open, the listener hears it before
the joining is complete. -/
def join (set : Setting α K V) (gate : Gate α K V) (name : Name) (react : Nat → Reaction)
    (s : Scene α K V) : Scene α K V × Outcome Unit :=
  if s.audience.poisoned then (s, .refused poisonedFault)
  else
    let id := s.audience.nextId
    let s := { s with audience := s.audience.enrol name react }
    match s.audience.latest with
    | none => (s.introduce name id, .done ())
    | some snapshot =>
      match gate 0 s with
      | .panicked p => (s.poison, .panicked p)
      | .closed => (s.introduce name id, .done ())
      | .open =>
        let s := s.log set ⟨.debug, "Delivering latest snapshot to new listener",
          [("entries", Text.writeNatural snapshot.size)]⟩
        let s := s.call set ⟨⟨id, name⟩, react, 0⟩ snapshot
        (s.introduce name id, .done ())

/-- Deliver a snapshot to the targets in order, as long as the gate is open; `delivered` of them
have heard it before. -/
def deliver (set : Setting α K V) (gate : Gate α K V) (snapshot : Snapshot K V) :
    List Member → Nat → Scene α K V → Scene α K V × Outcome Nat
  | [], delivered, s => (s, .done delivered)
  | m :: rest, delivered, s =>
    match gate delivered s with
    | .panicked p => (s.poison, .panicked p)
    | .closed =>
      (s.log set ⟨.debug, "Publish interrupted by stop, skipping remaining listeners", []⟩,
        .done delivered)
    | .open => deliver set gate snapshot rest (delivered + 1) (s.call set m snapshot)

/-- Tell a snapshot to everybody who is a member now. The result is the number of listeners
called. -/
def broadcast (set : Setting α K V) (gate : Gate α K V) (snapshot : Snapshot K V)
    (s : Scene α K V) : Scene α K V × Outcome Nat :=
  if s.audience.poisoned then (s, .refused poisonedFault)
  else
    deliver set gate snapshot s.audience.members 0
      { s with audience := { s.audience with latest := some snapshot } }

/-- Carry out the removal of a member by a callback, and write it down. A name that means nobody
leaves no trace. -/
def removeBy (set : Setting α K V) (target : Name) (s : Scene α K V) : Scene α K V :=
  match s.audience.leave target with
  | (_, none) => s
  | (audience, some found) => { s with audience }.record set (.removed target found)

end Scene

end LongPoll
