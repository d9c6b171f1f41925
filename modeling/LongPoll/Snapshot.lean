import LongPoll.Log
import LongPoll.Text.Quoted

/-!
Snapshots: the state of a watched set at one moment, as a map from keys to entries.

A snapshot is built from the entries of a response. Each key keeps the first entry that has it; the
keys that occur again are listed, in order. The function that gives an entry its key comes from
outside and may panic, and then there is no snapshot.

The entries stand in the order of the response, which is no part of the map: `agrees` compares two
snapshots as maps.
-/

namespace LongPoll

/-- A map from keys to entries. -/
@[ext] structure Snapshot (K V : Type) where
  entries : List (K × V)
  distinct : (entries.map Prod.fst).Nodup

namespace Snapshot

variable {K V : Type}

def empty : Snapshot K V := ⟨[], .nil⟩

def keys (s : Snapshot K V) : List K := s.entries.map Prod.fst

def size (s : Snapshot K V) : Nat := s.entries.length

/-- Add an entry under a new key. -/
def push (s : Snapshot K V) (k : K) (v : V) (h : k ∉ s.keys) : Snapshot K V where
  entries := s.entries ++ [(k, v)]
  distinct := by
    rw [List.map_append, List.nodup_append]
    refine ⟨s.distinct, by simp, ?_⟩
    intro a ha b hb
    simp only [List.map_cons, List.map_nil, List.mem_singleton] at hb
    subst hb
    exact fun hab => h (hab ▸ ha)

variable [DecidableEq K]

/-- The entry with a key. -/
def get? (s : Snapshot K V) (k : K) : Option V :=
  (s.entries.find? fun e => e.1 = k).map Prod.snd

variable [DecidableEq V]

/-- The two snapshots are the same map. -/
def agrees (a b : Snapshot K V) : Bool :=
  a.size == b.size && a.entries.all fun e => b.get? e.1 = some e.2

end Snapshot

/-- What a panic carries. -/
inductive Panic where
  | text (message : String)
  | other
  deriving DecidableEq, Repr

namespace Panic

/-- What is said about a panic in a callback. -/
def message : Panic → String
  | text message => message
  | other => "non-string panic payload"

end Panic

/-- The outcome of building a snapshot. -/
structure Build (K V : Type) where
  /-- The keys that occurred again, once for each entry left out. -/
  repeated : List K
  outcome : Except Panic (Snapshot K V)

namespace Snapshot

variable {K V : Type} [DecidableEq K]

/-- Go on building with the snapshot so far and the repeated keys so far, latest first. -/
def buildFrom (keyOf : V → Except Panic K) (soFar : Snapshot K V) (repeated : List K) :
    List V → Build K V
  | [] => ⟨repeated.reverse, .ok soFar⟩
  | v :: vs =>
    match keyOf v with
    | .error p => ⟨repeated.reverse, .error p⟩
    | .ok k =>
      if h : k ∈ soFar.keys then buildFrom keyOf soFar (k :: repeated) vs
      else buildFrom keyOf (soFar.push k v h) repeated vs

/-- Build a snapshot from the entries of a response. -/
def build (keyOf : V → Except Panic K) (entries : List V) : Build K V :=
  buildFrom keyOf empty [] entries

/-- What the log says about a repeated key. -/
def repeatedRecord (showKey : K → String) (k : K) : LogRecord where
  level := .warn
  message := "Duplicate key in response, keeping the first occurrence"
  fields := [("key", showKey k)]

end Snapshot

/-- A snapshot as it was issued. Two issues can hold the same map and still be two. -/
structure Issue (K V : Type) where
  serial : Nat
  content : Snapshot K V

namespace Issue

/-- The two are one and the same issue. -/
def isSame {K V : Type} (a b : Issue K V) : Bool := a.serial == b.serial

end Issue

end LongPoll
