import LongPoll.Audience

/-!
An audience by itself, without a cache.

The surroundings are nothing but the history, latest event first. Of the acts of a callback only the
removal of a member means anything here.
-/

namespace LongPoll

/-- An audience with its history. -/
abbrev Recital (K V : Type) := Scene (List (Event K V)) K V

namespace Recital

variable {K V : Type}

/-- Nobody has joined and nothing has happened. -/
def initial : Recital K V := ⟨.empty, []⟩

/-- Carry out an act; `record` writes an event down. -/
def perform (record : Event K V → List (Event K V) → List (Event K V)) :
    Act → Recital K V → Recital K V
  | .remove target, s => s.removeBy ⟨record, fun _ s => s⟩ target
  | .stop, s => s
  | .observe, s => s

/-- The history is kept, and members can be removed. -/
def setting : Setting (List (Event K V)) K V where
  record := List.cons
  perform := perform List.cons

/-- A gate that is open the first `n` times it is asked. -/
def openFor (n : Nat) : Gate (List (Event K V)) K V :=
  fun asked _ => if asked < n then .open else .closed

/-- A gate that is always open. -/
def alwaysOpen : Gate (List (Event K V)) K V := fun _ _ => .open

/-- A gate that panics whenever it is asked. -/
def panicking (p : Panic) : Gate (List (Event K V)) K V := fun _ _ => .panicked p

/-- Build a snapshot of entries, with a record for each repeated key, and broadcast it. Without a
snapshot there is no broadcast. -/
def publish [DecidableEq K] (keyOf : V → Except Panic K) (showKey : K → String)
    (gate : Gate (List (Event K V)) K V) (entries : List V) (s : Recital K V) :
    Recital K V × Outcome Nat :=
  let built := Snapshot.build keyOf entries
  let s := built.repeated.foldl (fun s k => s.log setting (Snapshot.repeatedRecord showKey k)) s
  match built.outcome with
  | .error p => (s, .panicked p)
  | .ok snapshot => s.broadcast setting gate snapshot

end Recital

end LongPoll
