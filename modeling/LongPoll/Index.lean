import LongPoll.Text.Number

/-!
The index of a watched set.

The agent numbers the states of a set. A response carries the number of the state it shows, and a
request that repeats the number waits until the agent has another one. Numbers normally grow; a
smaller one means that the agent has started to count anew.
-/

namespace LongPoll

open LongPoll.Text

/-- A state number. -/
@[ext] structure Index where
  value : UInt64
  deriving DecidableEq, Repr

namespace Index

def text (i : Index) : String := writeNatural i.value.toNat

/-- Read a number, white space around it aside. -/
def parse (s : String) : Except NumberFault Index :=
  (readNatural UInt64.size (trim s.toList)).map fun n => ⟨.ofNat n⟩

/-- How an index that may be missing is shown. -/
def shown : Option Index → String
  | none => "None"
  | some i => "Some(Index(" ++ i.text ++ "))"

/-- How a returned index relates to the one held. -/
inductive Movement where
  /-- A new state, to be asked about with its own number next. -/
  | forward (next : Index)
  /-- The state that was already held. -/
  | still
  /-- The agent counts anew. -/
  | backward
  deriving DecidableEq, Repr

/-- Compare the returned index with the one held. -/
def movement (held : Option Index) (returned : Index) : Movement :=
  match held with
  | none => .forward returned
  | some last =>
    if returned = last then .still
    else if returned.value < last.value then .backward
    else .forward returned

end Index

end LongPoll
