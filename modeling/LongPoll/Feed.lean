import LongPoll.Event
import LongPoll.Settings

/-!
What a cache is made of, apart from its state: where its entries come from, how they are told
apart, and what the owner asked for.
-/

namespace LongPoll

/-- Everything about a cache that does not change. -/
structure Feed (K V : Type) where
  /-- What the entries are called in messages. -/
  source : String
  /-- The key of an entry. -/
  keyOf : V → Except Panic K
  /-- How a key is shown in the log. -/
  showKey : K → String
  settings : Settings
  /-- What each query asks for, index and wait aside. -/
  base : Query
  /-- What the callback for failed cycles does in its first, second, … call, counted from one. -/
  consumer : Nat → Reaction

namespace Feed

variable {K V : Type}

/-- The record that names its source first. -/
def record (feed : Feed K V) (level : Level) (message : String)
    (fields : List (String × String)) : LogRecord :=
  ⟨level, message, ("source", feed.source) :: fields⟩

/-- A feed whose settings are acceptable. -/
def check (feed : Feed K V) : Except Fault Unit := feed.settings.validate

end Feed

/-- How a blocking query ends. -/
inductive Answer (V : Type) where
  /-- The source panicked. -/
  | panicked (payload : Panic)
  | failed (fault : FetchFault)
  /-- The whole set and its index. -/
  | entries (list : List V) (index : Index)

end LongPoll
