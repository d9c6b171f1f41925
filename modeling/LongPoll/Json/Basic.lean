/-!
JSON texts, read but not interpreted.

A tree keeps each string as the bytes between its quotes and each number as its literal. What they
stand for is settled only where a value is used (`LongPoll.Json.Decode`), so a member that nobody
asks for may hold a string that encodes no text or a number of any size.
-/

namespace LongPoll

/-- The bytes between the quotes of a string, escapes included. -/
abbrev RawString := List UInt8

/-- A JSON value. -/
inductive Json where
  | null
  | bool (value : Bool)
  | number (literal : List UInt8)
  | string (raw : RawString)
  | array (items : List Json)
  | object (members : List (RawString × Json))

namespace Json

/-- The tokens of a JSON text. -/
inductive Token where
  | openArray
  | closeArray
  | openObject
  | closeObject
  | comma
  | colon
  | null
  | bool (value : Bool)
  | number (literal : List UInt8)
  | string (raw : RawString)
  deriving DecidableEq, Repr

end Json

end LongPoll
