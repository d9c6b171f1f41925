import LongPoll.Fault
import LongPoll.Index
import LongPoll.Json.Decode
import LongPoll.Json.Parser
import LongPoll.Text.Blank

/-!
Reading the agent's answers.

An answer has a status, headers, one of which carries the index, and a body. A body of entries is a
JSON list; null and a blank body stand for no entries. Of two faults the one of the body is reported
before the one of the index.
-/

namespace LongPoll.Agent

open LongPoll.Text

abbrev Header := String × List UInt8

/-- A complete answer. -/
structure Reply where
  status : Nat
  headers : List Header
  body : List UInt8
  deriving DecidableEq, Repr

/-- The name of the header with the index. -/
def indexHeader : String := "X-Consul-Index"

/-- The name of a header without regard to case. -/
def headerName (name : String) : List Char := name.toList.map Char.toLower

/-- The first value given for a header. -/
def header? (name : String) (headers : List Header) : Option (List UInt8) :=
  (headers.find? fun h => headerName h.1 == headerName name).map Prod.snd

/-- Read the index that the headers carry. -/
def readIndex (headers : List Header) : Except FetchFault Index :=
  match header? indexHeader headers with
  | none => .error .noIndex
  | some bytes =>
    match HeaderValue.text? bytes with
    | none => .error (.undecodable (.index bytes))
    | some text =>
      match Index.parse text with
      | .ok i => .ok i
      | .error _ => .error (.undecodable (.index bytes))

def isBlankByte (b : UInt8) : Bool :=
  b == 0x20 || b == 0x09 || b == 0x0A || b == 0x0C || b == 0x0D

/-- Read a body of entries, each by `read`. -/
def readEntries {V : Type} (read : Json → Option V) (body : List UInt8) :
    Except FetchFault (List V) :=
  if body.all isBlankByte then .ok []
  else
    match (Json.parse? body).bind (Json.nullable? [] (Json.list? read)) with
    | some list => .ok list
    | none => .error (.undecodable (.body "the body is not a list of such entries"))

namespace Reply

/-- An answer as it arrives: white space around the value of a header is lost, and a value with a
control character makes the answer unreadable. -/
def arrive? (r : Reply) : Option Reply :=
  if r.headers.all fun h => HeaderValue.isLegal h.2 then
    some { r with headers := r.headers.map fun h => (h.1, HeaderValue.trimmed h.2) }
  else none

def isSuccess (r : Reply) : Bool := 200 ≤ r.status && r.status < 300

def bodyText (r : Reply) : String := String.ofList (trim (Utf8.decodeLossy r.body))

/-- The entries of the answer. If `lenient`, that nothing was found means no entries. -/
def entries {V : Type} (read : Json → Option V) (lenient : Bool) (r : Reply) :
    Except FetchFault (List V) :=
  if r.status = 404 ∧ lenient then .ok []
  else if r.isSuccess then readEntries read r.body
  else .error (.status r.status r.bodyText)

/-- The entries of the answer and its index. -/
def read {V : Type} (read : Json → Option V) (lenient : Bool) (r : Reply) :
    Except FetchFault (List V × Index) := do
  let list ← r.entries read lenient
  let index ← readIndex r.headers
  return (list, index)

end Reply

end LongPoll.Agent
