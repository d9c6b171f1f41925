import LongPoll.Agent.Client
import LongPoll.Agent.Reply

/-!
Requests and answers as bytes.

A request asks for version 1.0 of the protocol, so the agent sends the body as it is and closes the
connection after it. A body that is shorter than announced makes the answer incomplete.
-/

namespace LongPoll.Agent

open LongPoll.Text

namespace Request

/-- The host of the address with its port, as the request names it. -/
def hostText (r : Request) : String :=
  match r.url.authority with
  | none => ""
  | some a => String.ofList { a with userinfo := [] }.text

def lines (r : Request) : List String :=
  [r.method ++ " " ++ r.target ++ " HTTP/1.0", "Host: " ++ r.hostText,
    "User-Agent: " ++ r.userAgent, "Accept: */*"] ++
    r.token.toList.map ("X-Consul-Token: " ++ ·)

def wire (r : Request) : List UInt8 :=
  Utf8.encodeString (String.join (r.lines.map (· ++ "\r\n")) ++ "\r\n")

end Request

/-- The lines of a head, each up to a line end, and the bytes after the empty line; `none` if there
is no empty line. The bytes of the line so far are latest first. -/
def splitHead (line : List UInt8) : List UInt8 → Option (List (List UInt8) × List UInt8)
  | 0x0D :: 0x0A :: rest =>
    if line.isEmpty then some ([], rest)
    else (splitHead [] rest).map fun h => (line.reverse :: h.1, h.2)
  | b :: rest => splitHead (b :: line) rest
  | [] => none

/-- The status in a first line: the number after the first space. -/
def status? (line : List UInt8) : Option Nat :=
  let digits := ((line.dropWhile (· != 0x20)).drop 1).takeWhile Json.isDigitByte
  if digits.length = 3 then some (Json.digitsValue digits) else none

/-- A header line: the name before the colon, and the value after it. -/
def headerLine (line : List UInt8) : Header :=
  (Utf8.decodeLossyString (line.takeWhile (· != 0x3A)), (line.dropWhile (· != 0x3A)).drop 1)

/-- The length that the headers announce for the body. -/
def announcedLength? (headers : List Header) : Option Nat :=
  (header? "Content-Length" headers).bind fun value =>
    if value.all Json.isDigitByte && !value.isEmpty then some (Json.digitsValue value) else none

namespace Reply

def ofWire? (bytes : List UInt8) : Option Reply := do
  let (lines, body) ← splitHead [] bytes
  let first ← lines.head?
  let status ← status? first
  let reply ← arrive? ⟨status, lines.tail.map headerLine, body⟩
  match announcedLength? reply.headers with
  | none => some reply
  | some length =>
    if body.length < length then none else some { reply with body := body.take length }

end Reply

end LongPoll.Agent
