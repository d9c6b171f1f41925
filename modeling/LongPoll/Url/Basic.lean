import LongPoll.Text.Number
import LongPoll.Text.Percent

/-!
Addresses on the web.

An address has a scheme, in most schemes an authority and a path of segments, and perhaps a query
and a fragment. All parts are held in the form in which they are written, so `text` only joins them.
Some addresses have no path of segments but a bare text after the scheme (`mailto:ops@example.com`);
nothing can be appended to them.
-/

namespace LongPoll

open LongPoll.Text (decimalDigits)

namespace Url

/-- A host. -/
inductive Host where
  /-- A name; the empty name is no host. -/
  | domain (name : List Char)
  | ipv4 (address : Nat)
  | ipv6 (pieces : List Nat)
  deriving DecidableEq, Repr

/-- What follows the two slashes. -/
structure Authority where
  /-- The user and perhaps a password, with the separator at the end; empty if there is none. -/
  userinfo : List Char
  host : Host
  port : Option Nat
  deriving DecidableEq, Repr

/-- What follows the authority. -/
inductive Path where
  /-- A text that is no path of segments. -/
  | bare (text : List Char)
  /-- Segments. If `guarded`, a `/.` stands before them, so that two slashes at their start are not
  taken for those of an authority. -/
  | segments (guarded : Bool) (list : List (List Char))
  deriving DecidableEq, Repr

/-- Why a text is no address. -/
inductive Fault where
  /-- There is no scheme. -/
  | relative
  | emptyHost
  | badDomain
  | badPort
  | badIpv4
  | badIpv6
  /-- A character that no host can hold. -/
  | badHostCharacter
  deriving DecidableEq, Repr

namespace Fault

def message : Fault → String
  | relative => "relative URL without a base"
  | emptyHost => "empty host"
  | badDomain => "invalid international domain name"
  | badPort => "invalid port number"
  | badIpv4 => "invalid IPv4 address"
  | badIpv6 => "invalid IPv6 address"
  | badHostCharacter => "invalid domain character"

end Fault

end Url

/-- An address. -/
structure Url where
  scheme : List Char
  authority : Option Url.Authority
  path : Url.Path
  query : Option (List Char)
  fragment : Option (List Char)
  deriving DecidableEq, Repr

namespace Url

/-- Whether the address has no path of segments. -/
def isBare (u : Url) : Bool :=
  match u.path with
  | .bare _ => true
  | .segments _ _ => false

/-! ### The kinds of schemes -/

/-- The schemes of the web with their standard ports. -/
def standardPorts : List (String × Nat) :=
  [("http", 80), ("https", 443), ("ws", 80), ("wss", 443), ("ftp", 21)]

/-- The standard port of a scheme. -/
def standardPort? (scheme : List Char) : Option Nat :=
  standardPorts.lookup (String.ofList scheme)

def isFile (scheme : List Char) : Bool := scheme == "file".toList

/-- Schemes with rules of their own: a backslash counts as a slash, and a path is never empty. -/
def isSpecial (scheme : List Char) : Bool := isFile scheme || (standardPort? scheme).isSome

/-! ### Which characters are escaped where -/

def reservedInFragment (c : Char) : Bool :=
  Text.Percent.isControl c || [' ', '"', '<', '>', '\x60'].contains c

def reservedInPath (c : Char) : Bool :=
  reservedInFragment c || ['#', '?', '\x7b', '\x7d'].contains c

def reservedInSegment (special : Bool) (c : Char) : Bool :=
  reservedInPath c || ['/', '%'].contains c || (special && c == '\\')

def reservedInUserinfo (c : Char) : Bool :=
  reservedInPath c || ['/', ':', ';', '=', '@', '[', '\\', ']', '^', '|'].contains c

def reservedInQuery (special : Bool) (c : Char) : Bool :=
  Text.Percent.isControl c || [' ', '"', '#', '<', '>'].contains c || (special && c == '\x27')

/-! ### Written form -/

/-- The slash-separated form of segments, with a slash in front of each. -/
def slashed (segments : List (List Char)) : List Char := segments.flatMap ('/' :: ·)

/-- The four bytes of an address, with dots between them. -/
def ipv4Text (address : Nat) : List Char :=
  decimalDigits (address / 16777216) ++ '.' :: decimalDigits (address / 65536 % 256) ++
    '.' :: decimalDigits (address / 256 % 256) ++ '.' :: decimalDigits (address % 256)

/-- The lengths of the run of zeros at each place of a list. -/
def zeroRuns : List Nat → List Nat
  | [] => []
  | n :: rest =>
    let runs := zeroRuns rest
    (if n = 0 then runs.headD 0 + 1 else 0) :: runs

/-- The first of the longest runs of at least two zeros: where it begins, and its length. -/
def longestZeros (pieces : List Nat) : Option (Nat × Nat) :=
  let runs := zeroRuns pieces
  let longest := runs.foldl max 0
  if longest < 2 then none else some (runs.findIdx (· == longest), longest)

/-- Pieces in hexadecimal with colons between them. -/
def pieceText (pieces : List Nat) : List Char :=
  ([':'] : List Char).intercalate (pieces.map (Nat.toDigits 16))

/-- The pieces of an address, the longest run of zeros left out. -/
def ipv6Text (pieces : List Nat) : List Char :=
  match longestZeros pieces with
  | none => pieceText pieces
  | some (start, length) =>
    pieceText (pieces.take start) ++ [':', ':'] ++ pieceText (pieces.drop (start + length))

namespace Host

def text : Host → List Char
  | domain name => name
  | ipv4 address => ipv4Text address
  | ipv6 pieces => '[' :: ipv6Text pieces ++ [']']

end Host

namespace Authority

def text (a : Authority) : List Char :=
  a.userinfo ++ a.host.text ++ a.port.elim [] fun p => ':' :: decimalDigits p

end Authority

namespace Path

def text : Path → List Char
  | bare t => t
  | segments guarded list => (if guarded then ['/', '.'] else []) ++ slashed list

end Path

/-- The path and the query, as they stand in the first line of a request. -/
def target (u : Url) : List Char :=
  u.path.text ++ u.query.elim [] ('?' :: ·)

def text (u : Url) : List Char :=
  u.scheme ++ ':' :: (u.authority.elim [] fun a => '/' :: '/' :: a.text) ++ u.target ++
    u.fragment.elim [] ('#' :: ·)

end Url

end LongPoll
