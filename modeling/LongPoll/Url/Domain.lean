import LongPoll.Text.Composition
import LongPoll.Text.Punycode
import LongPoll.Url.Domain.Direction
import LongPoll.Url.Domain.Folding
import LongPoll.Url.Domain.Joining
import LongPoll.Url.Ipv6

/-!
Names of hosts.

A name may be written with escapes, in any case and in any script; it stands for labels of small
letters with dots between them. A label outside ASCII is given in Punycode after `xn--`, and may be
written in that form as well. Some characters of ASCII can be part of no name.
-/

namespace LongPoll.Url

namespace Domain

/-- A character that no name holds. -/
def isReserved (c : Char) : Bool :=
  c.toNat ≤ 0x20 || c.toNat == 0x7F ||
    ['%', '#', '/', ':', '<', '>', '?', '@', '[', '\\', ']', '^', '|'].contains c

/-- The text holds characters of ASCII only. -/
def isAscii (cs : List Char) : Bool := cs.all (·.toNat < 0x80)

/-- What a label in Punycode begins with. -/
def mark : List Char := "xn--".toList

/-- The most characters that a label outside ASCII may have. -/
def maxLabel : Nat := 1000

/-- A label, as written and as meant. -/
structure Label where
  written : List Char
  meant : List Char

/-- Read a label in Punycode. It has to stand for a label outside ASCII that could not be spelled in
any other way. -/
def codedLabel? (written : List Char) : Option Label := do
  let meant ← Text.Punycode.decode? (written.drop mark.length)
  if !isAscii meant && meant.all (Folding.of · == .kept) &&
      Text.Composition.compose meant == meant then
    some ⟨written, meant⟩
  else none

/-- Read a label whose characters are those of a name. -/
def label? (text : List Char) : Option Label :=
  if mark.isPrefixOf text then codedLabel? text
  else if isAscii text then some ⟨text, text⟩
  else if maxLabel < text.length then none
  else some ⟨mark ++ Text.Punycode.encode text, text⟩

/-- The marks and the joiners of a label are in place. -/
def inPlace (label : Label) : Bool :=
  !label.meant.head?.any isMark && joinersInPlace [] label.meant

/-- The name in ASCII that a name in any script stands for, if it stands for one. -/
def inAscii? (text : List Char) : Option (List Char) := do
  let name := Text.Composition.compose (← fold? text)
  let labels ← (Text.piecesAt '.' name).mapM label?
  if labels.all inPlace && isOneWay (labels.map Label.meant) then
    some ((['.'] : List Char).intercalate (labels.map Label.written))
  else none

/-- The name needs no more than small letters. -/
def isPlain (text : List Char) : Bool :=
  isAscii text && !(Text.piecesAt '.' (text.map Char.toLower)).any mark.isPrefixOf

end Domain

/-- The name that a written name stands for, if it stands for one. -/
def domain? (written : List Char) : Option (List Char) := do
  let text ← Text.Utf8.decode? (Text.Percent.decode written)
  let name ← if Domain.isPlain text then some (text.map Char.toLower) else Domain.inAscii? text
  if name.any Domain.isReserved then none else some name

/-- A character that not even the host of an unknown scheme holds. -/
def reservedInHost (c : Char) : Bool :=
  ['\x00', '\t', '\n', '\r', ' '].contains c ||
    ['#', '/', ':', '<', '>', '?', '@', '[', '\\', ']', '^', '|'].contains c

def readBracketed (text : List Char) : Except Fault Host :=
  if text.getLast? ≠ some ']' then .error .badIpv6
  else
    match ipv6? (text.drop 1).dropLast with
    | some pieces => .ok (.ipv6 pieces)
    | none => .error .badIpv6

def readHost (text : List Char) : Except Fault Host :=
  if text.head? = some '[' then readBracketed text
  else
    match domain? text with
    | none => .error .badDomain
    | some [] => .error .emptyHost
    | some name =>
      if endsInNumber name then
        match ipv4? name with
        | some address => .ok (.ipv4 address)
        | none => .error .badIpv4
      else .ok (.domain name)

/-- Read the host of any other scheme, which is kept as it is. -/
def readOtherHost (text : List Char) : Except Fault Host :=
  if text.head? = some '[' then readBracketed text
  else if text.any reservedInHost then .error .badHostCharacter
  else .ok (.domain (Text.Percent.encode Text.Percent.isControl text))

end LongPoll.Url
