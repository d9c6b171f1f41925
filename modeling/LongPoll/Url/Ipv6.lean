import LongPoll.Url.Ipv4

/-!
Hosts in brackets.

An address is eight pieces of up to four hexadecimal digits with colons between them. Once, two
colons may stand for one or more zero pieces; the last two pieces may be written as four decimal
numbers.
-/

namespace LongPoll.Url

def piece? (digits : List Char) : Option Nat :=
  if 1 ≤ digits.length ∧ digits.length ≤ 4 then digitsValue? 16 digits else none

/-- A number from 0 to 255 without a needless zero in front. -/
def byte? (digits : List Char) : Option Nat :=
  match digits with
  | [] => none
  | '0' :: _ :: _ => none
  | _ => (digitsValue? 10 digits).filter (· < 256)

/-- The two pieces that four decimal numbers write. -/
def decimalPieces? (text : List Char) : Option (List Nat) := do
  match ← (Text.piecesAt '.' text).mapM byte? with
  | [a, b, c, d] => some [a * 256 + b, c * 256 + d]
  | _ => none

/-- The pieces that the parts write. The last part may be a decimal address if `tail`. -/
def pieces? (tail : Bool) : List (List Char) → Option (List Nat)
  | [] => some []
  | [last] =>
    if tail && last.contains '.' then decimalPieces? last else (piece? last).map fun p => [p]
  | p :: rest => do
    let first ← piece? p
    let others ← pieces? tail rest
    return first :: others

/-- Split the parts at the place of two colons, if there is one. Two colons leave an empty part
between two others, and two at an end of the text leave two empty parts there. -/
def splitAtGap : List (List Char) → List (List Char) × Option (List (List Char))
  | [] => ([], none)
  | [] :: [] :: [] :: [] => ([], some [])
  | [] :: [] :: rest => ([], some rest)
  | p :: [] :: [] :: [] => ([p], some [])
  | p :: [] :: rest => if rest.isEmpty then ([p, []], none) else ([p], some rest)
  | p :: rest =>
    let (front, back) := splitAtGap rest
    (p :: front, back)

def ipv6? (text : List Char) : Option (List Nat) :=
  match splitAtGap (Text.piecesAt ':' text) with
  | (all, none) => do
    let list ← pieces? true all
    if list.length = 8 then some list else none
  | (front, some back) => do
    let left ← pieces? false front
    let right ← pieces? true back
    if left.length + right.length < 8 then
      some (left ++ List.replicate (8 - left.length - right.length) 0 ++ right)
    else none

end LongPoll.Url
