import LongPoll.Text.Pieces
import LongPoll.Url.Basic

/-!
Hosts that are numbers.

A number is written in decimal, after `0` in octal, or after `0x` in hexadecimal. A name whose last
part is a number is read as an address of up to four numbers; the last of them fills all the bytes
that the others leave.
-/

namespace LongPoll.Url

/-- The value of a row of digits below `radix`, if all of them are. -/
def digitsValue? (radix : Nat) (digits : List Char) : Option Nat :=
  digits.foldlM (fun n c => (Text.hexValue? c).bind fun d =>
    if d < radix then some (n * radix + d) else none) 0

/-- Read one number. After the mark of the radix there may be nothing, which is zero. -/
def ipv4Number? : List Char → Option Nat
  | [] => none
  | '0' :: 'x' :: rest => digitsValue? 16 rest
  | '0' :: 'X' :: rest => digitsValue? 16 rest
  | '0' :: c :: rest => digitsValue? 8 (c :: rest)
  | digits => digitsValue? 10 digits

/-- The parts of a name, a dot at its end aside. -/
def namedParts (name : List Char) : List (List Char) :=
  let ps := Text.piecesAt '.' name
  if 1 < ps.length ∧ ps.getLast? = some [] then ps.dropLast else ps

/-- The last part of the name is a number, or at least a row of decimal digits. -/
def endsInNumber (name : List Char) : Bool :=
  (namedParts name).getLast?.any fun last =>
    (!last.isEmpty && last.all Char.isDigit) || (ipv4Number? last).isSome

/-- Put numbers together: each but the last is one byte. -/
def ipv4OfNumbers? (numbers : List Nat) : Option Nat :=
  match numbers.reverse with
  | [] => none
  | last :: front =>
    if 3 < front.length ∨ front.any (255 < ·) ∨ Nat.pow 256 (4 - front.length) ≤ last then none
    else
      let high := front.reverse.foldl (fun n byte => n * 256 + byte) 0
      some (high * Nat.pow 256 (4 - front.length) + last)

def ipv4? (name : List Char) : Option Nat := do
  ipv4OfNumbers? (← (namedParts name).mapM ipv4Number?)

end LongPoll.Url
