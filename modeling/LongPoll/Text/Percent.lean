import LongPoll.Text.Utf8

/-!
Percent-encoding, and the form encoding of query parameters that rests on it.

A character that may not stand for itself is written as its UTF-8 bytes, each as `%` and two
hexadecimal digits. Which characters those are depends on the place, so the set is a parameter. A
character outside ASCII never stands for itself.
-/

namespace LongPoll.Text

/-- The upper-case hexadecimal digit of a number below sixteen. -/
def upperHexDigit (n : Nat) : Char :=
  if n < 10 then Char.ofNat ('0'.toNat + n) else Char.ofNat ('A'.toNat + (n - 10))

/-- The lower-case hexadecimal digit of a number below sixteen. -/
def lowerHexDigit (n : Nat) : Char :=
  if n < 10 then Char.ofNat ('0'.toNat + n) else Char.ofNat ('a'.toNat + (n - 10))

/-- The value of a hexadecimal digit of either case. -/
def hexValue? (c : Char) : Option Nat :=
  if c.isDigit then some (c.toNat - '0'.toNat)
  else if 'a' ≤ c ∧ c ≤ 'f' then some (c.toNat - 'a'.toNat + 10)
  else if 'A' ≤ c ∧ c ≤ 'F' then some (c.toNat - 'A'.toNat + 10)
  else none

namespace Percent

def escapeByte (b : UInt8) : List Char :=
  ['%', upperHexDigit (b.toNat / 16), upperHexDigit (b.toNat % 16)]

def escapeChar (c : Char) : List Char := (Utf8.encodeChar c).flatMap escapeByte

/-- Write a text, escaping the characters outside ASCII and those in `reserved`. -/
def encode (reserved : Char → Bool) (cs : List Char) : List Char :=
  cs.flatMap fun c => if c.toNat < 0x80 && !reserved c then [c] else escapeChar c

/-- The bytes that a text stands for, after the bytes `acc` (latest first). A `%` without two
hexadecimal digits stands for itself. -/
def decodeFrom (acc : List UInt8) : List Char → List UInt8
  | [] => acc.reverse
  | '%' :: h :: l :: rest =>
    match hexValue? h, hexValue? l with
    | some x, some y => decodeFrom (.ofNat (x * 16 + y) :: acc) rest
    | _, _ => decodeFrom (0x25 :: acc) (h :: l :: rest)
  | c :: rest => decodeFrom ((Utf8.encodeChar c).reverse ++ acc) rest
  termination_by structural cs => cs

def decode (cs : List Char) : List UInt8 := decodeFrom [] cs

def isControl (c : Char) : Bool := c.toNat < 0x20 || c.toNat == 0x7F

end Percent

namespace Form

/-- The characters that stand for themselves in a form-encoded name or value. -/
def isPlain (c : Char) : Bool :=
  c.isAlphanum || c == '*' || c == '-' || c == '.' || c == '_'

/-- Write a name or a value: a space as `+`, the rest as itself or escaped. -/
def encode (cs : List Char) : List Char :=
  cs.flatMap fun c => if c == ' ' then ['+'] else if isPlain c then [c] else Percent.escapeChar c

def encodePair (p : String × String) : List Char :=
  encode p.1.toList ++ '=' :: encode p.2.toList

/-- Parameters in order, joined by `&`. -/
def encodePairs (ps : List (String × String)) : List Char :=
  (['&'] : List Char).intercalate (ps.map encodePair)

end Form

end LongPoll.Text
