import LongPoll.Text.Blank

/-!
Natural numbers written in decimal, below a given bound.

A written number is one or more ASCII digits, with at most one `+` in front. Leading zeros are
allowed. Reading stops at the first fault from the left, so a text that outgrows the bound before
its first foreign character is too large, and one that meets the foreign character first is not a
number at all.
-/

namespace LongPoll.Text

/-- Why a text is no number below the bound. -/
inductive NumberFault where
  /-- There is nothing to read. -/
  | empty
  /-- A character is no digit, or a sign stands alone. -/
  | invalidDigit
  /-- The digits read so far already reach the bound. -/
  | tooLarge
  deriving DecidableEq, Repr

namespace NumberFault

def message : NumberFault → String
  | empty => "cannot parse integer from empty string"
  | invalidDigit => "invalid digit found in string"
  | tooLarge => "number too large to fit in target type"

end NumberFault

def digitValue (c : Char) : Nat := c.toNat - '0'.toNat

/-- Read digits up to the end of the text, onto the number `acc` that the digits before gave. -/
def readDigits (bound : Nat) : Nat → List Char → Except NumberFault Nat
  | acc, [] => .ok acc
  | acc, c :: cs =>
    if c.isDigit then
      if acc * 10 + digitValue c < bound then readDigits bound (acc * 10 + digitValue c) cs
      else .error .tooLarge
    else .error .invalidDigit

/-- Read a number below `bound`. White space counts as a foreign character here. -/
def readNatural (bound : Nat) : List Char → Except NumberFault Nat
  | [] => .error .empty
  | ['+'] => .error .invalidDigit
  | '+' :: c :: cs => readDigits bound 0 (c :: cs)
  | cs => readDigits bound 0 cs

/-- The decimal digits of a number, without leading zeros. -/
def decimalDigits (n : Nat) : List Char := Nat.toDigits 10 n

/-- The number as it is written. -/
def writeNatural (n : Nat) : String := String.ofList (decimalDigits n)

end LongPoll.Text
