import LongPoll.Text.Blank
import LongPoll.Text.Percent

/-!
Values of header fields.

A value is a byte string without control characters, the tab apart. White space around it is not
part of it. Only a value of visible ASCII characters is text.
-/

namespace LongPoll.Text.HeaderValue

/-- A byte that a value may hold. -/
def isLegalByte (b : UInt8) : Bool := (0x20 ≤ b && b != 0x7F) || b == 0x09

def isLegal (bytes : List UInt8) : Bool := bytes.all isLegalByte

/-- A character that is visible, a space or a tab. -/
def isVisible (b : UInt8) : Bool := (0x20 ≤ b && b < 0x7F) || b == 0x09

/-- The value without the white space around it. -/
def trimmed (bytes : List UInt8) : List UInt8 := trimBy (fun b => b == 0x20 || b == 0x09) bytes

def text? (bytes : List UInt8) : Option String :=
  if bytes.all isVisible then some (String.ofList (bytes.map fun b => Char.ofNat b.toNat)) else none

/-- The number of a byte in base sixteen, as short as possible. -/
def hexNumber (b : UInt8) : List Char :=
  if b < 0x10 then [lowerHexDigit b.toNat]
  else [lowerHexDigit (b.toNat / 16), lowerHexDigit (b.toNat % 16)]

def shownByte (b : UInt8) : List Char :=
  if b = 0x22 then ['\\', '"']
  else if isVisible b then [Char.ofNat b.toNat]
  else '\\' :: 'x' :: hexNumber b

/-- The value in quotes, as messages show it. -/
def shown (bytes : List UInt8) : String :=
  String.ofList ('"' :: bytes.flatMap shownByte ++ ['"'])

end LongPoll.Text.HeaderValue
