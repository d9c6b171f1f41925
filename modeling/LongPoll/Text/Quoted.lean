import LongPoll.Text.Percent
import LongPoll.Text.Shown

/-!
Text in double quotes, as messages show it.

A character that is not shown as itself is written by its number, `\u{…}` in hexadecimal; tab, the
two line ends, NUL, the quote and the backslash have a short escape.
-/

namespace LongPoll.Text.Quoted

/-- The digits of a number in base sixteen, lower case. -/
def hexDigits (n : Nat) : List Char := Nat.toDigits 16 n

def encodeChar (c : Char) : List Char :=
  if c = '\x00' then ['\\', '0']
  else if c = '\t' then ['\\', 't']
  else if c = '\r' then ['\\', 'r']
  else if c = '\n' then ['\\', 'n']
  else if c = '\\' then ['\\', '\\']
  else if c = '"' then ['\\', '"']
  else if isShown c then [c]
  else ['\\', 'u', '\x7b'] ++ hexDigits c.toNat ++ ['\x7d']

def encode (s : String) : String :=
  String.ofList ('"' :: s.toList.flatMap encodeChar ++ ['"'])

end LongPoll.Text.Quoted
