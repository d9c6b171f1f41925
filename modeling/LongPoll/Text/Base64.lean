/-!
Base64 with the standard alphabet: bytes in groups of three, written as four characters, the last
group padded with `=`.

Reading accepts exactly what writing produces: the padding has to be there, and the bits that the
last group leaves over have to be zero.
-/

namespace LongPoll.Text.Base64

def symbol (n : Nat) : Char :=
  if n < 26 then Char.ofNat ('A'.toNat + n)
  else if n < 52 then Char.ofNat ('a'.toNat + (n - 26))
  else if n < 62 then Char.ofNat ('0'.toNat + (n - 52))
  else if n = 62 then '+'
  else '/'

/-- The six bits of a character of the alphabet. -/
def value? (c : Char) : Option Nat :=
  if c.isUpper then some (c.toNat - 'A'.toNat)
  else if c.isLower then some (c.toNat - 'a'.toNat + 26)
  else if c.isDigit then some (c.toNat - '0'.toNat + 52)
  else if c = '+' then some 62
  else if c = '/' then some 63
  else none

def encode : List UInt8 → List Char
  | [] => []
  | [a] =>
    let n := a.toNat * 16
    [symbol (n / 64), symbol (n % 64), '=', '=']
  | [a, b] =>
    let n := (a.toNat * 256 + b.toNat) * 4
    [symbol (n / 4096), symbol (n / 64 % 64), symbol (n % 64), '=']
  | a :: b :: c :: rest =>
    let n := (a.toNat * 256 + b.toNat) * 256 + c.toNat
    symbol (n / 262144) :: symbol (n / 4096 % 64) :: symbol (n / 64 % 64) :: symbol (n % 64) ::
      encode rest

/-- The byte of a last group of two characters. -/
def lastOne (w x : Nat) : Option (List UInt8) :=
  if x % 16 = 0 then some [.ofNat (w * 4 + x / 16)] else none

/-- The two bytes of a last group of three characters. -/
def lastTwo (w x y : Nat) : Option (List UInt8) :=
  if y % 4 = 0 then some [.ofNat (w * 4 + x / 16), .ofNat (x % 16 * 16 + y / 4)] else none

/-- Read bytes, after the bytes `acc` of the groups before (latest first). -/
def decodeFrom (acc : List UInt8) : List Char → Option (List UInt8)
  | [] => some acc.reverse
  | [a, b, '=', '='] => do
    let last ← lastOne (← value? a) (← value? b)
    return acc.reverse ++ last
  | [a, b, c, '='] => do
    let last ← lastTwo (← value? a) (← value? b) (← value? c)
    return acc.reverse ++ last
  | a :: b :: c :: d :: rest =>
    match value? a, value? b, value? c, value? d with
    | some w, some x, some y, some z =>
      decodeFrom
        (.ofNat (y % 4 * 64 + z) :: .ofNat (x % 16 * 16 + y / 4) :: .ofNat (w * 4 + x / 16) :: acc)
        rest
    | _, _, _, _ => none
  | _ => none

/-- Read the bytes that a text stands for. -/
def decode? (cs : List Char) : Option (List UInt8) := decodeFrom [] cs

end LongPoll.Text.Base64
