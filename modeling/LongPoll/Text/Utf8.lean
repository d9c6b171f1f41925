/-!
Characters as bytes and back.

`encode` writes characters in UTF-8. Bytes need not be well formed, so reading comes in two
strengths over one scan: `decode?` refuses a text with an invalid part, and `decodeLossy` puts the
replacement character where one stands. An invalid part is as long as it can be while it still
begins some encoded character, and one byte long if it begins none.
-/

namespace LongPoll.Text.Utf8

/-- What stands for an invalid part. -/
def replacement : Char := Char.ofNat 0xFFFD

def encodeChar (c : Char) : List UInt8 :=
  let n := c.toNat
  if n < 0x80 then [.ofNat n]
  else if n < 0x800 then [.ofNat (0xC0 + n / 64), .ofNat (0x80 + n % 64)]
  else if n < 0x10000 then
    [.ofNat (0xE0 + n / 4096), .ofNat (0x80 + n / 64 % 64), .ofNat (0x80 + n % 64)]
  else
    [.ofNat (0xF0 + n / 262144), .ofNat (0x80 + n / 4096 % 64), .ofNat (0x80 + n / 64 % 64),
      .ofNat (0x80 + n % 64)]

def encode (cs : List Char) : List UInt8 := cs.flatMap encodeChar

/-- A byte that continues a character. -/
def isContinuation (b : UInt8) : Bool := 0x80 ≤ b.toNat && b.toNat < 0xC0

/-- How many bytes follow a first byte, or `none` for a byte that begins no character. -/
def followers (lead : UInt8) : Option Nat :=
  let n := lead.toNat
  if n < 0x80 then some 0
  else if n < 0xC2 then none
  else if n < 0xE0 then some 1
  else if n < 0xF0 then some 2
  else if n < 0xF5 then some 3
  else none

/-- The bytes that may come second. The bounds shut out overlong forms, surrogates and numbers
above the last character. -/
def maySecond (lead second : UInt8) : Bool :=
  let n := second.toNat
  if lead == 0xE0 then 0xA0 ≤ n && n < 0xC0
  else if lead == 0xED then 0x80 ≤ n && n < 0xA0
  else if lead == 0xF0 then 0x90 ≤ n && n < 0xC0
  else if lead == 0xF4 then 0x80 ≤ n && n < 0x90
  else isContinuation second

/-- The six bits that a continuation byte carries. -/
def payload (b : UInt8) : Nat := b.toNat - 0x80

/-- The part at the front of `lead :: rest`: its character, or `none` if it is invalid, and how
many bytes of `rest` belong to it. -/
def scan (lead : UInt8) (rest : List UInt8) : Option Char × Nat :=
  match followers lead, rest with
  | some 0, _ => (some (Char.ofNat lead.toNat), 0)
  | some 1, b :: _ =>
    if maySecond lead b then (some (Char.ofNat ((lead.toNat - 0xC0) * 64 + payload b)), 1)
    else (none, 0)
  | some 2, b :: rest' =>
    if maySecond lead b then
      match rest' with
      | c :: _ =>
        if isContinuation c then
          (some (Char.ofNat ((lead.toNat - 0xE0) * 4096 + payload b * 64 + payload c)), 2)
        else (none, 1)
      | [] => (none, 1)
    else (none, 0)
  | some 3, b :: rest' =>
    if maySecond lead b then
      match rest' with
      | c :: rest'' =>
        if isContinuation c then
          match rest'' with
          | d :: _ =>
            if isContinuation d then
              (some (Char.ofNat
                ((lead.toNat - 0xF0) * 262144 + payload b * 4096 + payload c * 64 + payload d)), 3)
            else (none, 2)
          | [] => (none, 2)
        else (none, 1)
      | [] => (none, 1)
    else (none, 0)
  | _, _ => (none, 0)

/-- The parts of a byte string in order, after the parts `acc` that were found before (latest
first). -/
def partsFrom (acc : List (Option Char)) : List UInt8 → List (Option Char)
  | [] => acc.reverse
  | lead :: rest => partsFrom ((scan lead rest).1 :: acc) (rest.drop (scan lead rest).2)
  termination_by bytes => bytes.length
  decreasing_by rw [List.length_drop, List.length_cons]; omega

/-- The parts of a byte string: characters, and `none` for each invalid part. -/
def parts (bytes : List UInt8) : List (Option Char) := partsFrom [] bytes

/-- The text that the bytes encode, if every part is valid. -/
def decode? (bytes : List UInt8) : Option (List Char) :=
  let ps := parts bytes
  if ps.all Option.isSome then some (ps.filterMap id) else none

/-- The text of the bytes, with the replacement character for each invalid part. -/
def decodeLossy (bytes : List UInt8) : List Char :=
  (parts bytes).map (·.getD replacement)

/-- The same as a string. -/
def decodeLossyString (bytes : List UInt8) : String := String.ofList (decodeLossy bytes)

def encodeString (s : String) : List UInt8 := encode s.toList

end LongPoll.Text.Utf8
