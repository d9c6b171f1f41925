import LongPoll.Json.Basic
import LongPoll.Json.Lexer
import LongPoll.Text.Utf8

/-!
Typed values out of JSON trees.

A record may be written as an object or as an array of its fields in order. In an object the order
of the members does not matter and members with unknown names are skipped, but a known name may
occur once only. In an array fields may be missing at the end. `slots?` reduces both to one list
with a place for each declared field, and the readers of the fields work on that list.
-/

namespace LongPoll.Json

open LongPoll.Text

def hexByteValue (b : UInt8) : Nat :=
  if isDigitByte b then b.toNat - 0x30
  else if b < 0x61 then b.toNat - 0x41 + 10
  else b.toNat - 0x61 + 10

/-- The number that four hexadecimal digits write. -/
def codeUnit (a b c d : UInt8) : Nat :=
  ((hexByteValue a * 16 + hexByteValue b) * 16 + hexByteValue c) * 16 + hexByteValue d

/-- The character that a letter after a backslash stands for. -/
def shortEscape (b : UInt8) : UInt8 :=
  if b == 0x62 then 0x08
  else if b == 0x66 then 0x0C
  else if b == 0x6E then 0x0A
  else if b == 0x72 then 0x0D
  else if b == 0x74 then 0x09
  else b

/-- The bytes with all escapes resolved, after the bytes `acc` (latest first). A surrogate has to
be half of a pair. -/
def unescapeFrom (acc : List UInt8) : RawString → Option (List UInt8)
  | [] => some acc.reverse
  | 0x5C :: 0x75 :: a :: b :: c :: d :: rest =>
    let high := codeUnit a b c d
    if 0xD800 ≤ high ∧ high < 0xDC00 then
      match rest with
      | 0x5C :: 0x75 :: a' :: b' :: c' :: d' :: rest' =>
        let low := codeUnit a' b' c' d'
        if 0xDC00 ≤ low ∧ low < 0xE000 then
          let char := Char.ofNat ((high - 0xD800) * 1024 + (low - 0xDC00) + 0x10000)
          unescapeFrom ((Utf8.encodeChar char).reverse ++ acc) rest'
        else none
      | _ => none
    else if 0xDC00 ≤ high ∧ high < 0xE000 then none
    else unescapeFrom ((Utf8.encodeChar (Char.ofNat high)).reverse ++ acc) rest
  | 0x5C :: e :: rest => unescapeFrom (shortEscape e :: acc) rest
  | b :: rest => unescapeFrom (b :: acc) rest

/-- The text of a string, if its bytes and escapes encode one. -/
def textOfRaw? (raw : RawString) : Option String := do
  let bytes ← unescapeFrom [] raw
  return String.ofList (← Utf8.decode? bytes)

def text? : Json → Option String
  | string raw => textOfRaw? raw
  | _ => none

/-- The value of a row of decimal digits. -/
def digitsValue (digits : List UInt8) : Nat :=
  digits.foldl (fun n b => n * 10 + (b.toNat - 0x30)) 0

/-- Read a natural number below `bound`, written with digits only. -/
def natural? (bound : Nat) : Json → Option Nat
  | number literal =>
    if literal.all isDigitByte && digitsValue literal < bound then some (digitsValue literal)
    else none
  | _ => none

def counter? (j : Json) : Option UInt64 := (j.natural? UInt64.size).map UInt64.ofNat

def port? (j : Json) : Option UInt16 := (j.natural? UInt16.size).map UInt16.ofNat

def list? {α : Type} (read : Json → Option α) : Json → Option (List α)
  | array items => items.mapM read
  | _ => none

/-- Read null as the default and anything else by `read`. -/
def nullable? {α : Type} (default : α) (read : Json → Option α) : Json → Option α
  | null => some default
  | j => read j

/-- The values given for a name, in order. -/
def valuesOf {α : Type} (name : String) (members : List (String × α)) : List α :=
  members.filterMap fun m => if m.1 = name then some m.2 else none

@[simp] theorem valuesOf_cons {α : Type} (name : String) (m : String × α)
    (ms : List (String × α)) : valuesOf name (m :: ms) =
      if m.1 = name then m.2 :: valuesOf name ms else valuesOf name ms := by
  by_cases h : m.1 = name <;> simp [valuesOf, h]

@[simp] theorem valuesOf_append {α : Type} (name : String) (ms ns : List (String × α)) :
    valuesOf name (ms ++ ns) = valuesOf name ms ++ valuesOf name ns :=
  List.filterMap_append

/-- The one value given for a name; `none` for a name given more than once. -/
def slot? (members : List (String × Json)) (name : String) : Option (Option Json) :=
  match valuesOf name members with
  | [] => some none
  | [v] => some (some v)
  | _ => none

/-- A place for each of the named fields, with the value that the record gives to it. -/
def slots? (names : List String) : Json → Option (List (Option Json))
  | object members => do
    let named ← members.mapM fun m => (textOfRaw? m.1).map (·, m.2)
    names.mapM (slot? named)
  | array items =>
    if items.length ≤ names.length then
      some (items.map some ++ List.replicate (names.length - items.length) none)
    else none
  | _ => none

/-- Read a field that has to be there. -/
def required? {α : Type} (read : Json → Option α) (slot : Option Json) : Option α := slot.bind read

/-- Read a field that may be missing. -/
def defaulted? {α : Type} (default : α) (read : Json → Option α) : Option Json → Option α
  | none => some default
  | some j => read j

end LongPoll.Json
