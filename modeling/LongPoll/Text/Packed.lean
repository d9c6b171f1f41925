import LongPoll.Text.Pieces

/-!
Tables written as text.

A table is a list of rows. A row is a word: a letter that says what kind of row it is, and numbers
in base 36 with dots between them. Words stand between spaces.

A property of characters is mostly the same over long stretches. Such a table is a list of runs:
each says how many characters it covers, from the end of the run before it on, and what holds of
them.
-/

namespace LongPoll.Text

namespace Packed

def digit (c : Char) : Nat :=
  if c.isDigit then c.toNat - '0'.toNat else c.toNat - 'a'.toNat + 10

/-- A number in base 36. -/
def number (word : List Char) : Nat := word.foldl (fun n c => n * 36 + digit c) 0

/-- The row that a word stands for. -/
def row? : List Char → Option (Char × List Nat)
  | [] => none
  | kind :: numbers => some (kind, (piecesAt '.' numbers).map number)

/-- The rows of a table, written over several lines. -/
def rows (lines : List String) : List (Char × List Nat) :=
  lines.flatMap fun line => (piecesAt ' ' line.toList).filterMap row?

end Packed

/-- A property of characters by runs, from U+0000 on. -/
abbrev Runs (α : Type) := List (Nat × α)

namespace Runs

variable {α : Type}

/-- The run that covers the number `n`: how far into it `n` is, and what holds there. -/
def locate? : Runs α → Nat → Option (Nat × α)
  | [], _ => none
  | (length, a) :: runs, n => if n < length then some (n, a) else locate? runs (n - length)

/-- What holds of the number `n`; `other` beyond the last run. -/
def valueAt (other : α) (runs : Runs α) (n : Nat) : α := (locate? runs n).elim other Prod.snd

/-- Read runs: the first number of a row is a length, the meaning of the rest is given. -/
def read (meaning : Char → List Nat → α) (lines : List String) : Runs α :=
  (Packed.rows lines).map fun r => (r.2.headD 0, meaning r.1 (r.2.drop 1))

end Runs

end LongPoll.Text
