/-!
White space, and text without the white space around it.

The class is the Unicode property `White_Space`. It is wider than the class that core's
`Char.isWhitespace` tests: it has the no-break space, the line separators and the spaces of the
general punctuation block.
-/

namespace LongPoll.Text

/-- The characters with the Unicode property `White_Space`. -/
def isBlank (c : Char) : Bool :=
  let n := c.toNat
  (0x09 ≤ n && n ≤ 0x0D) || n == 0x20 || n == 0x85 || n == 0xA0 || n == 0x1680 ||
    (0x2000 ≤ n && n ≤ 0x200A) || n == 0x2028 || n == 0x2029 || n == 0x202F || n == 0x205F ||
    n == 0x3000

/-- What is left once the longest runs that satisfy `p` are cut off at both ends. -/
def trimBy {α : Type} (p : α → Bool) (cs : List α) : List α :=
  ((cs.dropWhile p).reverse.dropWhile p).reverse

/-- Text without the white space at its ends. -/
def trim (cs : List Char) : List Char := trimBy isBlank cs

/-- The same on strings. -/
def trimString (s : String) : String := String.ofList (trim s.toList)

end LongPoll.Text
