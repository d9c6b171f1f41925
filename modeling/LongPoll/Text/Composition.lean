import LongPoll.Text.Composition.Table

/-!
Canonical composition: one spelling for texts that differ only in how marks are put on letters.

A text is taken apart into letters and marks, the marks on each letter are put into the order of
their combining classes, and then each mark is joined to its letter where a composite exists. Korean
syllables are composed of their parts by arithmetic.
-/

namespace LongPoll.Text.Composition

/-- The combining class of a character; that of a letter is zero. -/
def classOf (c : Char) : Nat := classes.valueAt 0 c.toNat

/-! ### Korean syllables -/

def firstSyllable : Nat := 0xAC00

/-- The first of the leading consonants. -/
def firstLead : Nat := 0x1100

def firstVowel : Nat := 0x1161

/-- The number before the first of the closing consonants. -/
def noClosing : Nat := 0x11A7

/-- How many leading consonants there are. -/
def leads : Nat := 19

def vowels : Nat := 21

/-- How many ways to close a syllable there are, with that of none. -/
def closings : Nat := 28

/-- The number of a syllable among the syllables. -/
def syllableIndex? (n : Nat) : Option Nat :=
  if firstSyllable ≤ n ∧ n < firstSyllable + leads * vowels * closings then
    some (n - firstSyllable)
  else none

def syllableParts? (n : Nat) : Option (List Nat) :=
  (syllableIndex? n).map fun k =>
    [firstLead + k / (vowels * closings), firstVowel + k / closings % vowels] ++
      if k % closings = 0 then [] else [noClosing + k % closings]

/-- The syllable of a leading consonant and a vowel, or of a syllable that is not closed and a
closing consonant. -/
def syllable? (a b : Nat) : Option Nat :=
  if firstLead ≤ a ∧ a < firstLead + leads ∧ firstVowel ≤ b ∧ b < firstVowel + vowels then
    some (firstSyllable + ((a - firstLead) * vowels + (b - firstVowel)) * closings)
  else if (syllableIndex? a).any (· % closings == 0) ∧ noClosing < b ∧ b < noClosing + closings then
    some (a + (b - noClosing))
  else none

/-! ### Taking apart -/

/-- The parts of a character, taken apart at most `depth` times. -/
def parts (depth : Nat) (n : Nat) : List Nat :=
  match depth with
  | 0 => [n]
  | depth + 1 =>
    match pairs.find? (·.2 == n) with
    | some ((a, b), _) => parts depth a ++ [b]
    | none => (syllableParts? n).getD [n]

/-- Composites are built in at most this many steps. -/
def maxDepth : Nat := 4

/-- Put a character before characters in order, behind those of a lower class. -/
def place (c : Char) : List Char → List Char
  | [] => [c]
  | d :: rest =>
    if classOf c ≠ 0 ∧ classOf d ≠ 0 ∧ classOf d < classOf c then d :: place c rest
    else c :: d :: rest

/-- The letters and marks of a text, marks in the order of their classes. -/
def decompose (text : List Char) : List Char :=
  ((text.flatMap fun c => parts maxDepth c.toNat).map Char.ofNat).foldr place []

/-! ### Putting together -/

def composite? (a b : Char) : Option Char :=
  ((pairs.lookup (a.toNat, b.toNat)).or (syllable? a.toNat b.toNat)).map Char.ofNat

/-- Compose the rest of a text with the letter `letter`. The marks `passed`, latest first, stand
between them and could not be joined to it. A mark is joined unless one of its class or a higher one
stands before it. -/
def composeFrom (letter : Char) (passed : List Char) : List Char → List Char
  | [] => letter :: passed.reverse
  | c :: cs =>
    let free := passed.head?.all fun d => classOf d < classOf c
    match if free then composite? letter c else none with
    | some joined => composeFrom joined passed cs
    | none =>
      if classOf c = 0 then letter :: passed.reverse ++ composeFrom c [] cs
      else composeFrom letter (c :: passed) cs

/-- Compose letters and marks. Marks at the beginning have no letter. -/
def recompose (text : List Char) : List Char :=
  let marks := text.takeWhile fun c => classOf c ≠ 0
  match text.dropWhile fun c => classOf c ≠ 0 with
  | [] => marks
  | c :: cs => marks ++ composeFrom c [] cs

/-- The composed spelling of a text. -/
def compose (text : List Char) : List Char := recompose (decompose text)

end LongPoll.Text.Composition
