/-!
The pieces of a text between separators.

There is one piece more than there are separators, so a text without any is a single piece and two
separators side by side have an empty piece between them. No piece holds a separator.
-/

namespace LongPoll.Text

/-- Put a character in front of the first of some pieces. -/
def consFirst (c : Char) : List (List Char) → List (List Char)
  | [] => [[c]]
  | p :: ps => (c :: p) :: ps

/-- The pieces of a text between the characters that satisfy `isSeparator`. -/
def pieces (isSeparator : Char → Bool) : List Char → List (List Char)
  | [] => [[]]
  | c :: cs =>
    if isSeparator c then [] :: pieces isSeparator cs else consFirst c (pieces isSeparator cs)

/-- The pieces between equal separators. -/
def piecesAt (separator : Char) (text : List Char) : List (List Char) :=
  pieces (· == separator) text

variable {isSeparator : Char → Bool}

theorem pieces_ne_nil (text : List Char) : pieces isSeparator text ≠ [] := by
  cases text with
  | nil => simp [pieces]
  | cons c cs =>
    rw [pieces]
    split
    · simp
    · cases pieces isSeparator cs <;> simp [consFirst]

end LongPoll.Text
