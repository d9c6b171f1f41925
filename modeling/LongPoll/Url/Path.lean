import LongPoll.Text.Pieces
import LongPoll.Url.Basic

/-!
Paths of segments.

A single dot stands for the place itself and two dots for the place above, and neither stays in a
path. `step` and `finish` add one segment to the segments before it; a path is read by folding them,
and segments are appended by them.

In a path a segment that looks like a drive (`C:`) cannot be left by two dots.
-/

namespace LongPoll.Url

def dots : List (List Char) := [".", "%2e", "%2E"].map String.toList

/-- The segment stands for the place itself. -/
def isSingleDot (s : List Char) : Bool := dots.contains s

/-- The segment stands for the place above. -/
def isDoubleDot (s : List Char) : Bool := dots.any fun a => dots.any fun b => s == a ++ b

/-- The segment looks like a drive: a letter, and a colon or a bar. -/
def isDrive : List Char → Bool
  | [c, d] => c.isAlpha && (d == ':' || d == '|')
  | _ => false

def up (before : List (List Char)) : List (List Char) :=
  if before.getLast?.any isDrive then before else before.dropLast

/-- Add a segment that a slash follows. -/
def step (before : List (List Char)) (s : List Char) : List (List Char) :=
  if isDoubleDot s then up before
  else if isSingleDot s then before
  else before ++ [s]

/-- Add the last segment. After dots the path ends in a slash. -/
def finish (before : List (List Char)) (s : List Char) : List (List Char) :=
  if isDoubleDot s then up before ++ [[]]
  else if isSingleDot s then before ++ [[]]
  else before ++ [s]

/-- The path that a list of segments describes. -/
def resolve (before : List (List Char)) : List (List Char) → List (List Char)
  | [] => before
  | [s] => finish before s
  | s :: rest => resolve (step before s) rest

/-- A path of files does not begin with empty segments. -/
def withoutEmptyFront (segments : List (List Char)) : List (List Char) :=
  match segments.dropWhile List.isEmpty with
  | [] => [[]]
  | rest => rest

/-- The colon of a drive is written as such. -/
def tidyDrive : List (List Char) → List (List Char)
  | [c, '|'] :: rest => if c.isAlpha then [c, ':'] :: rest else [c, '|'] :: rest
  | segments => segments

/-- A slash; in special schemes also a backslash. -/
def isSlash (special : Bool) (c : Char) : Bool := c == '/' || (special && c == '\\')

/-- The segments that a text after the first slash of a path describes. -/
def describedSegments (scheme text : List Char) : List (List Char) :=
  let written := Text.pieces (isSlash (isSpecial scheme)) text
  resolve [] (written.map (Text.Percent.encode reservedInPath))

/-- The segments of a path, read from the text after its first slash. -/
def readSegments (scheme text : List Char) : List (List Char) :=
  let segments := describedSegments scheme text
  if isFile scheme then withoutEmptyFront (tidyDrive segments) else segments

/-! ### Appending -/

/-- Characters that are removed wherever they stand: tab and the two line ends. -/
def isStray (c : Char) : Bool := c == '\t' || c == '\n' || c == '\r'

def writtenSegment (special : Bool) (s : String) : List Char :=
  Text.Percent.encode (reservedInSegment special) (s.toList.filter fun c => !isStray c)

/-- The segments that a new one follows; the root is followed at once. -/
def base (segments : List (List Char)) : List (List Char) :=
  if segments = [[]] then [] else segments

/-- Append a segment. Dots are passed over. -/
def appendSegment (scheme : List Char) (segments : List (List Char)) (s : String) :
    List (List Char) :=
  if s = "." ∨ s = ".." then segments
  else
    let longer := finish (base segments) (writtenSegment (isSpecial scheme) s)
    if isFile scheme then
      withoutEmptyFront (if base segments = [] then tidyDrive longer else longer)
    else longer

/-- The segments without the slash at their end, if there are others. -/
def withoutEndSlash (segments : List (List Char)) : List (List Char) :=
  if 1 < segments.length ∧ segments.getLast? = some [] then segments.dropLast else segments

/-- Append segments to the path. A bare path stays as it is. -/
def extend (u : Url) (list : List String) : Url :=
  match u.path with
  | .bare _ => u
  | .segments guarded old =>
    { u with
      path := .segments guarded (list.foldl (appendSegment u.scheme) (withoutEndSlash old)) }

/-- Add parameters at the end of the query. A query that stays empty is left out. -/
def addParameters (u : Url) (parameters : List (String × String)) : Url :=
  let written := Text.Form.encodePairs parameters
  let old := u.query.getD []
  let query := if old = [] ∨ written = [] then old ++ written else old ++ '&' :: written
  { u with query := if query = [] then none else some query }

end LongPoll.Url
