/-!
Punycode: any text by letters, digits and hyphens.

The characters of ASCII come first, as they are, and a hyphen after them. Then the others follow in
ascending order, each as the distance to the next place where one is inserted. A distance is written
in digits of base 36, the least significant first; a digit below the threshold of its place is the
last one. The thresholds follow the size of the distances so far (the bias).
-/

namespace LongPoll.Text.Punycode

/-- The digit of a number below 36: letters first. -/
def digit (n : Nat) : Char :=
  if n < 26 then Char.ofNat ('a'.toNat + n) else Char.ofNat ('0'.toNat + (n - 26))

def value? (c : Char) : Option Nat :=
  if c.isDigit then some (c.toNat - '0'.toNat + 26)
  else if 'a' ≤ c ∧ c ≤ 'z' then some (c.toNat - 'a'.toNat)
  else none

/-- The threshold of the digit at `place`, which grows by 36 from digit to digit. -/
def threshold (bias place : Nat) : Nat := min 26 (max 1 (place - bias))

theorem one_le_threshold (bias place : Nat) : 1 ≤ threshold bias place := by
  simp only [threshold]; omega

/-- Bring a distance down to the range of one digit, counting 36 for each division by 35. -/
def scaled (distance places : Nat) : Nat × Nat :=
  if h : 455 < distance then scaled (distance / 35) (places + 36) else (distance, places)
  termination_by distance
  decreasing_by omega

/-- The bias after a distance, when `count` characters stand in the text. -/
def adapt (distance count : Nat) (first : Bool) : Nat :=
  let distance := if first then distance / 700 else distance / 2
  let (distance, places) := scaled (distance + distance / count) 0
  places + 36 * distance / (distance + 38)

def initialBias : Nat := 72

/-- The first character that is not written as itself. -/
def firstOther : Nat := 0x80

/-! ### Writing -/

/-- The digits of a number, from `place` on. -/
def digits (bias place n : Nat) : List Char :=
  let t := threshold bias place
  if n < t then [digit n]
  else digit (t + (n - t) % (36 - t)) :: digits bias (place + 36) ((n - t) / (36 - t))
  termination_by n
  decreasing_by
    have := one_le_threshold bias place
    have := Nat.div_le_self (n - threshold bias place) (36 - threshold bias place)
    omega

/-- Where the writer stands. -/
structure Writer where
  /-- What is written, latest first. -/
  written : List Char := []
  /-- Places passed since the last insertion. -/
  distance : Nat := 0
  bias : Nat := initialBias
  /-- Characters that stand in the text. -/
  count : Nat

/-- Pass the character `c` of the text while those equal to `n` are being inserted. -/
def Writer.pass (basic n : Nat) (w : Writer) (c : Char) : Writer :=
  if c.toNat < n then { w with distance := w.distance + 1 }
  else if c.toNat = n then {
    written := (digits w.bias 36 w.distance).reverse ++ w.written
    distance := 0
    bias := adapt w.distance (w.count + 1) (w.count == basic)
    count := w.count + 1 }
  else w

/-- Insert the characters `others`, in ascending order, into the text; `n` is the least that may
come next. -/
def Writer.insertAll (text : List Char) (basic : Nat) (w : Writer) (n : Nat) : List Nat → Writer
  | [] => w
  | m :: others =>
    let ready := { w with distance := w.distance + (m - n) * (w.count + 1) }
    let w := text.foldl (pass basic m) ready
    insertAll text basic { w with distance := w.distance + 1 } (m + 1) others

/-- The numbers of a list, each once and in ascending order. -/
def ascending (numbers : List Nat) : List Nat :=
  (numbers.mergeSort (· ≤ ·)).eraseDups

def encode (text : List Char) : List Char :=
  let basic := text.filter fun c => c.toNat < firstOther
  let others := ascending ((text.map Char.toNat).filter (firstOther ≤ ·))
  let w := Writer.insertAll text basic.length { count := basic.length } firstOther others
  basic ++ (if basic.isEmpty then [] else ['-']) ++ w.written.reverse

/-! ### Reading -/

/-- Read a number, adding it to `n`; `weight` is that of the digit at `place`. The rest of the text
is returned with it. -/
def number? (bias place weight n : Nat) : List Char → Option (Nat × List Char)
  | [] => none
  | c :: rest =>
    match value? c with
    | none => none
    | some d =>
      let t := threshold bias place
      if d < t then some (n + d * weight, rest)
      else number? bias (place + 36) (weight * (36 - t)) (n + d * weight) rest

theorem number?_length {bias place weight n : Nat} {text : List Char} {r : Nat × List Char}
    (h : number? bias place weight n text = some r) : r.2.length < text.length := by
  induction text generalizing place weight n with
  | nil => simp [number?] at h
  | cons c rest ih =>
    simp only [number?] at h
    split at h
    · simp at h
    · split at h
      · obtain rfl := Option.some.inj h
        simp
      · have := ih h
        simp only [List.length_cons]
        omega

/-- Insert the characters that the digits describe. `n` is the last one inserted and `place` the
next place. -/
def insertAll? (inserted : List Char) (bias n place : Nat) (text : List Char) :
    Option (List Char) :=
  match text with
  | [] => some inserted
  | c :: rest =>
    match h : number? bias 36 1 place (c :: rest) with
    | none => none
    | some (next, rest') =>
      let count := inserted.length + 1
      let m := n + next / count
      if m.isValidChar then
        insertAll? (inserted.insertIdx (next % count) (Char.ofNat m))
          (adapt (next - place) count (place == 0)) m (next % count + 1) rest'
      else none
  termination_by text.length
  decreasing_by exact number?_length h

/-- Read a text. The last hyphen that has something before it ends the characters of ASCII. -/
def decode? (text : List Char) : Option (List Char) :=
  if text.any fun c => firstOther ≤ c.toNat then none
  else
    match (text.reverse.dropWhile (· != '-')).drop 1 with
    | [] => insertAll? [] initialBias firstOther 0 text
    | basic => insertAll? basic.reverse initialBias firstOther 0 (text.drop (basic.length + 1))

end LongPoll.Text.Punycode
