import LongPoll.Text.Packed

/-!
The direction in which a name is written, with the bidirectional classes of Unicode 15.0.

Letters of some scripts run from right to left. A name that holds such a letter must not be laid out
in more than one way, so each of its labels keeps to one direction, begins with a letter of it and
ends with such a letter or a number.
-/

namespace LongPoll.Url.Domain

/-- The direction of a character. -/
inductive Direction where
  | left
  | right
  | arabicNumber
  | europeanNumber
  /-- Written on the character before it. -/
  | mark
  /-- Goes with the text around it. -/
  | neutral
  /-- Ends a text or turns it. -/
  | other
  deriving DecidableEq, Repr

/-- The table of directions. A row has a length, and: `L` left to right, `R` right to left, `A`
Arabic and `E` European numbers, `M` marks, `N` neutral, `X` other. Only characters that a name can
hold are told apart. -/
def directionLines : List String := [
  "N9 X5 Ne X5 Nf Ea N13 Lq N2s Lo N1 Lch N2 L7 Ne L2 Ns L1 Nh M35 L4 N2 L3j N2 L3v M8 L73 N7",
  "M19 R1 M1 R1 M2 R1 M2 R1 M9 R1i N2 R1 N2 R1 N1 R1 N2 Mb R1c Ml Aa N1 A2 R3 M1 R2t M8 N1 M6 R2",
  "M2 N1 M4 R2 Ea Rn M1 Ru Mt R2h Mb R1m M9 R2 N4 R3 M1 Ro M4 R1 M9 R1 M3 R1 M7 R15 M5 R1l M9",
  "R16 M1l L1j M1 L1 M1 L4 M8 L4 M1 L3 Mf L2 M2 Lt M1 L1m M1 L4 M6 L6 M1 Lk M4 Lc N2 L7 N1 L2 M5",
  "L1l M2 L3 Mr Lk M2 L3 M1 Lb M2 L1l M1 L4 M8 L4 M3 Li M4 Lb N8 L1 M8 L1m M1 L2 M1 L1 M6 L6 Ma",
  "Lb M4 Ls M1 L1p M1 Lc M3 Lz Nd M1 L3 M1 L1j M1 L1 M3 L5 Mi La M4 Li N7 L2 M1 L1m M1 Lf M9 Ld",
  "M4 Lq M2 L1l M2 L4 M5 L7 M1 Lk M4 Lr M1 L20 M5 L3 M6 L2h M1 L2 Mb N1 L7 M8 L2q M1 L2 M9 Lb M8",
  "L20 M2 Lr M1 L1 M1 L1 M1 N4 L1f Me L1 M5 L1 M2 L5 M1d L8 M1 L2u M4 L1 M6 L1 M2 L2 M2 Lp M2 L4",
  "M3 Lg M4 Ld M1 L2 M2 L6 M1 Lf M1 Ljj M3 L1c Ng L2o N1 Lii N5 L36 M3 Lt M2 Lu Me Li Me L1j M7",
  "L8 M1 L2 Mb L7 N1 L1 M3 Lg Nw L39 M2 Ly M1 L3a M3 L4 M2 L9 M1 L6 M7 N6 L48 Ny Ln M2 L2 M3 L1k",
  "M1 L1 M9 L1 M1 L2 M8 L6 Md L1c M2c L1c M1 L1 M5 L1 M1 L5 M1 L14 M9 Lc M2 Lw M4 L2 M2 L1 M3",
  "L1k M1 L1 M2 L3 M1 L1 M3 L1m M8 L2 M5 L45 M3 L1 Md L1 M7 L4 M1 L6 M1 L3 M2 L5i M1t Lej N5g",
  "M1g N22 L1o Nbw L1x Nq L1 Nly L1 N9f L74 Nmo L51 N7 L3 M4 L6 N7 L3j M1 L2o Mw Ned L3 Np L9 M4",
  "L2 N1 L6 N4 L2 N4 L2g M4 L3 N1 L2i N1 L5g N10 L5i4 N1s Lh3k N1s L8t N3 L2n M4 N1 Ma N3 Lt M2",
  "L28 M2 Le Nz L2t N1 L3d M1 L3 M1 L4 M1 Lp M2 L1 N4 M4 L8 N8 L1g Nc L1w Ma Li Mi Ld M1 L12 M8",
  "Lp Mb L1a M3 L1c M1 L2 M4 L2 M2 L13 M1 L1v M6 L2 M2 L2 Mb L3 M1 L8 M1 L1b M1 L1f M1 L1 M3 L2",
  "M2 L5 M2 L1 M1 L16 M2 L8 Mb L2x N2e L11 M1 L2 M1 L4 M3 Lfn2 M44 Rb0 N2a R1r N29 M11 N1a Rb1",
  "L75 N1 L1q N25 L3 N1s L19 M3n L2o M1 Ev L3a Ma Lw0 R7z N1 R69 Mf R14 M8 R4l M6 R26 N7 Rdg Mc",
  "Ag R15 M5 R6q Aw R17 M2 R25 M6 R1y Mb R1d M4 R3e L1 M1 L1i Mf Lb Nk La M1 L2 M2 La M3 L1d M4",
  "L2 M2 L7 Me L1c M3 L10 M5 L1 M9 L1p M1 Lc M2 L1g M9 La M4 L2 M1 L2n M3 L2 M1 L1 M2 L6 M1 L2",
  "M1r L2n M1 L3 Md Lg M2 L1l M2 L3 M1 L11 Mq L1n M7 Lc M1 L1 M1 L1 M1 Le Mv L1k M8 L2 M3 L1 M1",
  "Ln M1 L2c M6 L1 M1 L4 M2 L1 M2 L6m M6 L4 M2 L1 M2 Lr M10 L1f M8 L2 M1 L1 M2 Lv Nw L17 M1 L1",
  "M1 L2 M6 L1 M1 L2t M3 L2 M4 L1 M9 L73 M9 L1 M2 L74 M2 L1 M1 L4 M1 L40 M8 L4 M1 Lw M6 L2 M2",
  "L14 M6 L2 M4 L8 M9 L1 M6 L2 M3 L1a Md L1 M2 L5i M1 L1 M3 L1 M1 L5l Me L2c Mn L1 M7 L1 M2 L1",
  "M23 L1d Ml L1 M9 L1s M3 L2 M1 L1 M1 L9n M2 Lb M2 L1g M8 L2 M1 L1 M1 Ln M2e L11 N16 L401 M1 L6",
  "Mp L8u6 Mc L3 M3 L1xc M5 L1n M7 Lt4 M1 L1r M4 L27 N1 L1 Mc Lf59 M2 L31d Njk L1s M28 Lev M3 Lh",
  "M8 L2 M7 Lu M4 L1n N2h M3 N3f L1s N2o L1b4 M1j L4 M1e L8 M1 Le M1 Lm Mv9 L74 M74 L1c M7 Laf",
  "Mi L18 M4 Lf Ncx Ls M4 L72 M2 L6r M1 L2 M1 L7 M2 L5 M9 L76 R5s M2a Ry M7 R145 Ngw Lt N3 L1p",
  "N1l L3e N2ow Ll2io"]

namespace Direction

def ofRow (kind : Char) (_ : List Nat) : Direction :=
  match kind with
  | 'L' => .left
  | 'R' => .right
  | 'A' => .arabicNumber
  | 'E' => .europeanNumber
  | 'M' => .mark
  | 'N' => .neutral
  | _ => .other

def table : Text.Runs Direction := Text.Runs.read ofRow directionLines

/-- The direction of the character `c`. -/
def of (c : Char) : Direction := table.valueAt .other c.toNat

/-- It makes the text around it run from right to left. -/
def turns (d : Direction) : Bool := d == right || d == arabicNumber

/-- The last direction that is not that of a mark is one of `ends`. -/
def endsIn (ends : List Direction) (list : List Direction) : Bool :=
  (list.reverse.dropWhile (· == mark)).head?.any ends.contains

/-- A label whose first character has the first of these directions keeps to one direction. -/
def isOneWay : List Direction → Bool
  | left :: rest =>
    rest.all [left, europeanNumber, neutral, mark].contains &&
      endsIn [left, europeanNumber] (left :: rest)
  | right :: rest =>
    rest.all [right, arabicNumber, europeanNumber, neutral, mark].contains &&
      endsIn [right, arabicNumber, europeanNumber] (right :: rest) &&
      !(rest.contains europeanNumber && rest.contains arabicNumber)
  | [] => true
  | _ => false

end Direction

/-- The labels of a name can be laid out in one way only. -/
def isOneWay (labels : List (List Char)) : Bool :=
  let directions := labels.map fun l => l.map Direction.of
  !(directions.any fun l => l.any Direction.turns) || directions.all Direction.isOneWay

end LongPoll.Url.Domain
