import LongPoll.Text.Composition.Table

/-!
Where a name may hold marks and joiners, with the joining types of Unicode 17.0.

A label does not begin with a mark. The two joiners have no shape of their own. They are in place
after a mark that takes the vowel from a letter, and the one that keeps letters apart also between
letters that would be joined.
-/

namespace LongPoll.Url.Domain

/-- The table of marks. A row has a length, and: `M` marks, `O` others. -/
def markLines : List String := [
  "Olc M35 O7m M8 O7a M19 O1 M1 O1 M2 O1 M2 O1 M9 O1s Mb O1c Ml Og M1 O2t M8 O1 M6 O2 M2 O1 M4",
  "Oz M1 Ou Mt O2h Mb O1m M9 O9 M1 Oo M4 O1 M9 O1 M3 O1 M7 O15 M5 O1l M9 O16 M1m O1i M3 O1 Mi O1",
  "Mf O2 M2 Ot M4 O1j M1 O1 Mg O9 M9 O2 M4 Oo M7 O1j Mw Ok M2 O3 M1 Ob M4 O1j M1 O1 Mi Oi M4 Ok",
  "Mb O1j M1 O1 Mx O3 M4 Os M1 O1n Mi O7 Mf Oq M5 O1j M1 O1 Mq Oa M4 Or M3 O1k M1 O1 Mu O6 M4 Od",
  "Mh O1j M2 O1 Mg O9 M1 Oa M4 Or M4 O1x Ms Oc M2 O1p M1 O2 Mb O8 M8 O2q M1 O2 M9 Ob M8 O20 M2",
  "Or M1 O1 M1 O1 M1 O4 M2 O1d Mk O1 M2 O5 M1d O8 M1 O2s Mk On M4 O4 M3 O1 M3 O2 M7 O3 M4 Od Mc",
  "O1 M1 Oa M4 Ojj M3 Oqa Md Oj M3 Ot Me Oi Me O1i Mu O9 M3 O4l M2 Oy M1 O3a Mw O5z M7 O1j M17",
  "O1c M2d O1b Mh O12 M9 Oc M3 Ou Md O1k Mm O14 Mn O45 M3 O1 Ml O4 M1 O6 M1 O2 M3 O5i M1t Ojz",
  "M1g O2cr M4 O3w M1 O2o Mw Ofe M6 O2x M4 On9u M4 O1 Ma Ow M2 O28 M2 O7k M1 O3 M1 O4 M1 On M5",
  "O4 M4 O28 M2 O1e Mq Oi Mi Od M1 O12 M8 Op Mo Ox M4 O1b Me O10 M1 O1v Mn O3 M1 O8 M4 O17 M3",
  "O1e M1 O1 M3 O2 M2 O5 M2 O1 M1 O15 M5 O5 Mc O6a M8 O1 M4 Ofn2 M44 Oha M11 Oqg M3n O2o M1 O45",
  "Ma O1a9 Mf O14 M8 O4l M6 Oft Mc O1l M5 O8t M2 O25 M6 O1y Mb O1d M4 O3e M3 O1h Mf O15 M1 O2 M2",
  "Oa M4 O19 Mb O7 Me O1c M3 O10 Mf Of M2 O18 M1 Oc M3 O1c Me O8 M4 O1 M2 O2k Mc O6 M1 O2 M1r",
  "O2n Mh Og M5 O1i M2 O1 Mi O7 M6 O5 Mu O1n M7 Oc M1 O1 M1 O1 M1 Oe Mv O1h Mi On M1 O29 Mk O6j",
  "Mi Or M10 O1c Mh O2y Md O2t Mj O70 Mf O6t Mf O1 M1 O1 M2 O3x Mg O3 Ms O1 Ma O14 M7 O1 M4 O8",
  "M9 O1 Mb O1a Mg O5i M1 O1 M3 O1 M1 O5k Mh O2a M32 O1d Ml O1 M9 O1m Me O9n M4 O9 M2 O1 M1 O1c",
  "Mf On M2e O428 M1 O6 Mp O8u6 Mc O3 M3 O1xc M5 O1n M7 Ot4 M1 O1 M1u O29 Me Of57 M2 O3mp M28",
  "Oet M5 O3 Mm O2 M7 Ou M4 O44 M3 O1iz M1j O4 M1e O8 M1 Oe M1 Om Mv9 O74 M74 O1c M7 Oaf Mi O18",
  "M4 Oe4 M4 O72 M2 O6r M1 O2 M1 O7 M2 O5 M9 Ocy M2a Oy M7 Ol705"]

/-- The table of joining types. A row has a length, and: `L` joined on the left, `R` on the right,
`D` on both sides, `T` passed over, `U` not joined. -/
def joiningLines : List String := [
  "Ulc T35 U7m T8 U7a T19 U1 T1 U1 T2 U1 T2 U1 T9 U1s Tb U5 D1 U1 R4 D1 R1 D1 R1 D5 R4 Dd U1 D7",
  "R1 D2 Tl Ue D2 T1 R3 U5 Df Ri D12 R1 D2 R9 D1 R1 D1 R1 D2 R2 U1 R1 T8 U1 T6 U2 T2 U1 T4 R2 Ua",
  "D3 U2 D1 Ug R1 T1 D3 R5 D4 R1 D9 R1 D1 R1 D1 R1 D2 R1 Tt R1 Db R3 Df R2 D4 R1 D1 R2 D3 R2 D6",
  "U12 Tb Up Dx T9 U9 T1 Uo T4 U1 T9 U1 T3 U1 T7 Ug R1 D5 R2 D1 R1 Da R1 D1 R3 T5 U2 D1 U1 D4 U1",
  "R1 D1 Rq U3 D1 U2 D5 R1 D8 T9 Da R3 U1 R1 D2 R2 D6 R1 Df U1 T1l U1j T1 U1 T1 U4 T8 U4 T1 U3",
  "Tf U2 T2 Ut T1 U1m T1 U4 T6 U6 T1 Uk T4 Uo T5 U1l T2 U3 Tr Uk T2 U3 T1 Ub T2 U1l T1 U4 T8 U4",
  "T3 Ui T4 Uk T8 U1m T1 U2 T1 U1 T6 U6 Ta Ub T4 Us T1 U1p T1 Uc T3 U1c T1 U3 T1 U1j T1 U1 T3 U5",
  "Ti Ua T4 Ur T1 U1m T1 U2 T1 U6 T1 U5 T9 Ud T4 Uq T2 U1l T2 U4 T5 U7 T1 Uk T4 Ur T1 U20 T5 U3",
  "T6 U2h T1 U2 Tb U8 T8 U2q T1 U2 T9 Ub T8 U20 T2 Ur T1 U1 T1 U1 T1 U1j Te U1 T5 U1 T2 U5 T1d",
  "U8 T1 U2u T4 U1 T6 U1 T2 U2 T2 Up T2 U4 T3 Ug T4 Ud T1 U2 T2 U6 T1 Uf T1 Ujj T3 Uqa T3 Ut T2",
  "Uu Te Ui Te U1j T7 U8 T1 U2 Tb U9 T3 U13 D1 Uo D2o U5 T2 Dy T1 D6 U34 T3 U4 T2 U9 T1 U6 T7",
  "U5z T2 U2 T3 U1k T1 U1 T9 U1 T1 U2 T8 U6 Td U1c T2c U1c T1 U1 T5 U1 T1 U5 T1 U14 T9 Uc T2 Uw",
  "T4 U2 T2 U1 T3 U1k T1 U1 T2 U3 T1 U1 T3 U1m T8 U2 T5 U45 T3 U1 Td U1 T7 U4 T1 U6 T1 U3 T2 U5i",
  "T1t Ujz T1g U2cr T4 U3w T1 U2o Tw Ufe T4 U2z T4 Un9u T4 U1 Ta Uw T2 U28 T2 U7k T1 U3 T1 U4 T1",
  "Up T2 U5 T4 Ug D1e L1 U29 Ta Ui Ti Ud T1 U12 T8 Up Tb U1a T3 U1c T1 U2 T4 U2 T2 U13 T1 U1v T6",
  "U2 T2 U2 Tb U3 T1 U8 T1 U1b T1 U1f T1 U1 T3 U2 T2 U5 T2 U1 T1 U16 T2 U8 Tb U6c T1 U2 T1 U4 T3",
  "Ufn2 T44 Uha T11 Uqg T3n U2o T1 U45 Ta U1a9 Tf U14 T8 U3k D5 R1 U1 R1 U1 R2 U2 L1 R5 D4 L1 D5",
  "R1 D3 R1 U2 R1 T6 D4 R1 U40 D1 R1 D1 R3 D3 R1 D2 R1 D1 R2 D1 R8 Ug R4 D2 U9d L1 Dx R1 D1 Tc",
  "U1l T5 U8t T2 Ul R1 D2 U1 Da U16 T6 U1c D3 R1 Dh U1 Tb D3 R1 Ur D4 R2 Dc T4 U16 D1 U1 D2 R3",
  "U1 D1 R2 D2 R1 D2 U1 D1 R2 D1 U4 R1 D1 Ll Ux T1 U1i Tf U15 T1 U2 T2 Ua T3 U1d T4 U2 T2 U7 Te",
  "U1c T3 U10 T5 U1 T9 U1p T1 Uc T2 U1g T9 Ua T4 U2 T1 U2n T3 U2 T1 U1 T2 U6 T1 U2 T1r U2n T1 U3",
  "Td Ug T2 U1l T2 U3 T1 U11 Tq U1n T7 Uc T1 U1 T1 U1 T1 Ue Tv U1k T8 U2 T3 U1 T1 Un T1 U2c T6",
  "U1 T1 U4 T2 U1 T2 U6m T6 U4 T2 U1 T2 Ur T10 U1f T8 U2 T1 U1 T2 U2y T1 U1 T1 U2 T6 U1 T1 U2t",
  "T1 U1 T1 U2 T4 U1 T9 U73 T9 U1 T2 U74 T2 U1 T1 U4 T1 U40 T8 U4 T1 Uw Ta U14 T6 U2 T4 U8 T9 U1",
  "T6 U2 T3 U1a Td U1 T2 U5i T1 U1 T3 U1 T1 U5l Te U1 T1 U2a Tn U1 T7 U1 T2 U1 T23 U1d Tl U1 T9",
  "U1s T3 U2 T1 U1 T1 U9n T2 Ub T2 U1g T8 U2 T1 U1 T1 Un T2e U428 T1 U6 Tp U8u6 Tc U3 T3 U1xc T5",
  "U1n T7 Ut4 T1 U1r T4 U29 Tc Uf59 T2 U3mp T28 Uev T3 Uh T8 U2 T7 Uu T4 U44 T3 U1iz T1j U4 T1e",
  "U8 T1 Ue T1 Um Tv9 U74 T74 U1c T7 Uaf Ti U18 T4 Ue4 T4 U72 T2 U6r T1 U2 T1 U7 T2 U5 T9 Ucy",
  "T2a Dy Tc Ul700"]

def marks : Text.Runs Bool := Text.Runs.read (fun kind _ => kind == 'M') markLines

def joiningTypes : Text.Runs Char := Text.Runs.read (fun kind _ => kind) joiningLines

/-- A mark is written on the character before it. -/
def isMark (c : Char) : Bool := marks.valueAt false c.toNat

def joiningType (c : Char) : Char := joiningTypes.valueAt 'U' c.toNat

/-- The mark that takes the vowel from a letter. -/
def isVowelKiller (c : Char) : Bool := Text.Composition.classes.valueAt 0 c.toNat == 9

/-- The first of the characters that is not passed over has one of the types. -/
def reaches (types : List Char) (cs : List Char) : Bool :=
  ((cs.map joiningType).dropWhile (· == 'T')).head?.any types.contains

/-- The joiners of a text are in place; `before` is what stands before the text, latest first. -/
def joinersInPlace (before : List Char) : List Char → Bool
  | [] => true
  | c :: cs =>
    let inPlace :=
      if c = '\u200c' then
        before.head?.any isVowelKiller || (reaches ['L', 'D'] before && reaches ['R', 'D'] cs)
      else if c = '\u200d' then before.head?.any isVowelKiller
      else true
    inPlace && joinersInPlace (c :: before) cs

end LongPoll.Url.Domain
