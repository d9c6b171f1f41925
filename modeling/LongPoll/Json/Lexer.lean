import LongPoll.Json.Basic

/-!
The tokens of a byte string.

The lexer is an automaton that takes one byte at a time, so reading is a fold and its length is that
of the text. A byte that ends a number belongs to what comes next: the number is put out and the
byte is taken again between tokens.

Inside a string only the shape of an escape is checked. Which characters the bytes and the escapes
stand for is not the lexer's affair.
-/

namespace LongPoll.Json

/-- How far a number literal has come. -/
inductive NumberPhase where
  /-- After the minus sign. -/
  | sign
  /-- After a leading zero, which no digit may follow. -/
  | zero
  /-- In the whole part. -/
  | whole
  /-- After the point. -/
  | point
  /-- In the fraction. -/
  | fraction
  /-- After the exponent mark. -/
  | mark
  /-- After the sign of the exponent. -/
  | markSign
  /-- In the exponent. -/
  | exponent
  deriving DecidableEq, Repr

def isDigitByte (b : UInt8) : Bool := 0x30 ≤ b && b ≤ 0x39

/-- A hexadecimal digit of ASCII, of either case. -/
def isHexByte (b : UInt8) : Bool :=
  isDigitByte b || (0x41 ≤ b && b ≤ 0x46) || (0x61 ≤ b && b ≤ 0x66)

/-- The white space that may stand between tokens: space, tab and the two line ends. -/
def isSpaceByte (b : UInt8) : Bool := b == 0x20 || b == 0x09 || b == 0x0A || b == 0x0D

namespace NumberPhase

def mayEnd : NumberPhase → Bool
  | zero | whole | fraction | exponent => true
  | sign | point | mark | markSign => false

/-- The phase after one more byte of the literal, or `none` if the byte is not part of it. -/
def next? : NumberPhase → UInt8 → Option NumberPhase
  | sign, b => if b == 0x30 then some zero else if isDigitByte b then some whole else none
  | zero, b => afterWhole b
  | whole, b => if isDigitByte b then some whole else afterWhole b
  | point, b => if isDigitByte b then some fraction else none
  | fraction, b => if isDigitByte b then some fraction else afterFraction b
  | mark, b =>
    if b == 0x2B || b == 0x2D then some markSign else if isDigitByte b then some exponent else none
  | markSign, b => if isDigitByte b then some exponent else none
  | exponent, b => if isDigitByte b then some exponent else none
where
  /-- An exponent may begin. -/
  afterFraction (b : UInt8) : Option NumberPhase :=
    if b == 0x65 || b == 0x45 then some mark else none
  /-- A fraction or an exponent may begin. -/
  afterWhole (b : UInt8) : Option NumberPhase :=
    if b == 0x2E then some point else afterFraction b

end NumberPhase

/-- Where in a token the lexer stands. Bytes that belong to the token are kept latest first. -/
inductive LexerMode where
  | between
  /-- In one of the three words, with the letters still due. -/
  | word (due : List UInt8) (token : Token)
  | string (raw : RawString)
  /-- After a backslash. -/
  | escape (raw : RawString)
  /-- In a numeric escape, with so many digits still due. -/
  | codeUnit (due : Nat) (raw : RawString)
  | number (phase : NumberPhase) (literal : List UInt8)
  deriving DecidableEq, Repr

/-- The lexer: the tokens put out so far, latest first, and where it stands. -/
structure Lexer where
  tokens : List Token
  mode : LexerMode
  deriving DecidableEq, Repr

namespace Lexer

def initial : Lexer := ⟨[], .between⟩

/-- Put out a token and go on between tokens. -/
def emit (l : Lexer) (t : Token) : Lexer := ⟨t :: l.tokens, .between⟩

def begin? (l : Lexer) (b : UInt8) : Option Lexer :=
  if isSpaceByte b then some { l with mode := .between }
  else if b == 0x5B then some (l.emit .openArray)
  else if b == 0x5D then some (l.emit .closeArray)
  else if b == 0x7B then some (l.emit .openObject)
  else if b == 0x7D then some (l.emit .closeObject)
  else if b == 0x2C then some (l.emit .comma)
  else if b == 0x3A then some (l.emit .colon)
  else if b == 0x22 then some { l with mode := .string [] }
  else if b == 0x6E then some { l with mode := .word [0x75, 0x6C, 0x6C] .null }
  else if b == 0x74 then some { l with mode := .word [0x72, 0x75, 0x65] (.bool true) }
  else if b == 0x66 then some { l with mode := .word [0x61, 0x6C, 0x73, 0x65] (.bool false) }
  else if b == 0x2D then some { l with mode := .number .sign [b] }
  else if b == 0x30 then some { l with mode := .number .zero [b] }
  else if isDigitByte b then some { l with mode := .number .whole [b] }
  else none

/-- The letters that may follow a backslash, the one of numeric escapes apart. -/
def isShortEscape (b : UInt8) : Bool :=
  b == 0x22 || b == 0x5C || b == 0x2F || b == 0x62 || b == 0x66 || b == 0x6E || b == 0x72 ||
    b == 0x74

def step? (l : Lexer) (b : UInt8) : Option Lexer :=
  match l.mode with
  | .between => l.begin? b
  | .word (due :: []) t => if b == due then some (l.emit t) else none
  | .word (due :: rest) t => if b == due then some { l with mode := .word rest t } else none
  | .word [] _ => none
  | .string raw =>
    if b == 0x22 then some (l.emit (.string raw.reverse))
    else if b == 0x5C then some { l with mode := .escape (b :: raw) }
    else if b < 0x20 then none
    else some { l with mode := .string (b :: raw) }
  | .escape raw =>
    if b == 0x75 then some { l with mode := .codeUnit 4 (b :: raw) }
    else if isShortEscape b then some { l with mode := .string (b :: raw) }
    else none
  | .codeUnit due raw =>
    if isHexByte b then
      some { l with mode := if due ≤ 1 then .string (b :: raw) else .codeUnit (due - 1) (b :: raw) }
    else none
  | .number phase literal =>
    match phase.next? b with
    | some phase' => some { l with mode := .number phase' (b :: literal) }
    | none => if phase.mayEnd then (l.emit (.number literal.reverse)).begin? b else none

/-- The tokens, if the text may end here. -/
def finish? (l : Lexer) : Option (List Token) :=
  match l.mode with
  | .between => some l.tokens.reverse
  | .number phase literal =>
    if phase.mayEnd then some (l.emit (.number literal.reverse)).tokens.reverse else none
  | _ => none

end Lexer

def lex? (bytes : List UInt8) : Option (List Token) := do
  (← bytes.foldlM Lexer.step? Lexer.initial).finish?

end LongPoll.Json
