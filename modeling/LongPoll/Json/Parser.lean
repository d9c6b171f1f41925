import LongPoll.Json.Lexer

/-!
The tree of a token list.

The parser is an automaton with a stack, one frame for each container that is still open. It takes
one token at a time and nests as deep as the text does.
-/

namespace LongPoll.Json

/-- An open container. Items and members are kept latest first. -/
inductive Frame where
  | array (items : List Json)
  | object (members : List (RawString × Json))
  /-- An object that waits for the value of a member. -/
  | member (members : List (RawString × Json)) (key : RawString)

/-- What may come next. -/
inductive Expected where
  | value
  /-- After an opening bracket. -/
  | valueOrClose
  | key
  /-- After an opening brace. -/
  | keyOrClose
  | colon
  /-- After a value inside a container. -/
  | commaOrClose
  /-- Nothing more: the text is complete. -/
  | nothing (result : Json)

/-- The parser: the open containers, innermost first, and what may come next. -/
structure Parser where
  stack : List Frame
  expected : Expected

namespace Parser

def initial : Parser := ⟨[], .value⟩

/-- Hand a finished value to the innermost open container. -/
def complete? (stack : List Frame) (v : Json) : Option Parser :=
  match stack with
  | [] => some ⟨[], .nothing v⟩
  | .array items :: rest => some ⟨.array (v :: items) :: rest, .commaOrClose⟩
  | .member members key :: rest => some ⟨.object ((key, v) :: members) :: rest, .commaOrClose⟩
  | .object _ :: _ => none

/-- Take a token where a value may begin. -/
def beginValue? (stack : List Frame) : Token → Option Parser
  | .openArray => some ⟨.array [] :: stack, .valueOrClose⟩
  | .openObject => some ⟨.object [] :: stack, .keyOrClose⟩
  | .null => complete? stack .null
  | .bool b => complete? stack (.bool b)
  | .number literal => complete? stack (.number literal)
  | .string raw => complete? stack (.string raw)
  | _ => none

/-- Take a token where the name of a member may begin. -/
def beginMember? (stack : List Frame) (t : Token) : Option Parser :=
  match stack, t with
  | .object members :: rest, .string raw => some ⟨.member members raw :: rest, .colon⟩
  | _, _ => none

/-- Close the innermost container. -/
def close? (stack : List Frame) (t : Token) : Option Parser :=
  match stack, t with
  | .array items :: rest, .closeArray => complete? rest (.array items.reverse)
  | .object members :: rest, .closeObject => complete? rest (.object members.reverse)
  | _, _ => none

def step? (p : Parser) (t : Token) : Option Parser :=
  match p.expected with
  | .value => beginValue? p.stack t
  | .valueOrClose => (close? p.stack t).orElse fun _ => beginValue? p.stack t
  | .key => beginMember? p.stack t
  | .keyOrClose => (close? p.stack t).orElse fun _ => beginMember? p.stack t
  | .colon =>
    match t with
    | .colon => some ⟨p.stack, .value⟩
    | _ => none
  | .commaOrClose =>
    match t, p.stack with
    | .comma, .array _ :: _ => some ⟨p.stack, .value⟩
    | .comma, .object _ :: _ => some ⟨p.stack, .key⟩
    | _, _ => close? p.stack t
  | .nothing _ => none

/-- The tree, if the tokens may end here. -/
def finish? (p : Parser) : Option Json :=
  match p.expected with
  | .nothing v => some v
  | _ => none

end Parser

def ofTokens? (tokens : List Token) : Option Json := do
  (← tokens.foldlM Parser.step? Parser.initial).finish?

def parse? (bytes : List UInt8) : Option Json := do ofTokens? (← lex? bytes)

end LongPoll.Json
