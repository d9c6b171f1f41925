import LongPoll.Proofs.Json.Strings

/-!
The tokens that a byte string spells.

A token is always written the same way, so a spelling differs from another of the same tokens in
white space only. White space may stand anywhere between tokens and nowhere has to, except that a
number ends where something stands that ends numbers. What spells tokens is read as these tokens.
-/

namespace LongPoll.Json

/-! ### Numbers -/

def digitBytes : List UInt8 := [0x30, 0x31, 0x32, 0x33, 0x34, 0x35, 0x36, 0x37, 0x38, 0x39]

/-- A row of digits, possibly empty. -/
def AllDigits (bytes : List UInt8) : Prop := ∀ b ∈ bytes, b ∈ digitBytes

/-- The whole part of a number. Only zero begins with a zero. -/
inductive IsWhole : List UInt8 → Prop where
  | zero : IsWhole [0x30]
  | digits {first : UInt8} {rest : List UInt8} (hFirst : first ∈ digitBytes)
      (hLeading : first ≠ 0x30) (hRest : AllDigits rest) : IsWhole (first :: rest)

inductive IsFraction : List UInt8 → Prop where
  | none : IsFraction []
  | digits {first : UInt8} {rest : List UInt8} (hFirst : first ∈ digitBytes)
      (hRest : AllDigits rest) : IsFraction (0x2E :: first :: rest)

inductive IsExponent : List UInt8 → Prop where
  | none : IsExponent []
  | digits {mark first : UInt8} {sign rest : List UInt8} (hMark : mark = 0x65 ∨ mark = 0x45)
      (hSign : sign = [] ∨ sign = [0x2B] ∨ sign = [0x2D]) (hFirst : first ∈ digitBytes)
      (hRest : AllDigits rest) : IsExponent (mark :: (sign ++ first :: rest))

/-- A number literal: a whole part with or without a minus sign, then a fraction and an exponent, if
there are any. -/
inductive IsNumber : List UInt8 → Prop where
  | positive {whole fraction exponent : List UInt8} (hWhole : IsWhole whole)
      (hFraction : IsFraction fraction) (hExponent : IsExponent exponent) :
      IsNumber (whole ++ (fraction ++ exponent))
  | negative {whole fraction exponent : List UInt8} (hWhole : IsWhole whole)
      (hFraction : IsFraction fraction) (hExponent : IsExponent exponent) :
      IsNumber (0x2D :: (whole ++ (fraction ++ exponent)))

/-! ### Tokens and their spellings -/

/-- How a token is written. -/
def Token.bytes : Token → List UInt8
  | openArray => [0x5B]
  | closeArray => [0x5D]
  | openObject => [0x7B]
  | closeObject => [0x7D]
  | comma => [0x2C]
  | colon => [0x3A]
  | null => [0x6E, 0x75, 0x6C, 0x6C]
  | bool true => [0x74, 0x72, 0x75, 0x65]
  | bool false => [0x66, 0x61, 0x6C, 0x73, 0x65]
  | number literal => literal
  | string raw => 0x22 :: raw ++ [0x22]

/-- The token can be written: its number is a number and its string has an end. -/
def Token.IsLegal : Token → Prop
  | number literal => IsNumber literal
  | string raw => IsRaw raw
  | _ => True

def spaceBytes : List UInt8 := [0x20, 0x09, 0x0A, 0x0D]

/-- The bytes that may follow a number. -/
def endBytes : List UInt8 := spaceBytes ++ [0x2C, 0x5D, 0x7D]

/-- What comes next ends a number. -/
def Ends (bytes : List UInt8) : Prop := ∀ b ∈ bytes.head?, b ∈ endBytes

/-- The bytes spell these tokens. -/
inductive Spelling : List Token → List UInt8 → Prop where
  | nil : Spelling [] []
  | space {b : UInt8} {tokens : List Token} {bytes : List UInt8} (hSpace : b ∈ spaceBytes)
      (hRest : Spelling tokens bytes) : Spelling tokens (b :: bytes)
  | token {t : Token} {tokens : List Token} {bytes : List UInt8} (hLegal : t.IsLegal)
      (hEnds : ∀ literal, t = .number literal → Ends bytes) (hRest : Spelling tokens bytes) :
      Spelling (t :: tokens) (t.bytes ++ bytes)

/-! ### Reading a number -/

namespace NumberPhase

variable {phase : NumberPhase}

theorem isDigitByte_of_mem {b : UInt8} (h : b ∈ digitBytes) : isDigitByte b = true := by
  have hAll : ∀ b ∈ digitBytes, isDigitByte b = true := by decide +kernel
  exact hAll b h

/-- The phases that last while digits come. -/
def IsSteady (phase : NumberPhase) : Prop := phase = whole ∨ phase = fraction ∨ phase = exponent

theorem foldlM_digits {digits : List UInt8} (hSteady : phase.IsSteady)
    (hDigits : AllDigits digits) : digits.foldlM next? phase = some phase := by
  induction digits with
  | nil => rfl
  | cons b rest ih =>
      have hDigit := isDigitByte_of_mem (hDigits b (List.mem_cons_self ..))
      have hStays : phase.next? b = some phase := by
        rcases hSteady with rfl | rfl | rfl <;> simp [next?, hDigit]
      rw [List.foldlM_cons, hStays]
      exact ih fun b hMem => hDigits b (List.mem_cons_of_mem _ hMem)

theorem foldlM_first {first : UInt8} {rest : List UInt8} {phase' : NumberPhase}
    (hFirst : phase.next? first = some phase') (hSteady : phase'.IsSteady)
    (hRest : AllDigits rest) : (first :: rest).foldlM next? phase = some phase' := by
  rw [List.foldlM_cons, hFirst]
  exact foldlM_digits hSteady hRest

theorem foldlM_whole {literal : List UInt8} (h : IsWhole literal) :
    ∃ phase', literal.foldlM next? sign = some phase' ∧ (phase' = zero ∨ phase' = whole) := by
  cases h with
  | zero => exact ⟨zero, rfl, Or.inl rfl⟩
  | @digits first rest hFirst hLeading hRest =>
      have hNext : sign.next? first = some whole := by
        simp [next?, isDigitByte_of_mem hFirst, hLeading]
      exact ⟨whole, foldlM_first hNext (Or.inl rfl) hRest, Or.inr rfl⟩

theorem foldlM_fraction {literal : List UInt8} (h : IsFraction literal)
    (hPhase : phase = zero ∨ phase = whole) :
    ∃ phase', literal.foldlM next? phase = some phase' ∧
      (phase' = zero ∨ phase' = whole ∨ phase' = fraction) := by
  cases h with
  | none => exact ⟨phase, rfl, hPhase.imp_right Or.inl⟩
  | @digits first rest hFirst hRest =>
      have hPoint : phase.next? 0x2E = some point := by rcases hPhase with rfl | rfl <;> rfl
      have hNext : point.next? first = some fraction := by
        simp [next?, isDigitByte_of_mem hFirst]
      refine ⟨fraction, ?_, Or.inr (Or.inr rfl)⟩
      rw [List.foldlM_cons, hPoint]
      exact foldlM_first hNext (Or.inr (Or.inl rfl)) hRest

theorem foldlM_exponent {literal : List UInt8} (h : IsExponent literal)
    (hPhase : phase = zero ∨ phase = whole ∨ phase = fraction) :
    ∃ phase', literal.foldlM next? phase = some phase' ∧ phase'.mayEnd = true := by
  cases h with
  | none => exact ⟨phase, rfl, by rcases hPhase with rfl | rfl | rfl <;> rfl⟩
  | @digits mark first sign rest hMark hSign hFirst hRest =>
      have hBegins : phase.next? mark = some .mark := by
        rcases hPhase with rfl | rfl | rfl <;> rcases hMark with rfl | rfl <;> rfl
      have hDigits : (sign ++ first :: rest).foldlM next? .mark = some exponent := by
        have hSteady : exponent.IsSteady := Or.inr (Or.inr rfl)
        have hNext : NumberPhase.markSign.next? first = some exponent := by
          simp [next?, isDigitByte_of_mem hFirst]
        have hNext' : NumberPhase.mark.next? first = some exponent := by
          have hAll : ∀ b ∈ digitBytes, NumberPhase.mark.next? b = some exponent := by
            decide +kernel
          exact hAll first hFirst
        have hSigned : (first :: rest).foldlM next? markSign = some exponent :=
          foldlM_first hNext hSteady hRest
        rcases hSign with rfl | rfl | rfl
        · exact foldlM_first hNext' hSteady hRest
        · exact hSigned
        · exact hSigned
      refine ⟨exponent, ?_, rfl⟩
      rw [List.foldlM_cons, hBegins]
      exact hDigits

/-- A number without its sign is read to a place where it may end. -/
theorem foldlM_unsigned {whole fraction exponent : List UInt8} (hWhole : IsWhole whole)
    (hFraction : IsFraction fraction) (hExponent : IsExponent exponent) :
    ∃ phase', (whole ++ (fraction ++ exponent)).foldlM next? sign = some phase' ∧
      phase'.mayEnd = true := by
  obtain ⟨phase₁, hRun₁, hPhase₁⟩ := foldlM_whole hWhole
  obtain ⟨phase₂, hRun₂, hPhase₂⟩ := foldlM_fraction hFraction hPhase₁
  obtain ⟨phase₃, hRun₃, hEnd⟩ := foldlM_exponent hExponent hPhase₂
  refine ⟨phase₃, ?_, hEnd⟩
  simp only [List.foldlM_append, hRun₁, hRun₂, Option.bind_eq_bind, Option.bind_some, hRun₃]

/-- What ends a number is no part of it. -/
theorem next?_of_mem_endBytes {b : UInt8} (h : b ∈ endBytes) (phase : NumberPhase) :
    phase.next? b = none := by
  simp only [endBytes, spaceBytes, List.cons_append, List.nil_append, List.mem_cons,
    List.not_mem_nil, or_false] at h
  rcases h with rfl | rfl | rfl | rfl | rfl | rfl | rfl <;> cases phase <;> rfl

end NumberPhase

/-! ### Reading the tokens -/

namespace Lexer

variable {earlier : List Token}

/-- The tokens of a text of which the lexer has read a part. -/
def rest? (l : Lexer) (bytes : List UInt8) : Option (List Token) := do
  (← bytes.foldlM step? l).finish?

theorem rest?_cons (l : Lexer) (b : UInt8) (bytes : List UInt8) :
    l.rest? (b :: bytes) = (l.step? b).bind fun l' => l'.rest? bytes := by
  cases hStep : l.step? b <;> simp [rest?, List.foldlM_cons, hStep]

theorem rest?_append {l l' : Lexer} {word : List UInt8} (h : word.foldlM step? l = some l')
    (bytes : List UInt8) : l.rest? (word ++ bytes) = l'.rest? bytes := by
  simp [rest?, List.foldlM_append, h]

theorem rest?_space {b : UInt8} (hSpace : b ∈ spaceBytes) (bytes : List UInt8) :
    rest? ⟨earlier, .between⟩ (b :: bytes) = rest? ⟨earlier, .between⟩ bytes := by
  have hStep : step? ⟨earlier, .between⟩ b = some ⟨earlier, .between⟩ := by
    simp only [spaceBytes, List.mem_cons, List.not_mem_nil, or_false] at hSpace
    rcases hSpace with rfl | rfl | rfl | rfl <;> rfl
  rw [rest?_cons, hStep, Option.bind_some]

/-! Strings -/

theorem foldlM_unit {digits : List UInt8} {n : Nat} (hUnit : WritesUnit digits n)
    (acc : RawString) :
    (0x5C :: 0x75 :: digits).foldlM step? ⟨earlier, .string acc⟩ =
      some ⟨earlier, .string (digits.reverse ++ 0x75 :: 0x5C :: acc)⟩ := by
  cases hUnit with
  | digits ha hb hc hd =>
      simp [List.foldlM_cons, step?, ha.isHexByte, hb.isHexByte, hc.isHexByte, hd.isHexByte]

theorem foldlM_short {letter : UInt8} {c : Char} (hShort : (letter, c) ∈ shortEscapes)
    (acc : RawString) :
    [0x5C, letter].foldlM step? ⟨earlier, .string acc⟩ =
      some ⟨earlier, .string (letter :: 0x5C :: acc)⟩ := by
  obtain ⟨hLetter, hEscape, _⟩ := of_mem_shortEscapes hShort
  simp [List.foldlM_cons, step?, hLetter, hEscape]

theorem step?_byte {b : UInt8} (hPrintable : 0x20 ≤ b) (hQuote : b ≠ 0x22) (hBackslash : b ≠ 0x5C)
    (acc : RawString) :
    step? ⟨earlier, .string acc⟩ b = some ⟨earlier, .string (b :: acc)⟩ := by
  simp [step?, hQuote, hBackslash, UInt8.not_lt.2 hPrintable]

theorem foldlM_raw {raw : RawString} (h : IsRaw raw) (acc : RawString) :
    raw.foldlM step? ⟨earlier, .string acc⟩ = some ⟨earlier, .string (raw.reverse ++ acc)⟩ := by
  induction h generalizing acc with
  | nil => rfl
  | byte hPrintable hQuote hBackslash _ ih =>
      rw [List.foldlM_cons, step?_byte hPrintable hQuote hBackslash, Option.bind_eq_bind,
        Option.bind_some, ih]
      simp
  | @short letter c raw hShort _ ih =>
      have hSplit : (0x5C :: letter :: raw : RawString) = [0x5C, letter] ++ raw := rfl
      rw [hSplit, List.foldlM_append, foldlM_short hShort, Option.bind_eq_bind, Option.bind_some,
        ih]
      simp
  | unit hUnit _ ih =>
      rw [List.foldlM_append, foldlM_unit hUnit, Option.bind_eq_bind, Option.bind_some, ih]
      simp

theorem rest?_string {raw : RawString} (h : IsRaw raw) (bytes : List UInt8) :
    rest? ⟨earlier, .between⟩ ((Token.string raw).bytes ++ bytes) =
      rest? ⟨.string raw :: earlier, .between⟩ bytes := by
  refine rest?_append ?_ bytes
  have hOpen : step? ⟨earlier, .between⟩ 0x22 = some ⟨earlier, .string []⟩ := rfl
  have hClose : step? ⟨earlier, .string (raw.reverse ++ [])⟩ 0x22 =
      some ⟨.string raw :: earlier, .between⟩ := by
    simp [step?, emit]
  rw [Token.bytes, List.cons_append, List.foldlM_cons, hOpen, Option.bind_eq_bind,
    Option.bind_some, List.foldlM_append, foldlM_raw h, Option.bind_eq_bind, Option.bind_some,
    List.foldlM_cons, hClose]
  rfl

/-! Numbers -/

theorem foldlM_number {phase phase' : NumberPhase} {literal : List UInt8}
    (h : literal.foldlM NumberPhase.next? phase = some phase') (acc : List UInt8) :
    literal.foldlM step? ⟨earlier, .number phase acc⟩ =
      some ⟨earlier, .number phase' (literal.reverse ++ acc)⟩ := by
  induction literal generalizing phase acc with
  | nil =>
      cases h
      rfl
  | cons b rest ih =>
      rw [List.foldlM_cons, Option.bind_eq_bind] at h
      obtain ⟨between, hNext, hRest⟩ := Option.bind_eq_some_iff.1 h
      have hStep : step? ⟨earlier, .number phase acc⟩ b =
          some ⟨earlier, .number between (b :: acc)⟩ := by
        simp [step?, hNext]
      rw [List.foldlM_cons, hStep, Option.bind_eq_bind, Option.bind_some, ih hRest]
      simp

/-- A digit begins a number as it goes on after a sign. -/
theorem step?_digit (earlier : List Token) {first : UInt8} (hDigit : first ∈ digitBytes) :
    ∃ phase, NumberPhase.sign.next? first = some phase ∧
      step? ⟨earlier, .between⟩ first = some ⟨earlier, .number phase [first]⟩ := by
  simp only [digitBytes, List.mem_cons, List.not_mem_nil, or_false] at hDigit
  rcases hDigit with rfl | rfl | rfl | rfl | rfl | rfl | rfl | rfl | rfl | rfl
  · exact ⟨.zero, rfl, rfl⟩
  all_goals exact ⟨.whole, rfl, rfl⟩

theorem IsWhole.exists_first {literal : List UInt8} (h : IsWhole literal) :
    ∃ first rest, literal = first :: rest ∧ first ∈ digitBytes := by
  cases h with
  | zero => exact ⟨0x30, [], rfl, by decide⟩
  | digits hFirst => exact ⟨_, _, rfl, hFirst⟩

theorem foldlM_literal (earlier : List Token) {literal : List UInt8} (h : IsNumber literal) :
    ∃ phase, phase.mayEnd = true ∧ literal.foldlM step? ⟨earlier, .between⟩ =
      some ⟨earlier, .number phase literal.reverse⟩ := by
  cases h with
  | positive hWhole hFraction hExponent =>
      obtain ⟨phase, hRun, hEnd⟩ := NumberPhase.foldlM_unsigned hWhole hFraction hExponent
      obtain ⟨first, rest, rfl, hDigit⟩ := IsWhole.exists_first hWhole
      obtain ⟨phase', hNext, hStep⟩ := step?_digit earlier hDigit
      rw [List.cons_append, List.foldlM_cons, hNext] at hRun
      refine ⟨phase, hEnd, ?_⟩
      rw [List.cons_append, List.foldlM_cons, hStep, Option.bind_eq_bind, Option.bind_some,
        foldlM_number hRun, List.reverse_cons]
  | negative hWhole hFraction hExponent =>
      obtain ⟨phase, hRun, hEnd⟩ := NumberPhase.foldlM_unsigned hWhole hFraction hExponent
      have hStep : step? ⟨earlier, .between⟩ 0x2D = some ⟨earlier, .number .sign [0x2D]⟩ := rfl
      refine ⟨phase, hEnd, ?_⟩
      rw [List.foldlM_cons, hStep, Option.bind_eq_bind, Option.bind_some, foldlM_number hRun,
        List.reverse_cons]

/-- A number is put out by what ends it, which is then read as if it came between tokens. -/
theorem rest?_number {literal bytes : List UInt8} (h : IsNumber literal) (hEnds : Ends bytes) :
    rest? ⟨earlier, .between⟩ ((Token.number literal).bytes ++ bytes) =
      rest? ⟨.number literal :: earlier, .between⟩ bytes := by
  obtain ⟨phase, hEnd, hRun⟩ := foldlM_literal earlier h
  rw [Token.bytes, rest?_append hRun]
  cases bytes with
  | nil => simp [rest?, finish?, hEnd, emit]
  | cons b rest =>
      have hNext := NumberPhase.next?_of_mem_endBytes (hEnds b rfl) phase
      have hStep : step? ⟨earlier, .number phase literal.reverse⟩ b =
          step? ⟨.number literal :: earlier, .between⟩ b := by
        simp [step?, hNext, hEnd, emit]
      rw [rest?_cons, rest?_cons, hStep]

/-! Texts -/

theorem rest?_token {t : Token} {bytes : List UInt8} (hLegal : t.IsLegal)
    (hEnds : ∀ literal, t = .number literal → Ends bytes) :
    rest? ⟨earlier, .between⟩ (t.bytes ++ bytes) = rest? ⟨t :: earlier, .between⟩ bytes := by
  cases t with
  | number literal => exact rest?_number hLegal (hEnds literal rfl)
  | string raw => exact rest?_string hLegal bytes
  | bool value => cases value <;> exact rest?_append rfl bytes
  | _ => exact rest?_append rfl bytes

theorem rest?_of_spelling {tokens : List Token} {bytes : List UInt8} (h : Spelling tokens bytes) :
    rest? ⟨earlier, .between⟩ bytes = some (earlier.reverse ++ tokens) := by
  induction h generalizing earlier with
  | nil => simp [rest?, finish?]
  | space hSpace _ ih => rw [rest?_space hSpace, ih]
  | token hLegal hEnds _ ih =>
      rw [rest?_token hLegal hEnds, ih]
      simp

end Lexer

/-- What spells tokens is read as these tokens. -/
theorem lex?_of_spelling {tokens : List Token} {bytes : List UInt8} (h : Spelling tokens bytes) :
    lex? bytes = some tokens :=
  Lexer.rest?_of_spelling h

end LongPoll.Json
