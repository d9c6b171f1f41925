import LongPoll.Json.Decode
import LongPoll.Proofs.Text.Utf8

/-!
The texts that strings write.

A character of a text is written by itself, by a short escape, or by the numbers of its one or two
units of UTF-16. Which way is up to the writer, character by character; only the quote, the
backslash and the control characters cannot stand for themselves. All ways are read alike.
-/

namespace LongPoll.Json

open LongPoll.Text

/-- The letters that may follow a backslash, with what they stand for. -/
def shortEscapes : List (UInt8 × Char) :=
  [(0x22, '"'), (0x5C, '\\'), (0x2F, '/'), (0x62, '\x08'), (0x66, '\x0C'), (0x6E, '\n'),
    (0x72, '\r'), (0x74, '\t')]

/-- A hexadecimal digit of either case, with its value. -/
def IsHexDigit (b : UInt8) (value : Nat) : Prop :=
  b.toNat = 0x30 + value ∧ value < 10 ∨
    (b.toNat + 10 = 0x41 + value ∨ b.toNat + 10 = 0x61 + value) ∧ 10 ≤ value ∧ value < 16

/-- Four digits write a number. -/
inductive WritesUnit : List UInt8 → Nat → Prop where
  | digits {a b c d : UInt8} {w x y z : Nat} (ha : IsHexDigit a w) (hb : IsHexDigit b x)
      (hc : IsHexDigit c y) (hd : IsHexDigit d z) :
      WritesUnit [a, b, c, d] (w * 4096 + x * 256 + y * 16 + z)

/-- The bytes between the quotes write these characters. -/
inductive Spells : RawString → List Char → Prop where
  | nil : Spells [] []
  | plain {c : Char} {raw : RawString} {cs : List Char} (hPrintable : 0x20 ≤ c.toNat)
      (hQuote : c ≠ '"') (hBackslash : c ≠ '\\') (hRest : Spells raw cs) :
      Spells (Utf8.encodeChar c ++ raw) (c :: cs)
  | short {letter : UInt8} {c : Char} {raw : RawString} {cs : List Char}
      (hShort : (letter, c) ∈ shortEscapes) (hRest : Spells raw cs) :
      Spells (0x5C :: letter :: raw) (c :: cs)
  | unit {digits : List UInt8} {c : Char} {raw : RawString} {cs : List Char}
      (hUnit : WritesUnit digits c.toNat) (hRest : Spells raw cs) :
      Spells (0x5C :: 0x75 :: digits ++ raw) (c :: cs)
  | pair {high low : List UInt8} {c : Char} {raw : RawString} {cs : List Char}
      (hAbove : 0x10000 ≤ c.toNat) (hHigh : WritesUnit high (0xD800 + (c.toNat - 0x10000) / 1024))
      (hLow : WritesUnit low (0xDC00 + (c.toNat - 0x10000) % 1024)) (hRest : Spells raw cs) :
      Spells (0x5C :: 0x75 :: high ++ 0x5C :: 0x75 :: low ++ raw) (c :: cs)

/-- What may stand between quotes, whether it encodes a text or not. -/
inductive IsRaw : RawString → Prop where
  | nil : IsRaw []
  | byte {b : UInt8} {raw : RawString} (hPrintable : 0x20 ≤ b) (hQuote : b ≠ 0x22)
      (hBackslash : b ≠ 0x5C) (hRest : IsRaw raw) : IsRaw (b :: raw)
  | short {letter : UInt8} {c : Char} {raw : RawString} (hShort : (letter, c) ∈ shortEscapes)
      (hRest : IsRaw raw) : IsRaw (0x5C :: letter :: raw)
  | unit {digits : List UInt8} {n : Nat} {raw : RawString} (hUnit : WritesUnit digits n)
      (hRest : IsRaw raw) : IsRaw (0x5C :: 0x75 :: digits ++ raw)

/-! ### Digits and letters -/

theorem IsHexDigit.isHexByte {b : UInt8} {value : Nat} (h : IsHexDigit b value) :
    isHexByte b = true := by
  simp only [Json.isHexByte, isDigitByte, UInt8.le_iff_toNat_le, Bool.or_eq_true, Bool.and_eq_true,
    decide_eq_true_eq]
  have hBounds : 0x30 ≤ b.toNat ∧ b.toNat ≤ 0x39 ∨ 0x41 ≤ b.toNat ∧ b.toNat ≤ 0x46 ∨
      0x61 ≤ b.toNat ∧ b.toNat ≤ 0x66 := by
    unfold IsHexDigit at h
    omega
  simpa [or_assoc] using hBounds

theorem IsHexDigit.value_eq {b : UInt8} {value : Nat} (h : IsHexDigit b value) :
    hexByteValue b = value := by
  have hByte : hexByteValue b = if 0x30 ≤ b.toNat ∧ b.toNat ≤ 0x39 then b.toNat - 0x30
      else if b.toNat < 0x61 then b.toNat - 0x41 + 10 else b.toNat - 0x61 + 10 := by
    simp [hexByteValue, isDigitByte, UInt8.le_iff_toNat_le, UInt8.lt_iff_toNat_lt]
  rw [hByte]
  unfold IsHexDigit at h
  split
  · omega
  · split <;> omega

theorem codeUnit_eq {a b c d : UInt8} {w x y z : Nat} (ha : IsHexDigit a w) (hb : IsHexDigit b x)
    (hc : IsHexDigit c y) (hd : IsHexDigit d z) :
    codeUnit a b c d = w * 4096 + x * 256 + y * 16 + z := by
  rw [codeUnit, ha.value_eq, hb.value_eq, hc.value_eq, hd.value_eq]
  omega

/-- The letter of a short escape opens no numeric escape and stands for its character. -/
theorem of_mem_shortEscapes {letter : UInt8} {c : Char} (h : (letter, c) ∈ shortEscapes) :
    letter ≠ 0x75 ∧ Lexer.isShortEscape letter = true ∧
      Utf8.encodeChar c = [shortEscape letter] := by
  simp only [shortEscapes, List.mem_cons, List.not_mem_nil, or_false, Prod.mk.injEq] at h
  rcases h with ⟨rfl, rfl⟩ | ⟨rfl, rfl⟩ | ⟨rfl, rfl⟩ | ⟨rfl, rfl⟩ | ⟨rfl, rfl⟩ | ⟨rfl, rfl⟩ |
    ⟨rfl, rfl⟩ | ⟨rfl, rfl⟩ <;> decide

theorem toNat_ne {c d : Char} (h : c ≠ d) : c.toNat ≠ d.toNat := by
  intro hSame
  exact h (by rw [← c.ofNat_toNat, hSame, d.ofNat_toNat])

/-- A character that stands for itself hides no byte that means something between quotes. -/
theorem isPlain_of_mem_encodeChar {c : Char} {b : UInt8} (hPrintable : 0x20 ≤ c.toNat)
    (hQuote : c ≠ '"') (hBackslash : c ≠ '\\') (hMem : b ∈ Utf8.encodeChar c) :
    0x20 ≤ b ∧ b ≠ 0x22 ∧ b ≠ 0x5C := by
  have hNotQuote : c.toNat ≠ 0x22 := toNat_ne hQuote
  have hNotBackslash : c.toNat ≠ 0x5C := toNat_ne hBackslash
  have hByte := Utf8.mem_encodeChar hMem
  refine ⟨UInt8.le_iff_toNat_le.2 ?_, ?_, ?_⟩
  · change 0x20 ≤ b.toNat
    omega
  · rintro rfl
    change 0x22 = c.toNat ∨ 0x80 ≤ 0x22 at hByte
    omega
  · rintro rfl
    change 0x5C = c.toNat ∨ 0x80 ≤ 0x5C at hByte
    omega

/-! ### Reading -/

theorem unescapeFrom_plain {bytes : List UInt8} (hPlain : ∀ b ∈ bytes, b ≠ 0x5C)
    (acc : List UInt8) (raw : RawString) :
    unescapeFrom acc (bytes ++ raw) = unescapeFrom (bytes.reverse ++ acc) raw := by
  induction bytes generalizing acc with
  | nil => rfl
  | cons b rest ih =>
      have hByte := hPlain b (List.mem_cons_self ..)
      rw [List.cons_append, unescapeFrom, ih fun b hMem => hPlain b (List.mem_cons_of_mem _ hMem)]
      · simp
      · intros
        exact hByte ‹_›
      · intros
        exact hByte ‹_›

theorem unescapeFrom_short {letter : UInt8} {c : Char} (hShort : (letter, c) ∈ shortEscapes)
    (acc : List UInt8) (raw : RawString) :
    unescapeFrom acc (0x5C :: letter :: raw) =
      unescapeFrom ((Utf8.encodeChar c).reverse ++ acc) raw := by
  obtain ⟨hLetter, _, hBytes⟩ := of_mem_shortEscapes hShort
  rw [hBytes, unescapeFrom]
  · rfl
  · intros
    exact hLetter ‹_›

theorem unescapeFrom_unit {digits : List UInt8} {c : Char} (hUnit : WritesUnit digits c.toNat)
    (acc : List UInt8) (raw : RawString) :
    unescapeFrom acc (0x5C :: 0x75 :: digits ++ raw) =
      unescapeFrom ((Utf8.encodeChar c).reverse ++ acc) raw := by
  have hSurrogate := Utf8.not_surrogate c
  generalize hNumber : c.toNat = n at hUnit hSurrogate
  cases hUnit with
  | digits ha hb hc hd =>
      simp only [List.cons_append, List.nil_append]
      rw [unescapeFrom.eq_def]
      simp only [codeUnit_eq ha hb hc hd]
      rw [if_neg (by omega), if_neg (by omega), ← hNumber, Char.ofNat_toNat]

theorem unescapeFrom_pair {high low : List UInt8} {c : Char} (hAbove : 0x10000 ≤ c.toNat)
    (hHigh : WritesUnit high (0xD800 + (c.toNat - 0x10000) / 1024))
    (hLow : WritesUnit low (0xDC00 + (c.toNat - 0x10000) % 1024)) (acc : List UInt8)
    (raw : RawString) :
    unescapeFrom acc (0x5C :: 0x75 :: high ++ 0x5C :: 0x75 :: low ++ raw) =
      unescapeFrom ((Utf8.encodeChar c).reverse ++ acc) raw := by
  have hBelow := Utf8.toNat_lt c
  generalize hFirst : 0xD800 + (c.toNat - 0x10000) / 1024 = m at hHigh
  generalize hSecond : 0xDC00 + (c.toNat - 0x10000) % 1024 = n at hLow
  have hNumber : (m - 0xD800) * 1024 + (n - 0xDC00) + 0x10000 = c.toNat := by omega
  cases hHigh with
  | digits ha hb hc hd =>
      cases hLow with
      | digits ha' hb' hc' hd' =>
          simp only [List.cons_append, List.nil_append]
          rw [unescapeFrom]
          simp only [codeUnit_eq ha hb hc hd, codeUnit_eq ha' hb' hc' hd']
          rw [if_pos (by omega), if_pos (by omega), hNumber, Char.ofNat_toNat]

theorem Spells.unescapeFrom {raw : RawString} {cs : List Char} (h : Spells raw cs)
    (acc : List UInt8) : unescapeFrom acc raw = some (acc.reverse ++ Utf8.encode cs) := by
  induction h generalizing acc with
  | nil => simp [Json.unescapeFrom, Utf8.encode]
  | plain hPrintable hQuote hBackslash _ ih =>
      rw [unescapeFrom_plain fun b hMem =>
        (isPlain_of_mem_encodeChar hPrintable hQuote hBackslash hMem).2.2, ih]
      simp [Utf8.encode]
  | short hShort _ ih =>
      rw [unescapeFrom_short hShort, ih]
      simp [Utf8.encode]
  | unit hUnit _ ih =>
      rw [unescapeFrom_unit hUnit, ih]
      simp [Utf8.encode]
  | pair hAbove hHigh hLow _ ih =>
      rw [unescapeFrom_pair hAbove hHigh hLow, ih]
      simp [Utf8.encode]

/-- However a text is written, it is read. -/
theorem Spells.textOfRaw? {raw : RawString} {s : String} (h : Spells raw s.toList) :
    textOfRaw? raw = some s := by
  simp [Json.textOfRaw?, h.unescapeFrom, Utf8.decode?_encode]

theorem IsRaw.plain {bytes : List UInt8} (hPlain : ∀ b ∈ bytes, 0x20 ≤ b ∧ b ≠ 0x22 ∧ b ≠ 0x5C)
    {raw : RawString} (hRest : IsRaw raw) : IsRaw (bytes ++ raw) := by
  induction bytes with
  | nil => exact hRest
  | cons b rest ih =>
      obtain ⟨hLow, hQuote, hBackslash⟩ := hPlain b (List.mem_cons_self ..)
      exact .byte hLow hQuote hBackslash (ih fun b hMem => hPlain b (List.mem_cons_of_mem _ hMem))

theorem Spells.isRaw {raw : RawString} {cs : List Char} (h : Spells raw cs) : IsRaw raw := by
  induction h with
  | nil => exact .nil
  | plain hPrintable hQuote hBackslash _ ih =>
      exact .plain (fun b hMem => isPlain_of_mem_encodeChar hPrintable hQuote hBackslash hMem) ih
  | short hShort _ ih => exact .short hShort ih
  | unit hUnit _ ih => exact .unit hUnit ih
  | pair _ hHigh hLow _ ih =>
      rw [List.append_assoc]
      exact .unit hHigh (.unit hLow ih)

/-! ### Writing -/

/-- A hexadecimal digit, in lower case. -/
def hexDigit (n : Nat) : UInt8 := if n < 10 then .ofNat (0x30 + n) else .ofNat (0x57 + n)

/-- A character as it stands between quotes: escaped only if it has to be. -/
def escapeChar (c : Char) : RawString :=
  if c = '"' then [0x5C, 0x22]
  else if c = '\\' then [0x5C, 0x5C]
  else if c.toNat < 0x20 then
    [0x5C, 0x75, 0x30, 0x30, hexDigit (c.toNat / 16), hexDigit (c.toNat % 16)]
  else Utf8.encodeChar c

def escape (s : String) : RawString := s.toList.flatMap escapeChar

theorem isHexDigit_hexDigit {n : Nat} (h : n < 16) : IsHexDigit (hexDigit n) n := by
  unfold hexDigit IsHexDigit
  split
  · rw [Utf8.toNat_byte (by omega)]
    omega
  · rw [Utf8.toNat_byte (by omega)]
    omega

theorem spells_escapeChar (c : Char) {raw : RawString} {cs : List Char} (hRest : Spells raw cs) :
    Spells (escapeChar c ++ raw) (c :: cs) := by
  unfold escapeChar
  split
  · next hQuote =>
      subst hQuote
      exact .short (by decide) hRest
  · next hQuote =>
      split
      · next hBackslash =>
          subst hBackslash
          exact .short (by decide) hRest
      · next hBackslash =>
          split
          · next hControl =>
              have hZero : IsHexDigit 0x30 0 := isHexDigit_hexDigit (n := 0) (by decide)
              have hUnit := WritesUnit.digits hZero hZero
                (isHexDigit_hexDigit (n := c.toNat / 16) (by omega))
                (isHexDigit_hexDigit (n := c.toNat % 16) (by omega))
              have hNumber : 0 * 4096 + 0 * 256 + c.toNat / 16 * 16 + c.toNat % 16 = c.toNat := by
                omega
              rw [hNumber] at hUnit
              exact .unit hUnit hRest
          · next hPrintable => exact .plain (by omega) hQuote hBackslash hRest

/-- Every text can be written. -/
theorem spells_escape (s : String) : Spells (escape s) s.toList := by
  unfold escape
  induction s.toList with
  | nil => exact .nil
  | cons c cs ih => exact spells_escapeChar c ih

end LongPoll.Json
