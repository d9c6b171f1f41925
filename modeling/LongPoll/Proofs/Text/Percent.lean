import LongPoll.Proofs.Text.Utf8
import LongPoll.Text.Percent

/-!
Percent-encoding loses no character.

As long as `%` itself is escaped, the bytes of an encoded text are those of the text, whatever
stands after it. So different texts are written differently, and a text that stands for itself can
be told by its written form.
-/

namespace LongPoll.Text

namespace Utf8

theorem encode_append (cs ds : List Char) : encode (cs ++ ds) = encode cs ++ encode ds :=
  List.flatMap_append

theorem encode_injective {cs ds : List Char} (h : encode cs = encode ds) : cs = ds := by
  have hRead := congrArg decode? h
  rwa [decode?_encode, decode?_encode, Option.some.injEq] at hRead

end Utf8

theorem hexValue?_upperHexDigit {n : Nat} (h : n < 16) : hexValue? (upperHexDigit n) = some n := by
  have hAll : ∀ m : Fin 16, hexValue? (upperHexDigit m) = some m.val := by decide +kernel
  exact hAll ⟨n, h⟩

theorem upperHexDigit_ne_slash {n : Nat} (h : n < 16) : upperHexDigit n ≠ '/' := by
  have hAll : ∀ m : Fin 16, upperHexDigit m ≠ '/' := by decide +kernel
  exact hAll ⟨n, h⟩

namespace Percent

variable {reserved : Char → Bool}

theorem decodeFrom_cons {c : Char} (hPlain : c ≠ '%') (acc : List UInt8) (rest : List Char) :
    decodeFrom acc (c :: rest) = decodeFrom ((Utf8.encodeChar c).reverse ++ acc) rest := by
  rw [decodeFrom]
  rintro h l rest rfl
  exact (hPlain rfl).elim

theorem decodeFrom_escapeByte (acc : List UInt8) (b : UInt8) (rest : List Char) :
    decodeFrom acc (escapeByte b ++ rest) = decodeFrom (b :: acc) rest := by
  have hByte : b.toNat < 256 := b.toNat_lt
  have hHigh : b.toNat / 16 < 16 := by omega
  have hLow : b.toNat % 16 < 16 := by omega
  have hSame : UInt8.ofNat (b.toNat / 16 * 16 + b.toNat % 16) = b := by
    rw [Nat.div_add_mod', UInt8.ofNat_toNat]
  simp only [escapeByte, List.cons_append, List.nil_append, decodeFrom,
    hexValue?_upperHexDigit hHigh, hexValue?_upperHexDigit hLow, hSame]

theorem decodeFrom_escapeBytes (acc bytes : List UInt8) (rest : List Char) :
    decodeFrom acc (bytes.flatMap escapeByte ++ rest) = decodeFrom (bytes.reverse ++ acc) rest := by
  induction bytes generalizing acc with
  | nil => rfl
  | cons b bytes ih =>
      rw [List.flatMap_cons, List.append_assoc, decodeFrom_escapeByte, ih, List.reverse_cons,
        List.append_assoc, List.singleton_append]

theorem encode_cons (c : Char) (cs : List Char) :
    encode reserved (c :: cs) =
      (if c.toNat < 0x80 && !reserved c then [c] else escapeChar c) ++ encode reserved cs := rfl

/-- An encoded text is read as the bytes of the text, and then the rest is read. -/
theorem decodeFrom_encode (hMark : reserved '%' = true) (acc : List UInt8) (cs rest : List Char) :
    decodeFrom acc (encode reserved cs ++ rest) =
      decodeFrom ((Utf8.encode cs).reverse ++ acc) rest := by
  induction cs generalizing acc with
  | nil => rfl
  | cons c cs ih =>
      have hText : Utf8.encode (c :: cs) = Utf8.encodeChar c ++ Utf8.encode cs := rfl
      rw [encode_cons, hText, List.append_assoc, List.reverse_append, List.append_assoc]
      split
      · next hItself =>
          have hPlain : c ≠ '%' := by
            rintro rfl
            simp [hMark] at hItself
          rw [List.singleton_append, decodeFrom_cons hPlain, ih]
      · rw [escapeChar, decodeFrom_escapeBytes, ih]

theorem decode_encode (hMark : reserved '%' = true) (cs : List Char) :
    decode (encode reserved cs) = Utf8.encode cs := by
  have hAll := decodeFrom_encode hMark [] cs []
  rwa [List.append_nil, decodeFrom, List.append_nil, List.reverse_reverse] at hAll

theorem decodeFrom_eq (acc : List UInt8) (cs : List Char) :
    decodeFrom acc cs = acc.reverse ++ decode cs := by
  suffices h : ∀ acc', decodeFrom (acc' ++ acc) cs = acc.reverse ++ decodeFrom acc' cs from h []
  intro acc'
  fun_induction decodeFrom acc' cs with
  | case1 acc' => simp [decodeFrom]
  | case2 acc' h l rest x y hx hy ih =>
      simp only [decodeFrom, hx, hy]
      exact ih
  | case3 acc' h l rest hNone ih =>
      simp only [decodeFrom]
      exact ih
  | case4 acc' c rest hPlain ih =>
      rw [decodeFrom, ← List.append_assoc]
      · exact ih
      · exact hPlain

/-- A text without the mark stands for itself, whatever follows. -/
theorem decode_append_of_plain {cs : List Char} (hPlain : ∀ c ∈ cs, c ≠ '%') (rest : List Char) :
    decode (cs ++ rest) = Utf8.encode cs ++ decode rest := by
  suffices h : ∀ acc, decodeFrom acc (cs ++ rest) =
      decodeFrom ((Utf8.encode cs).reverse ++ acc) rest by
    rw [decode, h, List.append_nil, decodeFrom_eq, List.reverse_reverse]
  induction cs with
  | nil => exact fun acc => rfl
  | cons c cs ih =>
      intro acc
      have hText : Utf8.encode (c :: cs) = Utf8.encodeChar c ++ Utf8.encode cs := rfl
      rw [List.cons_append, decodeFrom_cons (hPlain c (List.mem_cons_self ..)),
        ih fun d hd => hPlain d (List.mem_cons_of_mem _ hd), hText, List.reverse_append,
        List.append_assoc]

/-- A text that is written as another text's bytes is that text. -/
theorem eq_of_decode_encode (hMark : reserved '%' = true) {cs ds : List Char}
    (h : decode (encode reserved cs) = Utf8.encode ds) : cs = ds :=
  Utf8.encode_injective ((decode_encode hMark cs).symm.trans h)

/-- A slash that is escaped does not stand in an encoded text. -/
theorem slash_not_mem_encode (hSlash : reserved '/' = true) (cs : List Char) :
    '/' ∉ encode reserved cs := by
  intro hMember
  obtain ⟨c, _, hChar⟩ := List.mem_flatMap.1 hMember
  split at hChar
  · next hItself =>
      have hSame : '/' = c := List.mem_singleton.1 hChar
      rw [← hSame] at hItself
      simp [hSlash] at hItself
  · obtain ⟨b, _, hByte⟩ := List.mem_flatMap.1 hChar
    have hBound : b.toNat < 256 := b.toNat_lt
    simp only [escapeByte, List.mem_cons, List.not_mem_nil, or_false] at hByte
    rcases hByte with hEq | hEq | hEq
    · exact absurd hEq (by decide)
    · exact upperHexDigit_ne_slash (by omega) hEq.symm
    · exact upperHexDigit_ne_slash (by omega) hEq.symm

end Percent

end LongPoll.Text
