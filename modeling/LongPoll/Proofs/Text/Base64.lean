import LongPoll.Text.Base64

/-!
Base64 loses no byte.

Six bits are read as they are written, and a group of four characters gives back the three bytes it
was made of. The last group is told by its padding, which is no character of the alphabet.
-/

namespace LongPoll.Text.Base64

theorem value?_symbol {n : Nat} (h : n < 64) : value? (symbol n) = some n := by
  have hAll : ∀ m : Fin 64, value? (symbol m) = some m.val := by decide +kernel
  exact hAll ⟨n, h⟩

theorem symbol_ne_padding {n : Nat} (h : n < 64) : symbol n ≠ '=' := by
  have hAll : ∀ m : Fin 64, symbol m ≠ '=' := by decide +kernel
  exact hAll ⟨n, h⟩

theorem ofNat_eq {a : UInt8} {n : Nat} (h : n = a.toNat) : UInt8.ofNat n = a := by
  rw [h, UInt8.ofNat_toNat]

theorem decodeFrom_one (acc : List UInt8) (a : UInt8) :
    decodeFrom acc (encode [a]) = some (acc.reverse ++ [a]) := by
  have ha : a.toNat < 256 := a.toNat_lt
  have hFirst : a.toNat * 16 / 64 < 64 := by omega
  have hSecond : a.toNat * 16 % 64 < 64 := by omega
  have hRest : a.toNat * 16 % 64 % 16 = 0 := by omega
  have hByte : UInt8.ofNat (a.toNat * 16 / 64 * 4 + a.toNat * 16 % 64 / 16) = a :=
    ofNat_eq (by omega)
  have hLast : lastOne (a.toNat * 16 / 64) (a.toNat * 16 % 64) = some [a] := by
    rw [lastOne, if_pos hRest, hByte]
  simp [encode, decodeFrom, value?_symbol hFirst, value?_symbol hSecond, hLast]

theorem decodeFrom_two (acc : List UInt8) (a b : UInt8) :
    decodeFrom acc (encode [a, b]) = some (acc.reverse ++ [a, b]) := by
  have ha : a.toNat < 256 := a.toNat_lt
  have hb : b.toNat < 256 := b.toNat_lt
  let n := (a.toNat * 256 + b.toNat) * 4
  have hFirst : n / 4096 < 64 := by omega
  have hSecond : n / 64 % 64 < 64 := Nat.mod_lt _ (by decide)
  have hThird : n % 64 < 64 := Nat.mod_lt _ (by decide)
  have hRest : n % 64 % 4 = 0 := by omega
  have hOne : UInt8.ofNat (n / 4096 * 4 + n / 64 % 64 / 16) = a := ofNat_eq (by omega)
  have hTwo : UInt8.ofNat (n / 64 % 64 % 16 * 16 + n % 64 / 4) = b := ofNat_eq (by omega)
  have hText : encode [a, b] = [symbol (n / 4096), symbol (n / 64 % 64), symbol (n % 64), '='] :=
    rfl
  have hLast : lastTwo (n / 4096) (n / 64 % 64) (n % 64) = some [a, b] := by
    rw [lastTwo, if_pos hRest, hOne, hTwo]
  rw [hText, decodeFrom]
  · simp [value?_symbol hFirst, value?_symbol hSecond, value?_symbol hThird, hLast]
  · exact symbol_ne_padding hThird

theorem decodeFrom_three (acc : List UInt8) (a b c : UInt8) (rest : List UInt8) :
    decodeFrom acc (encode (a :: b :: c :: rest)) =
      decodeFrom (c :: b :: a :: acc) (encode rest) := by
  have ha : a.toNat < 256 := a.toNat_lt
  have hb : b.toNat < 256 := b.toNat_lt
  have hc : c.toNat < 256 := c.toNat_lt
  let n := (a.toNat * 256 + b.toNat) * 256 + c.toNat
  have hFirst : n / 262144 < 64 := by omega
  have hSecond : n / 4096 % 64 < 64 := Nat.mod_lt _ (by decide)
  have hThird : n / 64 % 64 < 64 := Nat.mod_lt _ (by decide)
  have hFourth : n % 64 < 64 := Nat.mod_lt _ (by decide)
  have hOne : UInt8.ofNat (n / 262144 * 4 + n / 4096 % 64 / 16) = a := ofNat_eq (by omega)
  have hTwo : UInt8.ofNat (n / 4096 % 64 % 16 * 16 + n / 64 % 64 / 4) = b := ofNat_eq (by omega)
  have hThree : UInt8.ofNat (n / 64 % 64 % 4 * 64 + n % 64) = c := ofNat_eq (by omega)
  have hText : encode (a :: b :: c :: rest) = symbol (n / 262144) :: symbol (n / 4096 % 64) ::
      symbol (n / 64 % 64) :: symbol (n % 64) :: encode rest := rfl
  rw [hText, decodeFrom]
  · simp only [value?_symbol hFirst, value?_symbol hSecond, value?_symbol hThird,
      value?_symbol hFourth, hOne, hTwo, hThree]
  · intro _ hPadding
    exact (symbol_ne_padding hFourth hPadding).elim
  · intro hPadding
    exact (symbol_ne_padding hFourth hPadding).elim

theorem decodeFrom_encode (acc bytes : List UInt8) :
    decodeFrom acc (encode bytes) = some (acc.reverse ++ bytes) := by
  induction bytes using encode.induct generalizing acc with
  | case1 => simp [encode, decodeFrom]
  | case2 a => exact decodeFrom_one acc a
  | case3 a b => exact decodeFrom_two acc a b
  | case4 a b c rest ih =>
      rw [decodeFrom_three, ih]
      simp

/-- What is written is read. -/
theorem decode?_encode (bytes : List UInt8) : decode? (encode bytes) = some bytes :=
  decodeFrom_encode [] bytes

end LongPoll.Text.Base64
