import LongPoll.Proofs.Text.Blank
import LongPoll.Text.Number
import Mathlib.Data.List.TakeWhile
import Mathlib.Data.Nat.Digits.Defs

/-!
Written numbers and their values.

Main statement: a number below the bound is read from exactly the texts that write it. What is read
of any other text depends on its first run of digits alone: if that outgrows the bound the number is
too large, whatever follows, and otherwise something follows that is no digit. The digits in which a
number is written are among the texts that write it. No such text begins or ends with white space,
so it can be told from the white space around it.
-/

namespace LongPoll.Text

/-- The value of digits, the first of which counts most. -/
def decimalValue (ds : List Char) : Nat := Nat.ofDigits 10 (ds.map digitValue).reverse

@[simp] theorem decimalValue_nil : decimalValue [] = 0 := rfl

theorem decimalValue_cons (c : Char) (ds : List Char) :
    decimalValue (c :: ds) = digitValue c * 10 ^ ds.length + decimalValue ds := by
  simp only [decimalValue, List.map_cons, List.reverse_cons, Nat.ofDigits_append,
    List.length_reverse, List.length_map, Nat.ofDigits_singleton]
  ring

/-- The text is digits, at least one, with at most one plus sign in front. They write the number. -/
inductive Numeral : List Char → Nat → Prop where
  | plain {ds : List Char} (hSome : ds ≠ []) (hDigits : ∀ c ∈ ds, c.isDigit) :
      Numeral ds (decimalValue ds)
  | signed {ds : List Char} (hSome : ds ≠ []) (hDigits : ∀ c ∈ ds, c.isDigit) :
      Numeral ('+' :: ds) (decimalValue ds)

/-- The first run of digits decides whether the number is too large. Only then is it asked whether
the run is all of the text. -/
theorem readDigits_eq {bound acc : Nat} {cs : List Char} (hAcc : acc < bound) :
    readDigits bound acc cs =
      let run := cs.takeWhile Char.isDigit
      if acc * 10 ^ run.length + decimalValue run < bound then
        if run = cs then .ok (acc * 10 ^ run.length + decimalValue run) else .error .invalidDigit
      else .error .tooLarge := by
  induction cs generalizing acc with
  | nil => simp [readDigits, hAcc]
  | cons c cs ih =>
    by_cases hDigit : c.isDigit
    · have hValue (ds : List Char) : acc * 10 ^ (c :: ds).length + decimalValue (c :: ds) =
          (acc * 10 + digitValue c) * 10 ^ ds.length + decimalValue ds := by
        rw [decimalValue_cons, List.length_cons]; ring
      by_cases hNext : acc * 10 + digitValue c < bound
      · simp only [readDigits, hDigit, if_true, if_pos hNext, ih hNext, hValue,
          List.takeWhile_cons_of_pos hDigit, List.cons.injEq, true_and]
      · -- the digits that follow make no number smaller
        have hGrown : ¬(acc * 10 + digitValue c) * 10 ^ (cs.takeWhile Char.isDigit).length +
            decimalValue (cs.takeWhile Char.isDigit) < bound := by
          have := Nat.le_mul_of_pos_right (acc * 10 + digitValue c)
            (Nat.pow_pos (n := (cs.takeWhile Char.isDigit).length) (by decide : 0 < 10))
          omega
        simp only [readDigits, hDigit, if_true, if_neg hNext, hValue,
          List.takeWhile_cons_of_pos hDigit, if_neg hGrown]
    · simp [readDigits, hDigit, hAcc]

theorem readDigits_eq_ok_iff {bound n : Nat} {cs : List Char} (hBound : 0 < bound) :
    readDigits bound 0 cs = .ok n ↔ (∀ c ∈ cs, c.isDigit) ∧ n = decimalValue cs ∧ n < bound := by
  rw [readDigits_eq hBound]
  by_cases hRun : cs.takeWhile Char.isDigit = cs
  · have hDigits : ∀ c ∈ cs, c.isDigit := List.takeWhile_eq_self_iff.mp hRun
    simp only [hRun, Nat.zero_mul, Nat.zero_add, if_true]
    split <;> simp <;> grind
  · have hForeign : ¬∀ c ∈ cs, c.isDigit := fun h => hRun (List.takeWhile_eq_self_iff.mpr h)
    simp only [hRun, if_false, hForeign, false_and, iff_false]
    split <;> simp

/-! ### The sign -/

section

variable {bound n : Nat} {cs : List Char}

/-- A text without the plus sign in front, if there is one. -/
def unsigned : List Char → List Char
  | '+' :: cs => cs
  | cs => cs

theorem unsigned_of_head? (h : cs.head? ≠ some '+') : unsigned cs = cs := by
  unfold unsigned
  split
  · exact absurd rfl h
  · rfl

theorem unsigned_cases (cs : List Char) : cs = unsigned cs ∨ cs = '+' :: unsigned cs := by
  unfold unsigned
  split
  · exact .inr rfl
  · exact .inl rfl

/-- Behind the sign there is the number, if anything is there at all. -/
theorem readNatural_of_unsigned (hSome : unsigned cs ≠ []) :
    readNatural bound cs = readDigits bound 0 (unsigned cs) := by
  unfold readNatural
  split
  · contradiction
  · contradiction
  · rfl
  · next _ hAlone hSigned =>
    rw [unsigned_of_head?]
    intro hSign
    obtain ⟨rest, rfl⟩ := List.head?_eq_some_iff.1 hSign
    cases rest with
    | nil => exact hAlone rfl
    | cons c rest => exact hSigned c rest rfl

/-- Nothing and a sign by itself are two faults. -/
theorem readNatural_of_unsigned_nil (hNone : unsigned cs = []) :
    readNatural bound cs = .error (if cs = [] then .empty else .invalidDigit) := by
  rcases unsigned_cases cs with hPlain | hSigned
  · rw [hPlain, hNone]
    rfl
  · rw [hSigned, hNone]
    rfl

/-- A text writes a number if its digits do, behind the sign. -/
theorem numeral_iff :
    Numeral cs n ↔
      unsigned cs ≠ [] ∧ (∀ c ∈ unsigned cs, c.isDigit) ∧ n = decimalValue (unsigned cs) := by
  constructor
  · intro hNumeral
    cases hNumeral with
    | plain hSome hDigits =>
      -- a text of digits does not begin with a sign
      have hUnsigned : unsigned cs = cs := unsigned_of_head? fun hSign =>
        absurd (hDigits '+' (List.mem_of_mem_head? hSign)) (by decide)
      rw [hUnsigned]
      exact ⟨hSome, hDigits, rfl⟩
    | signed hSome hDigits => exact ⟨hSome, hDigits, rfl⟩
  · rintro ⟨hSome, hDigits, rfl⟩
    rcases unsigned_cases cs with hPlain | hSigned
    · rw [← hPlain] at hSome hDigits ⊢
      exact .plain hSome hDigits
    · have hNumeral := Numeral.signed hSome hDigits
      rwa [← hSigned] at hNumeral

/-- A number below the bound is read from exactly the texts that write it. -/
theorem readNatural_eq_ok_iff (hBound : 0 < bound) :
    readNatural bound cs = .ok n ↔ Numeral cs n ∧ n < bound := by
  rw [numeral_iff]
  by_cases hSome : unsigned cs = []
  · rw [readNatural_of_unsigned_nil hSome]
    simp [hSome]
  · rw [readNatural_of_unsigned hSome, readDigits_eq_ok_iff hBound]
    simp [hSome, and_assoc]

/-! ### White space around a number -/

theorem isBlank_of_isDigit {c : Char} (h : c.isDigit = true) : isBlank c = false := by
  have hBounds : 48 ≤ c.toNat ∧ c.toNat ≤ 57 := Char.isDigit_iff_toNat.1 h
  simp [isBlank]
  omega

theorem Numeral.isTrimmed (h : Numeral cs n) : IsTrimmed isBlank cs := by
  cases h with
  | plain _ hDigits => exact isTrimmed_of_forall fun c hc => isBlank_of_isDigit (hDigits c hc)
  | signed _ hDigits =>
    refine isTrimmed_of_forall (List.forall_mem_cons.2 ⟨rfl, fun c hc => ?_⟩)
    exact isBlank_of_isDigit (hDigits c hc)

/-- The text is white space, a text that writes the number, and white space again. -/
def PaddedNumeral (text : List Char) (n : Nat) : Prop := ∃ core, Numeral core n ∧ Pads text core

theorem paddedNumeral_iff {text : List Char} : PaddedNumeral text n ↔ Numeral (trim text) n := by
  constructor
  · rintro ⟨core, hNumeral, hPads⟩
    rwa [(pads_iff hNumeral.isTrimmed).1 hPads]
  · intro hNumeral
    exact ⟨trim text, hNumeral, (pads_iff hNumeral.isTrimmed).2 rfl⟩

/-! ### Texts that are no number -/

theorem readNatural_eq_empty_iff (hBound : 0 < bound) :
    readNatural bound cs = .error .empty ↔ cs = [] := by
  by_cases hSome : unsigned cs = []
  · rw [readNatural_of_unsigned_nil hSome]
    split <;> simp [*]
  · have hText : cs ≠ [] := by
      rintro rfl
      exact hSome rfl
    rw [readNatural_of_unsigned hSome, readDigits_eq hBound]
    dsimp only
    split
    · split <;> simp [hText]
    · simp [hText]

/-- The first run of digits alone decides whether a number is too large. -/
theorem readNatural_eq_tooLarge_iff (hBound : 0 < bound) :
    readNatural bound cs = .error .tooLarge ↔
      bound ≤ decimalValue ((unsigned cs).takeWhile Char.isDigit) := by
  by_cases hSome : unsigned cs = []
  · have hSmall : ¬bound ≤ decimalValue ((unsigned cs).takeWhile Char.isDigit) := by
      rw [hSome]
      exact Nat.not_le.2 hBound
    rw [iff_false_right hSmall, readNatural_of_unsigned_nil hSome]
    split <;> simp
  · rw [readNatural_of_unsigned hSome, readDigits_eq hBound]
    simp only [Nat.zero_mul, Nat.zero_add]
    split
    · split <;> simp <;> omega
    · simp; omega

/-- There is no other way to fail than the three that have a name. -/
theorem readNatural_eq_invalidDigit_iff (hBound : 0 < bound) :
    readNatural bound cs = .error .invalidDigit ↔
      cs ≠ [] ∧ decimalValue ((unsigned cs).takeWhile Char.isDigit) < bound ∧
        ¬∃ n < bound, Numeral cs n := by
  rw [Ne, ← readNatural_eq_empty_iff hBound, ← Nat.not_le, ← readNatural_eq_tooLarge_iff hBound]
  have hNumber : (∃ n < bound, Numeral cs n) ↔ ∃ n, readNatural bound cs = .ok n := by
    simp only [readNatural_eq_ok_iff hBound, and_comm]
  rw [hNumber]
  cases readNatural bound cs with
  | ok n => simp
  | error fault => cases fault <;> simp

end

/-! ### Writing a number -/

theorem ofDigitChars_eq (ds : List Char) (acc : Nat) :
    Nat.ofDigitChars 10 ds acc = acc * 10 ^ ds.length + decimalValue ds := by
  induction ds generalizing acc with
  | nil => simp [Nat.ofDigitChars]
  | cons d ds ih =>
    rw [Nat.ofDigitChars, List.foldl_cons, ← Nat.ofDigitChars, ih, decimalValue_cons, digitValue,
      List.length_cons]
    ring

theorem decimalValue_decimalDigits (n : Nat) : decimalValue (decimalDigits n) = n := by
  simpa [decimalDigits, ofDigitChars_eq] using Nat.ofDigitChars_ten_toDigits (n := n)

theorem isDigit_of_mem_writeNatural {n : Nat} {c : Char} (h : c ∈ (writeNatural n).toList) :
    c.isDigit := by
  rw [writeNatural, String.toList_ofList] at h
  exact Nat.isDigit_of_mem_toDigits (by decide) (by decide) h

/-- The digits of a number write it. -/
theorem numeral_writeNatural (n : Nat) : Numeral (writeNatural n).toList n := by
  have hSome : (writeNatural n).toList ≠ [] := by
    rw [writeNatural, String.toList_ofList]
    exact Nat.toDigits_ne_nil
  have hValue : decimalValue (writeNatural n).toList = n := by
    rw [writeNatural, String.toList_ofList, decimalValue_decimalDigits]
  have hNumeral := Numeral.plain hSome fun c hc => isDigit_of_mem_writeNatural hc
  rwa [hValue] at hNumeral

end LongPoll.Text
