import LongPoll.Text.Utf8

/-!
UTF-8 loses no character.

A character is written with a first byte that says how many follow. Reading it back, the bounds on
the second byte shut out nothing: they are those of the shortest forms, and no character is a
surrogate or lies above the last one.
-/

namespace LongPoll.Text.Utf8

theorem toNat_byte {n : Nat} (h : n < 256) : (UInt8.ofNat n).toNat = n :=
  UInt8.toNat_ofNat_of_lt' h

/-- Where a first byte lies decides how many bytes follow. -/
theorem followers_eq_one {lead : UInt8} (hLow : 0xC2 ≤ lead.toNat) (hHigh : lead.toNat < 0xE0) :
    followers lead = some 1 := by
  simp only [followers]
  rw [if_neg (by omega), if_neg (by omega), if_pos hHigh]

theorem followers_eq_two {lead : UInt8} (hLow : 0xE0 ≤ lead.toNat) (hHigh : lead.toNat < 0xF0) :
    followers lead = some 2 := by
  simp only [followers]
  rw [if_neg (by omega), if_neg (by omega), if_neg (by omega), if_pos hHigh]

theorem followers_eq_three {lead : UInt8} (hLow : 0xF0 ≤ lead.toNat) (hHigh : lead.toNat < 0xF5) :
    followers lead = some 3 := by
  simp only [followers]
  rw [if_neg (by omega), if_neg (by omega), if_neg (by omega), if_neg (by omega), if_pos hHigh]

/-- A byte may come second if it continues a character and keeps to the bound of the first byte, if
that has one. -/
theorem maySecond_of_bounds {lead second : UInt8} (hLow : 0x80 ≤ second.toNat)
    (hHigh : second.toNat < 0xC0) (hE0 : lead.toNat = 0xE0 → 0xA0 ≤ second.toNat)
    (hED : lead.toNat = 0xED → second.toNat < 0xA0) (hF0 : lead.toNat = 0xF0 → 0x90 ≤ second.toNat)
    (hF4 : lead.toNat = 0xF4 → second.toNat < 0x90) : maySecond lead second = true := by
  simp only [maySecond, isContinuation]
  split
  · next hLead =>
      have hBound := hE0 (by rw [beq_iff_eq.1 hLead]; rfl)
      simp [hBound, hHigh]
  · split
    · next hLead =>
        have hBound := hED (by rw [beq_iff_eq.1 hLead]; rfl)
        simp [hLow, hBound]
    · split
      · next hLead =>
          have hBound := hF0 (by rw [beq_iff_eq.1 hLead]; rfl)
          simp [hBound, hHigh]
      · split
        · next hLead =>
            have hBound := hF4 (by rw [beq_iff_eq.1 hLead]; rfl)
            simp [hLow, hBound]
        · simp [hLow, hHigh]

theorem payload_eq (b : UInt8) : payload b = b.toNat - 0x80 := rfl

theorem isContinuation_of_bounds {b : UInt8} (hLow : 0x80 ≤ b.toNat) (hHigh : b.toNat < 0xC0) :
    isContinuation b = true := by
  simp [isContinuation, hLow, hHigh]

/-! ### One character -/

/-- The bytes of one character are scanned as this character, whatever comes after them. -/
def Scans (bytes : List UInt8) (c : Char) : Prop :=
  ∃ lead tail, bytes = lead :: tail ∧ ∀ rest, scan lead (tail ++ rest) = (some c, tail.length)

theorem scans_one {c : Char} (h : c.toNat < 0x80) : Scans [.ofNat c.toNat] c := by
  refine ⟨_, [], rfl, fun rest => ?_⟩
  have hLead : (UInt8.ofNat c.toNat).toNat = c.toNat := toNat_byte (by omega)
  have hFollowers : followers (.ofNat c.toNat) = some 0 := by
    simp only [followers, hLead]
    rw [if_pos h]
  simp only [scan, hFollowers, hLead, Char.ofNat_toNat, List.length_nil]

theorem scans_two {c : Char} (hLow : 0x80 ≤ c.toNat) (hHigh : c.toNat < 0x800) :
    Scans [.ofNat (0xC0 + c.toNat / 64), .ofNat (0x80 + c.toNat % 64)] c := by
  refine ⟨_, [_], rfl, fun rest => ?_⟩
  have hLead : (UInt8.ofNat (0xC0 + c.toNat / 64)).toNat = 0xC0 + c.toNat / 64 :=
    toNat_byte (by omega)
  have hSecond : (UInt8.ofNat (0x80 + c.toNat % 64)).toNat = 0x80 + c.toNat % 64 :=
    toNat_byte (by omega)
  generalize UInt8.ofNat (0xC0 + c.toNat / 64) = lead at *
  generalize UInt8.ofNat (0x80 + c.toNat % 64) = second at *
  have hFollowers : followers lead = some 1 := followers_eq_one (by omega) (by omega)
  have hMay : maySecond lead second = true :=
    maySecond_of_bounds (by omega) (by omega) (by omega) (by omega) (by omega) (by omega)
  have hChar : (lead.toNat - 0xC0) * 64 + payload second = c.toNat := by
    simp only [payload_eq]
    omega
  simp only [scan, hFollowers, List.singleton_append, hMay, if_true, hChar, Char.ofNat_toNat,
    List.length_singleton]

/-- No character is a surrogate. -/
theorem not_surrogate (c : Char) : c.toNat < 0xD800 ∨ 0xDFFF < c.toNat := by
  have hValid : c.toNat < 0xD800 ∨ 0xDFFF < c.toNat ∧ c.toNat < 0x110000 := c.valid
  exact hValid.imp_right And.left

theorem toNat_lt (c : Char) : c.toNat < 0x110000 := by
  have hValid : c.toNat < 0xD800 ∨ 0xDFFF < c.toNat ∧ c.toNat < 0x110000 := c.valid
  omega

theorem scans_three {c : Char} (hLow : 0x800 ≤ c.toNat) (hHigh : c.toNat < 0x10000) :
    Scans [.ofNat (0xE0 + c.toNat / 4096), .ofNat (0x80 + c.toNat / 64 % 64),
      .ofNat (0x80 + c.toNat % 64)] c := by
  refine ⟨_, [_, _], rfl, fun rest => ?_⟩
  have hSurrogate := not_surrogate c
  have hLead : (UInt8.ofNat (0xE0 + c.toNat / 4096)).toNat = 0xE0 + c.toNat / 4096 :=
    toNat_byte (by omega)
  have hSecond : (UInt8.ofNat (0x80 + c.toNat / 64 % 64)).toNat = 0x80 + c.toNat / 64 % 64 :=
    toNat_byte (by omega)
  have hThird : (UInt8.ofNat (0x80 + c.toNat % 64)).toNat = 0x80 + c.toNat % 64 :=
    toNat_byte (by omega)
  generalize UInt8.ofNat (0xE0 + c.toNat / 4096) = lead at *
  generalize UInt8.ofNat (0x80 + c.toNat / 64 % 64) = second at *
  generalize UInt8.ofNat (0x80 + c.toNat % 64) = third at *
  have hFollowers : followers lead = some 2 := followers_eq_two (by omega) (by omega)
  have hMay : maySecond lead second = true :=
    maySecond_of_bounds (by omega) (by omega) (by omega) (by omega) (by omega) (by omega)
  have hContinues : isContinuation third = true := isContinuation_of_bounds (by omega) (by omega)
  have hChar : (lead.toNat - 0xE0) * 4096 + payload second * 64 + payload third = c.toNat := by
    simp only [payload_eq]
    omega
  simp only [scan, hFollowers, List.cons_append, List.nil_append, hMay, if_true, hContinues, hChar,
    Char.ofNat_toNat, List.length_cons, List.length_nil]

theorem scans_four {c : Char} (hLow : 0x10000 ≤ c.toNat) :
    Scans [.ofNat (0xF0 + c.toNat / 262144), .ofNat (0x80 + c.toNat / 4096 % 64),
      .ofNat (0x80 + c.toNat / 64 % 64), .ofNat (0x80 + c.toNat % 64)] c := by
  refine ⟨_, [_, _, _], rfl, fun rest => ?_⟩
  have hHigh := toNat_lt c
  have hLead : (UInt8.ofNat (0xF0 + c.toNat / 262144)).toNat = 0xF0 + c.toNat / 262144 :=
    toNat_byte (by omega)
  have hSecond : (UInt8.ofNat (0x80 + c.toNat / 4096 % 64)).toNat = 0x80 + c.toNat / 4096 % 64 :=
    toNat_byte (by omega)
  have hThird : (UInt8.ofNat (0x80 + c.toNat / 64 % 64)).toNat = 0x80 + c.toNat / 64 % 64 :=
    toNat_byte (by omega)
  have hFourth : (UInt8.ofNat (0x80 + c.toNat % 64)).toNat = 0x80 + c.toNat % 64 :=
    toNat_byte (by omega)
  generalize UInt8.ofNat (0xF0 + c.toNat / 262144) = lead at *
  generalize UInt8.ofNat (0x80 + c.toNat / 4096 % 64) = second at *
  generalize UInt8.ofNat (0x80 + c.toNat / 64 % 64) = third at *
  generalize UInt8.ofNat (0x80 + c.toNat % 64) = fourth at *
  have hFollowers : followers lead = some 3 := followers_eq_three (by omega) (by omega)
  have hMay : maySecond lead second = true :=
    maySecond_of_bounds (by omega) (by omega) (by omega) (by omega) (by omega) (by omega)
  have hContinues : isContinuation third = true := isContinuation_of_bounds (by omega) (by omega)
  have hContinues' : isContinuation fourth = true := isContinuation_of_bounds (by omega) (by omega)
  have hChar : (lead.toNat - 0xF0) * 262144 + payload second * 4096 + payload third * 64 +
      payload fourth = c.toNat := by
    simp only [payload_eq]
    omega
  simp only [scan, hFollowers, List.cons_append, List.nil_append, hMay, if_true, hContinues,
    hContinues', hChar, Char.ofNat_toNat, List.length_cons, List.length_nil]

theorem scans_encodeChar (c : Char) : Scans (encodeChar c) c := by
  simp only [encodeChar]
  split
  · next hOne => exact scans_one hOne
  · split
    · exact scans_two (by omega) (by omega)
    · split
      · exact scans_three (by omega) (by omega)
      · exact scans_four (by omega)

/-! ### Texts -/

theorem partsFrom_encode (acc : List (Option Char)) (cs : List Char) :
    partsFrom acc (encode cs) = acc.reverse ++ cs.map some := by
  induction cs generalizing acc with
  | nil => simp [encode, partsFrom]
  | cons c rest ih =>
      obtain ⟨lead, tail, hBytes, hScan⟩ := scans_encodeChar c
      have hText : encode (c :: rest) = lead :: (tail ++ encode rest) := by
        rw [encode, List.flatMap_cons, hBytes]
        rfl
      rw [hText, partsFrom, hScan, List.drop_left, ih]
      simp

/-- What is written is read. -/
theorem decode?_encode (cs : List Char) : decode? (encode cs) = some cs := by
  have hParts : parts (encode cs) = cs.map some := partsFrom_encode [] cs
  simp [decode?, hParts, List.filterMap_map]

/-- Only the characters of ASCII have bytes below 128, and those are written by themselves. -/
theorem mem_encodeChar {c : Char} {b : UInt8} (h : b ∈ encodeChar c) :
    b.toNat = c.toNat ∨ 0x80 ≤ b.toNat := by
  have hHigh := toNat_lt c
  simp only [encodeChar] at h
  split at h
  · next hOne =>
      rw [List.mem_singleton.1 h]
      exact Or.inl (toNat_byte (by omega))
  · right
    split at h
    · simp only [List.mem_cons, List.not_mem_nil, or_false] at h
      rcases h with rfl | rfl <;> rw [toNat_byte (by omega)] <;> omega
    · split at h
      · simp only [List.mem_cons, List.not_mem_nil, or_false] at h
        rcases h with rfl | rfl | rfl <;> rw [toNat_byte (by omega)] <;> omega
      · simp only [List.mem_cons, List.not_mem_nil, or_false] at h
        rcases h with rfl | rfl | rfl | rfl <;> rw [toNat_byte (by omega)] <;> omega

end LongPoll.Text.Utf8
