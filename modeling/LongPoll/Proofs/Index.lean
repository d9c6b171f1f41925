import LongPoll.Proofs.Agent.Replies
import LongPoll.Proofs.Text.Blank
import LongPoll.Proofs.Text.Number
import LongPoll.Query

/-!
Written indexes.

White space around an index does not count. Main statement: an index is read from exactly the texts
that write it, and any other text has one fault, for which its first run of digits decides. An index
is read from the text in which it is shown, so it goes from a header into the next query as the same
number.
-/

namespace LongPoll

namespace Index

open LongPoll.Text

variable {s : String}

theorem parse_eq_ok_iff {i : Index} :
    parse s = .ok i ↔ Numeral (trim s.toList) i.value.toNat := by
  constructor
  · intro h
    rw [parse] at h
    cases hRead : readNatural UInt64.size (trim s.toList) with
    | error fault =>
        rw [hRead] at h
        cases h
    | ok n =>
        rw [hRead] at h
        cases h
        obtain ⟨hNumeral, hn⟩ := (readNatural_eq_ok_iff (by decide)).1 hRead
        rwa [UInt64.toNat_ofNat_of_lt' hn]
  · intro hNumeral
    have hRead : readNatural UInt64.size (trim s.toList) = .ok i.value.toNat :=
      (readNatural_eq_ok_iff (by decide)).2 ⟨hNumeral, i.value.toNat_lt_size⟩
    simp [parse, hRead, Except.map]

theorem parse_eq_error_iff {fault : NumberFault} :
    parse s = .error fault ↔ readNatural UInt64.size (trim s.toList) = .error fault := by
  rw [parse]
  cases readNatural UInt64.size (trim s.toList) <;> simp [Except.map]

/-! ### Showing and reading -/

/-- An index is read from its own text, with white space around it or without. -/
theorem parse_surrounded_text (i : Index) (before after : List Char)
    (hBefore : ∀ c ∈ before, isBlank c = true) (hAfter : ∀ c ∈ after, isBlank c = true) :
    parse (String.ofList (before ++ i.text.toList ++ after)) = .ok i := by
  rw [parse_eq_ok_iff, String.toList_ofList, ← paddedNumeral_iff]
  exact ⟨_, numeral_writeNatural _, before, after, rfl, hBefore, hAfter⟩

theorem parse_text (i : Index) : parse i.text = .ok i := by
  simpa using i.parse_surrounded_text [] [] nofun nofun

theorem lookup_parameters {q : Query} {i : Index} (h : q.index = some i) :
    q.parameters.lookup "index" = some i.text := by
  simp [Query.parameters, Query.optional, h]

/-- Reading and showing indexes. An index is read from a text exactly if the text, without the white
space at its ends, is digits with at most one plus sign in front, and their value is the index. A
text without anything left is empty; one whose first run of digits, after the sign, has a value that
does not fit into 64 bits is too large, whatever follows; and any other fails for a character that
is no digit, or for want of digits. The text in which an index is shown is read as the index, with
any white space around it. So an index that a header writes is written by the next query as well. -/
theorem indexes_are_read_exactly :
    (∀ s : String,
      (∀ i, parse s = .ok i ↔ Numeral (trim s.toList) i.value.toNat) ∧
      (parse s = .error .empty ↔ trim s.toList = []) ∧
      (parse s = .error .tooLarge ↔
        2 ^ 64 ≤ decimalValue ((unsigned (trim s.toList)).takeWhile Char.isDigit)) ∧
      (parse s = .error .invalidDigit ↔ trim s.toList ≠ [] ∧
        decimalValue ((unsigned (trim s.toList)).takeWhile Char.isDigit) < 2 ^ 64 ∧
        ¬∃ n < 2 ^ 64, Numeral (trim s.toList) n)) ∧
    (∀ (i : Index) (before after : List Char), (∀ c ∈ before, isBlank c = true) →
      (∀ c ∈ after, isBlank c = true) →
      parse (String.ofList (before ++ i.text.toList ++ after)) = .ok i) ∧
    ∀ headers i (q : Query), Agent.readIndex headers = .ok i → q.index = some i →
      ∃ received sent, Agent.FirstValue Agent.indexHeader headers received ∧
        Agent.Writes received i ∧ q.parameters.lookup "index" = some sent ∧
        parse sent = .ok i := by
  have hSize : UInt64.size = 2 ^ 64 := rfl
  have hBound : 0 < UInt64.size := by decide
  refine ⟨fun s => ⟨fun i => parse_eq_ok_iff, ?_, ?_, ?_⟩, parse_surrounded_text, ?_⟩
  · rw [parse_eq_error_iff, readNatural_eq_empty_iff hBound]
  · rw [parse_eq_error_iff, readNatural_eq_tooLarge_iff hBound, hSize]
  · rw [parse_eq_error_iff, readNatural_eq_invalidDigit_iff hBound, hSize]
  · intro headers i q hReceived hSent
    obtain ⟨received, hFirst, hWrites⟩ := Agent.readIndex_eq_ok_iff.1 hReceived
    exact ⟨received, i.text, hFirst, hWrites, lookup_parameters hSent, parse_text i⟩

/-- A no-break space in front and a tab behind do not count. -/
theorem indexes_are_read_exactly_of_padded :
    parse "\u00a018446744073709551615\t" = .ok ⟨18446744073709551615⟩ := by
  let i : Index := ⟨18446744073709551615⟩
  have hText : String.ofList (['\u00a0'] ++ i.text.toList ++ ['\t']) =
      "\u00a018446744073709551615\t" := by decide +kernel
  have hBefore : ∀ c ∈ ['\u00a0'], isBlank c = true := List.forall_mem_singleton.2 rfl
  have hAfter : ∀ c ∈ ['\t'], isBlank c = true := List.forall_mem_singleton.2 rfl
  rw [← hText]
  exact indexes_are_read_exactly.2.1 i _ _ hBefore hAfter

/-- The digits in front decide between two faults, and a sign needs a digit. -/
example :
    parse "18446744073709551616x" = .error .tooLarge ∧
      parse "18446744073709551615x" = .error .invalidDigit ∧ parse "+" = .error .invalidDigit ∧
      parse "++1" = .error .invalidDigit ∧ parse "\u2003" = .error .empty := by
  decide +kernel

end Index

end LongPoll
