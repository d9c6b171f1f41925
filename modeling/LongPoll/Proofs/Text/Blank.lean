import LongPoll.Text.Blank
import Mathlib.Data.List.DropRight
import Mathlib.Data.List.TakeWhile

/-!
What trimming leaves.

A text is white space, the trimmed text and white space again, and the trimmed text neither begins
nor ends with white space. There is no other way to split a text like that, so a text pads what it
is trimmed to and nothing else of that kind.
-/

namespace LongPoll.Text

variable {α : Type} {p : α → Bool} {text before core after : List α}

/-- Neither the first nor the last of the list satisfies `p`. -/
structure IsTrimmed (p : α → Bool) (core : List α) : Prop where
  first : ∀ a ∈ core.head?, p a = false
  last : ∀ a ∈ core.getLast?, p a = false

theorem isTrimmed_of_forall (h : ∀ a ∈ core, p a = false) : IsTrimmed p core where
  first a hFirst := h a (List.mem_of_mem_head? hFirst)
  last a hLast := h a (List.mem_of_getLast? hLast)

theorem head?_dropWhile_false (text : List α) : ∀ a ∈ (text.dropWhile p).head?, p a = false := by
  intro a ha
  have hHead := List.head?_dropWhile_not p text
  rwa [Option.mem_def.1 ha] at hHead

theorem dropWhile_of_head? (h : ∀ a ∈ core.head?, p a = false) : core.dropWhile p = core := by
  cases core with
  | nil => rfl
  | cons a rest => simp [h a rfl]

theorem isTrimmed_trimBy (p : α → Bool) (text : List α) : IsTrimmed p (trimBy p text) where
  first := by
    intro a ha
    have hPrefix : trimBy p text <+: text.dropWhile p := List.rdropWhile_prefix p _
    obtain ⟨rest, hRest⟩ := hPrefix
    have hHead : (text.dropWhile p).head? = some a := by
      rw [← hRest, List.head?_append, Option.mem_def.1 ha, Option.some_or]
    exact head?_dropWhile_false text a hHead
  last := by
    intro a ha
    rw [trimBy, List.getLast?_reverse] at ha
    exact head?_dropWhile_false _ a ha

theorem trimBy_surrounded (h : IsTrimmed p core) (hBefore : ∀ a ∈ before, p a = true)
    (hAfter : ∀ a ∈ after, p a = true) : trimBy p (before ++ core ++ after) = core := by
  have hReversed : core.reverse.dropWhile p = core.reverse :=
    dropWhile_of_head? (by simpa [List.head?_reverse] using h.last)
  have hAfterReversed : ∀ a ∈ after.reverse, p a = true := by simpa using hAfter
  cases hCore : core with
  | nil =>
      have hAll : ∀ a ∈ before ++ after, p a = true := by
        intro a ha
        exact (List.mem_append.1 ha).elim (hBefore a) (hAfter a)
      simp [trimBy, List.dropWhile_eq_nil_iff.2 hAll]
  | cons a rest =>
      have hFirst : (core ++ after).dropWhile p = core ++ after := by
        refine dropWhile_of_head? fun b hb => h.first b ?_
        simpa [hCore] using hb
      rw [← hCore, trimBy, List.append_assoc, List.dropWhile_append_of_pos hBefore, hFirst,
        List.reverse_append, List.dropWhile_append_of_pos hAfterReversed, hReversed,
        List.reverse_reverse]

/-- What trimming leaves is trimmed, and what it cuts off at both ends satisfies `p`. -/
theorem trimBy_eq_iff :
    trimBy p text = core ↔
      IsTrimmed p core ∧ ∃ before after, text = before ++ core ++ after ∧
        (∀ a ∈ before, p a = true) ∧ ∀ a ∈ after, p a = true := by
  constructor
  · rintro rfl
    refine ⟨isTrimmed_trimBy p text, text.takeWhile p, (text.dropWhile p).rtakeWhile p, ?_,
      fun a ha => List.mem_takeWhile_imp ha, fun a ha => List.mem_rtakeWhile_imp ha⟩
    have hSplit : trimBy p text ++ (text.dropWhile p).rtakeWhile p = text.dropWhile p :=
      List.rdropWhile_append_rtakeWhile
    rw [List.append_assoc, hSplit, List.takeWhile_append_dropWhile]
  · rintro ⟨hTrimmed, before, after, rfl, hBefore, hAfter⟩
    exact trimBy_surrounded hTrimmed hBefore hAfter

/-- The text is the core with white space around it. -/
def Pads (text core : List Char) : Prop :=
  ∃ before after, text = before ++ core ++ after ∧
    (∀ c ∈ before, isBlank c = true) ∧ ∀ c ∈ after, isBlank c = true

/-- A core without white space at its ends is padded by the texts that are trimmed to it. -/
theorem pads_iff {text core : List Char} (h : IsTrimmed isBlank core) :
    Pads text core ↔ trim text = core :=
  (trimBy_eq_iff.trans (and_iff_right h)).symm

end LongPoll.Text
