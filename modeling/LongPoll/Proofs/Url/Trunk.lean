import LongPoll.Proofs.Url.Append

/-!
What stays of a path when segments are appended to it.

Dots among the segments are passed over. Two dots with tabs or line ends between them are not: they
are read as two dots later, and lead up. Behind other appended segments they lead up to one of those
at most, so what stood there before stays. As the first segment that counts they lead above it, and
no segments after them lead back.
-/

namespace LongPoll.Url

open LongPoll.Text

/-- The path without the slash at its end. -/
def trunk (u : Url) : List Char :=
  if u.path.text.getLast? = some '/' then u.path.text.dropLast else u.path.text

/-- The segment is passed over. -/
def isSkipped (s : String) : Bool := s == "." || s == ".."

/-- Only without its tabs and line ends the segment is two dots. -/
def leadsUp (s : String) : Bool :=
  !isSkipped s && (s.toList.filter fun c => !isStray c) == ['.', '.']

/-- The first segment that is not passed over leads up. -/
def departs : List String → Bool
  | [] => false
  | s :: rest => if isSkipped s then departs rest else leadsUp s

variable {scheme first : List Char} {front more : List (List Char)} {s : String}

/-! ### Appending one segment -/

theorem appendSegment_of_skipped (h : isSkipped s = true) (segments : List (List Char)) :
    appendSegment scheme segments s = segments := by
  have hDots : s = "." ∨ s = ".." := by simpa [isSkipped] using h
  rw [appendSegment, if_pos hDots]

theorem isDoubleDot_writtenSegment {special : Bool} (h : isSkipped s = false) :
    isDoubleDot (writtenSegment special s) = leadsUp s := by
  rw [Bool.eq_iff_iff, writtenSegment, ← written, isDoubleDot_written]
  simp [leadsUp, h]

theorem up_append_cons (front : List (List Char)) (first : List Char) (more : List (List Char)) :
    up (front ++ first :: more) = front ∨
      ∃ more', up (front ++ first :: more) = front ++ first :: more' := by
  rw [up_append front (List.cons_ne_nil first more), up]
  split
  · exact .inr ⟨more, rfl⟩
  · cases more with
    | nil => exact .inl (List.append_nil front)
    | cons next rest => exact .inr ⟨(next :: rest).dropLast, rfl⟩

/-- With a segment behind the front, there is one behind it whatever is added. It is the same, or
nothing but its slash is left. -/
theorem finish_append_cons (front : List (List Char)) (first : List Char)
    (more : List (List Char)) (w : List Char) :
    ∃ first' more', finish (front ++ first :: more) w = front ++ first' :: more' ∧
      (first' = first ∨ first' = []) := by
  unfold finish
  split
  · rcases up_append_cons front first more with hUp | ⟨more', hUp⟩
    · exact ⟨[], [], by rw [hUp], .inr rfl⟩
    · exact ⟨first, more' ++ [[]], by rw [hUp, List.append_assoc, List.cons_append], .inl rfl⟩
  · split
    · exact ⟨first, more ++ [[]], by rw [List.append_assoc, List.cons_append], .inl rfl⟩
    · exact ⟨first, more ++ [w], by rw [List.append_assoc, List.cons_append], .inl rfl⟩

/-! ### Behind a front -/

/-- There are segments to be kept, more than the slash of a root. In a path of files the first of
them is not empty. -/
structure IsFront (scheme : List Char) (front : List (List Char)) : Prop where
  some : front ≠ []
  deep : front ≠ [[]]
  full : isFile scheme = true → front.head? ≠ .some []

namespace IsFront

theorem withoutEmptyFront_append (h : IsFront scheme front) (hFile : isFile scheme = true)
    (rest : List (List Char)) : withoutEmptyFront (front ++ rest) = front ++ rest := by
  obtain ⟨a, others, rfl⟩ := List.exists_cons_of_ne_nil h.some
  have hFull : a ≠ [] := fun hEmpty => h.full hFile (hEmpty ▸ rfl)
  simp [withoutEmptyFront, hFull]

/-- A segment that counts is added if that leaves the front as it is. -/
theorem appendSegment_eq (h : IsFront scheme front) (hCounts : isSkipped s = false)
    {rest : List (List Char)}
    (hKept : finish (front ++ more) (writtenSegment (isSpecial scheme) s) = front ++ rest) :
    appendSegment scheme (front ++ more) s = front ++ rest := by
  have hDots : ¬(s = "." ∨ s = "..") := by simpa [isSkipped] using hCounts
  have hDeep : front ++ more ≠ [[]] := by
    rw [Ne, List.append_eq_singleton_iff]
    rintro (⟨hNone, _⟩ | ⟨hRoot, _⟩)
    · exact h.some hNone
    · exact h.deep hRoot
  have hSome : front ++ more ≠ [] := List.append_ne_nil_of_left_ne_nil h.some more
  simp only [appendSegment, if_neg hDots, base, if_neg hDeep, if_neg hSome, hKept]
  split
  · next hFile => exact h.withoutEmptyFront_append hFile rest
  · rfl

/-- The first segment that counts comes behind the front, unless it leads up. -/
theorem appendSegment_front (h : IsFront scheme front) (hCounts : isSkipped s = false)
    (hStays : leadsUp s = false) :
    ∃ first more, appendSegment scheme front s = front ++ first :: more := by
  have hNotUp : isDoubleDot (writtenSegment (isSpecial scheme) s) ≠ true := by
    rw [isDoubleDot_writtenSegment hCounts, hStays]
    exact Bool.false_ne_true
  have hFinish :
      ∃ w, finish (front ++ []) (writtenSegment (isSpecial scheme) s) = front ++ [w] := by
    rw [finish, if_neg hNotUp, List.append_nil]
    split
    · exact ⟨[], rfl⟩
    · exact ⟨_, rfl⟩
  obtain ⟨w, hKept⟩ := hFinish
  have hAppend := h.appendSegment_eq hCounts hKept
  rw [List.append_nil] at hAppend
  exact ⟨w, [], hAppend⟩

theorem appendSegment_cons (h : IsFront scheme front) (first : List Char)
    (more : List (List Char)) (s : String) :
    ∃ first' more', appendSegment scheme (front ++ first :: more) s = front ++ first' :: more' ∧
      (first' = first ∨ first' = []) := by
  cases hSkipped : isSkipped s with
  | true => exact ⟨first, more, appendSegment_of_skipped hSkipped _, .inl rfl⟩
  | false =>
      obtain ⟨first', more', hKept, hFirst⟩ :=
        finish_append_cons front first more (writtenSegment (isSpecial scheme) s)
      exact ⟨first', more', h.appendSegment_eq hSkipped hKept, hFirst⟩

/-- Once there is a segment behind the front, none of those that follow changes the front. -/
theorem foldl_appendSegment_cons (h : IsFront scheme front) (first : List Char)
    (more : List (List Char)) (list : List String) :
    ∃ first' more', list.foldl (appendSegment scheme) (front ++ first :: more) =
      front ++ first' :: more' ∧ (first' = first ∨ first' = []) := by
  induction list generalizing first more with
  | nil => exact ⟨first, more, rfl, .inl rfl⟩
  | cons s rest ih =>
      obtain ⟨next, others, hNext, hFirst⟩ := h.appendSegment_cons first more s
      obtain ⟨last, others', hLast, hSecond⟩ := ih next others
      refine ⟨last, others', by rw [List.foldl_cons, hNext, hLast], ?_⟩
      rcases hSecond with rfl | hEmpty
      · exact hFirst
      · exact .inr hEmpty

/-- The front stays, unless the first segment that counts leads up. -/
theorem prefix_foldl (h : IsFront scheme front) {list : List String}
    (hStays : departs list = false) :
    front <+: list.foldl (appendSegment scheme) front := by
  induction list with
  | nil => exact List.prefix_refl front
  | cons s rest ih =>
      rw [departs] at hStays
      cases hSkipped : isSkipped s with
      | true =>
          rw [List.foldl_cons, appendSegment_of_skipped hSkipped]
          exact ih (by simpa [hSkipped] using hStays)
      | false =>
          have hNotUp : leadsUp s = false := by simpa [hSkipped] using hStays
          obtain ⟨first, more, hFirst⟩ := h.appendSegment_front hSkipped hNotUp
          obtain ⟨first', more', hRest, _⟩ := h.foldl_appendSegment_cons first more rest
          rw [List.foldl_cons, hFirst, hRest]
          exact List.prefix_append ..

/-- A first segment that leads up takes the last segment away, and none of those that follow comes
back to where it was. -/
theorem foldl_of_departs (h : IsFront scheme front) {last : List Char}
    (hDrive : isDrive last = false) {list : List String} (hDeparts : departs list = true) :
    ∃ more, list.foldl (appendSegment scheme) (front ++ [last]) = front ++ [] :: more := by
  induction list with
  | nil => cases hDeparts
  | cons s rest ih =>
      rw [departs] at hDeparts
      cases hSkipped : isSkipped s with
      | true =>
          rw [List.foldl_cons, appendSegment_of_skipped hSkipped]
          exact ih (by simpa [hSkipped] using hDeparts)
      | false =>
          have hUp : isDoubleDot (writtenSegment (isSpecial scheme) s) = true := by
            rw [isDoubleDot_writtenSegment hSkipped]
            simpa [hSkipped] using hDeparts
          have hFinish : finish (front ++ [last]) (writtenSegment (isSpecial scheme) s) =
              front ++ [[]] := by
            simp [finish, hUp, up, hDrive]
          obtain ⟨first, more, hRest, hFirst⟩ := h.foldl_appendSegment_cons [] [] rest
          obtain rfl : first = [] := or_self_iff.1 hFirst
          exact ⟨more, by rw [List.foldl_cons, h.appendSegment_eq hSkipped hFinish, hRest]⟩

end IsFront

/-! ### The path of an address -/

theorem withoutEmptyFront_ne_nil (segments : List (List Char)) :
    withoutEmptyFront segments ≠ [] := by
  unfold withoutEmptyFront
  split
  · exact List.cons_ne_nil _ _
  · next hSome => exact hSome

theorem appendSegment_ne_nil {segments : List (List Char)} (hSome : segments ≠ []) (s : String) :
    appendSegment scheme segments s ≠ [] := by
  have hFinish (before : List (List Char)) (w : List Char) : finish before w ≠ [] := by
    unfold finish
    split
    · simp
    · split <;> simp
  unfold appendSegment
  split
  · exact hSome
  · dsimp only
    split
    · exact withoutEmptyFront_ne_nil _
    · exact hFinish _ _

theorem foldl_appendSegment_ne_nil {segments : List (List Char)} (hSome : segments ≠ [])
    (list : List String) : list.foldl (appendSegment scheme) segments ≠ [] := by
  induction list generalizing segments with
  | nil => exact hSome
  | cons s rest ih => exact ih (appendSegment_ne_nil hSome s)

variable {u : Url} {list : List String}

/-- In a path of files the first segment is not empty, unless it is the only one. -/
def IsFull (u : Url) : Prop :=
  isFile u.scheme = true → ∀ guarded list, u.path = .segments guarded list →
    list = [[]] ∨ list.head? ≠ some []

theorem head?_withoutEndSlash (segments : List (List Char)) :
    (withoutEndSlash segments).head? = segments.head? := by
  unfold withoutEndSlash
  split
  · next hLong =>
      rcases segments with _ | ⟨a, _ | ⟨b, rest⟩⟩
      · rfl
      · exact absurd hLong.1 (Nat.lt_irrefl 1)
      · rfl
  · rfl

theorem slashed_prefix {before after : List (List Char)} (h : before <+: after) :
    slashed before <+: slashed after := by
  obtain ⟨rest, rfl⟩ := h
  rw [slashed_append]
  exact List.prefix_append ..

/-- What stands in front of appended segments stays, unless the first that counts leads up. -/
theorem front_prefix_extend (hFull : u.IsFull) (hStays : departs list = false) :
    u.front <+: (u.extend list).path.text := by
  cases hPath : u.path with
  | bare text => simp [Url.front, extend, hPath, Path.text]
  | segments guarded old =>
      have hText : (u.extend list).path.text = (Path.segments guarded
          (list.foldl (appendSegment u.scheme) (withoutEndSlash old))).text := by
        simp [extend, hPath]
      rw [hText, Url.front, hPath]
      simp only [Path.text, List.prefix_append_right_inj]
      by_cases hShort : withoutEndSlash old = [] ∨ withoutEndSlash old = [[]]
      · rcases hShort with hNone | hRoot
        · rw [hNone]
          exact List.nil_prefix
        · rw [hRoot]
          exact List.nil_prefix
      · obtain ⟨hSome, hDeep⟩ := not_or.1 hShort
        have hFront : IsFront u.scheme (withoutEndSlash old) := by
          refine ⟨hSome, hDeep, fun hFile => ?_⟩
          rw [head?_withoutEndSlash]
          rcases hFull hFile guarded old hPath with rfl | hFull
          · exact absurd rfl hDeep
          · exact hFull
        rw [base, if_neg hDeep]
        exact slashed_prefix (hFront.prefix_foldl hStays)

theorem trunk_prefix_text (u : Url) : u.trunk <+: u.path.text := by
  unfold trunk
  split
  · exact List.dropLast_prefix _
  · exact List.prefix_refl _

theorem trunk_of_concat {t : List Char} (h : u.path.text = t ++ ['/']) : u.trunk = t := by
  rw [trunk, h, List.getLast?_concat, if_pos rfl, List.dropLast_concat]

/-- A path of segments begins with a slash, whatever is appended. -/
theorem exists_slash_extend {guarded : Bool} {old : List (List Char)}
    (hPath : u.path = .segments guarded old) (hSome : withoutEndSlash old ≠ [])
    (list : List String) :
    ∃ rest, (u.extend list).path.text = (Path.segments guarded []).text ++ '/' :: rest := by
  have hSegments : list.foldl (appendSegment u.scheme) (withoutEndSlash old) ≠ [] :=
    foldl_appendSegment_ne_nil hSome list
  obtain ⟨a, others, hNew⟩ := List.exists_cons_of_ne_nil hSegments
  refine ⟨a ++ slashed others, ?_⟩
  simp [extend, hPath, Path.text, hNew, slashed]

theorem trunk_prefix_extend (hFull : u.IsFull) (hStays : departs list = false) :
    u.trunk <+: (u.extend list).path.text := by
  have hFront := front_prefix_extend hFull hStays
  rcases u.text_eq_front with hText | hText | ⟨⟨guarded, hPath⟩, hText⟩
  · exact (hText ▸ u.trunk_prefix_text).trans hFront
  · rwa [trunk_of_concat hText]
  · have hTwo : u.path.text = (u.front ++ ['/']) ++ ['/'] := by rw [hText, List.append_assoc]; rfl
    have hGuard : u.front = (Path.segments guarded []).text := by rw [Url.front, hPath]; rfl
    obtain ⟨rest, hSlash⟩ := exists_slash_extend hPath (List.cons_ne_nil [] []) list
    rw [trunk_of_concat hTwo, hSlash, hGuard]
    exact ⟨rest, by simp⟩

end LongPoll.Url
