import LongPoll.Proofs.Text.Percent
import LongPoll.Url.Path

/-!
What becomes of segments that are appended to an address.

Most pieces of text become one segment each, escaped. Dots are passed over or lead back up, and tabs
and line ends are lost. What all that comes to is told by `appendPiece` before anything is escaped.
No piece makes a path longer than itself and a slash, and a piece of which anything is lost makes it
less long. So the path that was meant comes out exactly if nothing is lost of any piece.
-/

namespace LongPoll.Url

open LongPoll.Text

/-- Nothing is lost of the piece when it is appended. -/
def isKept (piece : List Char) : Bool :=
  piece != ['.'] && piece != ['.', '.'] && piece.all fun c => !isStray c

/-- A segment as it is written in a path. -/
def written (special : Bool) (piece : List Char) : List Char :=
  Percent.encode (reservedInSegment special) piece

variable {special : Bool}

theorem reserved_mark : reservedInSegment special '%' = true := by cases special <;> decide

theorem reserved_slash : reservedInSegment special '/' = true := by cases special <;> decide

theorem decode_written (piece : List Char) :
    Percent.decode (written special piece) = Utf8.encode piece :=
  Percent.decode_encode reserved_mark piece

theorem eq_of_decode_written {piece other : List Char}
    (h : Percent.decode (written special piece) = Utf8.encode other) : piece = other :=
  Percent.eq_of_decode_encode reserved_mark h

/-! ### Which written segments have a meaning of their own -/

/-- All ways to write a dot stand for a dot. -/
theorem decode_dots {s : List Char} (h : s ∈ dots) : Percent.decode s = Utf8.encode ['.'] := by
  have hAll : ∀ s ∈ dots, Percent.decode s = Utf8.encode ['.'] := by decide
  exact hAll s h

theorem decode_dots_append {a b : List Char} (ha : a ∈ dots) (hb : b ∈ dots) :
    Percent.decode (a ++ b) = Utf8.encode ['.', '.'] := by
  have hAll : ∀ a ∈ dots, ∀ b ∈ dots, Percent.decode (a ++ b) = Utf8.encode ['.', '.'] := by decide
  exact hAll a ha b hb

theorem isSingleDot_written (piece : List Char) :
    isSingleDot (written special piece) = true ↔ piece = ['.'] := by
  constructor
  · intro h
    exact eq_of_decode_written (decode_dots (List.contains_iff_mem.1 h))
  · rintro rfl
    cases special <;> decide

theorem isDoubleDot_written (piece : List Char) :
    isDoubleDot (written special piece) = true ↔ piece = ['.', '.'] := by
  constructor
  · intro h
    simp only [isDoubleDot, List.any_eq_true, beq_iff_eq] at h
    obtain ⟨a, ha, b, hb, hSame⟩ := h
    exact eq_of_decode_written (hSame ▸ decode_dots_append ha hb)
  · rintro rfl
    cases special <;> decide

/-! ### Appending before escaping -/

/-- The place above some pieces. -/
def above (special : Bool) (before : List (List Char)) : List (List Char) :=
  if (before.getLast?.map (written special)).any isDrive then before else before.dropLast

/-- The pieces of a path after one more was appended. -/
def appendPiece (special : Bool) (before : List (List Char)) (piece : List Char) :
    List (List Char) :=
  if piece = ['.'] ∨ piece = ['.', '.'] then before
  else
    let rest := piece.filter fun c => !isStray c
    if rest = ['.', '.'] then above special before ++ [[]]
    else if rest = ['.'] then before ++ [[]]
    else before ++ [rest]

def appendPieces (special : Bool) (before pieces : List (List Char)) : List (List Char) :=
  pieces.foldl (appendPiece special) before

variable {before pieces : List (List Char)} {piece : List Char}

theorem isKept_iff : isKept piece = true ↔
    (piece ≠ ['.'] ∧ piece ≠ ['.', '.']) ∧ (piece.filter fun c => !isStray c) = piece := by
  simp [isKept, List.filter_eq_self]

theorem appendPiece_of_kept (h : isKept piece = true) :
    appendPiece special before piece = before ++ [piece] := by
  obtain ⟨⟨hSingle, hDouble⟩, hRest⟩ := isKept_iff.1 h
  simp [appendPiece, hSingle, hDouble, hRest]

theorem appendPieces_of_kept (h : ∀ p ∈ pieces, isKept p = true) :
    appendPieces special before pieces = before ++ pieces := by
  induction pieces generalizing before with
  | nil => exact (List.append_nil _).symm
  | cons p rest ih =>
      rw [appendPieces, List.foldl_cons, appendPiece_of_kept (h p (List.mem_cons_self ..))]
      exact (ih fun q hq => h q (List.mem_cons_of_mem _ hq)).trans (List.append_assoc ..)

theorem slashed_append (before pieces : List (List Char)) :
    slashed (before ++ pieces) = slashed before ++ slashed pieces := List.flatMap_append

theorem length_slashed_cons (piece : List Char) (rest : List (List Char)) :
    (slashed (piece :: rest)).length = (piece.length + 1) + (slashed rest).length := by
  rw [slashed, List.flatMap_cons, List.length_append, List.length_cons]
  rfl

theorem length_slashed_concat (before : List (List Char)) (piece : List Char) :
    (slashed (before ++ [piece])).length = (slashed before).length + (piece.length + 1) := by
  simp [slashed]

theorem length_slashed_above (special : Bool) (before : List (List Char)) :
    (slashed (above special before)).length ≤ (slashed before).length := by
  unfold above
  split
  · exact Nat.le_refl _
  · rcases List.eq_nil_or_concat before with rfl | ⟨front, last, rfl⟩
    · exact Nat.le_refl _
    · rw [List.concat_eq_append, List.dropLast_concat, length_slashed_concat]
      omega

/-- A piece of which anything is lost makes a path less long than it would be with the piece. -/
theorem length_slashed_appendPiece (special : Bool) (before : List (List Char))
    (h : isKept piece = false) :
    (slashed (appendPiece special before piece)).length <
      (slashed before).length + (piece.length + 1) := by
  unfold appendPiece
  split
  · omega
  · next hDots =>
      have hRest := List.length_filter_le (fun c => !isStray c) piece
      have hAbove := length_slashed_above special before
      have hLess : (piece.filter fun c => !isStray c).length < piece.length := by
        refine Nat.lt_of_le_of_ne hRest fun hSame => ?_
        have hAll :=
          (List.filter_sublist (p := fun c => !isStray c) (l := piece)).eq_of_length hSame
        exact Bool.eq_false_iff.1 h (isKept_iff.2 ⟨not_or.1 hDots, hAll⟩)
      dsimp only
      split
      · next hUp =>
          rw [length_slashed_concat]
          simp [hUp] at hLess
          simp
          omega
      · split
        · rw [length_slashed_concat]
          simp
          omega
        · rw [length_slashed_concat]
          omega

theorem length_slashed_appendPiece_le (special : Bool) (before : List (List Char))
    (piece : List Char) :
    (slashed (appendPiece special before piece)).length ≤
      (slashed before).length + (piece.length + 1) := by
  cases hKept : isKept piece with
  | true => exact Nat.le_of_eq (by rw [appendPiece_of_kept hKept, length_slashed_concat])
  | false => exact Nat.le_of_lt (length_slashed_appendPiece special before hKept)

theorem length_slashed_appendPieces (special : Bool) (before pieces : List (List Char)) :
    (slashed (appendPieces special before pieces)).length ≤
      (slashed before).length + (slashed pieces).length := by
  induction pieces generalizing before with
  | nil => exact Nat.le_refl _
  | cons p rest ih =>
      have hFirst := length_slashed_appendPiece_le special before p
      have hRest := ih (appendPiece special before p)
      rw [length_slashed_cons]
      change (slashed (appendPieces special (appendPiece special before p) rest)).length ≤ _
      omega

/-- The path that was meant comes out exactly if nothing is lost of any piece. -/
theorem slashed_appendPieces_iff :
    slashed (appendPieces special before pieces) = slashed before ++ slashed pieces ↔
      ∀ p ∈ pieces, isKept p = true := by
  constructor
  · intro hSame p hp
    refine (Bool.not_eq_false _).mp fun hLost => ?_
    obtain ⟨front, rest, rfl⟩ := List.append_of_mem hp
    -- What is lost at this piece is not made up for by the pieces around it.
    have hFront := length_slashed_appendPieces special before front
    have hPiece := length_slashed_appendPiece special (appendPieces special before front) hLost
    have hRest := length_slashed_appendPieces special
      (appendPiece special (appendPieces special before front) p) rest
    have hWhole : appendPieces special before (front ++ p :: rest) =
        appendPieces special (appendPiece special (appendPieces special before front) p) rest := by
      simp [appendPieces, List.foldl_append]
    have hLength := congrArg List.length hSame
    rw [hWhole, slashed_append, List.length_append, List.length_append, length_slashed_cons]
      at hLength
    omega
  · intro h
    rw [appendPieces_of_kept h, slashed_append]

/-! ### Appending to an address -/

theorem length_appendPiece (hTwo : 2 ≤ before.length) :
    2 ≤ (appendPiece special before piece).length := by
  have hAbove : before.length ≤ (above special before).length + 1 := by
    unfold above
    split
    · omega
    · rw [List.length_dropLast]
      omega
  unfold appendPiece
  split
  · exact hTwo
  · dsimp only
    split
    · rw [List.length_append, List.length_singleton]
      omega
    · split <;> rw [List.length_append, List.length_singleton] <;> omega

theorem base_of_two (h : 2 ≤ before.length) : base before = before := by
  rw [base, if_neg]
  rintro rfl
  simp at h

/-- Segments after the front keep what leads up away from it. -/
theorem up_append (front : List (List Char)) {more : List (List Char)} (hSome : more ≠ []) :
    up (front ++ more) = front ++ up more := by
  have hLast : (front ++ more).getLast? = more.getLast? := by
    obtain ⟨last, hEnd⟩ := Option.isSome_iff_exists.1 (List.getLast?_isSome.2 hSome)
    rw [List.getLast?_append, hEnd, Option.some_or]
  unfold up
  rw [hLast]
  split
  · rfl
  · rw [List.dropLast_append_of_ne_nil hSome]

theorem up_written (before : List (List Char)) :
    up (before.map (written special)) = (above special before).map (written special) := by
  unfold up above
  rw [List.getLast?_map]
  split
  · rfl
  · rw [List.map_dropLast]

variable {scheme : List Char}

theorem appendSegment_written (hFile : isFile scheme = false) (front : List (List Char))
    (hTwo : 2 ≤ before.length) (piece : List Char) :
    appendSegment scheme (front ++ before.map (written (isSpecial scheme)))
        (String.ofList piece) =
      front ++ (appendPiece (isSpecial scheme) before piece).map
        (written (isSpecial scheme)) := by
  have hSome : before ≠ [] := List.ne_nil_of_length_pos (by omega)
  have hBase : base (front ++ before.map (written (isSpecial scheme))) =
      front ++ before.map (written (isSpecial scheme)) := by
    refine base_of_two ?_
    rw [List.length_append, List.length_map]
    omega
  have hDot (s : List Char) : String.ofList piece = String.ofList s ↔ piece = s :=
    String.ofList_inj
  have hSingle : String.ofList piece = "." ↔ piece = ['.'] := hDot ['.']
  have hDouble : String.ofList piece = ".." ↔ piece = ['.', '.'] := hDot ['.', '.']
  unfold appendSegment appendPiece
  simp only [hSingle, hDouble]
  split
  · rfl
  · have hWritten : writtenSegment (isSpecial scheme) (String.ofList piece) =
        written (isSpecial scheme) (piece.filter fun c => !isStray c) := by
      rw [writtenSegment, String.toList_ofList]
      rfl
    have hEmpty : written (isSpecial scheme) [] = [] := rfl
    simp only [hBase, hWritten, hFile, Bool.false_eq_true, if_false, finish, isDoubleDot_written,
      isSingleDot_written]
    split
    · rw [up_append front (by simpa using hSome), up_written, List.map_append,
        List.map_singleton, hEmpty, List.append_assoc]
    · split <;> simp [hEmpty]

/-- A piece of which nothing is lost becomes a segment wherever it is appended. -/
theorem appendSegment_kept (hFile : isFile scheme = false) (segments : List (List Char))
    {s : String} (hKept : isKept s.toList = true) :
    appendSegment scheme segments s = base segments ++ [written (isSpecial scheme) s.toList] := by
  obtain ⟨⟨hSingle, hDouble⟩, hRest⟩ := isKept_iff.1 hKept
  have hNoDot : s ≠ "." := fun h => hSingle (h ▸ rfl)
  have hNoDots : s ≠ ".." := fun h => hDouble (h ▸ rfl)
  have hWritten : writtenSegment (isSpecial scheme) s = written (isSpecial scheme) s.toList := by
    rw [writtenSegment, hRest]
    rfl
  simp only [appendSegment, hNoDot, hNoDots, or_self, if_false, hWritten, hFile,
    Bool.false_eq_true, finish, isDoubleDot_written, hDouble, isSingleDot_written, hSingle]

theorem foldl_appendSegment (hFile : isFile scheme = false) (front : List (List Char))
    (hTwo : 2 ≤ before.length) (pieces : List (List Char)) :
    (pieces.map String.ofList).foldl (appendSegment scheme)
        (front ++ before.map (written (isSpecial scheme))) =
      front ++ (appendPieces (isSpecial scheme) before pieces).map
        (written (isSpecial scheme)) := by
  induction pieces generalizing before with
  | nil => rfl
  | cons piece rest ih =>
      rw [List.map_cons, List.foldl_cons, appendSegment_written hFile front hTwo,
        ih (length_appendPiece hTwo)]
      rfl

variable {u : Url}

/-- What stands in front of appended segments: the path without a slash at its end. -/
def front (u : Url) : List Char :=
  match u.path with
  | .bare text => text
  | .segments guarded list => (Path.segments guarded (base (withoutEndSlash list))).text

theorem withoutEndSlash_concat_nil {parents : List (List Char)} (hSome : parents ≠ []) :
    withoutEndSlash (parents ++ [[]]) = parents := by
  have hLength : 0 < parents.length := List.length_pos_iff.2 hSome
  rw [withoutEndSlash, if_pos, List.dropLast_concat]
  refine ⟨?_, List.getLast?_concat⟩
  rw [List.length_append, List.length_singleton]
  omega

theorem withoutEndSlash_concat {parents : List (List Char)} {last : List Char}
    (hKeep : last ≠ [] ∨ parents = []) :
    withoutEndSlash (parents ++ [last]) = parents ++ [last] := by
  rw [withoutEndSlash, if_neg]
  rintro ⟨hLong, hLast⟩
  rw [List.getLast?_concat, Option.some.injEq] at hLast
  rcases hKeep with hSome | rfl
  · exact hSome hLast
  · exact Nat.lt_irrefl 1 hLong

theorem slashed_base (segments : List (List Char)) :
    segments ≠ [[]] ∧ slashed (base segments) = slashed segments ∨
      segments = [[]] ∧ slashed (base segments) = [] ∧ slashed segments = ['/'] := by
  by_cases hRoot : segments = [[]]
  · exact Or.inr ⟨hRoot, by rw [base, if_pos hRoot]; rfl, by rw [hRoot]; rfl⟩
  · exact Or.inl ⟨hRoot, by rw [base, if_neg hRoot]⟩

/-- The path is its front, perhaps with a slash after it. Only of two slashes none is left. -/
theorem text_eq_front (u : Url) :
    u.path.text = u.front ∨ u.path.text = u.front ++ ['/'] ∨
      (∃ guarded, u.path = .segments guarded [[], []]) ∧ u.path.text = u.front ++ ['/', '/'] := by
  unfold front
  cases u.path with
  | bare text => exact Or.inl rfl
  | segments guarded list =>
      simp only [Path.text, List.append_assoc, List.append_cancel_left_eq]
      rcases List.eq_nil_or_concat list with rfl | ⟨parents, last, rfl⟩
      · exact Or.inl rfl
      · rw [List.concat_eq_append]
        by_cases hKeep : last ≠ [] ∨ parents = []
        · rw [withoutEndSlash_concat hKeep]
          rcases slashed_base (parents ++ [last]) with ⟨_, hFront⟩ | ⟨_, hFront, hText⟩
          · exact Or.inl hFront.symm
          · exact Or.inr (Or.inl (by rw [hFront, hText]; rfl))
        · obtain ⟨hEmpty, hSome⟩ := not_or.1 hKeep
          obtain rfl := Decidable.not_not.1 hEmpty
          rw [withoutEndSlash_concat_nil hSome, slashed_append]
          rcases slashed_base parents with ⟨_, hFront⟩ | ⟨rfl, hFront, _⟩
          · exact Or.inr (Or.inl (by rw [hFront]; rfl))
          · exact Or.inr (Or.inr ⟨⟨guarded, rfl⟩, by rw [hFront]; rfl⟩)

/-- The path of an address to which two names and some pieces of text are appended. -/
theorem text_extend (hPath : u.isBare = false) (hFile : isFile u.scheme = false) {a b : String}
    (ha : isKept a.toList = true) (hb : isKept b.toList = true) (hSome : a ≠ "")
    (pieces : List (List Char)) :
    (u.extend (a :: b :: pieces.map String.ofList)).path.text =
      u.front ++ slashed ((appendPieces (isSpecial u.scheme) [a.toList, b.toList] pieces).map
        (written (isSpecial u.scheme))) := by
  cases hSegments : u.path with
  | bare text => simp [isBare, hSegments] at hPath
  | segments guarded old =>
      have hName : written (isSpecial u.scheme) a.toList ≠ [] := by
        intro hEmpty
        have hBytes := congrArg Percent.decode hEmpty
        rw [decode_written] at hBytes
        exact hSome (String.toList_inj.1 (Utf8.encode_injective hBytes))
      have hFirst : base (base (withoutEndSlash old) ++ [written (isSpecial u.scheme) a.toList]) =
          base (withoutEndSlash old) ++ [written (isSpecial u.scheme) a.toList] := by
        rw [base, if_neg]
        intro hRoot
        rcases List.append_eq_singleton_iff.1 hRoot with ⟨_, hLast⟩ | ⟨_, hLast⟩
        · exact hName (List.singleton_inj.1 hLast)
        · exact List.cons_ne_nil _ _ hLast
      have hTwo : 2 ≤ [a.toList, b.toList].length := Nat.le_refl 2
      have hAll := foldl_appendSegment hFile (base (withoutEndSlash old)) hTwo pieces
      rw [List.map_cons, List.map_singleton] at hAll
      simp only [extend, hSegments, front, List.foldl_cons, appendSegment_kept hFile _ ha,
        appendSegment_kept hFile _ hb, hFirst, List.append_assoc, List.singleton_append]
      rw [hAll, Path.text, Path.text, slashed_append, List.append_assoc]

/-- Written segments are read as the pieces they were made of. -/
theorem decode_slashed (special : Bool) (pieces : List (List Char)) :
    Percent.decode (slashed (pieces.map (written special))) = Utf8.encode (slashed pieces) := by
  suffices h : ∀ acc, Percent.decodeFrom acc (slashed (pieces.map (written special))) =
      acc.reverse ++ Utf8.encode (slashed pieces) from h []
  induction pieces with
  | nil =>
      intro acc
      exact (List.append_nil _).symm
  | cons piece rest ih =>
      intro acc
      have hText : slashed (piece :: rest) = '/' :: (piece ++ slashed rest) := rfl
      have hWritten : slashed ((piece :: rest).map (written special)) =
          '/' :: (written special piece ++ slashed (rest.map (written special))) := rfl
      rw [hWritten, hText, Percent.decodeFrom_cons (by decide), written,
        Percent.decodeFrom_encode reserved_mark, ih]
      simp [Utf8.encode]

end LongPoll.Url
