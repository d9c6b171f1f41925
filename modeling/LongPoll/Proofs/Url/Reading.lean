import LongPoll.Proofs.Text.Blank
import LongPoll.Proofs.Url.Trunk
import LongPoll.Url.Parser

/-!
What reading says of an address.

The scheme of an address that was read is a name in small letters, which stands in front of the text
in whatever case; and each such name is the scheme of some address with a path of segments. The path
of a file that was read does not begin with empty segments.
-/

namespace LongPoll.Url

open LongPoll.Text

/-- A letter, and letters, digits and three signs after it; no letter is a capital. -/
def isScheme (name : List Char) : Bool :=
  name.head?.any Char.isAlpha && name.all fun c => isSchemeChar c && !c.isUpper

variable {mark : Char} {before after text name : List Char} {u : Url}

/-! ### Schemes -/

theorem toNat_lt_of_isSchemeChar {c : Char} (h : isSchemeChar c = true) : c.toNat < 128 := by
  have hBelow (last : Char) (hLast : last.toNat < 128) (hUpTo : c.val ≤ last.val) :
      c.toNat < 128 := Nat.lt_of_le_of_lt hUpTo hLast
  simp only [isSchemeChar, Char.isAlphanum, Bool.or_eq_true, beq_iff_eq] at h
  obtain (((hLetter | hDigit) | rfl) | rfl) | rfl := h
  · obtain hUpper | hLower := Bool.or_eq_true_iff.1 hLetter
    · exact hBelow 'Z' (by decide) (of_decide_eq_true hUpper).2
    · exact hBelow 'z' (by decide) (of_decide_eq_true (Bool.and_eq_true_iff.1 hLower).2)
  · exact Nat.lt_of_le_of_lt (Char.isDigit_iff_toNat.1 hDigit).2 (by decide)
  all_goals decide

/-- The characters of schemes are ASCII, so what holds of all of them can be checked. -/
theorem forall_isSchemeChar {p : Char → Prop}
    (hCheck : ∀ n : Fin 128, isSchemeChar (.ofNat n) = true → p (.ofNat n)) (c : Char)
    (h : isSchemeChar c = true) : p c := by
  have hThis := hCheck ⟨c.toNat, toNat_lt_of_isSchemeChar h⟩
  rw [Char.ofNat_toNat] at hThis
  exact hThis h

theorem isSchemeChar_toLower :
    ∀ c : Char, isSchemeChar c = true → isSchemeChar c.toLower = true :=
  forall_isSchemeChar (by decide +kernel)

theorem isUpper_toLower : ∀ c : Char, isSchemeChar c = true → c.toLower.isUpper = false :=
  forall_isSchemeChar (by decide +kernel)

theorem isAlpha_toLower : ∀ c : Char, isSchemeChar c = true → c.toLower.isAlpha = c.isAlpha :=
  forall_isSchemeChar (by decide +kernel)

theorem toLower_eq_self :
    ∀ c : Char, isSchemeChar c = true → c.isUpper = false → c.toLower = c :=
  forall_isSchemeChar (by decide +kernel)

theorem isVisible_of_isSchemeChar : ∀ c : Char, isSchemeChar c = true → 0x20 < c.toNat :=
  forall_isSchemeChar (by decide +kernel)

theorem isScheme_map_toLower (hFirst : name.head?.any Char.isAlpha = true)
    (hAll : name.all isSchemeChar = true) : isScheme (name.map Char.toLower) = true := by
  have hChars := List.all_eq_true.1 hAll
  have hHead : (name.map Char.toLower).head?.any Char.isAlpha = true := by
    cases name with
    | nil => cases hFirst
    | cons c rest => exact (isAlpha_toLower c (hChars c (List.mem_cons_self ..))).trans hFirst
  rw [isScheme, hHead, Bool.true_and, List.all_map, List.all_eq_true]
  intro c hc
  simp [isUpper_toLower c (hChars c hc), isSchemeChar_toLower c (hChars c hc)]

theorem isScheme_of_splitScheme? (h : splitScheme? text = some (name, after)) :
    isScheme name = true := by
  unfold splitScheme? at h
  split at h
  · split at h
    · next hValid =>
        obtain ⟨hFirst, hAll⟩ := Bool.and_eq_true_iff.1 hValid
        cases h
        exact isScheme_map_toLower hFirst hAll
    · cases h
  · cases h

theorem isSchemeChar_of_isScheme (h : isScheme name = true) :
    ∀ c ∈ name, isSchemeChar c = true ∧ c.isUpper = false := by
  simpa using (Bool.and_eq_true_iff.1 h).2

theorem not_mem_of_isScheme (h : isScheme name = true) (hMark : isSchemeChar mark = false) :
    mark ∉ name := by
  intro hMem
  have hChar := (isSchemeChar_of_isScheme h mark hMem).1
  rw [hMark] at hChar
  cases hChar

/-! ### Splitting -/

/-- What is split can be put together again. -/
theorem eq_splitAtFirst (mark : Char) (text : List Char) :
    text = (splitAtFirst mark text).1 ++ (splitAtFirst mark text).2.elim [] (mark :: ·) := by
  unfold splitAtFirst
  split
  · simp
  · next c after hDrop =>
      have hHead : (text.dropWhile (· != mark)).head? = some c := by rw [hDrop]; rfl
      obtain rfl : c = mark := by simpa using head?_dropWhile_false text c hHead
      have hText := List.takeWhile_append_dropWhile (p := (· != c)) (l := text)
      rw [hDrop] at hText
      exact hText.symm

theorem prefix_splitAtFirst (mark : Char) (text : List Char) :
    (splitAtFirst mark text).1 <+: text :=
  ⟨_, (eq_splitAtFirst mark text).symm⟩

theorem prefix_of_splitScheme? (h : splitScheme? text = some (name, after)) :
    name ++ [':'] <+: text.map Char.toLower := by
  unfold splitScheme? at h
  split at h
  · next hSplit =>
      split at h
      · cases h
        have hText := eq_splitAtFirst ':' text
        rw [hSplit] at hText
        exact ⟨after.map Char.toLower, by rw [hText]; simp⟩
      · cases h
  · cases h

theorem splitAtFirst_of_not_mem (h : mark ∉ text) : splitAtFirst mark text = (text, none) := by
  have hAll : ∀ c ∈ text, (c != mark) = true := fun c hc => bne_iff_ne.2 (ne_of_mem_of_not_mem hc h)
  rw [splitAtFirst, List.dropWhile_eq_nil_iff.2 hAll]

theorem splitAtFirst_append (h : mark ∉ before) (after : List Char) :
    splitAtFirst mark (before ++ mark :: after) = (before, some after) := by
  have hAll : ∀ c ∈ before, (c != mark) = true :=
    fun c hc => bne_iff_ne.2 (ne_of_mem_of_not_mem hc h)
  simp [splitAtFirst, List.dropWhile_append_of_pos hAll, List.takeWhile_append_of_pos hAll]

theorem splitScheme?_append (h : isScheme name = true) (after : List Char) :
    splitScheme? (name ++ ':' :: after) = some (name, after) := by
  have hChars := isSchemeChar_of_isScheme h
  have hColon : ':' ∉ name := not_mem_of_isScheme h (by decide)
  have hSmall : name.map Char.toLower = name := by
    have hEach : ∀ c ∈ name, c.toLower = id c := fun c hc =>
      toLower_eq_self c (hChars c hc).1 (hChars c hc).2
    rw [List.map_congr_left hEach, List.map_id]
  have hValid : (name.head?.any Char.isAlpha && name.all isSchemeChar) = true := by
    rw [(Bool.and_eq_true_iff.1 h).1, Bool.true_and, List.all_eq_true]
    exact fun c hc => (hChars c hc).1
  rw [splitScheme?, splitAtFirst_append hColon]
  simp only [hValid, hSmall, if_true]

/-! ### An address for each scheme -/

/-- A host by itself is an authority. -/
theorem readAuthority_of_host {scheme : List Char} {host : Host} {follows : Bool}
    (hUser : splitUserinfo text = (none, text)) (hSplit : splitHost false text = (text, []))
    (hSome : text ≠ [])
    (hHost : (if isSpecial scheme then readHost text else readOtherHost text) = .ok host) :
    readAuthority scheme text follows = .ok (⟨[], host, none⟩, []) := by
  cases hSpecial : isSpecial scheme with
  | true =>
      have hRead : readHost text = .ok host := by simpa [hSpecial] using hHost
      simp [readAuthority, hUser, hSplit, hSome, hSpecial, hRead, bind, Except.bind, pure,
        Except.pure]
  | false =>
      have hRead : readOtherHost text = .ok host := by simpa [hSpecial] using hHost
      simp [readAuthority, hUser, hSplit, hSpecial, hRead, bind, Except.bind, pure, Except.pure]

theorem readPath_slash (scheme : List Char) : readPath scheme ['/'] = .segments false [[]] := by
  have hSlash : isSlash (isSpecial scheme) '/' = true := rfl
  have hDescribed : describedSegments scheme [] = [[]] := rfl
  simp only [readPath, hSlash, if_true, readSegments, hDescribed]
  split <;> rfl

theorem readFull_agent (scheme : List Char) :
    readFull scheme "agent/".toList false =
      .ok (⟨[], .domain "agent".toList, none⟩, .segments false [[]]) := by
  have hHost :
      (if isSpecial scheme then readHost "agent".toList else readOtherHost "agent".toList) =
        .ok (.domain "agent".toList) := by
    cases isSpecial scheme <;> decide +kernel
  have hAuthority : readAuthority scheme "agent".toList true =
      .ok (⟨[], .domain "agent".toList, none⟩, []) :=
    readAuthority_of_host (by decide) (by decide) (by decide) hHost
  have hTake : "agent/".toList.takeWhile (fun c => !isSlash (isSpecial scheme) c) =
      "agent".toList := by
    cases isSpecial scheme <;> decide
  have hDrop : "agent/".toList.dropWhile (fun c => !isSlash (isSpecial scheme) c) = ['/'] := by
    cases isSpecial scheme <;> decide
  have hMore : (false || !(['/'] : List Char).isEmpty) = true := rfl
  simp only [readFull, hTake, hDrop, hMore, hAuthority, bind, Except.bind, List.nil_append,
    readPath_slash]
  rfl

/-- The body of an address of an agent is read, whatever the scheme. -/
theorem readBody_agent (scheme : List Char) :
    ∃ authority list,
      readBody scheme "//agent/".toList false = .ok (some authority, .segments false list) := by
  refine ⟨⟨[], .domain "agent".toList, none⟩, [[]], ?_⟩
  by_cases hFile : isFile scheme = true
  · obtain rfl : scheme = "file".toList := by simpa [isFile] using hFile
    decide +kernel
  · have hSlashes : "//agent/".toList.dropWhile (isSlash true) = "agent/".toList := by decide
    rw [readBody, if_neg hFile]
    split
    · rw [hSlashes, readFull_agent]
      rfl
    · show (readFull scheme "agent/".toList false).map _ = _
      rw [readFull_agent]
      rfl

/-- Nothing is dropped from a text without white space and control characters. -/
theorem cleaned_of_visible (h : ∀ c ∈ text, 0x20 < c.toNat) : cleaned text = text := by
  have hTrimmed : IsTrimmed (fun c : Char => decide (c.toNat ≤ 0x20)) text :=
    isTrimmed_of_forall fun c hc => decide_eq_false (Nat.not_le.2 (h c hc))
  have hTrim := trimBy_surrounded hTrimmed (List.forall_mem_nil _) (List.forall_mem_nil _)
  rw [List.nil_append, List.append_nil] at hTrim
  rw [cleaned, hTrim, List.filter_eq_self]
  intro c hc
  rw [Bool.not_eq_true', ← Bool.not_eq_true]
  intro hStray
  have hVisible := h c hc
  simp only [isStray, Bool.or_eq_true, beq_iff_eq] at hStray
  rcases hStray with (rfl | rfl) | rfl <;> exact absurd hVisible (by decide)

/-- Each name of a scheme is the scheme of an address with a path of segments. -/
theorem exists_parse_of_isScheme (h : isScheme name = true) :
    ∃ u, parse (String.ofList (name ++ "://agent/".toList)) = .ok u ∧ u.scheme = name ∧
      u.isBare = false := by
  obtain ⟨authority, list, hBody⟩ := readBody_agent name
  have hVisible : ∀ c ∈ name ++ "://agent/".toList, 0x20 < c.toNat := by
    intro c hc
    rcases List.mem_append.1 hc with hMem | hMem
    · exact isVisible_of_isSchemeChar c (isSchemeChar_of_isScheme h c hMem).1
    · have hRest : ∀ c ∈ "://agent/".toList, 0x20 < c.toNat := by simp
      exact hRest c hMem
  have hNone (mark : Char) (hMark : isSchemeChar mark = false ∧ mark ∉ "://agent/".toList) :
      mark ∉ name ++ "://agent/".toList :=
    fun hc => (List.mem_append.1 hc).elim (not_mem_of_isScheme h hMark.1) hMark.2
  have hFragment := splitAtFirst_of_not_mem (hNone '#' (by decide))
  have hQuery := splitAtFirst_of_not_mem (hNone '?' (by decide))
  have hScheme : splitScheme? (name ++ "://agent/".toList) = some (name, "//agent/".toList) :=
    splitScheme?_append h "//agent/".toList
  refine ⟨⟨name, some authority, .segments false list, none, none⟩, ?_, rfl, rfl⟩
  simp only [parse, String.toList_ofList, cleaned_of_visible hVisible, hFragment, hQuery, hScheme,
    Option.isSome_none, Bool.or_self, hBody]
  rfl

/-! ### What was read -/

/-- The scheme stands before a colon in front, in whatever case, and what follows was read. -/
theorem exists_readBody_of_parse {s : String} (h : parse s = .ok u) :
    isScheme u.scheme = true ∧ u.scheme ++ [':'] <+: (cleaned s.toList).map Char.toLower ∧
      ∃ body more, readBody u.scheme body more = .ok (u.authority, u.path) := by
  unfold parse at h
  dsimp only at h
  split at h
  · cases h
  · next scheme body hSplit =>
      have hFront := (prefix_splitAtFirst '?' _).trans (prefix_splitAtFirst '#' (cleaned s.toList))
      have hPrefix := (prefix_of_splitScheme? hSplit).trans (hFront.map Char.toLower)
      simp only [bind, Except.bind, pure, Except.pure] at h
      split at h
      · cases h
      · next read hBody =>
          cases h
          exact ⟨isScheme_of_splitScheme? hSplit, hPrefix, _, _, hBody⟩

/-- An address has the scheme that stands in front of it. -/
theorem scheme_eq_iff_of_parse {s : String} (h : parse s = .ok u) (hName : isScheme name = true) :
    u.scheme = name ↔ name ++ [':'] <+: (cleaned s.toList).map Char.toLower := by
  obtain ⟨hScheme, hPrefix, _⟩ := exists_readBody_of_parse h
  constructor
  · rintro rfl
    exact hPrefix
  · intro hOther
    obtain ⟨rest, hRest⟩ := hPrefix
    obtain ⟨rest', hRest'⟩ := hOther
    have hSame := hRest.trans hRest'.symm
    rw [List.append_assoc, List.append_assoc, List.singleton_append, List.singleton_append] at hSame
    have hFirst := congrArg (splitAtFirst ':') hSame
    rw [splitAtFirst_append (not_mem_of_isScheme hScheme (by decide)),
      splitAtFirst_append (not_mem_of_isScheme hName (by decide))] at hFirst
    exact congrArg Prod.fst hFirst

theorem withoutEmptyFront_full (segments : List (List Char)) :
    withoutEmptyFront segments = [[]] ∨ (withoutEmptyFront segments).head? ≠ some [] := by
  unfold withoutEmptyFront
  split
  · exact .inl rfl
  · next hSome =>
      refine .inr fun hEmpty => ?_
      have hHead := head?_dropWhile_false segments [] hEmpty
      cases hHead

/-- The segments of a path of files, as they were read. -/
inductive IsFilePath (scheme : List Char) : Path → Prop where
  | root : IsFilePath scheme (.segments false [[]])
  | read (text : List Char) : IsFilePath scheme (.segments false (readSegments scheme text))

theorem isFilePath_readPath (hFile : isFile name = true) (text : List Char) :
    IsFilePath name (readPath name text) := by
  have hSpecial : isSpecial name = true := by rw [isSpecial, hFile, Bool.true_or]
  unfold readPath
  split
  · rw [hSpecial]
    exact .root
  · split
    · exact .read _
    · exact .read _

theorem isFilePath_readFile (hFile : isFile name = true) {read : Authority × Path}
    (h : readFile name text = .ok read) : IsFilePath name read.2 := by
  unfold readFile at h
  dsimp only at h
  split at h
  · split at h
    · split at h
      · cases h
        exact .read _
      · simp only [bind, Except.bind, pure, Except.pure] at h
        split at h
        · cases h
        · cases h
          exact isFilePath_readPath hFile _
    · obtain rfl := Except.ok.inj h
      exact isFilePath_readPath hFile (_ :: _ :: _)
  · obtain rfl := Except.ok.inj h
    exact isFilePath_readPath hFile text

theorem isFull_of_parse {s : String} (h : parse s = .ok u) : u.IsFull := by
  intro hFile guarded list hPath
  obtain ⟨_, _, body, more, hBody⟩ := exists_readBody_of_parse h
  rw [readBody, if_pos hFile] at hBody
  cases hRead : readFile u.scheme body with
  | error fault =>
      rw [hRead] at hBody
      cases hBody
  | ok read =>
      have hFilePath := isFilePath_readFile hFile hRead
      rw [hRead] at hBody
      have hSame : read.2 = u.path := congrArg Prod.snd (Except.ok.inj hBody)
      rw [hSame, hPath] at hFilePath
      cases hFilePath with
      | root => exact .inl rfl
      | read text =>
          rw [readSegments, if_pos hFile]
          exact withoutEmptyFront_full _

end LongPoll.Url
