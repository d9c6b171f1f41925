import Mathlib.Data.List.Chain
import LongPoll.Json.Parser
import LongPoll.Proofs.Json.Tokens

/-!
Every text of a tree is parsed to the tree.

A tree has one list of tokens, so its texts are the spellings of that list. The parser needs to know
of what it has read nothing but the containers that are open: reading the tokens of a value has the
same effect on them as being handed the value.
-/

namespace LongPoll.Json

/-- The tokens of a tree. -/
def tokens : Json → List Token
  | null => [.null]
  | bool value => [.bool value]
  | number literal => [.number literal]
  | string raw => [.string raw]
  | array items => .openArray :: List.intercalate [.comma] (items.map tokens) ++ [.closeArray]
  | object members =>
    .openObject :: List.intercalate [.comma]
      (members.map fun m => .string m.1 :: .colon :: m.2.tokens) ++ [.closeObject]
  termination_by j => sizeOf j
  decreasing_by
  · have hSize := List.sizeOf_lt_of_mem ‹_›
    simp only [array.sizeOf_spec]
    omega
  · have hSize := List.sizeOf_lt_of_mem ‹_›
    have hValue : sizeOf m.2 < sizeOf m := by
      cases m
      simp only [Prod.mk.sizeOf_spec]
      omega
    simp only [object.sizeOf_spec]
    omega

/-- The tokens of a member. -/
def memberTokens (m : RawString × Json) : List Token := .string m.1 :: .colon :: m.2.tokens

theorem tokens_array (items : List Json) :
    (array items).tokens =
      .openArray :: (List.intercalate [.comma] (items.map tokens) ++ [.closeArray]) := by
  rw [tokens]
  rfl

theorem tokens_object (members : List (RawString × Json)) :
    (object members).tokens =
      .openObject :: (List.intercalate [.comma] (members.map memberTokens) ++ [.closeObject]) := by
  rw [tokens]
  rfl

/-- The bytes are a text of this tree. -/
def IsText (bytes : List UInt8) (j : Json) : Prop := Spelling j.tokens bytes

/-! ### Parsing -/

namespace Parser

/-- A list of parts with commas between them is read part by part. `ready` and `done` say where the
parser stands before and after a part, given the parts it has read, latest first. -/
theorem foldlM_intercalate {α : Type} {write : α → List Token} {ready done : List α → Parser}
    {as : List α} (hPart : ∀ a ∈ as, ∀ earlier,
      (write a).foldlM step? (ready earlier) = some (done (a :: earlier)))
    (hComma : ∀ a earlier, step? (done (a :: earlier)) .comma = some (ready (a :: earlier)))
    (hSome : as ≠ []) (earlier : List α) :
    (List.intercalate [.comma] (as.map write)).foldlM step? (ready earlier) =
      some (done (as.reverse ++ earlier)) := by
  induction as generalizing earlier with
  | nil => exact (hSome rfl).elim
  | cons a rest ih =>
      have hFirst := hPart a (List.mem_cons_self ..) earlier
      cases rest with
      | nil =>
          rw [List.map_singleton, List.intercalate_singleton, hFirst]
          rfl
      | cons b rest =>
          have hRest := ih (fun a hMem => hPart a (List.mem_cons_of_mem _ hMem))
            (List.cons_ne_nil b rest) (a :: earlier)
          rw [List.map_cons, List.map_cons, List.intercalate_cons_cons, List.foldlM_append,
            List.foldlM_append, hFirst]
          simp only [Option.bind_eq_bind, Option.bind_some, List.foldlM_cons, List.foldlM_nil,
            hComma]
          rw [List.map_cons] at hRest
          simp [hRest]

/-- A value does not begin with a closing token. -/
theorem foldlM_valueOrClose (j : Json) (stack : List Frame) :
    j.tokens.foldlM step? ⟨stack, .valueOrClose⟩ = j.tokens.foldlM step? ⟨stack, .value⟩ := by
  have hHead : ∃ t rest, j.tokens = t :: rest ∧ t ≠ .closeArray ∧ t ≠ .closeObject := by
    cases j with
    | null => exact ⟨.null, [], by rw [tokens], nofun, nofun⟩
    | bool value => exact ⟨.bool value, [], by rw [tokens], nofun, nofun⟩
    | number literal => exact ⟨.number literal, [], by rw [tokens], nofun, nofun⟩
    | string raw => exact ⟨.string raw, [], by rw [tokens], nofun, nofun⟩
    | array items => exact ⟨_, _, tokens_array items, nofun, nofun⟩
    | object members => exact ⟨_, _, tokens_object members, nofun, nofun⟩
  obtain ⟨t, rest, hTokens, hArray, hObject⟩ := hHead
  have hClose : close? stack t = none := by
    unfold close?
    split
    · exact (hArray rfl).elim
    · exact (hObject rfl).elim
    · rfl
  rw [hTokens, List.foldlM_cons, List.foldlM_cons]
  simp [step?, hClose]

/-- Parts with commas between them are read between brackets of their kind. What is finished at the
closing bracket depends on the parts only. -/
theorem foldlM_enclosed {α : Type} {write : α → List Token} {ready done : List α → Parser}
    {finish : List α → Option Parser} {first last : Token} {stack : List Frame} {as : List α}
    (hOpen : step? ⟨stack, .value⟩ first = some (ready []))
    (hPart : ∀ a ∈ as, ∀ earlier,
      (write a).foldlM step? (ready earlier) = some (done (a :: earlier)))
    (hComma : ∀ a earlier, step? (done (a :: earlier)) .comma = some (ready (a :: earlier)))
    (hEmpty : step? (ready []) last = finish [])
    (hClose : ∀ earlier, step? (done earlier) last = finish earlier) :
    (first :: (List.intercalate [.comma] (as.map write) ++ [last])).foldlM step? ⟨stack, .value⟩ =
      finish as.reverse := by
  rw [List.foldlM_cons, hOpen, Option.bind_eq_bind, Option.bind_some, List.foldlM_append]
  by_cases hSome : as = []
  · subst hSome
    simp [hEmpty]
  · rw [foldlM_intercalate hPart hComma hSome]
    simp [hClose]

theorem foldlM_array {items : List Json} (stack : List Frame) (hItems : ∀ j ∈ items,
      ∀ stack, j.tokens.foldlM step? ⟨stack, .value⟩ = complete? stack j) :
    (array items).tokens.foldlM step? ⟨stack, .value⟩ = complete? stack (array items) := by
  let ready (earlier : List Json) : Parser :=
    ⟨.array earlier :: stack, if earlier.isEmpty then .valueOrClose else .value⟩
  let done (earlier : List Json) : Parser := ⟨.array earlier :: stack, .commaOrClose⟩
  let finish (earlier : List Json) : Option Parser := complete? stack (array earlier.reverse)
  have hPart : ∀ j ∈ items, ∀ earlier,
      j.tokens.foldlM step? (ready earlier) = some (done (j :: earlier)) := by
    intro j hMem earlier
    have hItem := hItems j hMem (.array earlier :: stack)
    cases earlier with
    | nil => exact (foldlM_valueOrClose j _).trans hItem
    | cons k earlier => exact hItem
  have hEmpty : step? (ready []) .closeArray = finish [] := by
    cases hComplete : complete? stack (array []) <;>
      simp [ready, finish, step?, close?, beginValue?, hComplete]
  have hOpen : step? ⟨stack, .value⟩ .openArray = some (ready []) := rfl
  have hClose (earlier : List Json) : step? (done earlier) .closeArray = finish earlier := rfl
  rw [tokens_array, foldlM_enclosed hOpen hPart (fun _ _ => rfl) hEmpty hClose]
  simp [finish]

theorem foldlM_object {members : List (RawString × Json)} (stack : List Frame)
    (hMembers :
      ∀ m ∈ members, ∀ stack, m.2.tokens.foldlM step? ⟨stack, .value⟩ = complete? stack m.2) :
    (object members).tokens.foldlM step? ⟨stack, .value⟩ = complete? stack (object members) := by
  let ready (earlier : List (RawString × Json)) : Parser :=
    ⟨.object earlier :: stack, if earlier.isEmpty then .keyOrClose else .key⟩
  let done (earlier : List (RawString × Json)) : Parser := ⟨.object earlier :: stack, .commaOrClose⟩
  let finish (earlier : List (RawString × Json)) : Option Parser :=
    complete? stack (object earlier.reverse)
  have hPart : ∀ m ∈ members, ∀ earlier,
      (memberTokens m).foldlM step? (ready earlier) = some (done (m :: earlier)) := by
    intro m hMem earlier
    have hName : step? (ready earlier) (.string m.1) =
        some ⟨.member earlier m.1 :: stack, .colon⟩ := by
      cases earlier <;> rfl
    have hColon : step? ⟨.member earlier m.1 :: stack, .colon⟩ .colon =
        some ⟨.member earlier m.1 :: stack, .value⟩ := rfl
    simp only [memberTokens, List.foldlM_cons, hName, hColon, Option.bind_eq_bind, Option.bind_some]
    exact hMembers m hMem _
  have hEmpty : step? (ready []) .closeObject = finish [] := by
    cases hComplete : complete? stack (object []) <;>
      simp [ready, finish, step?, close?, beginMember?, hComplete]
  have hOpen : step? ⟨stack, .value⟩ .openObject = some (ready []) := rfl
  have hClose (earlier : List (RawString × Json)) :
      step? (done earlier) .closeObject = finish earlier := rfl
  rw [tokens_object, foldlM_enclosed hOpen hPart (fun _ _ => rfl) hEmpty hClose]
  simp [finish]

/-- To read the tokens of a value is to be handed the value. -/
theorem foldlM_tokens (j : Json) (stack : List Frame) :
    j.tokens.foldlM step? ⟨stack, .value⟩ = complete? stack j := by
  induction j using tokens.induct generalizing stack with
  | case5 items ih => exact foldlM_array stack ih
  | case6 members ih => exact foldlM_object stack ih
  | _ => simp [tokens, step?, beginValue?]

end Parser

theorem ofTokens?_tokens (j : Json) : ofTokens? j.tokens = some j := by
  simp [ofTokens?, Parser.initial, Parser.foldlM_tokens, Parser.complete?, Parser.finish?]

/-- Every text of a tree is parsed to the tree. -/
theorem parse?_of_isText {bytes : List UInt8} {j : Json} (h : IsText bytes j) :
    parse? bytes = some j := by
  simp [parse?, lex?_of_spelling h, ofTokens?_tokens]

/-! ### Writing -/

/-- Every token of the tree can be written. -/
def IsLegal (j : Json) : Prop := ∀ t ∈ j.tokens, t.IsLegal

/-- The text of a tree without any white space. -/
def render (j : Json) : List UInt8 := j.tokens.flatMap Token.bytes

/-- The second token may follow the first at once. -/
def Token.Abuts (s t : Token) : Prop :=
  ∀ literal, s = .number literal → t = .comma ∨ t = .closeArray ∨ t = .closeObject

theorem mem_intercalate {t : Token} {parts : List (List Token)}
    (h : t ∈ List.intercalate [.comma] parts) : t = .comma ∨ ∃ part ∈ parts, t ∈ part := by
  induction parts with
  | nil => simp at h
  | cons part rest ih =>
      cases rest with
      | nil =>
          rw [List.intercalate_singleton] at h
          exact Or.inr ⟨part, List.mem_cons_self .., h⟩
      | cons next rest =>
          rw [List.intercalate_cons_cons] at h
          simp only [List.mem_append, List.mem_singleton] at h
          rcases h with (hPart | hComma) | hRest
          · exact Or.inr ⟨part, List.mem_cons_self .., hPart⟩
          · exact Or.inl hComma
          · obtain hComma | ⟨other, hMem, hIn⟩ := ih hRest
            · exact Or.inl hComma
            · exact Or.inr ⟨other, List.mem_cons_of_mem _ hMem, hIn⟩

theorem isChain_intercalate {parts : List (List Token)}
    (hParts : ∀ part ∈ parts, part.IsChain Token.Abuts) :
    (List.intercalate [.comma] parts).IsChain Token.Abuts := by
  induction parts with
  | nil => exact .nil
  | cons part rest ih =>
      have hPart := hParts part (List.mem_cons_self ..)
      cases rest with
      | nil =>
          rw [List.intercalate_singleton]
          exact hPart
      | cons next rest =>
          have hRest := ih fun part hMem => hParts part (List.mem_cons_of_mem _ hMem)
          rw [List.intercalate_cons_cons, List.append_assoc, List.singleton_append]
          refine List.isChain_append.2 ⟨hPart, ?_, ?_⟩
          · exact List.isChain_cons.2 ⟨fun _ _ => nofun, hRest⟩
          · rintro s - t hHead literal -
            exact Or.inl (Option.mem_some_iff.1 hHead).symm

theorem isChain_enclosed {first last : Token} {parts : List (List Token)}
    (hFirst : ∀ literal, first ≠ .number literal) (hLast : last = .closeArray ∨ last = .closeObject)
    (hParts : ∀ part ∈ parts, part.IsChain Token.Abuts) :
    (first :: (List.intercalate [.comma] parts ++ [last])).IsChain Token.Abuts := by
  refine List.isChain_cons.2 ⟨fun _ _ literal h => (hFirst literal h).elim, ?_⟩
  refine List.isChain_append.2 ⟨isChain_intercalate hParts, .singleton last, ?_⟩
  rintro s - t hHead literal -
  obtain rfl : last = t := Option.mem_some_iff.1 hHead
  exact Or.inr hLast

/-- Without white space no number runs into the next token. -/
theorem isChain_tokens (j : Json) : j.tokens.IsChain Token.Abuts := by
  induction j using tokens.induct with
  | case5 items ih =>
      rw [tokens_array]
      refine isChain_enclosed nofun (Or.inl rfl) fun part hMem => ?_
      obtain ⟨item, hItem, rfl⟩ := List.mem_map.1 hMem
      exact ih item hItem
  | case6 members ih =>
      rw [tokens_object]
      refine isChain_enclosed nofun (Or.inr rfl) fun part hMem => ?_
      obtain ⟨m, hMember, rfl⟩ := List.mem_map.1 hMem
      have hColon : (Token.colon :: m.2.tokens).IsChain Token.Abuts :=
        List.isChain_cons.2 ⟨fun _ _ => nofun, ih m hMember⟩
      exact List.isChain_cons.2 ⟨fun _ _ => nofun, hColon⟩
  | _ => simp [tokens]

theorem spelling_flatMap {tokens : List Token} (hLegal : ∀ t ∈ tokens, t.IsLegal)
    (hChain : tokens.IsChain Token.Abuts) : Spelling tokens (tokens.flatMap Token.bytes) := by
  induction tokens with
  | nil => exact .nil
  | cons t rest ih =>
      obtain ⟨hNext, hRest⟩ := List.isChain_cons.1 hChain
      rw [List.flatMap_cons]
      refine .token (hLegal t (List.mem_cons_self ..)) ?_
        (ih (fun s hMem => hLegal s (List.mem_cons_of_mem _ hMem)) hRest)
      intro literal hNumber
      cases rest with
      | nil => exact nofun
      | cons s rest =>
          intro b hHead
          rcases hNext s rfl literal hNumber with rfl | rfl | rfl <;> cases hHead <;> decide

theorem isText_render {j : Json} (h : j.IsLegal) : IsText j.render j :=
  spelling_flatMap h (isChain_tokens j)

theorem isLegal_null : null.IsLegal := by simp [IsLegal, tokens, Token.IsLegal]

theorem isLegal_string {raw : RawString} (h : IsRaw raw) : (string raw).IsLegal := by
  simpa [IsLegal, tokens, Token.IsLegal] using h

theorem isLegal_number {literal : List UInt8} (h : IsNumber literal) :
    (number literal).IsLegal := by
  simpa [IsLegal, tokens, Token.IsLegal] using h

theorem isLegal_enclosed {first last : Token} {parts : List (List Token)} (hFirst : first.IsLegal)
    (hLast : last.IsLegal) (hParts : ∀ part ∈ parts, ∀ t ∈ part, t.IsLegal) :
    ∀ t ∈ first :: (List.intercalate [.comma] parts ++ [last]), t.IsLegal := by
  intro t hMem
  simp only [List.mem_cons, List.mem_append, List.not_mem_nil, or_false] at hMem
  rcases hMem with rfl | hPart | rfl
  · exact hFirst
  · obtain rfl | ⟨part, hPart, hIn⟩ := mem_intercalate hPart
    · trivial
    · exact hParts part hPart t hIn
  · exact hLast

theorem isLegal_array {items : List Json} (hItems : ∀ j ∈ items, j.IsLegal) :
    (array items).IsLegal := by
  rw [IsLegal, tokens_array]
  refine isLegal_enclosed trivial trivial fun part hMem => ?_
  obtain ⟨j, hMember, rfl⟩ := List.mem_map.1 hMem
  exact hItems j hMember

theorem isLegal_object {members : List (RawString × Json)}
    (hMembers : ∀ m ∈ members, IsRaw m.1 ∧ m.2.IsLegal) : (object members).IsLegal := by
  rw [IsLegal, tokens_object]
  refine isLegal_enclosed trivial trivial fun part hMem => ?_
  obtain ⟨m, hMember, rfl⟩ := List.mem_map.1 hMem
  obtain ⟨hName, hValue⟩ := hMembers m hMember
  have hColon : ∀ t ∈ Token.colon :: m.2.tokens, t.IsLegal :=
    List.forall_mem_cons.2 ⟨trivial, hValue⟩
  exact List.forall_mem_cons.2 ⟨hName, hColon⟩

end LongPoll.Json
