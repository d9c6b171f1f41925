import Mathlib.Data.List.Forall2
import Mathlib.Data.List.Nodup
import Mathlib.Logic.Relation
import LongPoll.Proofs.Json.Records

/-!
What a reader of records tolerates, and what it refuses.

A layout says of a tree which names each of its records knows, what is read under each of them, and
whether the field may be missing or null. It settles which trees are alike: members may be put in
another order, members with other names may be added or taken away, and null may stand for a field
that is left out. It also settles which trees are refused: a name is no text, a known name comes
twice, or a field that has to be there is missing or null.

Both are stated for one place anywhere in the tree. A reader that respects the layout reads alike
trees alike and refuses the others. The ways of putting readers together have one law each, and that
of a record asks only of each field what its own reader does.
-/

namespace LongPoll.Json

theorem mapM_eq_none_of_mem {α σ : Type} {read : σ → Option α} {xs : List σ} {x : σ}
    (hMem : x ∈ xs) (hRead : read x = none) : xs.mapM read = none := by
  obtain ⟨before, after, rfl⟩ := List.append_of_mem hMem
  simp [hRead]

/-- What may stand for a field. -/
inductive Presence where
  /-- A value. -/
  | required
  /-- A value, or nothing. -/
  | defaulted
  /-- A value, nothing, or null. -/
  | nullable

/-- The records of a tree, as far as they are read. -/
inductive Layout where
  /-- A value without records. -/
  | plain
  | list (item : Layout)
  | record (fields : List (String × Presence × Layout))

/-- A member of an object, its name as it is spelled. -/
abbrev Member := RawString × Json

namespace Layout

/-- A field with its name. -/
abbrev Field := String × Presence × Layout

/-- One change that makes no difference to a reader. A member with an unknown name is anything that
the parser reads; that it changes means that it is taken away and another one is added. -/
inductive Varies : Layout → Json → Json → Prop where
  | reordered {fields : List Field} {members members' : List Member}
      (hPerm : members.Perm members') :
      Varies (.record fields) (.object members) (.object members')
  | added {fields : List Field} {members : List Member} {raw : RawString} {name : String}
      {value : Json} (hName : textOfRaw? raw = some name) (hUnknown : name ∉ fields.map Prod.fst) :
      Varies (.record fields) (.object members) (.object ((raw, value) :: members))
  | nulled {fields : List Field} {members : List Member} {raw : RawString} {name : String}
      {layout : Layout} (hField : (name, .nullable, layout) ∈ fields)
      (hName : textOfRaw? raw = some name) (hMissing : ∀ m ∈ members, textOfRaw? m.1 ≠ some name) :
      Varies (.record fields) (.object members) (.object ((raw, .null) :: members))
  | member {fields : List Field} {before after : List Member} {raw : RawString} {name : String}
      {presence : Presence} {layout : Layout} {value value' : Json}
      (hField : (name, presence, layout) ∈ fields) (hName : textOfRaw? raw = some name)
      (hValue : Varies layout value value') :
      Varies (.record fields) (.object (before ++ (raw, value) :: after))
        (.object (before ++ (raw, value') :: after))
  | item {layout : Layout} {before after : List Json} {value value' : Json}
      (hValue : Varies layout value value') :
      Varies (.list layout) (.array (before ++ value :: after)) (.array (before ++ value' :: after))

/-- Any number of such changes, made or taken back. -/
def Alike (layout : Layout) : Json → Json → Prop := Relation.EqvGen layout.Varies

/-- Something that no record may have, anywhere in the tree. -/
inductive Refuses : Layout → Json → Prop where
  | illegible {fields : List Field} {members : List Member} {m : Member} (hMember : m ∈ members)
      (hName : textOfRaw? m.1 = none) : Refuses (.record fields) (.object members)
  | repeated {fields : List Field} {members : List Member} {name : String} {m m' : Member}
      (hKnown : name ∈ fields.map Prod.fst) (hTwice : [m, m'].Sublist members)
      (hFirst : textOfRaw? m.1 = some name) (hSecond : textOfRaw? m'.1 = some name) :
      Refuses (.record fields) (.object members)
  | missing {fields : List Field} {members : List Member} {name : String} {layout : Layout}
      (hField : (name, .required, layout) ∈ fields)
      (hMissing : ∀ m ∈ members, textOfRaw? m.1 ≠ some name) :
      Refuses (.record fields) (.object members)
  | null {fields : List Field} {members : List Member} {raw : RawString} {name : String}
      {layout : Layout} (hField : (name, .required, layout) ∈ fields)
      (hName : textOfRaw? raw = some name) (hMember : (raw, .null) ∈ members) :
      Refuses (.record fields) (.object members)
  | member {fields : List Field} {members : List Member} {raw : RawString} {name : String}
      {presence : Presence} {layout : Layout} {value : Json}
      (hField : (name, presence, layout) ∈ fields) (hName : textOfRaw? raw = some name)
      (hMember : (raw, value) ∈ members) (hValue : Refuses layout value) :
      Refuses (.record fields) (.object members)
  | item {layout : Layout} {items : List Json} {value : Json} (hItem : value ∈ items)
      (hValue : Refuses layout value) : Refuses (.list layout) (.array items)

/-- A reader for which these changes make no difference, and which reads nothing that the layout
refuses. -/
structure Governs {α : Type} (layout : Layout) (read : Json → Option α) : Prop where
  varies {j j' : Json} (h : layout.Varies j j') : read j = read j'
  refuses {j : Json} (h : layout.Refuses j) : read j = none

theorem Governs.alike {α : Type} {layout : Layout} {read : Json → Option α}
    (h : layout.Governs read) {j j' : Json} (hAlike : layout.Alike j j') : read j = read j' := by
  induction hAlike with
  | rel _ _ hVaries => exact h.varies hVaries
  | refl => rfl
  | symm _ _ _ ih => exact ih.symm
  | trans _ _ _ _ _ ihFirst ihSecond => exact ihFirst.trans ihSecond

/-- Null is not looked into. -/
theorem Varies.ne_null {layout : Layout} {j j' : Json} (h : layout.Varies j j') :
    j ≠ .null ∧ j' ≠ .null := by
  cases h <;> exact ⟨nofun, nofun⟩

theorem Refuses.ne_null {layout : Layout} {j : Json} (h : layout.Refuses j) : j ≠ .null := by
  cases h <;> exact nofun

theorem governs_plain {α : Type} (read : Json → Option α) : plain.Governs read :=
  ⟨nofun, nofun⟩

theorem Governs.list {α : Type} {layout : Layout} {read : Json → Option α}
    (h : layout.Governs read) : (Layout.list layout).Governs (list? read) where
  varies hVaries := by
    obtain _ | _ | _ | _ | ⟨hValue⟩ := hVaries
    simp [list?, h.varies hValue]
  refuses hRefuses := by
    obtain _ | _ | _ | _ | _ | ⟨hItem, hValue⟩ := hRefuses
    exact mapM_eq_none_of_mem hItem (h.refuses hValue)

/-- Where null is tolerated nothing else changes. -/
theorem Governs.nullable {α : Type} {layout : Layout} {read : Json → Option α}
    (h : layout.Governs read) (default : α) : layout.Governs (nullable? default read) := by
  have hRead {j : Json} (hValue : j ≠ .null) : nullable? default read j = read j := by
    cases j with
    | null => exact (hValue rfl).elim
    | _ => rfl
  refine ⟨fun hVaries => ?_, fun hRefuses => ?_⟩
  · rw [hRead hVaries.ne_null.1, hRead hVaries.ne_null.2, h.varies hVaries]
  · rw [hRead hRefuses.ne_null, h.refuses hRefuses]

/-! ### Fields -/

/-- One change to what is given for a field. -/
inductive VariesAt (layout : Layout) : Presence → Option Json → Option Json → Prop where
  | nulled : VariesAt layout .nullable none (some .null)
  | value {presence : Presence} {j j' : Json} (hValue : layout.Varies j j') :
      VariesAt layout presence (some j) (some j')

/-- What must not be given for a field. -/
inductive RefusesAt (layout : Layout) : Presence → Option Json → Prop where
  | missing : RefusesAt layout .required none
  | null : RefusesAt layout .required (some .null)
  | value {presence : Presence} {j : Json} (hValue : layout.Refuses j) :
      RefusesAt layout presence (some j)

/-- What a field is asked for, as far as the layout governs it. -/
structure GovernsAt (layout : Layout) (presence : Presence) (Asks : Option Json → Prop) : Prop where
  varies {slot slot' : Option Json} (h : layout.VariesAt presence slot slot') :
    Asks slot ↔ Asks slot'
  refuses {slot : Option Json} (h : layout.RefusesAt presence slot) : ¬ Asks slot

section

variable {α : Type} {layout : Layout} {read : Json → Option α}

theorem Governs.required (h : layout.Governs read) (hNull : read .null = none) (a : α) :
    layout.GovernsAt .required fun slot => required? read slot = some a where
  varies hVaries := by
    obtain _ | ⟨hValue⟩ := hVaries
    simp [required?, h.varies hValue]
  refuses hRefuses := by
    obtain _ | _ | ⟨hValue⟩ := hRefuses
    · exact nofun
    · simp [required?, hNull]
    · simp [required?, h.refuses hValue]

theorem Governs.defaulted (h : layout.Governs read) (default a : α) :
    layout.GovernsAt .defaulted fun slot => defaulted? default read slot = some a where
  varies hVaries := by
    obtain _ | ⟨hValue⟩ := hVaries
    simp [defaulted?, h.varies hValue]
  refuses hRefuses := by
    obtain _ | _ | ⟨hValue⟩ := hRefuses
    simp [defaulted?, h.refuses hValue]

theorem Governs.optional (h : layout.Governs read) (default a : α) :
    layout.GovernsAt .nullable fun slot =>
      defaulted? default (nullable? default read) slot = some a where
  varies hVaries := by
    obtain _ | ⟨hValue⟩ := hVaries
    · rfl
    · simp [defaulted?, (h.nullable default).varies hValue]
  refuses hRefuses := by
    obtain _ | _ | ⟨hValue⟩ := hRefuses
    simp [defaulted?, (h.nullable default).refuses hValue]

end

end Layout

/-! ### Members -/

/-- The values of the members with this name, however spelled. -/
def valuesAt (name : String) (members : List Member) : List Json :=
  members.filterMap fun m => if textOfRaw? m.1 = some name then some m.2 else none

/-- The name comes at most once, and what it gives is what is asked for. -/
def Finds (members : List Member) (name : String) (Asks : Option Json → Prop) : Prop :=
  ∃ slot, valuesAt name members = slot.toList ∧ Asks slot

section

variable {name : String} {members members' : List Member} {Asks : Option Json → Prop}

theorem valuesAt_eq_nil (h : ∀ m ∈ members, textOfRaw? m.1 ≠ some name) :
    valuesAt name members = [] := by
  refine List.filterMap_eq_nil_iff.2 fun m hMem => ?_
  rw [if_neg (h m hMem)]

theorem valuesAt_cons_of_ne {m : Member} (h : textOfRaw? m.1 ≠ some name) :
    valuesAt name (m :: members) = valuesAt name members := by
  simp [valuesAt, h]

theorem valuesAt_cons_of_eq {m : Member} (h : textOfRaw? m.1 = some name) :
    valuesAt name (m :: members) = m.2 :: valuesAt name members := by
  simp [valuesAt, h]

theorem valuesAt_append :
    valuesAt name (members ++ members') = valuesAt name members ++ valuesAt name members' :=
  List.filterMap_append

theorem finds_of_nil (h : valuesAt name members = []) :
    Finds members name Asks ↔ Asks none := by
  constructor
  · rintro ⟨_ | j, hValues, hAsks⟩
    · exact hAsks
    · cases h.symm.trans hValues
  · exact fun hAsks => ⟨none, h, hAsks⟩

theorem finds_of_singleton {j : Json} (h : valuesAt name members = [j]) :
    Finds members name Asks ↔ Asks (some j) := by
  constructor
  · rintro ⟨_ | _, hValues, hAsks⟩
    · cases h.symm.trans hValues
    · cases h.symm.trans hValues
      exact hAsks
  · exact fun hAsks => ⟨some j, h, hAsks⟩

/-- Of several values none is chosen. -/
theorem not_finds_of_length (h : 2 ≤ (valuesAt name members).length) :
    ¬ Finds members name Asks := by
  rintro ⟨slot, hValues, -⟩
  rw [hValues] at h
  cases slot <;> simp at h

theorem finds_of_perm (h : members.Perm members') :
    Finds members name Asks → Finds members' name Asks := by
  rintro ⟨slot, hValues, hAsks⟩
  have hPerm : (valuesAt name members).Perm (valuesAt name members') := h.filterMap _
  rw [hValues] at hPerm
  refine ⟨slot, ?_, hAsks⟩
  cases slot with
  | none => exact List.nil_perm.1 hPerm
  | some j => exact (List.singleton_perm.1 hPerm).symm

/-- What a name gives is the value of any member with the name. -/
theorem Finds.asks {raw : RawString} {j : Json} (h : Finds members name Asks)
    (hMember : (raw, j) ∈ members) (hName : textOfRaw? raw = some name) : Asks (some j) := by
  obtain ⟨slot, hValues, hAsks⟩ := h
  have hMem : j ∈ valuesAt name members :=
    List.mem_filterMap.2 ⟨(raw, j), hMember, if_pos hName⟩
  rw [hValues] at hMem
  rwa [Option.mem_toList.1 hMem] at hAsks

/-- A member is found unless another one has its name. -/
theorem finds_append_cons {before after : List Member} {raw : RawString} {j : Json}
    (hName : textOfRaw? raw = some name) :
    Finds (before ++ (raw, j) :: after) name Asks ↔
      (valuesAt name before = [] ∧ valuesAt name after = []) ∧ Asks (some j) := by
  have hValues : valuesAt name (before ++ (raw, j) :: after) =
      valuesAt name before ++ j :: valuesAt name after := by
    rw [valuesAt_append, valuesAt_cons_of_eq hName]
  constructor
  · intro hFound
    have hAsks : Asks (some j) := hFound.asks (by simp) hName
    obtain ⟨slot, hSlot, -⟩ := hFound
    have hLength := congrArg List.length (hValues.symm.trans hSlot)
    have hAtMost : slot.toList.length ≤ 1 := by cases slot <;> simp
    rw [List.length_append, List.length_cons] at hLength
    exact ⟨⟨List.length_eq_zero_iff.1 (by omega), List.length_eq_zero_iff.1 (by omega)⟩, hAsks⟩
  · rintro ⟨⟨hBefore, hAfter⟩, hAsks⟩
    exact ⟨some j, by rw [hValues, hBefore, hAfter]; rfl, hAsks⟩

end

theorem slot?_eq_some_iff {members : List (String × Json)} {name : String} {slot : Option Json} :
    slot? members name = some slot ↔ valuesOf name members = slot.toList := by
  refine ⟨fun hSlot => ?_, slot?_of_valuesOf⟩
  unfold slot? at hSlot
  split at hSlot <;> cases hSlot <;> assumption

/-- Every name is a text. -/
def Legible (members : List Member) : Prop := ∀ m ∈ members, (textOfRaw? m.1).isSome

/-- Where all names are texts the members are found under them. -/
theorem Legible.exists_named {members : List Member} (h : Legible members) :
    ∃ named, members.mapM (fun m => (textOfRaw? m.1).map (·, m.2)) = some named ∧
      ∀ name, valuesOf name named = valuesAt name members := by
  induction members with
  | nil => exact ⟨[], rfl, fun _ => rfl⟩
  | cons m rest ih =>
      obtain ⟨hText, hRest⟩ := List.forall_mem_cons.1 h
      obtain ⟨text, hName⟩ := Option.isSome_iff_exists.1 hText
      obtain ⟨named, hNamed, hValues⟩ := ih hRest
      refine ⟨(text, m.2) :: named, by simp [hName, hNamed], fun name => ?_⟩
      have hTail := hValues name
      by_cases hSame : text = name
      · rw [valuesAt_cons_of_eq (by rw [hName, hSame]), ← hTail]
        simp [valuesOf, hSame]
      · rw [valuesAt_cons_of_ne (by simp [hName, hSame]), ← hTail]
        simp [valuesOf, hSame]

/-- All names are read, so one that is no text is refused even if nobody asks for it. -/
theorem slots?_object_eq_some_iff {members : List Member} {names : List String}
    {slots : List (Option Json)} : (object members).slots? names = some slots ↔ Legible members ∧
      List.Forall₂ (fun name slot => valuesAt name members = slot.toList) names slots := by
  by_cases hLegible : Legible members
  · obtain ⟨named, hNamed, hValues⟩ := hLegible.exists_named
    have hSlots : (object members).slots? names = names.mapM (slot? named) := by
      rw [slots?, hNamed]
      rfl
    simp only [hSlots, mapM_eq_some_iff, slot?_eq_some_iff, hValues, hLegible, true_and]
  · have hNone : (object members).slots? names = none := by
      simp only [Legible, not_forall, Option.not_isSome_iff_eq_none] at hLegible
      obtain ⟨m, hMem, hName⟩ := hLegible
      rw [slots?, mapM_eq_none_of_mem hMem (by rw [hName]; rfl)]
      rfl
    simp [hNone, hLegible]

/-- There is a place for each of the names. -/
theorem length_of_slots? {j : Json} {names : List String} {slots : List (Option Json)}
    (h : j.slots? names = some slots) : slots.length = names.length := by
  cases j with
  | object members => exact (slots?_object_eq_some_iff.1 h).2.length_eq.symm
  | array items =>
      simp only [slots?] at h
      split at h
      · next hFew =>
          cases h
          simp
          omega
      · cases h
  | _ => cases h

/-- A record that is read from its places alone is read where each place has what is asked of it. -/
theorem eq_some_iff_of_slots {α : Type} {names : List String} {read : Json → Option α}
    {fromSlots : List (Option Json) → Option α} {asks : α → List (Option Json → Prop)}
    (hRead : ∀ j, read j = (j.slots? names).bind fromSlots)
    (hSlots : ∀ slots a, slots.length = names.length →
      (fromSlots slots = some a ↔ List.Forall₂ (fun Asks slot => Asks slot) (asks a) slots))
    (j : Json) (a : α) : read j = some a ↔ ∃ slots, j.slots? names = some slots ∧
      List.Forall₂ (fun Asks slot => Asks slot) (asks a) slots := by
  rw [hRead, Option.bind_eq_some_iff]
  exact exists_congr fun slots => and_congr_right fun h => hSlots slots a (length_of_slots? h)

/-- What is asked for under each name is found there. -/
theorem exists_slots_iff {members : List Member} {names : List String}
    {asks : List (Option Json → Prop)} :
    (∃ slots, (object members).slots? names = some slots ∧
        List.Forall₂ (fun Asks slot => Asks slot) asks slots) ↔
      Legible members ∧ List.Forall₂ (Finds members) names asks := by
  simp only [slots?_object_eq_some_iff]
  constructor
  · rintro ⟨slots, ⟨hLegible, hGiven⟩, hMet⟩
    refine ⟨hLegible, ?_⟩
    induction hGiven generalizing asks with
    | nil =>
        cases hMet
        exact .nil
    | cons hValues _ ih =>
        obtain _ | ⟨hAsks, hRest⟩ := hMet
        exact .cons ⟨_, hValues, hAsks⟩ (ih hRest)
  · rintro ⟨hLegible, hFound⟩
    induction hFound with
    | nil => exact ⟨[], ⟨hLegible, .nil⟩, .nil⟩
    | cons hFirst _ ih =>
        obtain ⟨slot, hValues, hAsks⟩ := hFirst
        obtain ⟨slots, ⟨-, hGiven⟩, hMet⟩ := ih
        exact ⟨slot :: slots, ⟨hLegible, .cons hValues hGiven⟩, .cons hAsks hMet⟩

/-! ### Records -/

namespace Layout

section

variable {fields : List Field} {members members' : List Member}

theorem Varies.objects {j j' : Json} (h : (record fields).Varies j j') :
    ∃ members members', j = .object members ∧ j' = .object members' := by
  cases h <;> exact ⟨_, _, rfl, rfl⟩

theorem Refuses.object {j : Json} (h : (record fields).Refuses j) :
    ∃ members, j = .object members := by
  cases h <;> exact ⟨_, rfl⟩

/-- The names of an object stay texts. -/
theorem Varies.legible (h : (record fields).Varies (.object members) (.object members')) :
    Legible members ↔ Legible members' := by
  unfold Legible
  cases h with
  | reordered hPerm => simp only [hPerm.mem_iff]
  | added hName | nulled _ hName => simp [hName]
  | member => simp only [List.forall_mem_append, List.forall_mem_cons]

theorem eq_of_mem_fields (hNodup : (fields.map Prod.fst).Nodup) {name : String}
    {presence presence' : Presence} {layout layout' : Layout}
    (hField : (name, presence, layout) ∈ fields) (hField' : (name, presence', layout') ∈ fields) :
    presence = presence' ∧ layout = layout' := by
  have hSame := List.inj_on_of_nodup_map hNodup hField hField' rfl
  exact ⟨congrArg (·.2.1) hSame, congrArg (·.2.2) hSame⟩

/-- A change concerns one field at most. -/
theorem Varies.finds (hNodup : (fields.map Prod.fst).Nodup) {name : String} {presence : Presence}
    {layout : Layout} {Asks : Option Json → Prop}
    (h : (record fields).Varies (.object members) (.object members'))
    (hField : (name, presence, layout) ∈ fields) (hAsks : layout.GovernsAt presence Asks) :
    Finds members name Asks ↔ Finds members' name Asks := by
  cases h with
  | reordered hPerm => exact ⟨finds_of_perm hPerm, finds_of_perm hPerm.symm⟩
  | @added _ _ raw other value hName hUnknown =>
      have hOther : textOfRaw? raw ≠ some name := by
        rintro hSame
        cases hName.symm.trans hSame
        exact hUnknown (List.mem_map_of_mem hField)
      rw [Finds, Finds, valuesAt_cons_of_ne hOther]
  | @nulled _ _ raw other _ hNulled hName hMissing =>
      by_cases hSame : other = name
      · subst hSame
        obtain ⟨rfl, rfl⟩ := eq_of_mem_fields hNodup hNulled hField
        have hNone := valuesAt_eq_nil hMissing
        have hNull : valuesAt other ((raw, Json.null) :: members) = [.null] := by
          rw [valuesAt_cons_of_eq hName, hNone]
        rw [finds_of_nil hNone, finds_of_singleton hNull]
        exact hAsks.varies .nulled
      · have hOther : textOfRaw? raw ≠ some name := by simp [hName, hSame]
        rw [Finds, Finds, valuesAt_cons_of_ne hOther]
  | @member _ before after raw other _ _ value value' hMember hName hValue =>
      by_cases hSame : other = name
      · subst hSame
        obtain ⟨rfl, rfl⟩ := eq_of_mem_fields hNodup hMember hField
        rw [finds_append_cons hName, finds_append_cons hName, hAsks.varies (.value hValue)]
      · have hOther : textOfRaw? raw ≠ some name := by simp [hName, hSame]
        rw [Finds, Finds, valuesAt_append, valuesAt_append, valuesAt_cons_of_ne hOther,
          valuesAt_cons_of_ne hOther]

/-- A record that is refused has a name that is no text, or a field that nothing found for it can
satisfy. -/
theorem Refuses.illegible_or_unmet (h : (record fields).Refuses (.object members)) :
    ¬ Legible members ∨ ∃ name presence layout, (name, presence, layout) ∈ fields ∧
      ∀ Asks, layout.GovernsAt presence Asks → ¬ Finds members name Asks := by
  cases h with
  | @illegible _ _ m hMember hName =>
      refine Or.inl fun hLegible => ?_
      have hText := hLegible m hMember
      rw [hName] at hText
      cases hText
  | @repeated _ _ name m m' hKnown hTwice hFirst hSecond =>
      obtain ⟨⟨given, presence, layout⟩, hField, hGiven⟩ := List.mem_map.1 hKnown
      obtain rfl : given = name := hGiven
      refine Or.inr ⟨given, presence, layout, hField, fun Asks _ => not_finds_of_length ?_⟩
      have hValues : (valuesAt given [m, m']).Sublist (valuesAt given members) := hTwice.filterMap _
      rw [valuesAt_cons_of_eq hFirst, valuesAt_cons_of_eq hSecond] at hValues
      have hLength := hValues.length_le
      rw [List.length_cons, List.length_cons] at hLength
      omega
  | missing hField hMissing =>
      refine Or.inr ⟨_, _, _, hField, fun Asks hAsks hFound => ?_⟩
      exact hAsks.refuses .missing ((finds_of_nil (valuesAt_eq_nil hMissing)).1 hFound)
  | null hField hName hMember =>
      exact Or.inr ⟨_, _, _, hField, fun Asks hAsks hFound =>
        hAsks.refuses .null (hFound.asks hMember hName)⟩
  | member hField hName hMember hValue =>
      exact Or.inr ⟨_, _, _, hField, fun Asks hAsks hFound =>
        hAsks.refuses (.value hValue) (hFound.asks hMember hName)⟩

end

/-- A record whose fields are governed each by its own layout is governed by theirs together. -/
theorem governs_record {α : Type} {fields : List Field} {read : Json → Option α}
    {asks : α → List (Option Json → Prop)}
    (hNodup : (fields.map Prod.fst).Nodup)
    (hRead : ∀ j a, read j = some a ↔ ∃ slots, j.slots? (fields.map Prod.fst) = some slots ∧
      List.Forall₂ (fun Asks slot => Asks slot) (asks a) slots)
    (hFields : ∀ a, List.Forall₂ (fun field Asks => field.2.2.GovernsAt field.2.1 Asks) fields
      (asks a)) : (record fields).Governs read where
  varies hVaries := by
    obtain ⟨members, members', rfl, rfl⟩ := hVaries.objects
    refine Option.ext fun a => ?_
    rw [hRead, hRead, exists_slots_iff, exists_slots_iff, hVaries.legible,
      List.forall₂_map_left_iff, List.forall₂_map_left_iff, List.forall₂_iff_zip,
      List.forall₂_iff_zip]
    refine and_congr_right fun _ => and_congr_right fun _ => ?_
    refine forall_congr' fun field => forall_congr' fun Asks => imp_congr_right fun hZip => ?_
    exact hVaries.finds hNodup (List.of_mem_zip hZip).1 (List.forall₂_zip (hFields a) hZip)
  refuses hRefuses := by
    obtain ⟨members, rfl⟩ := hRefuses.object
    rw [Option.eq_none_iff_forall_ne_some]
    intro a hSome
    obtain ⟨hLegible, hFound⟩ := exists_slots_iff.1 ((hRead _ a).1 hSome)
    obtain hIllegible | ⟨name, presence, layout, hField, hUnmet⟩ := hRefuses.illegible_or_unmet
    · exact hIllegible hLegible
    · rw [← List.map_fst_zip (hFields a).length_eq.le] at hField
      obtain ⟨⟨_, Asks⟩, hZip, rfl⟩ := List.mem_map.1 hField
      have hAsks := List.forall₂_zip (hFields a) hZip
      exact hUnmet Asks hAsks (List.forall₂_zip (List.forall₂_map_left_iff.1 hFound) hZip)

end Layout

end LongPoll.Json
