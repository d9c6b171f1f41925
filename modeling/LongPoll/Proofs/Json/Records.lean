import Mathlib.Data.List.Forall2
import Mathlib.Data.List.Perm.Basic
import LongPoll.Proofs.Json.Texts
import LongPoll.Text.Number

/-!
Values and records as trees.

A writer relates a value to the trees that stand for it, and there may be many: a text has its
spellings, a record the orders of its members and members of its own besides. A reader recovers a
writer if it takes each of these trees back to the value. Both are put together in the same way, so
each way of putting readers together has one law here.
-/

namespace LongPoll.Json

open LongPoll.Text

/-! ### Writers and readers -/

/-- What is written is read. -/
def Recovers {α σ : Type} (writes : α → σ → Prop) (read : σ → Option α) : Prop :=
  ∀ a x, writes a x → read x = some a

theorem mapM_eq_some_iff {α σ : Type} {read : σ → Option α} {xs : List σ} {as : List α} :
    xs.mapM read = some as ↔ List.Forall₂ (fun x a => read x = some a) xs as := by
  constructor
  · intro hRead
    induction xs generalizing as with
    | nil =>
        cases hRead
        exact .nil
    | cons x rest ih =>
        rw [List.mapM_cons, Option.bind_eq_bind] at hRead
        obtain ⟨a, hFirst, hRest⟩ := Option.bind_eq_some_iff.1 hRead
        obtain ⟨others, hOthers, hCons⟩ := Option.bind_eq_some_iff.1 hRest
        cases hCons
        exact .cons hFirst (ih hOthers)
  · intro hEach
    induction hEach with
    | nil => rfl
    | cons hFirst _ ih => simp [List.mapM_cons, hFirst, ih]

inductive WritesText (s : String) : Json → Prop where
  | string {raw : RawString} (hSpells : Spells raw s.toList) : WritesText s (.string raw)

inductive WritesList {α : Type} (writes : α → Json → Prop) (as : List α) : Json → Prop where
  | array {items : List Json} (hItems : List.Forall₂ writes as items) :
      WritesList writes as (.array items)

theorem recovers_text : Recovers WritesText text? := by
  rintro s _ ⟨hSpells⟩
  exact hSpells.textOfRaw?

theorem Recovers.list {α : Type} {writes : α → Json → Prop} {read : Json → Option α}
    (h : Recovers writes read) : Recovers (WritesList writes) (list? read) := by
  rintro as _ ⟨hItems⟩
  exact mapM_eq_some_iff.2 (hItems.flip.imp fun item a hItem => h a item hItem)

/-! ### Natural numbers -/

def digit (d : Nat) : UInt8 := .ofNat (0x30 + d)

/-- The digits of a number as bytes. -/
def decimalBytes (n : Nat) : List UInt8 := (decimalDigits n).map fun c => .ofNat c.toNat

inductive WritesNumber (n : Nat) : Json → Prop where
  | digits : WritesNumber n (.number (decimalBytes n))

theorem decimalBytes_of_lt {n : Nat} (h : n < 10) : decimalBytes n = [digit n] := by
  have hAll : ∀ d : Fin 10, (UInt8.ofNat (Nat.digitChar d).toNat) = digit d := by decide
  rw [decimalBytes, decimalDigits, Nat.toDigits_of_lt_base h, List.map_singleton, hAll ⟨n, h⟩]

theorem decimalBytes_of_le {n : Nat} (h : 10 ≤ n) :
    decimalBytes n = decimalBytes (n / 10) ++ [digit (n % 10)] := by
  have hLast : decimalBytes (n % 10) = [digit (n % 10)] :=
    decimalBytes_of_lt (Nat.mod_lt _ (by decide))
  have hSplit : decimalDigits n = decimalDigits (n / 10) ++ decimalDigits (n % 10) := by
    have hDigit := Nat.toDigits_of_lt_base (Nat.mod_lt n (by decide : 0 < 10))
    rw [decimalDigits, Nat.toDigits_of_base_le (by decide) h, ← hDigit]
    rfl
  rw [← hLast, decimalBytes, hSplit, List.map_append]
  rfl

theorem digit_mem {d : Nat} (h : d < 10) : digit d ∈ digitBytes := by
  have hAll : ∀ d : Fin 10, digit d ∈ digitBytes := by decide
  exact hAll ⟨d, h⟩

theorem digitsValue_concat (digits : List UInt8) {d : Nat} (h : d < 10) :
    digitsValue (digits ++ [digit d]) = digitsValue digits * 10 + d := by
  have hDigit : (digit d).toNat = 0x30 + d := Utf8.toNat_byte (by omega)
  simp only [digitsValue, List.foldl_append, List.foldl_cons, List.foldl_nil, hDigit]
  omega

theorem digitsValue_decimalBytes (n : Nat) : digitsValue (decimalBytes n) = n := by
  induction n using Nat.strong_induction_on with
  | _ n ih =>
      by_cases hSmall : n < 10
      · have hValue := digitsValue_concat [] hSmall
        rw [decimalBytes_of_lt hSmall]
        exact hValue.trans (Nat.zero_add n)
      · have hLast : n % 10 < 10 := Nat.mod_lt _ (by decide)
        rw [decimalBytes_of_le (by omega), digitsValue_concat _ hLast, ih (n / 10) (by omega)]
        omega

/-- Only zero begins with a zero. -/
theorem isWhole_decimalBytes (n : Nat) : IsWhole (decimalBytes n) := by
  have hLeading : ∀ n ≠ 0, ∃ first rest, decimalBytes n = first :: rest ∧ first ∈ digitBytes ∧
      first ≠ 0x30 ∧ AllDigits rest := by
    intro n hNonzero
    induction n using Nat.strong_induction_on with
    | _ n ih =>
        by_cases hSmall : n < 10
        · have hAll : ∀ d : Fin 10, d.val ≠ 0 → digit d ≠ 0x30 := by decide
          exact ⟨_, [], decimalBytes_of_lt hSmall, digit_mem hSmall,
            hAll ⟨n, hSmall⟩ hNonzero, nofun⟩
        · obtain ⟨first, rest, hDecimal, hFirst, hNotZero, hRest⟩ :=
            ih (n / 10) (by omega) (by omega)
          refine ⟨first, rest ++ [digit (n % 10)], ?_, hFirst, hNotZero, ?_⟩
          · rw [decimalBytes_of_le (by omega), hDecimal, List.cons_append]
          · intro b hMem
            obtain hRow | hLast := List.mem_append.1 hMem
            · exact hRest b hRow
            · rw [List.mem_singleton.1 hLast]
              exact digit_mem (Nat.mod_lt _ (by decide))
  by_cases hZero : n = 0
  · subst hZero
    exact .zero
  · obtain ⟨first, rest, hDecimal, hFirst, hNotZero, hRest⟩ := hLeading n hZero
    rw [hDecimal]
    exact .digits hFirst hNotZero hRest

theorem IsWhole.allDigits {literal : List UInt8} (h : IsWhole literal) : AllDigits literal := by
  cases h with
  | zero => simp [AllDigits, digitBytes]
  | digits hFirst _ hRest => exact List.forall_mem_cons.2 ⟨hFirst, hRest⟩

theorem natural?_of_writes {n bound : Nat} {j : Json} (h : WritesNumber n j) (hBound : n < bound) :
    j.natural? bound = some n := by
  cases h with
  | digits =>
      have hDigits : (decimalBytes n).all isDigitByte = true :=
        List.all_eq_true.2 fun b hMem =>
          NumberPhase.isDigitByte_of_mem ((isWhole_decimalBytes n).allDigits b hMem)
      simp [natural?, hDigits, digitsValue_decimalBytes, hBound]

theorem recovers_counter : Recovers (fun n : UInt64 => WritesNumber n.toNat) counter? := by
  intro n j hWrites
  simp [counter?, natural?_of_writes hWrites n.toNat_lt]

theorem recovers_port : Recovers (fun n : UInt16 => WritesNumber n.toNat) port? := by
  intro n j hWrites
  simp [port?, natural?_of_writes hWrites n.toNat_lt]

/-! ### Fields -/

/-- A field that has to be given. -/
inductive Required {α : Type} (writes : α → Json → Prop) (a : α) : Option Json → Prop where
  | given {j : Json} (hWrites : writes a j) : Required writes a (some j)

/-- A field that may be left out if it has the default. -/
inductive Defaulted {α : Type} (default : α) (writes : α → Json → Prop) (a : α) :
    Option Json → Prop where
  | given {j : Json} (hWrites : writes a j) : Defaulted default writes a (some j)
  | missing (hDefault : a = default) : Defaulted default writes a none

/-- A field that may be left out or null if it has the default. -/
inductive Nullable {α : Type} (default : α) (writes : α → Json → Prop) (a : α) :
    Option Json → Prop where
  | given {j : Json} (hWrites : writes a j) : Nullable default writes a (some j)
  | null (hDefault : a = default) : Nullable default writes a (some .null)
  | missing (hDefault : a = default) : Nullable default writes a none

/-- Only what is there is written. -/
def WritesSome {α : Type} (writes : α → Json → Prop) (value : Option α) (j : Json) : Prop :=
  ∃ a, value = some a ∧ writes a j

section

variable {α : Type} {writes : α → Json → Prop} {read : Json → Option α}

theorem Recovers.required (h : Recovers writes read) :
    Recovers (Required writes) (required? read) := by
  rintro a _ ⟨hWrites⟩
  exact h a _ hWrites

theorem Recovers.defaulted (h : Recovers writes read) (default : α) :
    Recovers (Defaulted default writes) (defaulted? default read) := by
  rintro a _ (hWrites | rfl)
  · exact h a _ hWrites
  · rfl

theorem Recovers.nullable (h : Recovers writes read) (hNull : read .null = none) (default : α) :
    Recovers (Nullable default writes) (defaulted? default (nullable? default read)) := by
  rintro a _ (hWrites | rfl | rfl)
  · next j =>
      have hRead := h a j hWrites
      cases j with
      | null => cases hNull.symm.trans hRead
      | _ => exact hRead
  · rfl
  · rfl

theorem Recovers.option (h : Recovers writes read) :
    Recovers (WritesSome writes) fun j => (read j).map some := by
  rintro _ j ⟨a, rfl, hWrites⟩
  simp [h a j hWrites]

end

/-! ### Records -/

/-- The members of a record that are given. -/
def given (fields : List (String × Option Json)) : List (String × Json) :=
  fields.filterMap fun f => f.2.map (f.1, ·)

/-- The member has this name, however spelled, and this value. -/
def WritesMember (member : String × Json) (m : RawString × Json) : Prop :=
  Spells m.1 member.1.toList ∧ m.2 = member.2

/-- An object of these fields: the members that are given, among others with other names, in any
order. -/
inductive WritesRecord (fields : List (String × Option Json)) : Json → Prop where
  | object {others named : List (String × Json)} {members : List (RawString × Json)}
      (hOthers : ∀ m ∈ others, m.1 ∉ fields.map Prod.fst)
      (hPerm : named.Perm (given fields ++ others))
      (hMembers : List.Forall₂ WritesMember named members) : WritesRecord fields (.object members)

theorem valuesOf_eq_nil {name : String} {ms : List (String × Json)} (h : ∀ m ∈ ms, m.1 ≠ name) :
    valuesOf name ms = [] := by
  simpa [valuesOf, List.filterMap_eq_nil_iff] using fun a j hMem hName => h (a, j) hMem hName

theorem fst_mem_of_mem_given {fields : List (String × Option Json)} {m : String × Json}
    (h : m ∈ given fields) : m.1 ∈ fields.map Prod.fst := by
  obtain ⟨f, hMem, hField⟩ := List.mem_filterMap.1 h
  obtain ⟨j, _, rfl⟩ := Option.map_eq_some_iff.1 hField
  exact List.mem_map_of_mem hMem

/-- Where names are distinct a field has the values that it gives. -/
theorem valuesOf_given {fields : List (String × Option Json)} (hNodup : (fields.map Prod.fst).Nodup)
    {f : String × Option Json} (hMem : f ∈ fields) : valuesOf f.1 (given fields) = f.2.toList := by
  induction fields with
  | nil => cases hMem
  | cons g rest ih =>
      obtain ⟨hNew, hRest⟩ := List.nodup_cons.1 hNodup
      have hSplit : given (g :: rest) = given [g] ++ given rest := by
        simp only [given, ← List.filterMap_append, List.singleton_append]
      rw [hSplit, valuesOf_append]
      rcases List.mem_cons.1 hMem with rfl | hMem
      · have hElsewhere : valuesOf f.1 (given rest) = [] :=
          valuesOf_eq_nil fun m hGiven hName => hNew (hName ▸ fst_mem_of_mem_given hGiven)
        rw [hElsewhere, List.append_nil]
        cases hSlot : f.2 <;> simp [given, valuesOf, hSlot]
      · have hOther : valuesOf f.1 (given [g]) = [] := by
          refine valuesOf_eq_nil fun m hGiven hName => hNew ?_
          have hHead : m.1 = g.1 := List.mem_singleton.1 (fst_mem_of_mem_given hGiven)
          rw [← hHead, hName]
          exact List.mem_map_of_mem hMem
        rw [hOther, List.nil_append, ih hRest hMem]

theorem slot?_of_valuesOf {members : List (String × Json)} {name : String} {slot : Option Json}
    (h : valuesOf name members = slot.toList) : slot? members name = some slot := by
  cases slot <;> simp [slot?, h]

/-- The fields of a record are found wherever they stand. -/
theorem slots?_of_writes {fields : List (String × Option Json)} {names : List String} {j : Json}
    (hNames : fields.map Prod.fst = names) (hNodup : names.Nodup) (h : WritesRecord fields j) :
    j.slots? names = some (fields.map Prod.snd) := by
  subst hNames
  obtain ⟨hOthers, hPerm, hMembers⟩ := h
  next others named members =>
    have hNamed : members.mapM (fun m => (textOfRaw? m.1).map (·, m.2)) = some named := by
      refine mapM_eq_some_iff.2 (hMembers.flip.imp ?_)
      rintro ⟨raw, v⟩ ⟨name, v'⟩ ⟨hSpells, rfl⟩
      simp [hSpells.textOfRaw?]
    have hSlots : (fields.map Prod.fst).mapM (slot? named) = some (fields.map Prod.snd) := by
      refine mapM_eq_some_iff.2 (List.forall₂_map_left_iff.2 (List.forall₂_map_right_iff.2 ?_))
      refine List.forall₂_same.2 fun f hMem => slot?_of_valuesOf ?_
      have hElsewhere : valuesOf f.1 others = [] :=
        valuesOf_eq_nil fun m hOther hName => hOthers m hOther (hName ▸ List.mem_map_of_mem hMem)
      have hValues : (valuesOf f.1 named).Perm (valuesOf f.1 (given fields ++ others)) :=
        hPerm.filterMap _
      rw [valuesOf_append, hElsewhere, List.append_nil, valuesOf_given hNodup hMem] at hValues
      cases hSlot : f.2 with
      | none =>
          rw [hSlot] at hValues
          exact List.perm_nil.1 hValues
      | some v =>
          rw [hSlot] at hValues
          exact List.perm_singleton.1 hValues
    rw [slots?, hNamed]
    exact hSlots

/-! ### One way to write -/

/-- A way to write each value as one tree, of which there are texts. -/
structure Prints {α : Type} (print : α → Json) (writes : α → Json → Prop) : Prop where
  writes (a : α) : writes a (print a)
  legal (a : α) : (print a).IsLegal

def printText (s : String) : Json := .string (escape s)

def printNumber (n : Nat) : Json := .number (decimalBytes n)

def printList {α : Type} (print : α → Json) (as : List α) : Json := .array (as.map print)

/-- The fields that are given, in their order and no others. -/
def printRecord (fields : List (String × Option Json)) : Json :=
  .object ((given fields).map fun m => (escape m.1, m.2))

theorem prints_text : Prints printText WritesText where
  writes s := ⟨spells_escape s⟩
  legal s := isLegal_string (spells_escape s).isRaw

theorem prints_number : Prints printNumber WritesNumber where
  writes _ := .digits
  legal n := by
    have hNumber := IsNumber.positive (isWhole_decimalBytes n) .none .none
    rw [List.append_nil, List.append_nil] at hNumber
    exact isLegal_number hNumber

theorem Prints.list {α : Type} {print : α → Json} {writes : α → Json → Prop}
    (h : Prints print writes) : Prints (printList print) (WritesList writes) where
  writes as := ⟨List.forall₂_map_right_iff.2 (List.forall₂_same.2 fun a _ => h.writes a)⟩
  legal as := by
    refine isLegal_array fun j hMem => ?_
    obtain ⟨a, _, rfl⟩ := List.mem_map.1 hMem
    exact h.legal a

theorem writes_printRecord (fields : List (String × Option Json)) :
    WritesRecord fields (printRecord fields) := by
  have hPerm : (given fields).Perm (given fields ++ []) := by rw [List.append_nil]
  have hOthers : ∀ m ∈ ([] : List (String × Json)), m.1 ∉ fields.map Prod.fst := by simp
  refine .object hOthers hPerm (List.forall₂_map_right_iff.2 (List.forall₂_same.2 fun m _ => ?_))
  exact ⟨spells_escape m.1, rfl⟩

theorem isLegal_printRecord {fields : List (String × Option Json)}
    (hFields : ∀ f ∈ fields, ∀ j ∈ f.2, j.IsLegal) : (printRecord fields).IsLegal := by
  refine isLegal_object fun m hMem => ?_
  obtain ⟨member, hGiven, rfl⟩ := List.mem_map.1 hMem
  obtain ⟨f, hField, hSlot⟩ := List.mem_filterMap.1 hGiven
  obtain ⟨j, hValue, rfl⟩ := Option.map_eq_some_iff.1 hSlot
  exact ⟨(spells_escape f.1).isRaw, hFields f hField j hValue⟩

end LongPoll.Json
