import LongPoll.Snapshot
import Mathlib.Data.List.Perm.Subperm
import Mathlib.Data.List.Nodup
import Mathlib.Data.List.Induction

/-!
Snapshots as maps.

Each key has one entry at most, so looking a key up and finding its entry on the list are the same.
Two snapshots of one size agree as soon as one finds all its entries in the other: there is no room
for a further key.
-/

namespace LongPoll

namespace Snapshot

variable {K V : Type} [DecidableEq K] {s : Snapshot K V} {k : K} {v : V}

theorem get?_eq_some_iff : s.get? k = some v ↔ (k, v) ∈ s.entries := by
  obtain ⟨entries, hDistinct⟩ := s
  simp only [get?]
  induction entries with
  | nil => simp
  | cons e rest ih =>
      rw [List.map_cons, List.nodup_cons] at hDistinct
      by_cases hKey : e.1 = k
      · subst hKey
        have hAbsent : (e.1, v) ∉ rest := fun hMem =>
          hDistinct.1 (List.mem_map.2 ⟨_, hMem, rfl⟩)
        simp [hAbsent, Prod.ext_iff, eq_comm]
      · have hOther : (k, v) ≠ e := fun hEq => hKey (congrArg Prod.fst hEq).symm
        simpa [hKey, hOther] using ih hDistinct.2

theorem get?_isSome_iff : (s.get? k).isSome ↔ k ∈ s.keys := by
  rw [Option.isSome_iff_exists]
  simp only [get?_eq_some_iff, keys, List.mem_map, Prod.exists, exists_and_right, exists_eq_right]

/-- The two snapshots give every key the same entry. -/
def SameMap (a b : Snapshot K V) : Prop := ∀ k, a.get? k = b.get? k

variable {a b : Snapshot K V}

theorem SameMap.mem_keys (h : a.SameMap b) (k : K) : k ∈ a.keys ↔ k ∈ b.keys := by
  rw [← get?_isSome_iff, ← get?_isSome_iff, h k]

theorem SameMap.size (h : a.SameMap b) : a.size = b.size := by
  have hPerm : a.keys.Perm b.keys := (List.perm_ext_iff_of_nodup a.distinct b.distinct).2 h.mem_keys
  simpa [keys, Snapshot.size] using hPerm.length_eq

/-- Where `b` has all entries of `a` and is no larger, it has no other keys. -/
theorem sameMap_of_entries (hSize : a.size = b.size)
    (hEntries : ∀ e ∈ a.entries, b.get? e.1 = some e.2) : a.SameMap b := by
  have hSubset : a.keys ⊆ b.keys := by
    intro k hk
    obtain ⟨e, he, rfl⟩ := List.mem_map.1 hk
    exact get?_isSome_iff.1 (by rw [hEntries e he]; rfl)
  have hPerm : a.keys.Perm b.keys :=
    (List.Nodup.subperm a.distinct hSubset).perm_of_length_le
      (by simpa [keys, Snapshot.size] using Nat.le_of_eq hSize.symm)
  intro k
  cases hFound : a.get? k with
  | some v => exact (hEntries (k, v) (get?_eq_some_iff.1 hFound)).symm
  | none =>
      have hAbsent : ¬ (b.get? k).isSome := by
        rw [get?_isSome_iff, ← hPerm.mem_iff, ← get?_isSome_iff, hFound]
        exact Bool.false_ne_true
      exact (Option.not_isSome_iff_eq_none.1 hAbsent).symm

variable [DecidableEq V]

/-- The comparison that decides about a publication is that of maps. -/
theorem agrees_iff_sameMap : a.agrees b = true ↔ a.SameMap b := by
  simp only [agrees, Bool.and_eq_true, beq_iff_eq, List.all_eq_true, decide_eq_true_eq]
  constructor
  · rintro ⟨hSize, hEntries⟩
    exact sameMap_of_entries hSize hEntries
  · intro h
    refine ⟨h.size, fun e he => ?_⟩
    rw [← h e.1]
    exact get?_eq_some_iff.2 he

instance (a b : Snapshot K V) : Decidable (a.SameMap b) :=
  decidable_of_iff _ agrees_iff_sameMap

omit [DecidableEq V]

/-- Entries that all have keys make a snapshot. -/
theorem build_ok {keyOf : V → Except Panic K} (hKeys : ∀ v, ∃ k, keyOf v = .ok k)
    (entries : List V) : ∃ s, (build keyOf entries).outcome = .ok s := by
  suffices h : ∀ soFar repeated,
      ∃ s, (buildFrom keyOf soFar repeated entries).outcome = .ok s from h empty []
  induction entries with
  | nil => exact fun soFar repeated => ⟨soFar, rfl⟩
  | cons v rest ih =>
      intro soFar repeated
      obtain ⟨k, hKey⟩ := hKeys v
      simp only [buildFrom, hKey]
      split
      · exact ih _ _
      · exact ih _ _

/-- Where a key panics, it is the key of an entry. -/
theorem exists_of_build_error {keyOf : V → Except Panic K} {entries : List V} {p : Panic}
    (h : (build keyOf entries).outcome = .error p) : ∃ v ∈ entries, keyOf v = .error p := by
  suffices hFrom : ∀ soFar repeated, (buildFrom keyOf soFar repeated entries).outcome = .error p →
      ∃ v ∈ entries, keyOf v = .error p from hFrom empty [] h
  clear h
  induction entries with
  | nil => exact fun soFar repeated h => by cases h
  | cons v rest ih =>
      intro soFar repeated h
      have hRest {soFar' : Snapshot K V} {repeated' : List K}
          (h' : (buildFrom keyOf soFar' repeated' rest).outcome = .error p) :
          ∃ w ∈ v :: rest, keyOf w = .error p := by
        obtain ⟨w, hMember, hKey⟩ := ih _ _ h'
        exact ⟨w, List.mem_cons_of_mem _ hMember, hKey⟩
      unfold buildFrom at h
      split at h
      · next q hKey =>
          cases h
          exact ⟨v, List.mem_cons_self .., hKey⟩
      · split at h
        · exact hRest h
        · exact hRest h

/-! ### Entries with different keys -/

/-- No two of the entries have one key. -/
def Distinct (keyOf : V → Except Panic K) (entries : List V) : Prop :=
  entries.Pairwise fun v w => ∀ k, keyOf v = .ok k → keyOf w ≠ .ok k

omit [DecidableEq K] in
/-- Where every entry has a key, this is to say that the keys are different. -/
theorem distinct_iff_nodup {f : V → K} {entries : List V} :
    Distinct (fun v => .ok (f v)) entries ↔ (entries.map f).Nodup := by
  rw [Distinct, List.Nodup, List.pairwise_map]
  simp only [Except.ok.injEq, forall_eq', ne_eq]
  exact ⟨fun h => h.imp Ne.symm, fun h => h.imp Ne.symm⟩

/-- The snapshot has these entries in this order, each under its key. -/
structure Holds (keyOf : V → Except Panic K) (entries : List V) (s : Snapshot K V) : Prop where
  entries : s.entries.map Prod.snd = entries
  keyed : ∀ e ∈ s.entries, keyOf e.2 = .ok e.1

variable {keyOf : V → Except Panic K} {entries : List V}

/-- Where no key comes twice nothing is left out, unless a key panics. -/
theorem buildFrom_of_distinct (hDistinct : Distinct keyOf entries) (soFar : Snapshot K V)
    (repeated : List K)
    (hFresh : ∀ v ∈ entries, ∀ k, keyOf v = .ok k → k ∉ soFar.keys) :
    (∃ p, (∃ v ∈ entries, keyOf v = .error p) ∧
        buildFrom keyOf soFar repeated entries = ⟨repeated.reverse, .error p⟩) ∨
      ∃ s added, s.entries = soFar.entries ++ added ∧ added.map Prod.snd = entries ∧
        (∀ e ∈ added, keyOf e.2 = .ok e.1) ∧
        buildFrom keyOf soFar repeated entries = ⟨repeated.reverse, .ok s⟩ := by
  induction entries generalizing soFar with
  | nil => exact Or.inr ⟨soFar, [], (List.append_nil _).symm, rfl, by simp, rfl⟩
  | cons v rest ih =>
      obtain ⟨hHead, hRest⟩ := List.pairwise_cons.1 hDistinct
      cases hKey : keyOf v with
      | error p => exact Or.inl ⟨p, ⟨v, List.mem_cons_self .., hKey⟩, by simp [buildFrom, hKey]⟩
      | ok k =>
          have hNew : k ∉ soFar.keys := hFresh v (List.mem_cons_self ..) k hKey
          have hBuild : buildFrom keyOf soFar repeated (v :: rest) =
              buildFrom keyOf (soFar.push k v hNew) repeated rest := by
            simp only [buildFrom, hKey, hNew, dite_false]
          have hLater : ∀ w ∈ rest, ∀ k', keyOf w = .ok k' → k' ∉ (soFar.push k v hNew).keys := by
            intro w hw k' hKey' hMember
            simp only [keys, push, List.map_append, List.map_cons, List.map_nil, List.mem_append,
              List.mem_singleton] at hMember
            rcases hMember with hOld | rfl
            · exact hFresh w (List.mem_cons_of_mem _ hw) k' hKey' hOld
            · exact hHead w hw k' hKey hKey'
          rw [hBuild]
          rcases ih hRest (soFar.push k v hNew) hLater with
            ⟨p, ⟨w, hw, hPanic⟩, hError⟩ | ⟨s, added, hEntries, hAdded, hKeyed, hOk⟩
          · exact Or.inl ⟨p, ⟨w, List.mem_cons_of_mem _ hw, hPanic⟩, hError⟩
          · refine Or.inr ⟨s, (k, v) :: added, ?_, by simp [hAdded], ?_, hOk⟩
            · rw [hEntries, push, List.append_assoc, List.singleton_append]
            · intro e he
              rcases List.mem_cons.1 he with rfl | he
              · exact hKey
              · exact hKeyed e he

/-- Where no key comes twice there is nothing to warn of, and the snapshot has all entries unless a
key panics. -/
theorem build_of_distinct (hDistinct : Distinct keyOf entries) :
    (build keyOf entries).repeated = [] ∧
      ((∃ p, (∃ v ∈ entries, keyOf v = .error p) ∧ (build keyOf entries).outcome = .error p) ∨
        ∃ s, Holds keyOf entries s ∧ (build keyOf entries).outcome = .ok s) := by
  rcases buildFrom_of_distinct hDistinct empty [] (by simp [keys, empty]) with
    ⟨p, hPanic, hBuild⟩ | ⟨s, added, hEntries, hAdded, hKeyed, hBuild⟩
  · rw [build, hBuild]
    exact ⟨rfl, Or.inl ⟨p, hPanic, rfl⟩⟩
  · have hAll : s.entries = added := hEntries
    rw [build, hBuild]
    exact ⟨rfl, Or.inr ⟨s, ⟨hAll ▸ hAdded, hAll ▸ hKeyed⟩, rfl⟩⟩

theorem Holds.get?_eq_some_iff {s : Snapshot K V} (h : Holds keyOf entries s)
    {k : K} {v : V} : s.get? k = some v ↔ v ∈ entries ∧ keyOf v = .ok k := by
  rw [Snapshot.get?_eq_some_iff]
  constructor
  · intro hMember
    exact ⟨h.entries ▸ List.mem_map_of_mem hMember, h.keyed _ hMember⟩
  · rintro ⟨hMember, hKey⟩
    rw [← h.entries] at hMember
    obtain ⟨e, he, rfl⟩ := List.mem_map.1 hMember
    have hSame : e.1 = k := Except.ok.inj ((h.keyed e he).symm.trans hKey)
    exact hSame ▸ he

/-! ### The order of entries -/

variable {entries' : List V} {s t : Snapshot K V}

omit [DecidableEq K] in
theorem Distinct.perm (h : Distinct keyOf entries) (hPerm : entries.Perm entries') :
    Distinct keyOf entries' :=
  (hPerm.pairwise_iff fun hOther k hKey hKey' => hOther k hKey' hKey).1 h

theorem Holds.sameMap (h : Holds keyOf entries s) (h' : Holds keyOf entries' t)
    (hPerm : entries.Perm entries') : s.SameMap t := by
  intro k
  ext v
  rw [h.get?_eq_some_iff, h'.get?_eq_some_iff, hPerm.mem_iff]

omit [DecidableEq K] in
theorem Holds.not_panicked (h : Holds keyOf entries s) {v : V} (hMember : v ∈ entries) (p : Panic) :
    keyOf v ≠ .error p := by
  rw [← h.entries] at hMember
  obtain ⟨e, he, rfl⟩ := List.mem_map.1 hMember
  simp [h.keyed e he]

/-- Entries with different keys make the same map in any order, or a key panics in any order. -/
theorem build_perm (hDistinct : Distinct keyOf entries) (hPerm : entries.Perm entries') :
    (build keyOf entries).repeated = [] ∧ (build keyOf entries').repeated = [] ∧
      ((∃ p q, (build keyOf entries).outcome = .error p ∧
          (build keyOf entries').outcome = .error q) ∨
        ∃ s t, (build keyOf entries).outcome = .ok s ∧ (build keyOf entries').outcome = .ok t ∧
          s.SameMap t) := by
  obtain ⟨hNone, hOutcome⟩ := build_of_distinct hDistinct
  obtain ⟨hNone', hOutcome'⟩ := build_of_distinct (hDistinct.perm hPerm)
  refine ⟨hNone, hNone', ?_⟩
  rcases hOutcome with ⟨p, ⟨v, hv, hPanic⟩, hError⟩ | ⟨s, hHolds, hOk⟩
  · rcases hOutcome' with ⟨q, _, hError'⟩ | ⟨t, hHolds', _⟩
    · exact Or.inl ⟨p, q, hError, hError'⟩
    · exact (hHolds'.not_panicked (hPerm.mem_iff.1 hv) p hPanic).elim
  · rcases hOutcome' with ⟨q, ⟨v, hv, hPanic⟩, _⟩ | ⟨t, hHolds', hOk'⟩
    · exact (hHolds.not_panicked (hPerm.mem_iff.2 hv) q hPanic).elim
    · exact Or.inr ⟨s, t, hOk, hOk', hHolds.sameMap hHolds' hPerm⟩

/-! ### The first entry of each key -/

omit [DecidableEq K] in
theorem keys_push {s : Snapshot K V} {k : K} (v : V) (h : k ∉ s.keys) :
    (s.push k v h).keys = s.keys ++ [k] := by
  simp [keys, push]

/-- A new key finds its entry, and every other key finds what it found before. -/
theorem get?_push {s : Snapshot K V} {k : K} (v : V) (h : k ∉ s.keys) (k' : K) :
    (s.push k v h).get? k' = (s.get? k').or (if k = k' then some v else none) := by
  simp only [get?, push, List.find?_append, Option.map_or, List.find?_singleton, decide_eq_true_eq]
  split <;> rfl

/-- The entries that a snapshot leaves out: their keys are among those seen already, or an earlier
entry has them. -/
def repeats (f : V → K) (seen : List K) : List V → List V
  | [] => []
  | v :: rest =>
    if f v ∈ seen then v :: repeats f seen rest else repeats f (seen ++ [f v]) rest

/-- Where every entry has a key, each key keeps the first entry that has it, and the keys of all
other entries are listed. -/
theorem buildFrom_total (f : V → K) (entries : List V) (soFar : Snapshot K V) (repeated : List K) :
    ∃ s, buildFrom (fun v => .ok (f v)) soFar repeated entries =
        ⟨repeated.reverse ++ (repeats f soFar.keys entries).map f, .ok s⟩ ∧
      ∀ k, s.get? k = (soFar.get? k).or (entries.find? fun v => f v = k) := by
  induction entries generalizing soFar repeated with
  | nil => exact ⟨soFar, by simp [buildFrom, repeats], fun k => (Option.or_none).symm⟩
  | cons v rest ih =>
      by_cases hSeen : f v ∈ soFar.keys
      · obtain ⟨s, hBuild, hGet⟩ := ih soFar (f v :: repeated)
        refine ⟨s, ?_, fun k => ?_⟩
        · simp [buildFrom, repeats, hSeen, hBuild]
        · rw [hGet k]
          by_cases hKey : f v = k
          · -- The key was found before, so the entry found for it stays.
            obtain ⟨w, hFound⟩ := Option.isSome_iff_exists.1 (get?_isSome_iff.2 (hKey ▸ hSeen))
            rw [hFound, Option.some_or, Option.some_or]
          · rw [List.find?_cons_of_neg (by simpa using hKey)]
      · obtain ⟨s, hBuild, hGet⟩ := ih (soFar.push (f v) v hSeen) repeated
        refine ⟨s, ?_, fun k => ?_⟩
        · simp [buildFrom, repeats, hSeen, hBuild, keys_push]
        · rw [hGet k, get?_push, Option.or_assoc]
          by_cases hKey : f v = k
          · rw [if_pos hKey, Option.some_or, List.find?_cons_of_pos (by simpa using hKey)]
          · rw [if_neg hKey, Option.none_or, List.find?_cons_of_neg (by simpa using hKey)]

theorem build_total (f : V → K) (entries : List V) :
    ∃ s, build (fun v => .ok (f v)) entries = ⟨(repeats f [] entries).map f, .ok s⟩ ∧
      ∀ k, s.get? k = entries.find? fun v => f v = k := by
  obtain ⟨s, hBuild, hGet⟩ := buildFrom_total f entries empty []
  exact ⟨s, hBuild, fun k => (hGet k).trans (Option.none_or)⟩

/-- An entry is left out exactly if its key was seen or is the key of an earlier entry. -/
theorem repeats_concat (f : V → K) (seen : List K) (entries : List V) (v : V) :
    repeats f seen (entries ++ [v]) =
      repeats f seen entries ++ if f v ∈ seen ∨ ∃ w ∈ entries, f w = f v then [v] else [] := by
  induction entries generalizing seen with
  | nil =>
      by_cases hSeen : f v ∈ seen <;> simp [repeats, hSeen]
  | cons w rest ih =>
      by_cases hSeen : f w ∈ seen
      · have hSame : (f v ∈ seen ∨ ∃ x ∈ w :: rest, f x = f v) ↔
            f v ∈ seen ∨ ∃ x ∈ rest, f x = f v := by
          simp only [List.mem_cons, exists_eq_or_imp]
          grind
        simp only [List.cons_append, repeats, hSeen, if_true, ih, hSame]
      · have hSame : (f v ∈ seen ++ [f w] ∨ ∃ x ∈ rest, f x = f v) ↔
            f v ∈ seen ∨ ∃ x ∈ w :: rest, f x = f v := by
          simp only [List.mem_append, List.mem_cons, exists_eq_or_imp]
          grind
        simp only [List.cons_append, repeats, hSeen, if_false, ih, hSame]

/-- Of entries that are all different, those are left out that are not the first with their key. -/
theorem repeats_eq_filter [DecidableEq V] (f : V → K) {entries : List V} (hNodup : entries.Nodup) :
    repeats f [] entries =
      entries.filter fun v => (entries.find? fun w => f w = f v) ≠ some v := by
  induction entries using List.reverseRecOn with
  | nil => rfl
  | append_singleton entries v ih =>
      rw [List.nodup_append] at hNodup
      obtain ⟨hFront, _, hApart⟩ := hNodup
      have hOld : (entries.filter fun w => ((entries ++ [v]).find? fun x => f x = f w) ≠ some w) =
          entries.filter fun w => (entries.find? fun x => f x = f w) ≠ some w := by
        refine List.filter_congr fun w hw => ?_
        obtain ⟨x, hFound⟩ : ∃ x, (entries.find? fun x => f x = f w) = some x :=
          Option.isSome_iff_exists.1 (List.find?_isSome.2 ⟨w, hw, by simp⟩)
        rw [List.find?_append, hFound, Option.some_or]
      have hLast : ((entries ++ [v]).find? fun x => f x = f v) ≠ some v ↔
          ∃ w ∈ entries, f w = f v := by
        rw [List.find?_append]
        cases hFound : entries.find? fun x => f x = f v with
        | none => simpa using hFound
        | some w =>
            have hw : w ∈ entries := List.mem_of_find?_eq_some hFound
            have hKey : f w = f v := by simpa using List.find?_some hFound
            have hOther : w ≠ v := fun hSame => hApart w hw v (List.mem_singleton_self v) hSame
            simpa [hOther] using ⟨w, hw, hKey⟩
      rw [repeats_concat, ih hFront, List.filter_append, hOld, List.filter_singleton]
      simp only [List.not_mem_nil, false_or, hLast, Bool.cond_decide]

end Snapshot

end LongPoll
