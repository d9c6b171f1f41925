import Mathlib.Data.Finset.Card
import LongPoll.Proofs.Cache.Outline

/-!
The first entry of each key wins.

However the keys of a response repeat, its snapshot is the map that takes each key to the first
entry that has it. Every other entry comes too late, and the log hears of each of them once, in
order. So an entry is either in the snapshot or in the log, and what decides whether two responses
show the same map are their first entries alone.
-/

namespace LongPoll

variable {K V : Type} [DecidableEq K]

namespace Snapshot

/-! ### Entries that come too late -/

/-- The entries of which an earlier one has the key, with their places. -/
def latecomers (f : V → K) (entries : List V) : List (V × Nat) :=
  entries.zipIdx.filter fun e => f e.1 ∈ (entries.take e.2).map f

theorem latecomers_concat (f : V → K) (entries : List V) (v : V) :
    latecomers f (entries ++ [v]) =
      latecomers f entries ++ if f v ∈ entries.map f then [(v, entries.length)] else [] := by
  -- no entry has the last one before it
  have hFront : (entries.zipIdx.filter fun e => f e.1 ∈ ((entries ++ [v]).take e.2).map f) =
      latecomers f entries := by
    refine List.filter_congr fun e hMember => ?_
    have hPlace : e.2 < entries.length := by simpa using List.snd_lt_of_mem_zipIdx hMember
    rw [List.take_append_of_le_length hPlace.le]
  rw [latecomers, List.zipIdx_append, List.filter_append, hFront]
  simp [List.filter_singleton]

theorem repeats_eq_latecomers (f : V → K) (entries : List V) :
    repeats f [] entries = (latecomers f entries).map Prod.fst := by
  induction entries using List.reverseRecOn with
  | nil => rfl
  | append_singleton entries v ih =>
      rw [repeats_concat, latecomers_concat, ih, List.map_append]
      by_cases hTaken : ∃ w ∈ entries, f w = f v <;> simp [hTaken]

/-- An entry comes too late, or it brings a key that was not there before. -/
theorem length_latecomers_add_card (f : V → K) (entries : List V) :
    (latecomers f entries).length + (entries.map f).toFinset.card = entries.length := by
  induction entries using List.reverseRecOn with
  | nil => rfl
  | append_singleton entries v ih =>
      have hKeys : ((entries ++ [v]).map f).toFinset = insert (f v) (entries.map f).toFinset := by
        rw [List.map_append, List.map_singleton, List.toFinset_append, Finset.union_comm]
        rfl
      rw [latecomers_concat, hKeys, List.length_append, List.length_append, List.length_singleton]
      by_cases hTaken : f v ∈ entries.map f
      · rw [if_pos hTaken, Finset.insert_eq_of_mem (List.mem_toFinset.2 hTaken),
          List.length_singleton]
        omega
      · rw [if_neg hTaken, Finset.card_insert_of_notMem (mt List.mem_toFinset.1 hTaken),
          List.length_nil]
        omega

/-! ### Maps of first entries -/

/-- Under each key the snapshot has the first entry with this key. -/
def FindsFirst (f : V → K) (entries : List V) (s : Snapshot K V) : Prop :=
  ∀ k, s.get? k = entries.find? fun v => f v = k

namespace FindsFirst

variable {f : V → K} {entries others : List V} {s t : Snapshot K V}

theorem mem_keys_iff (h : FindsFirst f entries s) (k : K) : k ∈ s.keys ↔ k ∈ entries.map f := by
  rw [← get?_isSome_iff, h k, List.find?_isSome]
  simp

theorem size_eq (h : FindsFirst f entries s) : s.size = (entries.map f).toFinset.card := by
  have hDistinct : s.keys.Nodup := s.distinct
  have hKeys : s.keys.toFinset = (entries.map f).toFinset := by
    ext k
    rw [List.mem_toFinset, List.mem_toFinset, h.mem_keys_iff]
  rw [← hKeys, List.toFinset_card_of_nodup hDistinct, keys, List.length_map, Snapshot.size]

theorem agrees_iff [DecidableEq V] (h : FindsFirst f entries s) (h' : FindsFirst f others t) :
    s.agrees t = true ↔ (∀ k, k ∈ entries.map f ↔ k ∈ others.map f) ∧
      ∀ k, (entries.find? fun v => f v = k) = others.find? fun v => f v = k := by
  rw [agrees_iff_sameMap]
  constructor
  · intro hSame
    refine ⟨fun k => ?_, fun k => ?_⟩
    · rw [← h.mem_keys_iff, hSame.mem_keys, h'.mem_keys_iff]
    · rw [← h k, hSame k, h' k]
  · rintro ⟨-, hFirst⟩ k
    rw [h k, hFirst k, h' k]

end FindsFirst

end Snapshot

/-! ### Warnings -/

namespace Core

/-- The warnings of repeated keys so far, in order. -/
def warnings (c : Core K V) : List (Event K V) := c.events.reverse.filter Event.isRepeatWarning

end Core

namespace Cache

variable [DecidableEq V] (feed : Feed K V)

/-- The log hears of the repeated keys of a response in their order. -/
theorem warnings_absorb (entries : List V) (next : Option Index) (c : Cache K V) :
    (c.absorb feed entries next).1.core.warnings = c.core.warnings ++
      (Snapshot.build feed.keyOf entries).repeated.map (Event.repeatWarning feed) := by
  obtain ⟨issued, hIssued, hAdds⟩ := absorb_adds_warnings feed entries next c
  have hOutline (d : Cache K V) : d.core.warnings = d.core.outline.filter Event.isRepeatWarning :=
    (Core.filter_outline (fun _ => Event.isMajor_of_isRepeatWarning) d.core).symm
  have hOther : issued.filter Event.isRepeatWarning = [] := by
    rcases hIssued with rfl | ⟨s, _, rfl⟩ <;> rfl
  have hWarnings (keys : List K) :
      (keys.map (Event.repeatWarning feed)).filter Event.isRepeatWarning =
        keys.map (Event.repeatWarning feed) := by
    refine List.filter_eq_self.2 fun e hMember => ?_
    obtain ⟨k, _, rfl⟩ := List.mem_map.1 hMember
    exact Event.isRepeatWarning_repeatWarning feed k
  rw [hOutline, hOutline, hAdds, List.filter_append, List.filter_append, hWarnings, hOther,
    List.append_nil]

/-- Where every entry has a key, the snapshot of a response has the first entry of each key and
nothing else, and there is one warning for each of the other entries, in order and with its key. Two
responses show the same map exactly if they have the same keys and the same first entries. -/
theorem first_entries_win (f : V → K) (entries : List V) :
    let feed : Feed K V := { feed with keyOf := fun v => .ok (f v) }
    let late := (Snapshot.latecomers f entries).map fun e => f e.1
    ∃ s, Snapshot.build feed.keyOf entries = ⟨late, .ok s⟩ ∧
      (∀ k, s.get? k = entries.find? fun v => f v = k) ∧
      (∀ k, k ∈ s.keys ↔ k ∈ entries.map f) ∧
      s.size = (entries.map f).toFinset.card ∧
      (∀ (c : Cache K V) (next : Option Index), (c.absorb feed entries next).1.core.warnings =
        c.core.warnings ++ late.map fun k => .log
          ⟨.warn, "Duplicate key in response, keeping the first occurrence",
            [("key", feed.showKey k)]⟩) ∧
      late.length + s.size = entries.length ∧
      ∀ others, ∃ t, (Snapshot.build feed.keyOf others).outcome = .ok t ∧
        (s.agrees t = true ↔ (∀ k, k ∈ entries.map f ↔ k ∈ others.map f) ∧
          ∀ k, (entries.find? fun v => f v = k) = others.find? fun v => f v = k) := by
  intro feed late
  obtain ⟨s, hTotal, hFirst⟩ := Snapshot.build_total f entries
  have hFinds : Snapshot.FindsFirst f entries s := hFirst
  have hBuild : Snapshot.build feed.keyOf entries = ⟨late, .ok s⟩ := by
    rw [Snapshot.repeats_eq_latecomers, List.map_map] at hTotal
    exact hTotal
  refine ⟨s, hBuild, hFirst, hFinds.mem_keys_iff, hFinds.size_eq, fun c next => ?_, ?_,
    fun others => ?_⟩
  · rw [warnings_absorb, hBuild]
    rfl
  · rw [List.length_map, hFinds.size_eq]
    exact Snapshot.length_latecomers_add_card f entries
  · obtain ⟨t, hOther, hOtherFirst⟩ := Snapshot.build_total f others
    exact ⟨t, congrArg Build.outcome hOther, hFinds.agrees_iff hOtherFirst⟩

end Cache

end LongPoll
