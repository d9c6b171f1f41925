import LongPoll.Agent.Resource
import LongPoll.Proofs.Cache.Outline
import Mathlib.Data.List.TakeWhile

/-!
The keys of a watched subtree.

Whatever lies below a root is kept under what follows the directory of the root. The root itself, if
it lies in a directory, is kept under the empty key. That is the key of the directory too, but the
directory does not lie below the root, unless it is the root. So no two entries below a root have
one key, and none is left out.
-/

namespace LongPoll

namespace Kv

variable {root key key' : List Char}

/-- The directory is what stands before the last piece of a root. -/
theorem directory_spec (root : List Char) :
    ∃ name, directory root ++ name = root ∧ '/' ∉ name ∧
      ((directory root = [] ∧ '/' ∉ root) ∨ ∃ parents, directory root = parents ++ ['/']) := by
  let name := (root.reverse.takeWhile (· != '/')).reverse
  have hSplit : directory root ++ name = root := by
    rw [directory, ← List.reverse_append, List.takeWhile_append_dropWhile, List.reverse_reverse]
  have hName : '/' ∉ name := by
    intro hMember
    have hTaken := List.mem_takeWhile_imp (List.mem_reverse.1 hMember)
    simp at hTaken
  refine ⟨name, hSplit, hName, ?_⟩
  cases hRest : root.reverse.dropWhile (· != '/') with
  | nil =>
      have hEmpty : directory root = [] := by rw [directory, hRest, List.reverse_nil]
      refine Or.inl ⟨hEmpty, ?_⟩
      rw [← hSplit, hEmpty]
      exact hName
  | cons slash parents =>
      have hSlash : slash = '/' := by
        have hHead := List.head_dropWhile_not (· != '/') (l := root.reverse) (by simp [hRest])
        simpa [hRest] using hHead
      refine Or.inr ⟨parents.reverse, ?_⟩
      rw [directory, hRest, List.reverse_cons, hSlash]

theorem directory_begins (root : List Char) : directory root <+: root := by
  obtain ⟨name, hSplit, _⟩ := directory_spec root
  exact ⟨name, hSplit⟩

theorem directory_ne_nil_iff : directory root ≠ [] ↔ '/' ∈ root := by
  obtain ⟨name, hSplit, _, ⟨hEmpty, hNone⟩ | ⟨parents, hDirectory⟩⟩ := directory_spec root
  · simp [hEmpty, hNone]
  · have hSlash : '/' ∈ directory root := by simp [hDirectory]
    refine ⟨fun _ => (directory_begins root).subset hSlash, fun _ => ?_⟩
    exact List.ne_nil_of_mem hSlash

/-- The root in a directory has the empty key. -/
theorem relativeKey_root (hSlash : '/' ∈ root) : relativeKey root root = [] := by
  simp [relativeKey, directory_ne_nil_iff.2 hSlash]

/-- Any other key below a root is the directory of the root and what it is kept under. -/
theorem directory_append_relativeKey (hBelow : root <+: key)
    (hOther : ¬ (key = root ∧ '/' ∈ root)) :
    directory root ++ relativeKey root key = key := by
  by_cases hSlash : '/' ∈ root
  · have hDirectory : directory root ≠ [] := directory_ne_nil_iff.2 hSlash
    have hKey : key ≠ root := fun hSame => hOther ⟨hSame, hSlash⟩
    obtain ⟨rest, hRest⟩ := (directory_begins root).trans hBelow
    have hPrefix : (directory root).isPrefixOf key = true :=
      List.isPrefixOf_iff_prefix.2 ⟨rest, hRest⟩
    simp only [relativeKey, hDirectory, if_false, hKey, hPrefix, if_true]
    rw [← hRest, List.drop_left]
  · have hDirectory : directory root = [] := by
      by_contra hSome
      exact hSlash (directory_ne_nil_iff.1 hSome)
    simp [relativeKey, hDirectory]

/-- The directory of a root is not below the root unless it is the root. -/
theorem eq_of_relativeKey_nil (hBelow : root <+: key)
    (hEmpty : relativeKey root key = []) : key = root := by
  by_contra hKey
  have hAppend := directory_append_relativeKey hBelow fun h => hKey h.1
  rw [hEmpty, List.append_nil] at hAppend
  have hLength : root.length = key.length :=
    Nat.le_antisymm hBelow.length_le (hAppend ▸ (directory_begins root).length_le)
  exact hKey (hBelow.eq_of_length hLength).symm

/-- Different keys below a root are kept under different keys. -/
theorem relativeKey_injective (hBelow : root <+: key) (hBelow' : root <+: key')
    (hSame : relativeKey root key = relativeKey root key') : key = key' := by
  by_cases hRoot : key = root ∧ '/' ∈ root
  · obtain ⟨rfl, hSlash⟩ := hRoot
    rw [relativeKey_root hSlash] at hSame
    exact (eq_of_relativeKey_nil hBelow' hSame.symm).symm
  · by_cases hRoot' : key' = root ∧ '/' ∈ root
    · obtain ⟨rfl, hSlash⟩ := hRoot'
      rw [relativeKey_root hSlash] at hSame
      exact eq_of_relativeKey_nil hBelow hSame
    · rw [← directory_append_relativeKey hBelow hRoot, hSame,
        directory_append_relativeKey hBelow' hRoot']

/-- What the store lists below a root: each key once, and every key begins with the root. -/
structure IsListing (root : String) (entries : List Entry) : Prop where
  once : (entries.map Entry.key).Nodup
  below : ∀ e ∈ entries, root.toList <+: e.key.toList

theorem relativeKeyString_injective {root k k' : String} (hBelow : root.toList <+: k.toList)
    (hBelow' : root.toList <+: k'.toList)
    (hSame : relativeKeyString root k = relativeKeyString root k') : k = k' := by
  have hChars : relativeKey root.toList k.toList = relativeKey root.toList k'.toList := by
    simpa [relativeKeyString, String.ofList_inj] using hSame
  exact String.toList_inj.1 (relativeKey_injective hBelow hBelow' hChars)

end Kv

namespace Agent

open Kv

section

variable (root : String) (settings : Settings) (base : Query) (consumer : Nat → Reaction)

/-- The snapshot of a listing has all of it. -/
theorem build_listing {entries : List Entry} (hListing : IsListing (normalizeRoot root) entries) :
    let feed := (subtree root).feed settings base consumer
    (Snapshot.build feed.keyOf entries).repeated = [] ∧
      ∃ s, (Snapshot.build feed.keyOf entries).outcome = .ok s ∧
        s.entries = entries.map fun e => (relativeKeyString (normalizeRoot root) e.key, e) := by
  intro feed
  have hKeys : (entries.map fun e => relativeKeyString (normalizeRoot root) e.key).Nodup := by
    have hOnce : entries.Pairwise fun v w => v.key ≠ w.key := List.pairwise_map.1 hListing.once
    refine List.pairwise_map.2 (hOnce.imp_of_mem fun hv hw hOther hSame => ?_)
    exact hOther (relativeKeyString_injective (hListing.below _ hv) (hListing.below _ hw) hSame)
  have hDistinct : Snapshot.Distinct feed.keyOf entries := Snapshot.distinct_iff_nodup.2 hKeys
  obtain ⟨hNone, ⟨p, ⟨v, _, hPanic⟩, _⟩ | ⟨s, hHolds, hBuild⟩⟩ :=
    Snapshot.build_of_distinct hDistinct
  · cases hPanic
  · refine ⟨hNone, s, hBuild, ?_⟩
    have hKey : ∀ e ∈ s.entries, (relativeKeyString (normalizeRoot root) e.2.key, e.2) = e := by
      intro e he
      have hKeyed : relativeKeyString (normalizeRoot root) e.2.key = e.1 :=
        Except.ok.inj (hHolds.keyed e he)
      rw [hKeyed]
    rw [← hHolds.entries, List.map_map]
    exact ((List.map_congr_left hKey).trans (List.map_id _)).symm

/-- Where the store lists what lies below the root, all of it is read. -/
theorem reads_listing {entries : List Entry} (hListing : IsListing (normalizeRoot root) entries)
    {new : List (Event String Entry)} {e : Event String Entry}
    (hReads : Cache.Reads ((subtree root).feed settings base consumer) entries new)
    (hMember : e ∈ new) :
    ∃ s, e = .published s ∧
      s.entries = entries.map fun e => (relativeKeyString (normalizeRoot root) e.key, e) := by
  obtain ⟨hNone, s, hBuild, hEntries⟩ := build_listing root settings base consumer hListing
  cases hReads with
  | ignored => cases hMember
  | noted =>
      rw [hNone] at hMember
      cases hMember
  | published hBuild' =>
      rw [hNone, List.map_nil, List.nil_append, List.mem_singleton] at hMember
      have hSame := Except.ok.inj (hBuild'.symm.trans hBuild)
      exact ⟨_, hMember, hSame ▸ hEntries⟩

/-- Where the store lists what lies below the root, the log hears of no key twice, and whatever is
published is one of the listings. -/
theorem replay_listings {run : List (Happening Entry)}
    (hRun : ∀ acts entries index, .answer acts (.entries entries index) ∈ run →
      IsListing (normalizeRoot root) entries) :
    let c := (Cache.initial : Cache String Entry).replay
      ((subtree root).feed settings base consumer) run
    c.core.events.filter Event.isRepeatWarning = [] ∧
      ∀ s ∈ c.core.published, ∃ acts entries index,
        .answer acts (.entries entries index) ∈ run ∧
          s.entries = entries.map fun e => (relativeKeyString (normalizeRoot root) e.key, e) := by
  intro c
  let feed := (subtree root).feed settings base consumer
  have hComes {e : Event String Entry} (hMember : e ∈ c.core.events) (hMajor : e.isMajor = true) :
      Cache.Comes feed run e :=
    Cache.comes_of_mem feed run (Core.mem_outline hMember hMajor)
  constructor
  · refine List.filter_eq_nil_iff.2 fun e hMember hWarning => ?_
    rcases (hComes hMember (Event.isMajor_of_isRepeatWarning hWarning)).cases with
      ⟨_, rfl⟩ | ⟨_, _, _, _, _, rfl⟩ | ⟨fault, rfl⟩ |
        ⟨acts, entries, index, new, hAnswer, hReads, hNew⟩
    · cases hWarning
    · cases hWarning
    · rw [Event.isRepeatWarning_ofFailure] at hWarning
      cases hWarning
    · obtain ⟨s, rfl, _⟩ := reads_listing root settings base consumer
        (hRun acts entries index hAnswer) hReads hNew
      cases hWarning
  · intro s hPublished
    have hEvent : .published s ∈ c.core.events := Core.mem_published_iff.1 hPublished
    rcases (hComes hEvent rfl).cases with ⟨_, hOther⟩ | ⟨_, _, _, _, _, hOther⟩ | ⟨fault, hOther⟩ |
      ⟨acts, entries, index, new, hAnswer, hReads, hNew⟩
    · cases hOther
    · cases hOther
    · exact (Event.ne_published_of_internal (Event.isInternal_ofFailure _ _ fault) s
        hOther.symm).elim
    · obtain ⟨t, hSame, hEntries⟩ := reads_listing root settings base consumer
        (hRun acts entries index hAnswer) hReads hNew
      cases hSame
      exact ⟨acts, entries, index, hAnswer, hEntries⟩

end

/-- A watch of a subtree loses nothing of what the store lists below the root. Each entry is in the
snapshot, under what follows the directory of the root in its key; the root itself, if it lies in a
directory, is there under the empty key. -/
theorem subtree_keeps_every_entry (root : String) (settings : Settings) (base : Query)
    (consumer : Nat → Reaction) :
    let root' := normalizeRoot root
    let dir := directory root'.toList
    let feed := (subtree root).feed settings base consumer
    (∀ entries, IsListing root' entries →
        (Snapshot.build feed.keyOf entries).repeated = [] ∧
          ∃ s, (Snapshot.build feed.keyOf entries).outcome = .ok s ∧
            s.size = entries.length ∧
            s.entries = entries.map (fun e => (relativeKeyString root' e.key, e)) ∧
            ∀ e ∈ entries, s.get? (relativeKeyString root' e.key) = some e) ∧
      (∀ run : List (Happening Entry), (∀ acts entries index,
          .answer acts (.entries entries index) ∈ run → IsListing root' entries) →
        let c := (Cache.initial : Cache String Entry).replay feed run
        c.core.events.filter Event.isRepeatWarning = [] ∧
          ∀ s ∈ c.core.published, ∃ acts entries index,
            .answer acts (.entries entries index) ∈ run ∧
              s.entries = entries.map fun e => (relativeKeyString root' e.key, e)) ∧
      (∃ name, dir ++ name = root'.toList ∧ '/' ∉ name ∧
        ((dir = [] ∧ '/' ∉ root'.toList) ∨ ∃ parents, dir = parents ++ ['/'])) ∧
      (∀ k : String, root'.toList <+: k.toList →
        if k = root' ∧ '/' ∈ root'.toList then relativeKeyString root' k = ""
        else dir ++ (relativeKeyString root' k).toList = k.toList) ∧
      ∀ k k' : String, root'.toList <+: k.toList → root'.toList <+: k'.toList →
        relativeKeyString root' k = relativeKeyString root' k' → k = k' := by
  intro root' dir feed
  refine ⟨?_, ?_, directory_spec root'.toList, ?_, ?_⟩
  · intro entries hListing
    obtain ⟨hNone, s, hBuild, hEntries⟩ := build_listing root settings base consumer hListing
    refine ⟨hNone, s, hBuild, ?_, hEntries, ?_⟩
    · rw [Snapshot.size, hEntries, List.length_map]
    · intro e he
      rw [Snapshot.get?_eq_some_iff, hEntries]
      exact List.mem_map.2 ⟨e, he, rfl⟩
  · intro run hRun
    exact replay_listings root settings base consumer hRun
  · intro k hBelow
    split
    · next hRoot =>
        obtain ⟨rfl, hSlash⟩ := hRoot
        rw [relativeKeyString, relativeKey_root hSlash, String.ofList_nil]
    · next hOther =>
        have hChars : ¬ (k.toList = root'.toList ∧ '/' ∈ root'.toList) := fun h =>
          hOther ⟨String.toList_inj.1 h.1, h.2⟩
        rw [relativeKeyString, String.toList_ofList]
        exact directory_append_relativeKey hBelow hChars
  · intro k k' hBelow hBelow'
    exact relativeKeyString_injective hBelow hBelow'

/-- The root is an entry among others, and one of them goes on in the middle of a name. -/
theorem subtree_keeps_every_entry_of_database :
    let entry (key : String) : Entry := ⟨key, none, 0, 0, 0, 0, none⟩
    let entries := [entry "app/db", entry "app/db/host", entry "app/dbs", entry "app/db/"]
    IsListing "app/db" entries ∧
      ∃ s, (Snapshot.build ((subtree "//app/db").feed .default .blank fun _ => .idle).keyOf
          entries).outcome = .ok s ∧
        s.entries.map Prod.fst = ["", "db/host", "dbs", "db/"] := by
  intro entry entries
  have hRoot : normalizeRoot "//app/db" = "app/db" := by decide +kernel
  have hListing : IsListing "app/db" entries := ⟨by decide +kernel, by decide +kernel⟩
  obtain ⟨_, s, hBuild, _, hEntries, _⟩ :=
    (subtree_keeps_every_entry "//app/db" .default .blank fun _ => .idle).1 entries
      (hRoot.symm ▸ hListing)
  refine ⟨hListing, s, hBuild, ?_⟩
  rw [hEntries, hRoot]
  decide +kernel

end Agent

end LongPoll
