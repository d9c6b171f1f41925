import LongPoll.Audience.Recital
import LongPoll.Proofs.Audience.Delivery

/-!
What each listener of an audience by itself hears.

Deeds are done to a fresh audience one after the other, and while they last the callbacks may remove
whom they like, fail or panic. As long as the gates are open, a listener hears the snapshot that was
the latest when it joined, and then each snapshot published while it was a member, once and in
order. Whether it is a member is decided when a publication begins, so one that is removed by an
earlier callback of the same publication still hears it.
-/

namespace LongPoll

namespace Recital

variable {K V : Type}

/-- What is done to an audience from outside, with the gate that is asked. -/
inductive Deed (K V : Type) where
  | join (gate : Gate (List (Event K V)) K V) (name : Name) (react : Nat → Reaction)
  | leave (name : Name)
  | publish (gate : Gate (List (Event K V)) K V) (snapshot : Snapshot K V)

namespace Deed

/-- The snapshot that a deed publishes. -/
def snapshot? : Deed K V → Option (Snapshot K V)
  | .publish _ snapshot => some snapshot
  | _ => none

/-- The gate of the deed never answers anything but true. -/
def IsOpen : Deed K V → Prop
  | .join gate _ _ | .publish gate _ => ∀ n s, gate n s = .open
  | .leave _ => True

end Deed

/-- The audience after a deed. -/
def after (s : Recital K V) : Deed K V → Recital K V
  | .join gate name react => (s.join setting gate name react).1
  | .leave name => { s with audience := (s.audience.leave name).1 }
  | .publish gate snapshot => (s.broadcast setting gate snapshot).1

/-- The audience after some deeds in order. -/
def play (deeds : List (Deed K V)) (s : Recital K V) : Recital K V := deeds.foldl after s

/-- All snapshots published by some deeds, in order. -/
def published (deeds : List (Deed K V)) : List (Snapshot K V) := deeds.filterMap Deed.snapshot?

/-- What a listener has heard so far. -/
def heard (id : Nat) (s : Recital K V) : List (Snapshot K V) := Event.heard id s.around

/-- The snapshots of the publications that begin while the listener is a member. -/
def attended (id : Nat) : List (Deed K V) → Recital K V → List (Snapshot K V)
  | [], _ => []
  | deed :: rest, s =>
    (if id ∈ s.audience.ids then deed.snapshot?.toList else []) ++ attended id rest (after s deed)

theorem setting_keeps : (setting : Setting (List (Event K V)) K V).Keeps id where
  record _ _ := rfl
  perform act s := by
    cases act with
    | stop => exact .refl
    | observe => exact .refl
    | remove target => exact Scene.removeBy_quiet (fun _ _ => rfl) target s
  dwindles act s := by
    cases act with
    | stop => exact .refl _
    | observe => exact .refl _
    | remove target => exact Scene.removeBy_dwindles target s

/-- An audience that can deliver, with numbers of which those to come were never heard of. -/
structure Sound (s : Recital K V) : Prop where
  able : s.audience.poisoned = false
  numbered : s.audience.Numbered
  fresh : ∀ id, s.audience.nextId ≤ id → heard id s = []

theorem Sound.initial : (initial : Recital K V).Sound := ⟨rfl, .empty, fun _ _ => rfl⟩

/-- What an open deed does: to the latest snapshot, to who is a member, and to what each number
hears. A number is heard of first when it is given. -/
structure Advances (deed : Deed K V) (s t : Recital K V) : Prop where
  latest : t.audience.latest = (deed.snapshot? <|> s.audience.latest)
  nextId : s.audience.nextId ≤ t.audience.nextId
  members : ∀ id < s.audience.nextId, id ∈ t.audience.ids → id ∈ s.audience.ids
  heard : ∀ id < s.audience.nextId, t.heard id = s.heard id ++
    if id ∈ s.audience.ids then deed.snapshot?.toList else []

theorem leave_advances {s : Recital K V} (hSound : s.Sound) (name : Name) :
    (s.after (.leave name)).Sound ∧ Advances (.leave name) s (s.after (.leave name)) := by
  have hDwindles := s.audience.leave_dwindles name
  refine ⟨⟨hDwindles.poisoned.trans hSound.able, hSound.numbered.dwindles hDwindles, ?_⟩, ?_⟩
  · intro id hId
    exact hSound.fresh id (hDwindles.nextId ▸ hId)
  · refine ⟨hDwindles.latest, Nat.le_of_eq hDwindles.nextId.symm, ?_, ?_⟩
    · exact fun id _ hId => hDwindles.ids.subset hId
    · intro id _
      simp only [Deed.snapshot?, Option.toList, ite_self, List.append_nil]
      rfl

theorem publish_advances {s : Recital K V} (hSound : s.Sound) {gate : Gate (List (Event K V)) K V}
    (hOpen : ∀ n s, gate n s = .open) (snapshot : Snapshot K V) :
    (s.after (.publish gate snapshot)).Sound ∧
      Advances (.publish gate snapshot) s (s.after (.publish gate snapshot)) := by
  let noted : Recital K V := s.noting snapshot
  have hAfter : s.after (.publish gate snapshot) =
      noted.callAll setting snapshot s.audience.members := by
    rw [after, Scene.broadcast_eq gate snapshot hSound.able, Scene.deliver_open hOpen]
  have hDwindles := Scene.callAll_dwindles setting_keeps snapshot s.audience.members noted
  have hHeard (id : Nat) : heard id (noted.callAll setting snapshot s.audience.members) =
      heard id s ++ if id ∈ s.audience.ids then [snapshot] else [] :=
    Scene.heard_callAll setting_keeps id snapshot hSound.numbered.nodup noted
  have hNumbered : noted.audience.Numbered := ⟨hSound.numbered.nodup, hSound.numbered.lt⟩
  rw [hAfter]
  refine ⟨⟨hDwindles.poisoned.trans hSound.able, hNumbered.dwindles hDwindles, ?_⟩, ?_⟩
  · intro id hId
    have hNew : s.audience.nextId ≤ id := Nat.le_trans (Nat.le_of_eq hDwindles.nextId.symm) hId
    have hAbsent : id ∉ s.audience.ids := fun hMem =>
      Nat.not_lt.2 hNew (hSound.numbered.lt id hMem)
    rw [hHeard, hSound.fresh id hNew, if_neg hAbsent, List.append_nil]
  · exact ⟨hDwindles.latest, Nat.le_of_eq hDwindles.nextId.symm,
      fun id _ hId => hDwindles.ids.subset hId, fun id _ => hHeard id⟩

/-- A newcomer hears the latest snapshot before its joining is complete. Nobody else hears
anything. -/
theorem join_advances {s : Recital K V} (hSound : s.Sound) {gate : Gate (List (Event K V)) K V}
    (hOpen : ∀ n s, gate n s = .open) (name : Name) (react : Nat → Reaction) :
    (s.after (.join gate name react)).Sound ∧
      Advances (.join gate name react) s (s.after (.join gate name react)) ∧
      (s.after (.join gate name react)).audience.nextId = s.audience.nextId + 1 ∧
      (s.after (.join gate name react)).heard s.audience.nextId = s.audience.latest.toList ∧
      (s.join setting gate name react).2 = .done () := by
  obtain ⟨t, hJoin, hDwindles, hHeard⟩ : ∃ t : Recital K V,
      s.join setting gate name react = (t.introduce name s.audience.nextId, .done ()) ∧
      (s.audience.enrol name react).Dwindles t.audience ∧
      ∀ id, t.heard id = s.heard id ++
        if s.audience.nextId = id then s.audience.latest.toList else [] := by
    rcases Scene.join_cases setting gate name react hSound.able with
      ⟨hLatest, hJoin⟩ | ⟨snapshot, hLatest, ⟨hGate, _⟩ | ⟨_, hJoin⟩ | ⟨p, hGate, _⟩⟩
    · refine ⟨s.enrolled name react, hJoin, .refl _, fun id => ?_⟩
      simp only [hLatest, Option.toList_none, ite_self, List.append_nil]
      rfl
    · simp [hOpen] at hGate
    · refine ⟨s.greeted setting name react snapshot, hJoin,
        Scene.greeted_dwindles setting_keeps name react snapshot s, fun id => ?_⟩
      rw [hLatest]
      exact Scene.heard_greeted setting_keeps id name react snapshot s
    · simp [hOpen] at hGate
  have hAfter : s.after (.join gate name react) = t.introduce name s.audience.nextId :=
    congrArg Prod.fst hJoin
  have hNumbered := (hSound.numbered.enrol name react).dwindles hDwindles
  have hNext : t.audience.nextId = s.audience.nextId + 1 := hDwindles.nextId
  rw [hAfter]
  refine ⟨⟨hDwindles.poisoned.trans hSound.able, ⟨hNumbered.nodup, hNumbered.lt⟩, ?_⟩,
    ⟨hDwindles.latest, ?_, ?_, ?_⟩, hNext, ?_, congrArg Prod.snd hJoin⟩
  · intro id (hId : t.audience.nextId ≤ id)
    refine (hHeard id).trans ?_
    rw [hSound.fresh id (by omega), if_neg (by omega), List.nil_append]
  · change s.audience.nextId ≤ t.audience.nextId
    omega
  · intro id hLt hId
    have hOld := hDwindles.ids.subset hId
    rw [Audience.ids_enrol, List.mem_append, List.mem_singleton] at hOld
    exact hOld.resolve_right (Nat.ne_of_lt hLt)
  · intro id hLt
    refine (hHeard id).trans ?_
    rw [if_neg (Nat.ne_of_gt hLt)]
    simp only [Deed.snapshot?, Option.toList_none, ite_self]
  · refine (hHeard _).trans ?_
    rw [hSound.fresh _ (Nat.le_refl _), if_pos rfl, List.nil_append]

theorem after_advances {s : Recital K V} (hSound : s.Sound) {deed : Deed K V}
    (hOpen : deed.IsOpen) :
    (s.after deed).Sound ∧ Advances deed s (s.after deed) := by
  cases deed with
  | join gate name react =>
      obtain ⟨hAfter, hAdvances, _⟩ := join_advances hSound hOpen name react
      exact ⟨hAfter, hAdvances⟩
  | leave name => exact leave_advances hSound name
  | publish gate snapshot => exact publish_advances hSound hOpen snapshot

theorem play_append (first second : List (Deed K V)) (s : Recital K V) :
    play (first ++ second) s = play second (play first s) := List.foldl_append

/-- After any open deeds the latest snapshot is the one published last, if there is one, and no
number is free again. -/
theorem play_sound {deeds : List (Deed K V)} (hOpen : ∀ d ∈ deeds, d.IsOpen) {s : Recital K V}
    (hSound : s.Sound) :
    (play deeds s).Sound ∧
      (play deeds s).audience.latest = ((published deeds).getLast? <|> s.audience.latest) ∧
      s.audience.nextId ≤ (play deeds s).audience.nextId := by
  induction deeds generalizing s with
  | nil => exact ⟨hSound, rfl, Nat.le_refl _⟩
  | cons deed rest ih =>
      obtain ⟨hAfter, hAdvances⟩ := after_advances hSound (hOpen deed (List.mem_cons_self ..))
      obtain ⟨hPlay, hLatest, hNext⟩ := ih (fun d hd => hOpen d (List.mem_cons_of_mem _ hd)) hAfter
      refine ⟨hPlay, hLatest.trans ?_, Nat.le_trans hAdvances.nextId hNext⟩
      rw [hAdvances.latest]
      cases hSnapshot : deed.snapshot? with
      | none => simp [published, hSnapshot]
      | some snapshot =>
          cases hRest : (published rest).getLast? <;>
            simp_all [published, List.getLast?_cons]

/-- What a number given before is told by open deeds is what it attends. -/
theorem heard_play {deeds : List (Deed K V)} (hOpen : ∀ d ∈ deeds, d.IsOpen) {s : Recital K V}
    (hSound : s.Sound) {id : Nat} (hId : id < s.audience.nextId) :
    (play deeds s).heard id = s.heard id ++ attended id deeds s := by
  induction deeds generalizing s with
  | nil => exact (List.append_nil _).symm
  | cons deed rest ih =>
      obtain ⟨hAfter, hAdvances⟩ := after_advances hSound (hOpen deed (List.mem_cons_self ..))
      have hRest := ih (fun d hd => hOpen d (List.mem_cons_of_mem _ hd)) hAfter
        (Nat.lt_of_lt_of_le hId hAdvances.nextId)
      rw [hAdvances.heard id hId, List.append_assoc] at hRest
      exact hRest

/-- A number that is gone does not come back, so it attends nothing more. -/
theorem attended_of_not_mem {deeds : List (Deed K V)} (hOpen : ∀ d ∈ deeds, d.IsOpen)
    {s : Recital K V} (hSound : s.Sound) {id : Nat} (hId : id < s.audience.nextId)
    (hGone : id ∉ s.audience.ids) : attended id deeds s = [] := by
  induction deeds generalizing s with
  | nil => rfl
  | cons deed rest ih =>
      obtain ⟨hAfter, hAdvances⟩ := after_advances hSound (hOpen deed (List.mem_cons_self ..))
      rw [attended, if_neg hGone, List.nil_append]
      exact ih (fun d hd => hOpen d (List.mem_cons_of_mem _ hd)) hAfter
        (Nat.lt_of_lt_of_le hId hAdvances.nextId) fun hMem => hGone (hAdvances.members id hId hMem)

/-- A joining in any history of open deeds succeeds. Before it is complete the newcomer hears the
snapshot published last, if there is one, and later it hears each publication that begins while it
is a member. One that is a member when a publication begins hears it exactly once, whoever is
removed meanwhile; one that is gone hears nothing ever after. -/
theorem heard_eq_latest_append_attended (past future : List (Deed K V))
    (gate : Gate (List (Event K V)) K V) (name : Name) (react : Nat → Reaction)
    (hOpen : ∀ d ∈ past ++ .join gate name react :: future, d.IsOpen) :
    let id := (play past initial).audience.nextId
    let joined := (play past initial).after (.join gate name react)
    ((play past initial).join setting gate name react).2 = .done () ∧
      joined.heard id = (published past).getLast?.toList ∧
      (play future joined).heard id =
        (published past).getLast?.toList ++ attended id future joined ∧
      ∀ earlier gate' snapshot later, future = earlier ++ .publish gate' snapshot :: later →
        (id ∈ (play earlier joined).audience.ids →
          ((play earlier joined).after (.publish gate' snapshot)).heard id =
            (play earlier joined).heard id ++ [snapshot]) ∧
        (id ∉ (play earlier joined).audience.ids →
          (play future joined).heard id = (play earlier joined).heard id) := by
  intro id joined
  have hPast : ∀ d ∈ past, d.IsOpen := fun d hd => hOpen d (List.mem_append_left _ hd)
  have hFuture : ∀ d ∈ future, d.IsOpen := fun d hd =>
    hOpen d (List.mem_append_right _ (List.mem_cons_of_mem _ hd))
  have hGate : ∀ n s, gate n s = .open :=
    hOpen (.join gate name react) (List.mem_append_right _ (List.mem_cons_self ..))
  obtain ⟨hSound, hLatest, _⟩ := play_sound hPast (Sound.initial (K := K) (V := V))
  obtain ⟨hJoined, _, hNext, hHeard, hDone⟩ := join_advances hSound hGate name react
  have hFirst : joined.heard id = (published past).getLast?.toList := by
    refine hHeard.trans (congrArg Option.toList (hLatest.trans ?_))
    cases (published past).getLast? <;> rfl
  have hId : id < joined.audience.nextId := by
    rw [hNext]
    exact Nat.lt_succ_self _
  refine ⟨hDone, hFirst, by rw [heard_play hFuture hJoined hId, hFirst], ?_⟩
  rintro earlier gate' snapshot later rfl
  have hEarlier : ∀ d ∈ earlier, d.IsOpen := fun d hd => hFuture d (List.mem_append_left _ hd)
  have hRest : ∀ d ∈ .publish gate' snapshot :: later, d.IsOpen := fun d hd =>
    hFuture d (List.mem_append_right _ hd)
  obtain ⟨hMiddle, _, hMonotone⟩ := play_sound hEarlier hJoined
  have hKnown : id < (play earlier joined).audience.nextId := Nat.lt_of_lt_of_le hId hMonotone
  constructor
  · intro hMember
    obtain ⟨_, hAdvances⟩ := publish_advances hMiddle (hRest _ (List.mem_cons_self ..)) snapshot
    rw [hAdvances.heard id hKnown, if_pos hMember]
    rfl
  · intro hGone
    rw [play_append, heard_play hRest hMiddle hKnown,
      attended_of_not_mem hRest hMiddle hKnown hGone, List.append_nil]

/-- The listener added first removes the second while both are told the first snapshot. The second
still hears that one, and not the next. -/
theorem heard_of_removed_meanwhile :
    let remover : Deed Nat Nat := .join alwaysOpen "a" fun _ => ⟨[.remove "b"], .returned⟩
    let first : Snapshot Nat Nat := ⟨[(1, 1)], by decide⟩
    let second : Snapshot Nat Nat := ⟨[(2, 2)], by decide⟩
    let future : List (Deed Nat Nat) := [.publish alwaysOpen first, .publish alwaysOpen second]
    (∀ d ∈ remover :: .join alwaysOpen "b" (fun _ => .idle) :: future, d.IsOpen) ∧
      (play (remover :: .join alwaysOpen "b" (fun _ => .idle) :: future) initial).heard 1 =
        [first] := by
  intro remover first second future
  have hOpen : ∀ d ∈ [remover] ++ .join alwaysOpen "b" (fun _ => .idle) :: future, d.IsOpen := by
    simp [remover, future, Deed.IsOpen, alwaysOpen]
  obtain ⟨_, _, hHeard, _⟩ := heard_eq_latest_append_attended [remover] future alwaysOpen "b"
    (fun _ => .idle) hOpen
  refine ⟨hOpen, hHeard.trans ?_⟩
  rfl

end Recital

end LongPoll
