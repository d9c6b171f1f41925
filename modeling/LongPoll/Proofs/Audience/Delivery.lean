import LongPoll.Audience
import Mathlib.Data.List.Nodup

/-!
Deliveries in any surroundings.

All that is asked of the surroundings is that they keep their events and that the acts of a callback
do no more than write asides down and let members leave. A delivery is then the calls of the first
targets, as many as the gate lets through, and nothing else reaches the listeners.
-/

namespace LongPoll

namespace Event

variable {K V : Type}

/-- What is to be read off events of which the latest stands first, in the order in which they
happened. -/
def collect {β : Type} (f : Event K V → Option β) (events : List (Event K V)) : List β :=
  events.reverse.filterMap f

/-- What the listener with a number is told by an event. -/
def heardBy (id : Nat) : Event K V → Option (Snapshot K V)
  | .notified l _ s => if l.id = id then some s else none
  | _ => none

/-- What a listener was told by events of which the latest stands first. -/
def heard (id : Nat) (events : List (Event K V)) : List (Snapshot K V) :=
  collect (heardBy id) events

/-- Events that tell no listener anything and publish nothing: records of the log, and what the acts
of a callback write down. -/
def IsAside : Event K V → Prop
  | .log _ | .removed _ _ | .observed _ _ => True
  | _ => False

theorem heardBy_aside {e : Event K V} (h : e.IsAside) (id : Nat) : e.heardBy id = none := by
  cases e <;> first | rfl | exact h.elim

theorem collect_cons {β : Type} {f : Event K V → Option β} (e : Event K V)
    (events : List (Event K V)) : collect f (e :: events) = collect f events ++ (f e).toList := by
  cases h : f e <;> simp [collect, List.filterMap_append, h]

/-- What is read off does not depend on events of which nothing is read. -/
theorem collect_filter {β : Type} {f : Event K V → Option β} {keep : Event K V → Bool}
    (hLeft : ∀ e, keep e = false → f e = none) (events : List (Event K V)) :
    collect f (events.filter keep) = collect f events := by
  induction events with
  | nil => rfl
  | cons e rest ih =>
      cases hKeep : keep e with
      | false => simp [hKeep, collect_cons, ih, hLeft e hKeep]
      | true => simp [hKeep, collect_cons, ih]

theorem heard_cons (id : Nat) (e : Event K V) (events : List (Event K V)) :
    heard id (e :: events) = heard id events ++ (e.heardBy id).toList :=
  collect_cons e events

/-- Only asides were added to events of which the latest stands first. -/
inductive Quiet (before : List (Event K V)) : List (Event K V) → Prop where
  | refl : Quiet before before
  | aside {after : List (Event K V)} (quiet : Quiet before after) (e : Event K V)
      (hAside : e.IsAside) : Quiet before (e :: after)

namespace Quiet

variable {before middle after : List (Event K V)}

theorem trans (quiet : Quiet before middle) (quiet' : Quiet middle after) :
    Quiet before after := by
  induction quiet' with
  | refl => exact quiet
  | aside _ e hAside ih => exact ih.aside e hAside

/-- Where there is nothing to read off an aside, asides do not matter. -/
theorem collect_eq {β : Type} {f : Event K V → Option β} (hAside : ∀ e, e.IsAside → f e = none)
    (quiet : Quiet before after) : collect f after = collect f before := by
  induction quiet with
  | refl => rfl
  | aside _ e hE ih => rw [collect_cons, hAside e hE, ih, Option.toList_none, List.append_nil]

theorem heard_eq (quiet : Quiet before after) (id : Nat) : heard id after = heard id before :=
  quiet.collect_eq fun _ hAside => heardBy_aside hAside id

end Quiet

end Event

namespace Audience

variable {K V : Type} {a b c : Audience K V}

/-- The numbers of the members, in the order of joining. -/
def ids (a : Audience K V) : List Nat := a.members.map fun m => m.id

/-- Members left or were called, and nothing else about the audience has changed. -/
structure Dwindles (a b : Audience K V) : Prop where
  ids : b.ids.Sublist a.ids
  same : b = { a with members := b.members }

namespace Dwindles

theorem refl (a : Audience K V) : a.Dwindles a := ⟨List.Sublist.refl _, rfl⟩

theorem trans (h : a.Dwindles b) (h' : b.Dwindles c) : a.Dwindles c := by
  refine ⟨h'.ids.trans h.ids, ?_⟩
  rw [h'.same, h.same]

theorem latest (h : a.Dwindles b) : b.latest = a.latest := by rw [h.same]

theorem poisoned (h : a.Dwindles b) : b.poisoned = a.poisoned := by rw [h.same]

theorem nextId (h : a.Dwindles b) : b.nextId = a.nextId := by rw [h.same]

end Dwindles

theorem expel_dwindles (a : Audience K V) (id : Nat) : a.Dwindles (a.expel id) :=
  ⟨List.filter_sublist.map _, rfl⟩

theorem leave_dwindles (a : Audience K V) (name : Name) : a.Dwindles (a.leave name).1 := by
  unfold leave
  split
  · exact .refl a
  · exact expel_dwindles a _

theorem ids_countCall (a : Audience K V) (id : Nat) : (a.countCall id).ids = a.ids := by
  simp only [ids, countCall, List.map_map]
  apply List.map_congr_left
  intro m _
  simp only [Function.comp_apply]
  split <;> rfl

theorem countCall_dwindles (a : Audience K V) (id : Nat) : a.Dwindles (a.countCall id) :=
  ⟨by rw [ids_countCall], rfl⟩

/-- No number was given twice, and those to come are new. -/
structure Numbered (a : Audience K V) : Prop where
  nodup : a.ids.Nodup
  lt : ∀ id ∈ a.ids, id < a.nextId

theorem Numbered.empty : (empty : Audience K V).Numbered := ⟨.nil, by simp [ids, Audience.empty]⟩

theorem Numbered.dwindles (hNumbered : a.Numbered) (h : a.Dwindles b) : b.Numbered := by
  refine ⟨hNumbered.nodup.sublist h.ids, ?_⟩
  intro id hId
  rw [h.nextId]
  exact hNumbered.lt id (h.ids.subset hId)

theorem ids_enrol (a : Audience K V) (name : Name) (react : Nat → Reaction) :
    (a.enrol name react).ids = a.ids ++ [a.nextId] := by
  simp [ids, enrol]

theorem Numbered.enrol (h : a.Numbered) (name : Name) (react : Nat → Reaction) :
    (a.enrol name react).Numbered := by
  constructor
  · rw [ids_enrol, List.nodup_append]
    refine ⟨h.nodup, List.nodup_singleton _, ?_⟩
    intro id hId other hOther
    have hLt := h.lt id hId
    simp only [List.mem_singleton] at hOther
    omega
  · intro id hId
    rw [ids_enrol, List.mem_append, List.mem_singleton] at hId
    rcases hId with hOld | hNew
    · exact Nat.lt_succ_of_lt (h.lt id hOld)
    · exact hNew ▸ Nat.lt_succ_self _

end Audience

namespace Setting

variable {α K V : Type}

/-- Surroundings that keep their events, latest first, and in which a callback can do no more than
write asides down and let members leave. -/
structure Keeps (set : Setting α K V) (events : α → List (Event K V)) : Prop where
  record : ∀ e a, events (set.record e a) = e :: events a
  perform : ∀ act (s : Scene α K V),
    Event.Quiet (events s.around) (events (set.perform act s).around)
  dwindles : ∀ act (s : Scene α K V), s.audience.Dwindles (set.perform act s).audience

end Setting

namespace Scene

variable {α K V : Type} {set : Setting α K V} {events : α → List (Event K V)}

/-- Whatever the acts of a callback keep, all acts together keep. -/
theorem performAll_induction {P : Scene α K V → Prop}
    (hAct : ∀ act s, P s → P (set.perform act s)) (acts : List Act) {s : Scene α K V} (h : P s) :
    P (s.performAll set acts) := by
  induction acts generalizing s with
  | nil => exact h
  | cons act acts ih => exact ih (hAct act s h)

theorem performAll_quiet (keeps : set.Keeps events) (acts : List Act) (s : Scene α K V) :
    Event.Quiet (events s.around) (events (s.performAll set acts).around) :=
  performAll_induction (P := fun t => Event.Quiet (events s.around) (events t.around))
    (fun act t h => h.trans (keeps.perform act t)) acts .refl

theorem performAll_dwindles (keeps : set.Keeps events) (acts : List Act) (s : Scene α K V) :
    s.audience.Dwindles (s.performAll set acts).audience :=
  performAll_induction (P := fun t => s.audience.Dwindles t.audience)
    (fun act t h => h.trans (keeps.dwindles act t)) acts (.refl _)

/-- A member was told a snapshot, and has not done anything about it yet. -/
def told (set : Setting α K V) (m : Member) (snapshot : Snapshot K V) (s : Scene α K V) :
    Scene α K V :=
  record set (.notified m.toListener (m.calls + 1) snapshot)
    { s with audience := s.audience.countCall m.id }

/-- A call tells, lets the callback act, and may end with a record of the log. -/
theorem call_cases (set : Setting α K V) (m : Member) (snapshot : Snapshot K V)
    (s : Scene α K V) :
    s.call set m snapshot = (s.told set m snapshot).performAll set (m.react (m.calls + 1)).acts ∨
      ∃ r, endingRecord (m.react (m.calls + 1)).ending = some r ∧ s.call set m snapshot =
        ((s.told set m snapshot).performAll set (m.react (m.calls + 1)).acts).log set r := by
  cases hEnding : endingRecord (m.react (m.calls + 1)).ending with
  | none => exact Or.inl (by simp only [call, told, hEnding])
  | some r => exact Or.inr ⟨r, rfl, by simp only [call, told, hEnding]⟩

/-- One call is one notification; the rest are asides. -/
theorem call_events (keeps : set.Keeps events) (m : Member) (snapshot : Snapshot K V)
    (s : Scene α K V) :
    Event.Quiet (.notified m.toListener (m.calls + 1) snapshot :: events s.around)
      (events (s.call set m snapshot).around) := by
  have hTold : events (s.told set m snapshot).around =
      .notified m.toListener (m.calls + 1) snapshot :: events s.around := keeps.record _ _
  have hActed := performAll_quiet keeps (m.react (m.calls + 1)).acts (s.told set m snapshot)
  rw [hTold] at hActed
  rcases call_cases set m snapshot s with hCall | ⟨r, _, hCall⟩
  · rw [hCall]
    exact hActed
  · rw [hCall, log, record, keeps.record]
    exact hActed.aside (.log r) trivial

theorem call_dwindles (keeps : set.Keeps events) (m : Member) (snapshot : Snapshot K V)
    (s : Scene α K V) : s.audience.Dwindles (s.call set m snapshot).audience := by
  have hActs := (s.audience.countCall_dwindles m.id).trans
    (performAll_dwindles keeps (m.react (m.calls + 1)).acts (s.told set m snapshot))
  rcases call_cases set m snapshot s with hCall | ⟨r, _, hCall⟩
  · rw [hCall]
    exact hActs
  · rw [hCall]
    exact hActs

theorem heard_call (keeps : set.Keeps events) (id : Nat) (m : Member) (snapshot : Snapshot K V)
    (s : Scene α K V) :
    Event.heard id (events (s.call set m snapshot).around) =
      Event.heard id (events s.around) ++ if m.id = id then [snapshot] else [] := by
  rw [(call_events keeps m snapshot s).heard_eq, Event.heard_cons]
  simp only [Event.heardBy]
  split <;> rfl

/-- Members called with a snapshot, one after the other. -/
def callAll (set : Setting α K V) (snapshot : Snapshot K V) (called : List Member)
    (s : Scene α K V) : Scene α K V :=
  called.foldl (fun t m => t.call set m snapshot) s

theorem callAll_dwindles (keeps : set.Keeps events) (snapshot : Snapshot K V)
    (called : List Member) (s : Scene α K V) :
    s.audience.Dwindles (s.callAll set snapshot called).audience := by
  induction called generalizing s with
  | nil => exact .refl _
  | cons m rest ih => exact (call_dwindles keeps m snapshot s).trans (ih _)

/-- Of members called each once, exactly those with the number hear the snapshot. -/
theorem heard_callAll (keeps : set.Keeps events) (id : Nat) (snapshot : Snapshot K V)
    {called : List Member} (hNodup : (called.map fun m => m.id).Nodup) (s : Scene α K V) :
    Event.heard id (events (s.callAll set snapshot called).around) =
      Event.heard id (events s.around) ++
        if id ∈ called.map (fun m => m.id) then [snapshot] else [] := by
  induction called generalizing s with
  | nil => simp [callAll]
  | cons m rest ih =>
      rw [List.map_cons, List.nodup_cons] at hNodup
      have hRest := ih hNodup.2 (s.call set m snapshot)
      rw [heard_call keeps, List.append_assoc] at hRest
      refine hRest.trans ?_
      by_cases hId : m.id = id
      · subst hId
        rw [if_pos rfl, if_neg hNodup.1, List.append_nil, List.map_cons,
          if_pos (List.mem_cons_self ..)]
      · simp only [hId, if_false, List.nil_append, List.map_cons, List.mem_cons, Ne.symm hId,
          false_or]

/-- The audience keeps a snapshot as its latest. -/
def noting (snapshot : Snapshot K V) (s : Scene α K V) : Scene α K V :=
  { s with audience := { s.audience with latest := some snapshot } }

/-- A broadcast is a delivery to the members of the moment it begins. -/
theorem broadcast_eq (gate : Gate α K V) (snapshot : Snapshot K V) {s : Scene α K V}
    (hSound : s.audience.poisoned = false) :
    s.broadcast set gate snapshot =
      deliver set gate snapshot s.audience.members 0 (s.noting snapshot) := by
  rw [broadcast, if_neg (by simp [hSound])]
  rfl

/-- What the log hears of a delivery that its gate cuts short. -/
def interruption : LogRecord :=
  ⟨.debug, "Publish interrupted by stop, skipping remaining listeners", []⟩

/-- A delivery calls targets in order until none is left, the gate is found closed, or the gate
panics. -/
theorem deliver_cases (set : Setting α K V) (gate : Gate α K V) (snapshot : Snapshot K V)
    (targets : List Member) (delivered : Nat) (s : Scene α K V) :
    ∃ called skipped, targets = called ++ skipped ∧
      (skipped = [] ∧ deliver set gate snapshot targets delivered s =
          (s.callAll set snapshot called, .done (delivered + called.length)) ∨
        skipped ≠ [] ∧
          gate (delivered + called.length) (s.callAll set snapshot called) = .closed ∧
          deliver set gate snapshot targets delivered s =
            ((s.callAll set snapshot called).log set interruption,
              .done (delivered + called.length)) ∨
        ∃ p, skipped ≠ [] ∧
          gate (delivered + called.length) (s.callAll set snapshot called) = .panicked p ∧
          deliver set gate snapshot targets delivered s =
            ((s.callAll set snapshot called).poison, .panicked p)) := by
  induction targets generalizing delivered s with
  | nil => exact ⟨[], [], rfl, Or.inl ⟨rfl, rfl⟩⟩
  | cons m rest ih =>
      cases hGate : gate delivered s with
      | panicked p =>
          refine ⟨[], m :: rest, rfl, Or.inr (Or.inr ⟨p, by simp, hGate, ?_⟩)⟩
          simp only [deliver, hGate]
          rfl
      | closed =>
          refine ⟨[], m :: rest, rfl, Or.inr (Or.inl ⟨by simp, hGate, ?_⟩)⟩
          simp only [deliver, hGate]
          rfl
      | «open» =>
          obtain ⟨called, skipped, hSplit, hRest⟩ := ih (delivered + 1) (s.call set m snapshot)
          have hCount : delivered + (m :: called).length = delivered + 1 + called.length := by
            rw [List.length_cons]
            omega
          refine ⟨m :: called, skipped, by rw [hSplit, List.cons_append], ?_⟩
          simp only [deliver, hGate, hCount]
          exact hRest

/-- What each call made while the gate is open keeps, and the end of a cut delivery keeps too, a
whole delivery keeps. -/
theorem deliver_induction {P : Scene α K V → Prop} {gate : Gate α K V} {snapshot : Snapshot K V}
    (hCall : ∀ n m s, P s → gate n s = .open → P (s.call set m snapshot))
    (hClosed : ∀ s, P s → P (s.log set interruption))
    (hPanic : ∀ n s p, P s → gate n s = .panicked p → P s.poison)
    (targets : List Member) (delivered : Nat) {s : Scene α K V} (h : P s) :
    P (deliver set gate snapshot targets delivered s).1 := by
  induction targets generalizing delivered s with
  | nil => exact h
  | cons m rest ih =>
      cases hGate : gate delivered s with
      | panicked p =>
          simp only [deliver, hGate]
          exact hPanic delivered s p h hGate
      | closed =>
          simp only [deliver, hGate]
          exact hClosed s h
      | «open» =>
          simp only [deliver, hGate]
          exact ih (delivered + 1) (hCall delivered m s h hGate)

/-- A newcomer is on the list, and no name means it yet. -/
def enrolled (name : Name) (react : Nat → Reaction) (s : Scene α K V) : Scene α K V :=
  { s with audience := s.audience.enrol name react }

/-- What the log hears when a newcomer is about to be told the latest snapshot. -/
def welcome (snapshot : Snapshot K V) : LogRecord :=
  ⟨.debug, "Delivering latest snapshot to new listener",
    [("entries", Text.writeNatural snapshot.size)]⟩

/-- A newcomer is told the latest snapshot. -/
def greeted (set : Setting α K V) (name : Name) (react : Nat → Reaction) (snapshot : Snapshot K V)
    (s : Scene α K V) : Scene α K V :=
  ((s.enrolled name react).log set (welcome snapshot)).call set
    ⟨⟨s.audience.nextId, name⟩, react, 0⟩ snapshot

/-- What a joining does to an audience that can deliver. -/
theorem join_eq (gate : Gate α K V) (name : Name) (react : Nat → Reaction) {s : Scene α K V}
    (hSound : s.audience.poisoned = false) :
    s.join set gate name react =
      match s.audience.latest with
      | none => ((s.enrolled name react).introduce name s.audience.nextId, .done ())
      | some snapshot =>
        match gate 0 (s.enrolled name react) with
        | .panicked p => ((s.enrolled name react).poison, .panicked p)
        | .closed => ((s.enrolled name react).introduce name s.audience.nextId, .done ())
        | .open =>
          ((s.greeted set name react snapshot).introduce name s.audience.nextId, .done ()) := by
  rw [join, if_neg (by simp [hSound])]
  rfl

theorem greeted_dwindles (keeps : set.Keeps events) (name : Name) (react : Nat → Reaction)
    (snapshot : Snapshot K V) (s : Scene α K V) :
    (s.audience.enrol name react).Dwindles (s.greeted set name react snapshot).audience :=
  call_dwindles keeps ⟨⟨s.audience.nextId, name⟩, react, 0⟩ snapshot
    ((s.enrolled name react).log set (welcome snapshot))

/-- Of all listeners only the newcomer hears its greeting. -/
theorem heard_greeted (keeps : set.Keeps events) (id : Nat) (name : Name) (react : Nat → Reaction)
    (snapshot : Snapshot K V) (s : Scene α K V) :
    Event.heard id (events (s.greeted set name react snapshot).around) =
      Event.heard id (events s.around) ++ if s.audience.nextId = id then [snapshot] else [] := by
  have hLogged : events ((s.enrolled name react).log set (welcome snapshot)).around =
      .log (welcome snapshot) :: events s.around := keeps.record _ _
  have hQuiet : Event.Quiet (events s.around) (.log (welcome snapshot) :: events s.around) :=
    Event.Quiet.refl.aside _ trivial
  rw [greeted, heard_call keeps, hLogged, hQuiet.heard_eq]

/-- All that a joining can come to, in an audience that can deliver. The newcomer is enrolled in
every case, and greeted exactly if there is a latest snapshot and the gate is open. -/
theorem join_cases (set : Setting α K V) (gate : Gate α K V) (name : Name)
    (react : Nat → Reaction) {s : Scene α K V}
    (hSound : s.audience.poisoned = false) :
    s.audience.latest = none ∧
        s.join set gate name react =
          ((s.enrolled name react).introduce name s.audience.nextId, .done ()) ∨
      ∃ snapshot, s.audience.latest = some snapshot ∧
        (gate 0 (s.enrolled name react) = .closed ∧
            s.join set gate name react =
              ((s.enrolled name react).introduce name s.audience.nextId, .done ()) ∨
          gate 0 (s.enrolled name react) = .open ∧
            s.join set gate name react =
              ((s.greeted set name react snapshot).introduce name s.audience.nextId, .done ()) ∨
          ∃ p, gate 0 (s.enrolled name react) = .panicked p ∧
            s.join set gate name react = ((s.enrolled name react).poison, .panicked p)) := by
  rw [join_eq gate name react hSound]
  cases s.audience.latest with
  | none => exact Or.inl ⟨rfl, rfl⟩
  | some snapshot =>
      refine Or.inr ⟨snapshot, rfl, ?_⟩
      cases gate 0 (s.enrolled name react) with
      | panicked p => exact Or.inr (Or.inr ⟨p, rfl, rfl⟩)
      | closed => exact Or.inl ⟨rfl, rfl⟩
      | «open» => exact Or.inr (Or.inl ⟨rfl, rfl⟩)

/-- A removal by a callback changes nothing, or lets a member leave and says so. -/
theorem removeBy_cases (target : Name) (s : Scene α K V) :
    s.removeBy set target = s ∨ ∃ found, s.removeBy set target =
      record set (.removed target found) { s with audience := (s.audience.leave target).1 } := by
  unfold removeBy
  split
  · exact Or.inl rfl
  · next audience found hLeave => exact Or.inr ⟨found, by rw [hLeave]⟩

theorem removeBy_quiet (hRecord : ∀ e a, events (set.record e a) = e :: events a) (target : Name)
    (s : Scene α K V) :
    Event.Quiet (events s.around) (events (s.removeBy set target).around) := by
  rcases removeBy_cases target s with hSame | ⟨found, hLeft⟩
  · rw [hSame]
    exact .refl
  · rw [hLeft, record, hRecord]
    exact Event.Quiet.refl.aside _ trivial

theorem removeBy_dwindles (target : Name) (s : Scene α K V) :
    s.audience.Dwindles (s.removeBy set target).audience := by
  rcases removeBy_cases target s with hSame | ⟨found, hLeft⟩
  · rw [hSame]
    exact .refl _
  · rw [hLeft]
    exact s.audience.leave_dwindles target

/-- A gate that is never anything but open lets every target be called. -/
theorem deliver_open {gate : Gate α K V} (hOpen : ∀ n s, gate n s = .open)
    (snapshot : Snapshot K V) (targets : List Member) (delivered : Nat) (s : Scene α K V) :
    deliver set gate snapshot targets delivered s =
      (s.callAll set snapshot targets, .done (delivered + targets.length)) := by
  obtain ⟨called, skipped, hSplit, hCases⟩ := deliver_cases set gate snapshot targets delivered s
  rcases hCases with ⟨rfl, hAll⟩ | ⟨_, hGate, _⟩ | ⟨p, _, hGate, _⟩
  · rw [List.append_nil] at hSplit
    rw [hAll, hSplit]
  · simp [hOpen] at hGate
  · simp [hOpen] at hGate

end Scene

end LongPoll
