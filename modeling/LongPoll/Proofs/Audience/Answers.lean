import LongPoll.Proofs.Audience.Attendance

/-!
What gates answer, and what comes of it.

A gate is asked before every call, and its first answer other than yes ends the delivery. So the
answers of a gate say how many targets were called and how the delivery ended. The calls themselves
do to an audience what their acts say: those that are named leave, and everybody else stays, in
order.
-/

namespace LongPoll

namespace Event

variable {K V : Type}

/-- Who is called, and with what. -/
def call? : Event K V → Option (Listener × Snapshot K V)
  | .notified l _ s => some (l, s)
  | _ => none

/-- All calls, in order, of events of which the latest stands first. -/
def calls (events : List (Event K V)) : List (Listener × Snapshot K V) := collect call? events

theorem call?_aside {e : Event K V} (h : e.IsAside) : e.call? = none := by
  cases e <;> first | rfl | exact h.elim

end Event

namespace Verdict

/-- How often a gate says yes before it says anything else. -/
def yeses (answers : List Verdict) : Nat := (answers.takeWhile fun v => v = .open).length

theorem yeses_replicate (n : Nat) : yeses (List.replicate n .open) = n := by
  simp [yeses]

theorem yeses_concat {v : Verdict} (h : v ≠ .open) (n : Nat) :
    yeses (List.replicate n .open ++ [v]) = n := by
  simp [yeses, h]

end Verdict

/-- The outcome, with its result changed. -/
def Outcome.map {ρ σ : Type} (f : ρ → σ) : Outcome ρ → Outcome σ
  | .done result => .done (f result)
  | .refused fault => .refused fault
  | .panicked p => .panicked p

namespace Scene

variable {α K V : Type} {set : Setting α K V} {events : α → List (Event K V)}

theorem calls_call (keeps : set.Keeps events) (m : Member) (snapshot : Snapshot K V)
    (s : Scene α K V) :
    Event.calls (events (s.call set m snapshot).around) =
      Event.calls (events s.around) ++ [(m.toListener, snapshot)] := by
  rw [Event.calls, (call_events keeps m snapshot s).collect_eq fun _ => Event.call?_aside,
    Event.collect_cons]
  rfl

theorem calls_callAll (keeps : set.Keeps events) (snapshot : Snapshot K V) (called : List Member)
    (s : Scene α K V) :
    Event.calls (events (s.callAll set snapshot called).around) =
      Event.calls (events s.around) ++ called.map fun m => (m.toListener, snapshot) := by
  induction called generalizing s with
  | nil => simp [callAll]
  | cons m rest ih =>
      have hRest := ih (s.call set m snapshot)
      rw [calls_call keeps, List.append_assoc] at hRest
      exact hRest

/-- What the gate of a delivery answers, in order. -/
def answers (set : Setting α K V) (gate : Gate α K V) (snapshot : Snapshot K V) :
    List Member → Nat → Scene α K V → List Verdict
  | [], _, _ => []
  | m :: rest, delivered, s =>
    gate delivered s ::
      if gate delivered s = .open then
        answers set gate snapshot rest (delivered + 1) (s.call set m snapshot)
      else []

/-- The gate is asked before each call, with the number of those made so far. -/
theorem eq_gate_of_getElem?_answers (set : Setting α K V) (gate : Gate α K V)
    (snapshot : Snapshot K V) {targets : List Member} {delivered : Nat} {s : Scene α K V} {k : Nat}
    {v : Verdict} (h : (answers set gate snapshot targets delivered s)[k]? = some v) :
    v = gate (delivered + k) (s.callAll set snapshot (targets.take k)) := by
  induction targets generalizing delivered s k with
  | nil => simp [answers] at h
  | cons m rest ih =>
      cases k with
      | zero => simpa [answers, callAll, eq_comm] using h
      | succ k =>
          by_cases hOpen : gate delivered s = .open
          · rw [answers, if_pos hOpen, List.getElem?_cons_succ] at h
            have hRest := ih h
            rw [Nat.add_assoc, Nat.add_comm 1 k] at hRest
            exact hRest
          · simp [answers, hOpen] at h

/-- A delivery does not depend on its gate but for the answers. -/
theorem deliver_eq_of_answers (set : Setting α K V) {gate gate' : Gate α K V}
    (snapshot : Snapshot K V) {targets : List Member} {delivered : Nat} {s : Scene α K V}
    (hSame : ∀ k v, (answers set gate snapshot targets delivered s)[k]? = some v →
      ∀ t, gate' (delivered + k) t = v) :
    deliver set gate' snapshot targets delivered s =
      deliver set gate snapshot targets delivered s := by
  induction targets generalizing delivered s with
  | nil => rfl
  | cons m rest ih =>
      have hFirst : gate' delivered s = gate delivered s :=
        hSame 0 (gate delivered s) (by simp [answers]) s
      rw [deliver, deliver, hFirst]
      cases hGate : gate delivered s with
      | panicked p => rfl
      | closed => rfl
      | «open» =>
          refine ih fun k v hAnswer t => ?_
          have hNext : (answers set gate snapshot (m :: rest) delivered s)[k + 1]? = some v := by
            rw [answers, if_pos hGate, List.getElem?_cons_succ]
            exact hAnswer
          rw [Nat.add_assoc, Nat.add_comm 1 k]
          exact hSame (k + 1) v hNext t

/-- After some yeses a delivery has called as many targets. Then no target is left, or the gate has
said no, or it has panicked. -/
theorem deliver_answers (set : Setting α K V) (gate : Gate α K V) (snapshot : Snapshot K V)
    (targets : List Member) (delivered : Nat) (s : Scene α K V) :
    ∃ n, let t := s.callAll set snapshot (targets.take n)
      (n = targets.length ∧
          answers set gate snapshot targets delivered s = List.replicate n .open ∧
          deliver set gate snapshot targets delivered s = (t, .done (delivered + n))) ∨
        (n < targets.length ∧
          answers set gate snapshot targets delivered s = List.replicate n .open ++ [.closed] ∧
          deliver set gate snapshot targets delivered s =
            (t.log set interruption, .done (delivered + n))) ∨
        ∃ p, n < targets.length ∧
          answers set gate snapshot targets delivered s =
            List.replicate n .open ++ [.panicked p] ∧
          deliver set gate snapshot targets delivered s = (t.poison, .panicked p) := by
  induction targets generalizing delivered s with
  | nil => exact ⟨0, Or.inl ⟨rfl, rfl, rfl⟩⟩
  | cons m rest ih =>
      cases hGate : gate delivered s with
      | panicked p =>
          refine ⟨0, Or.inr (Or.inr ⟨p, Nat.succ_pos _, ?_, ?_⟩)⟩
          · simp [answers, hGate]
          · simp only [deliver, hGate]
            rfl
      | closed =>
          refine ⟨0, Or.inr (Or.inl ⟨Nat.succ_pos _, ?_, ?_⟩)⟩
          · simp [answers, hGate]
          · simp only [deliver, hGate]
            rfl
      | «open» =>
          obtain ⟨n, hRest⟩ := ih (delivered + 1) (s.call set m snapshot)
          refine ⟨n + 1, ?_⟩
          have hAnswers : answers set gate snapshot (m :: rest) delivered s =
              .open :: answers set gate snapshot rest (delivered + 1) (s.call set m snapshot) := by
            simp [answers, hGate]
          have hDeliver : deliver set gate snapshot (m :: rest) delivered s =
              deliver set gate snapshot rest (delivered + 1) (s.call set m snapshot) := by
            simp only [deliver, hGate]
          have hCount : delivered + 1 + n = delivered + (n + 1) := by omega
          rw [hCount] at hRest
          simp only [hAnswers, hDeliver, List.length_cons, Nat.add_right_cancel_iff,
            Nat.add_lt_add_iff_right, List.replicate_succ, List.cons_append, List.cons.injEq,
            true_and]
          exact hRest

end Scene

namespace Recital

variable {K V : Type}

/-! ### What calls do to an audience -/

/-- The numbers of those whom some acts remove. -/
def expelled (known : List (Name × Nat)) (acts : List Act) : List Nat :=
  acts.filterMap fun
    | .remove target => known.lookup target
    | _ => none

/-- The members whose numbers are not among the given ones. -/
def without (ids : List Nat) (members : List Member) : List Member :=
  members.filter fun m => m.id ∉ ids

/-- The members, those with the given numbers called once more. -/
def counted (ids : List Nat) (members : List Member) : List Member :=
  members.map fun m => if m.id ∈ ids then { m with calls := m.calls + 1 } else m

/-- The numbers of those whom the callbacks of some members remove in their next calls. -/
def expelledBy (known : List (Name × Nat)) (called : List Member) : List Nat :=
  called.flatMap fun m => expelled known (m.react (m.calls + 1)).acts

theorem without_without (ids ids' : List Nat) (members : List Member) :
    without ids' (without ids members) = without (ids ++ ids') members := by
  simp only [without, List.filter_filter, List.mem_append, not_or, Bool.decide_and, Bool.and_comm]

theorem counted_without (ids ids' : List Nat) (members : List Member) :
    counted ids' (without ids members) = without ids (counted ids' members) := by
  induction members with
  | nil => rfl
  | cons m rest ih =>
      have hId : (if m.id ∈ ids' then { m with calls := m.calls + 1 } else m).id = m.id := by
        split <;> rfl
      simp only [without, counted, List.filter_cons, List.map_cons, hId] at ih ⊢
      split
      · rw [List.map_cons, ih]
      · exact ih

theorem counted_counted {id : Nat} {ids : List Nat} (hNew : id ∉ ids) (members : List Member) :
    counted ids (counted [id] members) = counted (id :: ids) members := by
  simp only [counted, List.map_map]
  refine List.map_congr_left fun m _ => ?_
  by_cases hId : m.id = id
  · subst hId
    simp [hNew]
  · simp [hId]

/-- Leaving takes out the member whom the name means, if it means anybody. -/
theorem leave_eq (a : Audience K V) (name : Name) :
    a.leave name =
      ({ a with members := without (a.known.lookup name).toList a.members },
        (a.known.lookup name).map fun id => decide (id ∈ a.ids)) := by
  cases hKnown : a.known.lookup name with
  | none => simp [Audience.leave, hKnown, without]
  | some id =>
      have hFound : (a.members.any fun m => m.id == id) = decide (id ∈ a.ids) := by
        rw [Bool.eq_iff_iff]
        simp [Audience.ids]
      simp only [Audience.leave, hKnown, hFound]
      simp [Audience.expel, without, bne, beq_eq_decide]

theorem performAll_audience (acts : List Act) (s : Recital K V) :
    (s.performAll setting acts).audience =
      { s.audience with
        members := without (expelled s.audience.known acts) s.audience.members } := by
  induction acts generalizing s with
  | nil => simp [Scene.performAll, expelled, without]
  | cons act rest ih =>
      have hActs : s.performAll setting (act :: rest) =
          (setting.perform act s).performAll setting rest := rfl
      rw [hActs, ih]
      cases act with
      | stop => rfl
      | observe => rfl
      | remove target =>
          have hLeft : (setting.perform (.remove target) s).audience =
              (s.audience.leave target).1 := by
            simp only [setting, perform, Scene.removeBy, leave_eq]
            cases s.audience.known.lookup target <;> simp [without, Scene.record]
          have hFirst : expelled s.audience.known (.remove target :: rest) =
              (s.audience.known.lookup target).toList ++ expelled s.audience.known rest := by
            cases hKnown : s.audience.known.lookup target <;> simp [expelled, hKnown]
          rw [hLeft, leave_eq, hFirst, ← without_without]

theorem call_audience (m : Member) (snapshot : Snapshot K V) (s : Recital K V) :
    (s.call setting m snapshot).audience =
      { s.audience with
        members := without (expelled s.audience.known (m.react (m.calls + 1)).acts)
          (counted [m.id] s.audience.members) } := by
  have hTold : (s.told setting m snapshot).audience =
      { s.audience with members := counted [m.id] s.audience.members } := by
    simp [Scene.told, Scene.record, Audience.countCall, counted]
  rcases Scene.call_cases setting m snapshot s with hCall | ⟨r, _, hCall⟩
  · rw [hCall, performAll_audience, hTold]
  · rw [hCall]
    exact (performAll_audience _ _).trans (by rw [hTold])

/-- Whoever is called may remove members, himself included. Nothing else about the audience
changes, but for the numbers of calls. -/
theorem callAll_audience (snapshot : Snapshot K V) {called : List Member}
    (hNodup : (called.map fun m => m.id).Nodup) (s : Recital K V) :
    (s.callAll setting snapshot called).audience =
      { s.audience with
        members := without (expelledBy s.audience.known called)
          (counted (called.map fun m => m.id) s.audience.members) } := by
  induction called generalizing s with
  | nil => simp [Scene.callAll, expelledBy, without, counted]
  | cons m rest ih =>
      rw [List.map_cons, List.nodup_cons] at hNodup
      have hRest := ih hNodup.2 (s.call setting m snapshot)
      rw [call_audience] at hRest
      refine hRest.trans ?_
      simp only [counted_without, without_without, counted_counted hNodup.1]
      rfl

/-! ### What deeds come to -/

/-- What a deed that is done gives back. -/
inductive Yield where
  | joined
  /-- Whether the member was still there, or `none` if the name means nobody. -/
  | left (found : Option Bool)
  | published (called : Nat)
  deriving DecidableEq

/-- What comes of a deed. -/
def result (s : Recital K V) : Deed K V → Outcome Yield
  | .join gate name react => (s.join setting gate name react).2.map fun _ => .joined
  | .leave name => .done (.left (s.audience.leave name).2)
  | .publish gate snapshot => (s.broadcast setting gate snapshot).2.map .published

/-- What the gate of a deed answers, in order. A gate is not asked by an audience that refuses, nor
for want of a snapshot or a member. -/
def Deed.answers (s : Recital K V) : Deed K V → List Verdict
  | .join gate name react =>
    if s.audience.poisoned ∨ s.audience.latest = none then [] else [gate 0 (s.enrolled name react)]
  | .leave _ => []
  | .publish gate snapshot =>
    if s.audience.poisoned then []
    else Scene.answers setting gate snapshot s.audience.members 0 (s.noting snapshot)

/-- The deed calls listeners, if all goes well. -/
def Deed.Delivers : Deed K V → Prop
  | .leave _ => False
  | _ => True

/-- An audience that cannot deliver refuses, and stays as it is. -/
theorem after_of_poisoned {s : Recital K V} (hPoisoned : s.audience.poisoned = true)
    (deed : Deed K V) (hDelivers : deed.Delivers) :
    s.after deed = s ∧ s.result deed = .refused Scene.poisonedFault := by
  cases deed with
  | join => simp [after, result, Scene.join, hPoisoned, Outcome.map]
  | leave name => exact hDelivers.elim
  | publish => simp [after, result, Scene.broadcast, hPoisoned, Outcome.map]

/-- The deed, with another gate. -/
def Deed.withGate (gate : Gate (List (Event K V)) K V) : Deed K V → Deed K V
  | .join _ name react => .join gate name react
  | .leave name => .leave name
  | .publish _ snapshot => .publish gate snapshot

/-- A deed does not depend on its gate but for the answers. A gate that is not asked does not matter
at all. -/
theorem after_withGate {s : Recital K V} {deed : Deed K V} {gate : Gate (List (Event K V)) K V}
    (hSame : ∀ k v, (deed.answers s)[k]? = some v → ∀ t, gate k t = v) :
    s.after (deed.withGate gate) = s.after deed ∧
      s.result (deed.withGate gate) = s.result deed := by
  cases deed with
  | leave name => exact ⟨rfl, rfl⟩
  | join gate' name react =>
      have hJoin : s.join setting gate name react = s.join setting gate' name react := by
        cases hPoisoned : s.audience.poisoned with
        | true => simp [Scene.join, hPoisoned]
        | false =>
            rw [Scene.join_eq gate name react hPoisoned, Scene.join_eq gate' name react hPoisoned]
            cases hLatest : s.audience.latest with
            | none => rfl
            | some snapshot =>
                have hFirst : gate 0 (s.enrolled name react) = gate' 0 (s.enrolled name react) :=
                  hSame 0 _ (by simp [Deed.answers, hPoisoned, hLatest]) _
                rw [hFirst]
      rw [Deed.withGate, after, after, result, result, hJoin]
      exact ⟨rfl, rfl⟩
  | publish gate' snapshot =>
      have hBroadcast : s.broadcast setting gate snapshot = s.broadcast setting gate' snapshot := by
        cases hPoisoned : s.audience.poisoned with
        | true => simp [Scene.broadcast, hPoisoned]
        | false =>
            rw [Scene.broadcast_eq gate snapshot hPoisoned,
              Scene.broadcast_eq gate' snapshot hPoisoned]
            refine Scene.deliver_eq_of_answers setting snapshot fun k v hAnswer t => ?_
            rw [Nat.zero_add]
            exact hSame k v (by simpa [Deed.answers, hPoisoned] using hAnswer) t
      rw [Deed.withGate, after, after, result, result, hBroadcast]
      exact ⟨rfl, rfl⟩

/-- Some members of `s` have been told a snapshot, which is the latest now. They have been called
once more, those whom they removed are gone, and everybody else has stayed, in order. -/
structure Addressed (snapshot : Snapshot K V) (called : List Member) (s t : Recital K V) :
    Prop where
  calls : Event.calls t.around =
    Event.calls s.around ++ called.map fun m => (m.toListener, snapshot)
  latest : t.audience.latest = some snapshot
  members : t.audience.members =
    without (expelledBy s.audience.known called)
      (counted (called.map fun m => m.id) s.audience.members)
  nextId : t.audience.nextId = s.audience.nextId
  known : t.audience.known = s.audience.known

namespace Addressed

variable {snapshot : Snapshot K V} {called : List Member} {s t : Recital K V}

theorem log (h : Addressed snapshot called s t) (r : LogRecord) :
    Addressed snapshot called s (t.log setting r) :=
  { h with
    calls := by
      refine Eq.trans ?_ h.calls
      exact (Event.collect_cons (.log r) t.around).trans (List.append_nil _) }

theorem poison (h : Addressed snapshot called s t) : Addressed snapshot called s t.poison :=
  { h with }

end Addressed

theorem callAll_addressed (snapshot : Snapshot K V) {called : List Member}
    (hNodup : (called.map fun m => m.id).Nodup) (s : Recital K V) :
    Addressed snapshot called s ((s.noting snapshot).callAll setting snapshot called) where
  calls := Scene.calls_callAll setting_keeps snapshot called (s.noting snapshot)
  latest := by rw [callAll_audience snapshot hNodup]; rfl
  members := by rw [callAll_audience snapshot hNodup]; rfl
  nextId := by rw [callAll_audience snapshot hNodup]; rfl
  known := by rw [callAll_audience snapshot hNodup]; rfl

/-- A publication tells its snapshot to as many members as its gate says yes, the first ones first.
The rest is how it ends: with the last member, with a no, or with a panic of the gate. -/
theorem publish_answers (gate : Gate (List (Event K V)) K V) (snapshot : Snapshot K V)
    {s : Recital K V} (hAble : s.audience.poisoned = false) (hNodup : s.audience.ids.Nodup) :
    let deed := Deed.publish gate snapshot
    let n := Verdict.yeses (deed.answers s)
    Addressed snapshot (s.audience.members.take n) s (s.after deed) ∧
      ((n = s.audience.members.length ∧ deed.answers s = List.replicate n .open ∧
          s.result deed = .done (.published n) ∧ (s.after deed).audience.poisoned = false) ∨
        (n < s.audience.members.length ∧ deed.answers s = List.replicate n .open ++ [.closed] ∧
          s.result deed = .done (.published n) ∧ (s.after deed).audience.poisoned = false) ∨
        ∃ p, n < s.audience.members.length ∧
          deed.answers s = List.replicate n .open ++ [.panicked p] ∧
          s.result deed = .panicked p ∧ (s.after deed).audience.poisoned = true) := by
  intro deed n
  have hBroadcast : s.broadcast setting gate snapshot = _ := Scene.broadcast_eq gate snapshot hAble
  have hAfter : s.after deed = _ := congrArg Prod.fst hBroadcast
  have hResult : s.result deed = _ := congrArg (fun r => r.2.map Yield.published) hBroadcast
  have hAnswers : deed.answers s =
      Scene.answers setting gate snapshot s.audience.members 0 (s.noting snapshot) := by
    simp [deed, Deed.answers, hAble]
  have hCalled (k : Nat) : Addressed snapshot (s.audience.members.take k) s
      ((s.noting snapshot).callAll setting snapshot (s.audience.members.take k)) :=
    callAll_addressed snapshot (((List.take_sublist k s.audience.members).map _).nodup hNodup) s
  have hStill (k : Nat) : ((s.noting snapshot).callAll setting snapshot
      (s.audience.members.take k)).audience.poisoned = false :=
    (Scene.callAll_dwindles setting_keeps snapshot _ _).poisoned.trans hAble
  obtain ⟨k, ⟨hAll, hGate, hDeliver⟩ | ⟨hSome, hGate, hDeliver⟩ | ⟨p, hSome, hGate, hDeliver⟩⟩ :=
    Scene.deliver_answers setting gate snapshot s.audience.members 0 (s.noting snapshot)
  all_goals
    rw [← hAnswers] at hGate
    simp only [hDeliver, Outcome.map, Nat.zero_add] at hAfter hResult
  · have hCount : n = k := (congrArg Verdict.yeses hGate).trans (Verdict.yeses_replicate k)
    rw [hAfter, hCount]
    exact ⟨hCalled k, Or.inl ⟨hAll, hGate, hResult, hStill k⟩⟩
  · have hCount : n = k := (congrArg Verdict.yeses hGate).trans (Verdict.yeses_concat (by simp) k)
    rw [hAfter, hCount]
    exact ⟨(hCalled k).log _, Or.inr (Or.inl ⟨hSome, hGate, hResult, hStill k⟩)⟩
  · have hCount : n = k := (congrArg Verdict.yeses hGate).trans (Verdict.yeses_concat (by simp) k)
    rw [hAfter, hCount]
    exact ⟨(hCalled k).poison, Or.inr (Or.inr ⟨p, hSome, hGate, hResult, rfl⟩)⟩

/-- A joining in an audience that can deliver puts the newcomer on the list. If its gate panics,
that is all that it does, and no name means the newcomer. -/
theorem join_answers (gate : Gate (List (Event K V)) K V) (name : Name) (react : Nat → Reaction)
    {s : Recital K V} (hAble : s.audience.poisoned = false) :
    let deed := Deed.join gate name react
    ((∀ p, .panicked p ∉ deed.answers s) ∧ s.result deed = .done .joined ∧
        (s.after deed).audience.poisoned = false ∧
        (s.after deed).audience.latest = s.audience.latest) ∨
      ∃ p, deed.answers s = [.panicked p] ∧ s.result deed = .panicked p ∧
        s.after deed = (s.enrolled name react).poison := by
  intro deed
  rcases Scene.join_cases setting gate name react hAble with
    ⟨hLatest, hJoin⟩ | ⟨snapshot, hLatest, ⟨hGate, hJoin⟩ | ⟨hGate, hJoin⟩ | ⟨p, hGate, hJoin⟩⟩
  all_goals
    have hAfter : s.after deed = _ := congrArg Prod.fst hJoin
    have hResult : s.result deed = _ := congrArg (fun r => r.2.map fun _ => Yield.joined) hJoin
    rw [hAfter, hResult]
  · exact Or.inl ⟨by simp [deed, Deed.answers, hLatest], rfl, hAble, rfl⟩
  · exact Or.inl ⟨by simp [deed, Deed.answers, hAble, hLatest, hGate], rfl, hAble, rfl⟩
  · have hDwindles := Scene.greeted_dwindles setting_keeps name react snapshot s
    refine Or.inl ⟨?_, rfl, hDwindles.poisoned.trans hAble, hDwindles.latest⟩
    simp [deed, Deed.answers, hAble, hLatest, hGate]
  · exact Or.inr ⟨p, by simp [deed, Deed.answers, hAble, hLatest, hGate], rfl, rfl⟩

/-- Whatever gates and callbacks do, numbers are given once. -/
theorem after_numbered {s : Recital K V} (hNumbered : s.audience.Numbered) (deed : Deed K V) :
    (s.after deed).audience.Numbered := by
  cases deed with
  | leave name => exact hNumbered.dwindles (s.audience.leave_dwindles name)
  | join gate name react =>
      cases hPoisoned : s.audience.poisoned with
      | true =>
          rw [(after_of_poisoned hPoisoned (.join gate name react) trivial).1]
          exact hNumbered
      | false =>
          have hEnrolled := hNumbered.enrol name react
          rcases Scene.join_cases setting gate name react hPoisoned with
            ⟨_, hJoin⟩ | ⟨snapshot, _, ⟨_, hJoin⟩ | ⟨_, hJoin⟩ | ⟨p, _, hJoin⟩⟩
          all_goals rw [after, hJoin]
          · exact ⟨hEnrolled.nodup, hEnrolled.lt⟩
          · exact ⟨hEnrolled.nodup, hEnrolled.lt⟩
          · have hGreeted := hEnrolled.dwindles
              (Scene.greeted_dwindles setting_keeps name react snapshot s)
            exact ⟨hGreeted.nodup, hGreeted.lt⟩
          · exact ⟨hEnrolled.nodup, hEnrolled.lt⟩
  | publish gate snapshot =>
      cases hPoisoned : s.audience.poisoned with
      | true =>
          rw [(after_of_poisoned hPoisoned (.publish gate snapshot) trivial).1]
          exact hNumbered
      | false =>
          have hNoted : (s.noting snapshot).audience.Numbered :=
            ⟨hNumbered.nodup, hNumbered.lt⟩
          rw [after, Scene.broadcast_eq gate snapshot hPoisoned]
          exact Scene.deliver_induction (P := fun t => t.audience.Numbered)
            (fun _ m t h _ => h.dwindles (Scene.call_dwindles setting_keeps m snapshot t))
            (fun _ h => h) (fun _ _ _ h _ => ⟨h.nodup, h.lt⟩) s.audience.members 0 hNoted

theorem play_numbered {s : Recital K V} (hNumbered : s.audience.Numbered)
    (deeds : List (Deed K V)) : (play deeds s).audience.Numbered := by
  induction deeds generalizing s with
  | nil => exact hNumbered
  | cons deed rest ih => exact ih (after_numbered hNumbered deed)

end Recital

end LongPoll
