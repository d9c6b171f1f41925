import LongPoll.Proofs.Cache.Chronicle

/-!
What callbacks can do to a cache.

A callback can let members leave, stop the cache and look at it. So while callbacks run, whether one
or the whole audience is called, most of the cache stands still; `Shared.Stirs` says what can move.
-/

namespace LongPoll

variable {K V : Type}

namespace View

/-- The view after a stop. -/
def stopped (v : View K V) : View K V :=
  { v with lifecycle := { v.lifecycle with phase := .stopped }, cancelled := true }

theorem leadsTo_stopped (v : View K V) : v.LeadsTo v.stopped where
  phase := by
    change v.lifecycle.phase.rank ≤ 3
    cases v.lifecycle.phase <;> decide
  cancelled _ := ⟨rfl, rfl⟩
  tied _ := rfl

end View

namespace Core

variable (feed : Feed K V)

theorem stop_cases (c : Core K V) :
    c.stop feed = { c with toView := c.toView.stopped } ∨
      c.stop feed = Core.record (.log (feed.record .info "Watch cache stopped" []))
        { c with toView := c.toView.stopped } := by
  cases hFirst : (c.lifecycle.phase != .stopped) with
  | false => exact Or.inl (by simp [stop, Lifecycle.stop, hFirst, View.stopped])
  | true => exact Or.inr (by simp [stop, Lifecycle.stop, hFirst, View.stopped])

@[simp] theorem toView_stop (c : Core K V) : (c.stop feed).toView = c.toView.stopped := by
  rcases stop_cases feed c with h | h
  · rw [h]
  · rw [h]
    rfl

theorem phase_stop (c : Core K V) : (c.stop feed).lifecycle.phase = .stopped :=
  (congrArg (fun v => v.lifecycle.phase) (toView_stop feed c) :)

theorem stop_path (c : Core K V) : Path c (c.stop feed) := by
  have hView : Path c { c with toView := c.toView.stopped } :=
    (Path.refl c).change _ c.toView.leadsTo_stopped
  rcases stop_cases feed c with h | h
  · rw [h]
    exact hView
  · rw [h]
    exact hView.note _ (by simp [View.Admits, Feed.record, View.refusal])

theorem stop_quiet (c : Core K V) : Event.Quiet c.events (c.stop feed).events := by
  rcases stop_cases feed c with h | h
  · rw [h]
    exact .refl
  · rw [h]
    exact Event.Quiet.refl.aside _ trivial

theorem published_quiet {c d : Core K V} (quiet : Event.Quiet c.events d.events) :
    d.published = c.published := by
  refine quiet.collect_eq fun e hAside => ?_
  cases e <;> first | rfl | exact hAside.elim

end Core

namespace Shared

variable {feed : Feed K V} {s t u : Shared K V}

/-- What may have changed after callbacks. Members may have left and the cache may have been
stopped; nothing was published. -/
structure Stirs (s t : Shared K V) : Prop where
  path : Core.Path s.around t.around
  audience : s.audience.Dwindles t.audience
  current : t.around.current = s.around.current
  initialized : t.around.lifecycle.initialized = s.around.lifecycle.initialized
  phase : t.around.lifecycle.phase = s.around.lifecycle.phase ∨
    t.around.lifecycle.phase = .stopped
  published : t.around.published = s.around.published

namespace Stirs

theorem refl (s : Shared K V) : s.Stirs s := ⟨.refl _, .refl _, rfl, rfl, Or.inl rfl, rfl⟩

theorem trans (h : s.Stirs t) (h' : t.Stirs u) : s.Stirs u where
  path := h.path.trans h'.path
  audience := h.audience.trans h'.audience
  current := h'.current.trans h.current
  initialized := h'.initialized.trans h.initialized
  phase := by
    rcases h'.phase with hSame | hStopped
    · exact h.phase.imp hSame.trans hSame.trans
    · exact Or.inr hStopped
  published := h'.published.trans h.published

/-- Writing an event down stirs nothing, unless it is a publication. -/
theorem note (h : s.Stirs t) {e : Event K V} (hAdmits : t.around.toView.Admits e)
    (hPublished : ∀ snapshot, e ≠ .published snapshot) :
    s.Stirs { t with around := t.around.record e } where
  path := h.path.note e hAdmits
  audience := h.audience
  current := h.current
  initialized := h.initialized
  phase := h.phase
  published := by
    refine Eq.trans ?_ h.published
    rw [Core.published, Core.events_record, Event.collect_cons]
    cases e with
    | published snapshot => exact (hPublished snapshot rfl).elim
    | _ => exact List.append_nil _

end Stirs

theorem stop_stirs (feed : Feed K V) (s : Shared K V) : s.Stirs (s.modify (Core.stop feed)) where
  path := Core.stop_path feed s.around
  audience := .refl _
  current := (congrArg View.current (Core.toView_stop feed s.around) :)
  initialized := (congrArg (fun v => v.lifecycle.initialized) (Core.toView_stop feed s.around) :)
  phase := Or.inr (Core.phase_stop feed s.around)
  published := Core.published_quiet (Core.stop_quiet feed s.around)

theorem perform_stirs (feed : Feed K V) (act : Act) (s : Shared K V) :
    s.Stirs (perform feed act s) := by
  cases act with
  | stop => exact stop_stirs feed s
  | observe => exact (Stirs.refl s).note trivial (by simp)
  | remove target =>
      change s.Stirs (s.removeBy _ target)
      rcases Scene.removeBy_cases target s with hSame | ⟨found, hLeft⟩
      · rw [hSame]
        exact .refl _
      · have hLeave : s.Stirs { s with audience := (s.audience.leave target).1 } :=
          { Stirs.refl s with audience := s.audience.leave_dwindles target }
        rw [hLeft]
        exact hLeave.note trivial (by simp)

theorem performAll_stirs (feed : Feed K V) (acts : List Act) (s : Shared K V) :
    s.Stirs (s.performAll (setting feed) acts) :=
  Scene.performAll_induction (P := fun t => s.Stirs t)
    (fun act t h => h.trans (perform_stirs feed act t)) acts (.refl s)

theorem setting_keeps (feed : Feed K V) : (setting feed).Keeps Core.events where
  record _ _ := rfl
  dwindles act s := (perform_stirs feed act s).audience
  perform act s := by
    cases act with
    | stop => exact Core.stop_quiet feed s.around
    | observe => exact Event.Quiet.refl.aside _ trivial
    | remove target => exact Scene.removeBy_quiet (fun _ _ => rfl) target s

theorem message_endingRecord {ending : Ending} {r : LogRecord}
    (h : Scene.endingRecord ending = some r) : r.message ≠ View.refusal := by
  cases ending with
  | returned => cases h
  | failed text =>
      cases h
      simp [View.refusal]
  | panicked p =>
      cases h
      simp [View.refusal]

/-- A call in a cache that is not cancelled, with the snapshot that readers get. -/
theorem call_stirs (feed : Feed K V) (m : Member) {snapshot : Snapshot K V} {s : Shared K V}
    (hCancelled : s.around.cancelled = false) (hCurrent : s.around.current.content = snapshot) :
    s.Stirs (s.call (setting feed) m snapshot) := by
  have hCounted : s.Stirs { s with audience := s.audience.countCall m.id } :=
    { Stirs.refl s with audience := s.audience.countCall_dwindles m.id }
  have hTold : s.Stirs (s.told (setting feed) m snapshot) :=
    hCounted.note ⟨hCancelled, hCurrent⟩ (by simp)
  have hActed := hTold.trans (performAll_stirs feed (m.react (m.calls + 1)).acts _)
  rcases Scene.call_cases (setting feed) m snapshot s with hCall | ⟨r, hEnding, hCall⟩
  · rw [hCall]
    exact hActed
  · rw [hCall]
    exact hActed.note (message_endingRecord hEnding) (by simp)

/-- The gate of a broadcast never panics. -/
theorem broadcastGate_ne_panicked (n : Nat) (s : Shared K V) (p : Panic) :
    broadcastGate n s ≠ .panicked p := by
  unfold broadcastGate
  split <;> simp

theorem not_cancelled_of_open {n : Nat} {s : Shared K V} (h : broadcastGate n s = .open) :
    s.around.cancelled = false := by
  cases hCancelled : s.around.cancelled with
  | false => rfl
  | true => simp [broadcastGate, hCancelled] at h

theorem cancelled_of_closed {n : Nat} {s : Shared K V} (h : broadcastGate n s = .closed) :
    s.around.cancelled = true := by
  cases hCancelled : s.around.cancelled with
  | false => simp [broadcastGate, hCancelled] at h
  | true => rfl

/-- A broadcast of the snapshot that readers get. The audience keeps it as its latest. -/
theorem broadcast_stirs (feed : Feed K V) {snapshot : Snapshot K V} {s : Shared K V}
    (hSound : s.audience.poisoned = false) (hCurrent : s.around.current.content = snapshot) :
    Stirs (s.noting snapshot) (s.broadcast (setting feed) broadcastGate snapshot).1 := by
  rw [Scene.broadcast_eq broadcastGate snapshot hSound]
  refine (Scene.deliver_induction
    (P := fun t => Stirs (s.noting snapshot) t ∧ t.around.current.content = snapshot)
    ?_ ?_ ?_ s.audience.members 0 ⟨.refl _, hCurrent⟩).1
  · rintro n m t ⟨hStirs, hContent⟩ hGate
    have hCall := call_stirs feed m (not_cancelled_of_open hGate) hContent
    exact ⟨hStirs.trans hCall, by rw [hCall.current, hContent]⟩
  · rintro t ⟨hStirs, hContent⟩
    have hAdmits : t.around.toView.Admits (.log Scene.interruption) := by
      simp [View.Admits, Scene.interruption, View.refusal]
    exact ⟨hStirs.note hAdmits (by simp), hContent⟩
  · intro n t p _ hGate
    exact (broadcastGate_ne_panicked n t p hGate).elim

/-- A broadcast to an audience that can deliver is not refused. In a cache that is not cancelled
at the end of it, each member was called. -/
theorem broadcast_cases (feed : Feed K V) (snapshot : Snapshot K V) {s : Shared K V}
    (hSound : s.audience.poisoned = false) :
    ∃ delivered, (s.broadcast (setting feed) broadcastGate snapshot).2 = .done delivered ∧
      ((s.broadcast (setting feed) broadcastGate snapshot).1.around.cancelled = false →
        (s.broadcast (setting feed) broadcastGate snapshot).1 =
          (s.noting snapshot).callAll (setting feed) snapshot s.audience.members) := by
  rw [Scene.broadcast_eq broadcastGate snapshot hSound]
  obtain ⟨called, skipped, hSplit, hCases⟩ := Scene.deliver_cases (setting feed)
    broadcastGate snapshot s.audience.members 0 (s.noting snapshot)
  rcases hCases with ⟨rfl, hAll⟩ | ⟨_, hGate, hCut⟩ | ⟨p, _, hGate, _⟩
  · rw [hAll]
    rw [List.append_nil] at hSplit
    exact ⟨_, rfl, fun _ => by rw [hSplit]⟩
  · rw [hCut]
    -- what closed the gate is there at the end
    exact ⟨_, rfl, fun hCancelled =>
      Bool.noConfusion ((cancelled_of_closed hGate).symm.trans hCancelled)⟩
  · exact (broadcastGate_ne_panicked _ _ p hGate).elim

/-- A joining succeeds in every phase of a cache whose audience has heard what readers get. Nobody
but the newcomer hears anything, and the newcomer nothing before the first publication. -/
theorem join_stirs (feed : Feed K V) (name : Name) (react : Nat → Reaction) {s : Shared K V}
    (hSound : s.audience.poisoned = false) (hTied : s.around.toView.Tied)
    (hLatest : ∀ snapshot, s.audience.latest = some snapshot →
      s.around.current.content = snapshot) :
    ∃ t : Shared K V,
      s.join (setting feed) joinGate name react =
        (t.introduce name s.audience.nextId, .done ()) ∧
      Stirs (s.enrolled name react) t ∧
      ∀ id, id ≠ s.audience.nextId ∨ s.audience.latest = none →
        t.around.heard id = s.around.heard id := by
  rcases Scene.join_cases (setting feed) joinGate name react hSound with
    ⟨_, hJoin⟩ | ⟨snapshot, hSome, ⟨_, hJoin⟩ | ⟨hGate, hJoin⟩ | ⟨p, hGate, _⟩⟩
  · exact ⟨_, hJoin, .refl _, fun _ _ => rfl⟩
  · exact ⟨_, hJoin, .refl _, fun _ _ => rfl⟩
  · have hCancelled : s.around.cancelled = false := by
      cases hStopped : s.around.lifecycle.isStopped with
      | false => exact Eq.trans hTied hStopped
      | true => simp [joinGate, Scene.enrolled, hStopped] at hGate
    have hWelcomed : Stirs (s.enrolled name react)
        ((s.enrolled name react).log (setting feed) (Scene.welcome snapshot)) :=
      (Stirs.refl _).note (by simp [View.Admits, Scene.welcome, View.refusal]) (by simp)
    refine ⟨_, hJoin, hWelcomed.trans (call_stirs feed _ hCancelled (hLatest snapshot hSome)), ?_⟩
    rintro id (hOther | hNone)
    · refine (Scene.heard_greeted (setting_keeps feed) id name react snapshot s).trans ?_
      rw [if_neg (Ne.symm hOther), List.append_nil]
      rfl
    · rw [hNone] at hSome
      cases hSome
  · unfold joinGate at hGate
    split at hGate <;> cases hGate

end Shared

end LongPoll
