import LongPoll.Proofs.Cache.Cycles

/-!
What callbacks leave in the history.

A callback writes events of its own down, and it may stop the cache. It begins and ends no cycle,
publishes nothing, counts nothing and takes no time. So what is read off the history without regard
to its events does not depend on it.
-/

namespace LongPoll

variable {K V : Type}

namespace Event

/-- What the log hears of callbacks, and of the stops they make. -/
def remarks : List String :=
  ["Watch cache stopped", "Listener failed to handle snapshot",
    "Listener panicked while handling snapshot",
    "Publish interrupted by stop, skipping remaining listeners",
    "Delivering latest snapshot to new listener"]

/-- The events that callbacks bring about. -/
def IsComment : Event K V → Prop
  | .notified _ _ _ | .removed _ _ | .observed _ _ => True
  | .log r => r.message ∈ remarks
  | _ => False

end Event

namespace Core

variable {a b c : Core K V}

/-- Callbacks commented on what they saw, and may have stopped the cache. -/
inductive Comments (a : Core K V) : Core K V → Prop where
  | refl : Comments a a
  | note {b : Core K V} (comments : Comments a b) (e : Event K V) (hComment : e.IsComment) :
      Comments a (b.record e)
  | stop {b : Core K V} (comments : Comments a b) : Comments a { b with toView := b.toView.stopped }

namespace Comments

theorem trans (h : a.Comments b) (h' : b.Comments c) : a.Comments c := by
  induction h' with
  | refl => exact h
  | note _ e hComment ih => exact ih.note e hComment
  | stop _ ih => exact ih.stop

theorem stats (h : a.Comments b) : b.stats = a.stats := by
  induction h with
  | refl => rfl
  | note _ _ _ ih => exact ih
  | stop _ ih => exact ih

theorem now (h : a.Comments b) : b.now = a.now := by
  induction h with
  | refl => rfl
  | note _ _ _ ih => exact ih
  | stop _ ih => exact ih

theorem current (h : a.Comments b) : b.current = a.current := by
  induction h with
  | refl => rfl
  | note _ _ _ ih => exact ih
  | stop _ ih => exact ih

theorem cancelled (h : a.Comments b) (hCancelled : a.cancelled = true) : b.cancelled = true := by
  induction h with
  | refl => exact hCancelled
  | note _ _ _ ih => exact ih
  | stop => rfl

/-- All that happened before stays, and what was added are comments. -/
theorem exists_events (h : a.Comments b) :
    ∃ new, b.events = new ++ a.events ∧ ∀ e ∈ new, e.IsComment := by
  induction h with
  | refl => exact ⟨[], rfl, by simp⟩
  | note _ e hComment ih =>
      obtain ⟨new, hEvents, hNew⟩ := ih
      exact ⟨e :: new, congrArg (e :: ·) hEvents, List.forall_mem_cons.2 ⟨hComment, hNew⟩⟩
  | stop _ ih => exact ih

theorem events_suffix (h : a.Comments b) : a.events <:+ b.events := by
  obtain ⟨new, hEvents, _⟩ := h.exists_events
  exact ⟨new, hEvents.symm⟩

/-- What callbacks leave nothing of does not change. -/
theorem filterMap_eq {β : Type} {f : Moment K V → Option β}
    (hNone : ∀ m, m.event.IsComment → f m = none) (h : a.Comments b) :
    b.moments.filterMap f = a.moments.filterMap f := by
  induction h with
  | refl => rfl
  | @note b _ e hComment ih =>
      have hLeft : f ⟨b.toView, e⟩ = none := hNone _ hComment
      rw [record, List.filterMap_cons, hLeft]
      exact ih
  | stop _ ih => exact ih

end Comments

variable (feed : Feed K V)

theorem stop_comments (c : Core K V) : c.Comments (c.stop feed) := by
  rcases stop_cases feed c with h | h
  · rw [h]
    exact .stop .refl
  · rw [h]
    exact .note (.stop .refl) _ (by simp [Event.IsComment, Feed.record, Event.remarks])

end Core

namespace Shared

variable (feed : Feed K V)

theorem perform_comments (act : Act) (s : Shared K V) :
    s.around.Comments (perform feed act s).around := by
  cases act with
  | stop => exact Core.stop_comments feed s.around
  | observe => exact .note .refl _ trivial
  | remove target =>
      change s.around.Comments (s.removeBy _ target).around
      rcases Scene.removeBy_cases target s with hSame | ⟨found, hLeft⟩
      · rw [hSame]
        exact .refl
      · rw [hLeft]
        exact .note .refl _ trivial

theorem performAll_comments (acts : List Act) (s : Shared K V) :
    s.around.Comments (s.performAll (setting feed) acts).around :=
  Scene.performAll_induction (P := fun t => s.around.Comments t.around)
    (fun act t h => h.trans (perform_comments feed act t)) acts .refl

theorem endingRecord_comment {ending : Ending} {r : LogRecord}
    (h : Scene.endingRecord ending = some r) : (Event.log r : Event K V).IsComment := by
  cases ending with
  | returned => cases h
  | failed text =>
      cases h
      simp [Event.IsComment, Event.remarks]
  | panicked p =>
      cases h
      simp [Event.IsComment, Event.remarks]

theorem call_comments (m : Member) (snapshot : Snapshot K V) (s : Shared K V) :
    s.around.Comments (s.call (setting feed) m snapshot).around := by
  have hTold : s.around.Comments (s.told (setting feed) m snapshot).around :=
    .note .refl (.notified m.toListener (m.calls + 1) snapshot) trivial
  have hActed := hTold.trans (performAll_comments feed (m.react (m.calls + 1)).acts _)
  rcases Scene.call_cases (setting feed) m snapshot s with hCall | ⟨r, hEnding, hCall⟩
  · rw [hCall]
    exact hActed
  · rw [hCall]
    exact hActed.note (.log r) (endingRecord_comment hEnding)

theorem broadcast_comments (snapshot : Snapshot K V) (s : Shared K V) :
    s.around.Comments (s.broadcast (setting feed) broadcastGate snapshot).1.around := by
  unfold Scene.broadcast
  split
  · exact .refl
  · refine Scene.deliver_induction (P := fun t => s.around.Comments t.around) ?_ ?_ ?_
      s.audience.members 0 .refl
    · exact fun _ m t h _ => h.trans (call_comments feed m snapshot t)
    · exact fun _ h => h.note (.log Scene.interruption)
        (by simp [Event.IsComment, Scene.interruption, Event.remarks])
    · exact fun _ _ _ h _ => h

theorem join_comments (name : Name) (react : Nat → Reaction) (s : Shared K V) :
    s.around.Comments (s.join (setting feed) joinGate name react).1.around := by
  cases hPoisoned : s.audience.poisoned with
  | true =>
      rw [Scene.join, if_pos hPoisoned]
      exact .refl
  | false =>
      rcases Scene.join_cases (setting feed) joinGate name react hPoisoned with
        ⟨_, hJoin⟩ | ⟨snapshot, _, ⟨_, hJoin⟩ | ⟨_, hJoin⟩ | ⟨p, _, hJoin⟩⟩
      · rw [hJoin]
        exact .refl
      · rw [hJoin]
        exact .refl
      · have hWelcomed : s.around.Comments ((s.enrolled name react).log (setting feed)
            (Scene.welcome snapshot)).around :=
          .note .refl (.log (Scene.welcome snapshot))
            (by simp [Event.IsComment, Scene.welcome, Event.remarks])
        rw [hJoin]
        exact hWelcomed.trans (call_comments feed _ snapshot _)
      · rw [hJoin]
        exact .refl

end Shared

namespace Cache

variable (feed : Feed K V)

theorem acted_comments (acts : List Act) (c : Cache K V) :
    c.core.Comments (c.acted feed acts).core :=
  Shared.performAll_comments feed acts c.shared

theorem join_comments (name : Name) (react : Nat → Reaction) (c : Cache K V) :
    c.core.Comments (c.join feed name react).1.core :=
  Shared.join_comments feed name react c.shared

/-! ### The callback for failed cycles -/

/-- A failure is counted and reported, and nobody has reacted to it yet. -/
def reported (fault : Fault) (c : Cache K V) : Cache K V :=
  (c.count fun s => { s with failed := s.failed + 1 }).record
    (.ofFailure feed.settings.errorLog (failureMessage feed) fault)

/-- What the callback for failed cycles does about a failure. -/
def reactionTo (fault : Fault) (c : Cache K V) : Reaction :=
  (c.reported feed fault).reactionToFailure feed

/-- The callback for failed cycles has acted. -/
def heeded (fault : Fault) (c : Cache K V) : Cache K V :=
  (c.reported feed fault).acted feed (c.reactionTo feed fault).acts

theorem heeded_comments (fault : Fault) (c : Cache K V) :
    (c.reported feed fault).core.Comments (c.heeded feed fault).core :=
  acted_comments feed _ _

theorem now_heeded (fault : Fault) (c : Cache K V) :
    (c.heeded feed fault).core.now = c.core.now :=
  (heeded_comments feed fault c).now

/-- The callback for failed cycles acts, and the worker learns whether it panicked. -/
theorem report_cases (fault : Fault) (c : Cache K V) :
    let counted := c.count fun s => { s with failed := s.failed + 1 }
    (∃ p, (c.reactionTo feed fault).ending = .panicked p ∧
        counted.report feed fault = (c.heeded feed fault, some p)) ∨
      counted.report feed fault = (c.heeded feed fault, none) := by
  dsimp only [report]
  split
  · next p hEnding => exact Or.inl ⟨p, hEnding, rfl⟩
  · exact Or.inr rfl

/-- After its callback a failure tears the worker down if the callback panicked. Otherwise the
cycle ends, and the worker ends or pauses. -/
theorem fail_cases (cycle : Cycle) (fault : Fault) (c : Cache K V) :
    let heeded := c.heeded feed fault
    (∃ p, (c.reactionTo feed fault).ending = .panicked p ∧
        c.fail feed cycle fault = heeded.crash p) ∨
      heeded.core.cancelled = true ∧
        c.fail feed cycle fault = (heeded.noteEnd feed cycle .failed).exit feed ∨
      heeded.core.cancelled = false ∧
        c.fail feed cycle fault = (heeded.noteEnd feed cycle .failed).becomes
          (.backingOff cycle (c.core.now + feed.settings.backoff.nanos)) := by
  intro heeded
  let ended := heeded.noteEnd feed cycle .failed
  rcases report_cases feed fault c with ⟨p, hEnding, hReport⟩ | hReport
  · refine Or.inl ⟨p, hEnding, ?_⟩
    dsimp only [fail]
    rw [hReport]
  · have hFail : c.fail feed cycle fault = if ended.isCancelled then ended.exit feed
        else ended.becomes (.backingOff cycle (ended.core.now + feed.settings.backoff.nanos)) := by
      dsimp only [fail]
      rw [hReport]
    have hNow : ended.core.now = c.core.now := now_heeded feed fault c
    rw [hFail, hNow]
    cases hCancelled : heeded.core.cancelled with
    | true => exact Or.inr (Or.inl ⟨rfl, if_pos hCancelled⟩)
    | false =>
        have hGoesOn : ended.isCancelled = false := hCancelled
        refine Or.inr (Or.inr ⟨rfl, ?_⟩)
        rw [hGoesOn]
        rfl

/-- Whatever its callback does, a failure is counted and reported. -/
theorem fail_counted (cycle : Cycle) (fault : Fault) (c : Cache K V) :
    (c.fail feed cycle fault).core.stats =
        { c.core.stats with failed := c.core.stats.failed + 1 } ∧
      .ofFailure feed.settings.errorLog (failureMessage feed) fault :: c.core.events <:+
        (c.fail feed cycle fault).core.events := by
  let heeded := c.heeded feed fault
  have hComments := heeded_comments feed fault c
  have hStats : heeded.core.stats =
      { c.core.stats with failed := c.core.stats.failed + 1 } := hComments.stats
  have hEvents : .ofFailure feed.settings.errorLog (failureMessage feed) fault ::
      c.core.events <:+ heeded.core.events := hComments.events_suffix
  have hEnded : heeded.core.events <:+ (heeded.noteEnd feed cycle .failed).core.events :=
    (List.suffix_cons _ _).trans (List.suffix_cons _ _)
  rcases fail_cases feed cycle fault c with ⟨p, _, hFail⟩ | ⟨_, hFail⟩ | ⟨_, hFail⟩
  · rw [hFail]
    exact ⟨hStats, hEvents⟩
  · rw [hFail]
    exact ⟨hStats, hEvents.trans (hEnded.trans (List.suffix_cons _ _))⟩
  · rw [hFail]
    exact ⟨hStats, hEvents.trans hEnded⟩

end Cache

/-! ### What a worker does by itself -/

/-- The events of a worker that gets no response: it publishes nothing, and no cycle of it ends but
by a failure. -/
def Event.IsRoutine : Event K V → Prop
  | .published _ | .notified _ _ _ => False
  | .ended _ how => how = .failed
  | _ => True

theorem Event.IsRoutine.isInternal {e : Event K V} (h : e.IsRoutine) : e.IsInternal := by
  cases e <;> trivial

namespace Cache

/-- The property is kept by the worker and by the callback for failed cycles while no response
comes. -/
structure Persists (feed : Feed K V) (P : Cache K V → Prop) : Prop where
  record : ∀ {c} (e : Event K V), P c → e.IsRoutine → P (c.record e)
  heeded : ∀ {c}, P c → ∀ fault, P (c.heeded feed fault)
  becomes : ∀ {c}, P c → ∀ worker, P (c.becomes worker)

namespace Persists

variable {feed : Feed K V} {P : Cache K V → Prop} {c : Cache K V}

theorem log (hP : Persists feed P) (h : P c) (r : LogRecord) : P (c.log r) :=
  hP.record (.log r) h trivial

theorem exit (hP : Persists feed P) (h : P c) : P (c.exit feed) :=
  hP.becomes (hP.log h _) .ended

theorem fail (hP : Persists feed P) (h : P c) (cycle : Cycle) (fault : Fault) :
    P (c.fail feed cycle fault) := by
  have hHeeded : P (c.heeded feed fault) := hP.heeded h fault
  have hEnded : P ((c.heeded feed fault).noteEnd feed cycle .failed) :=
    hP.log (hP.record (.ended cycle .failed) hHeeded rfl) _
  rcases fail_cases feed cycle fault c with ⟨p, _, hFail⟩ | ⟨_, hFail⟩ | ⟨_, hFail⟩
  · rw [hFail]
    exact hP.becomes hHeeded _
  · rw [hFail]
    exact hP.exit hEnded
  · rw [hFail]
    exact hP.becomes hEnded _

theorem beginCycle (hP : Persists feed P) (h : P c) : P (c.beginCycle feed) := by
  have hBegan : P (c.record (.began ⟨c.cursor.index, c.core.now⟩)) := hP.record _ h trivial
  dsimp only [Cache.beginCycle]
  split
  · exact hP.fail hBegan _ _
  · next query _ =>
      split
      · exact hP.becomes hBegan _
      · next limit _ => exact hP.becomes (hP.record (.asked query limit) hBegan trivial) _

theorem goOn (hP : Persists feed P) (h : P c) : P (c.goOn feed) := by
  unfold Cache.goOn
  split
  · exact hP.exit h
  · exact hP.beginCycle h

theorem rest (hP : Persists feed P) (h : P c) (cycle : Cycle) : P (c.rest feed cycle) := by
  dsimp only [Cache.rest]
  split
  · split
    · exact hP.exit h
    · exact hP.becomes h _
  · exact hP.goOn h

theorem turn (hP : Persists feed P) (h : P c) : P (c.turn feed) := by
  have hAbandoned : P c.abandon := hP.record (.abandoned _) h trivial
  unfold Cache.turn
  cases c.worker with
  | spawned => exact hP.goOn (hP.log h _)
  | fetching cycle limit =>
      dsimp only
      split
      · exact hP.exit hAbandoned
      · cases expiry cycle limit with
        | none => exact h
        | some due =>
            dsimp only
            split
            · exact hP.fail hAbandoned cycle _
            · exact h
  | backingOff cycle due =>
      dsimp only
      split
      · exact hP.exit h
      · split
        · exact hP.rest h cycle
        · exact h
  | resting cycle due =>
      dsimp only
      split
      · exact hP.exit h
      · split
        · exact hP.goOn h
        · exact h
  | _ => exact h

theorem reportCrash (hP : Persists feed P) (h : P c) : P (c.reportCrash feed) := by
  unfold Cache.reportCrash
  split
  · exact hP.becomes (hP.log h _) .ended
  · exact h

end Persists

end Cache

end LongPoll
