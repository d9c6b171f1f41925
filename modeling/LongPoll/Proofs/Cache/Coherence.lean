import LongPoll.Proofs.Cache.Responses

/-!
The copies of the published state agree.

What was published last is kept four times: by the worker, by the audience, by the readers and, as
the bare fact that there is something, by the lifecycle. Between two happenings all four are what
the history says, however the happenings were ordered and whatever the callbacks did.
-/

namespace LongPoll

variable {K V : Type}

namespace Lifecycle

theorem settle_of_starting {l : Lifecycle} (h : l.phase = .starting) :
    l.settle.1 = ⟨.started, true⟩ := by
  simp [settle, h]

theorem settle_of_ne_starting {l : Lifecycle} (h : l.phase ≠ .starting) : l.settle.1 = l := by
  simp [settle, h]

/-- A cache is ready from the moment at which it is started. -/
def IsSound (l : Lifecycle) : Prop :=
  l.initialized = true → l.phase = .started ∨ l.phase = .stopped

theorem IsSound.initial : Lifecycle.initial.IsSound := nofun

theorem IsSound.of_same {l m : Lifecycle} (h : l.IsSound)
    (hInitialized : m.initialized = l.initialized)
    (hPhase : m.phase = l.phase ∨ m.phase = .stopped) : m.IsSound := by
  intro hReady
  rcases hPhase with hSame | hStopped
  · rw [hSame]
    exact h (hInitialized.symm.trans hReady)
  · exact Or.inr hStopped

theorem IsSound.settle {l : Lifecycle} (h : l.IsSound) : l.settle.1.IsSound := by
  unfold Lifecycle.settle
  split
  · exact fun _ => Or.inl rfl
  · exact h

theorem IsSound.unready {l : Lifecycle} (h : l.IsSound) (hStarting : l.phase = .starting) :
    l.initialized = false := by
  refine Bool.eq_false_iff.2 fun hReady => ?_
  have hPhase := h hReady
  rw [hStarting] at hPhase
  simp at hPhase

end Lifecycle

namespace Cache

variable {c d : Cache K V}

/-- Between two happenings: a stop is complete, the audience can deliver, and all copies are those
of the snapshot published last. -/
structure Coherent (c : Cache K V) : Prop where
  tied : c.core.toView.Tied
  able : c.shared.audience.poisoned = false
  held : c.cursor.published = c.core.published.getLast?
  latest : c.shared.audience.latest = c.core.published.getLast?
  current : c.snapshot = c.core.published.getLast?.getD .empty
  initialized : c.core.lifecycle.initialized = c.core.published.getLast?.isSome
  index : c.core.published = [] → c.cursor.index = none
  started : c.core.lifecycle.phase = .started → c.core.lifecycle.initialized = true
  latent : c.core.lifecycle.phase = .latent → c.worker = .absent

theorem Coherent.initial : (initial : Cache K V).Coherent where
  tied := rfl
  able := rfl
  held := rfl
  latest := rfl
  current := rfl
  initialized := rfl
  index _ := rfl
  started h := by cases h
  latent _ := rfl

namespace Coherent

/-- What the audience heard last is what readers get. -/
theorem content_eq (h : c.Coherent) (snapshot : Snapshot K V)
    (hLatest : c.shared.audience.latest = some snapshot) :
    c.core.current.content = snapshot := by
  have hCurrent := h.current
  rw [← h.latest, hLatest] at hCurrent
  exact hCurrent

theorem not_stopped (h : c.Coherent) (hCancelled : c.core.cancelled = false) :
    c.core.lifecycle.phase ≠ .stopped := by
  intro hPhase
  have hTied : c.core.cancelled = c.core.lifecycle.isStopped := h.tied
  rw [hCancelled, Lifecycle.isStopped, hPhase] at hTied
  cases hTied

theorem passes (h : c.Coherent) (hPasses : c.Passes d)
    (hLatent : d.core.lifecycle.phase = .latent → d.worker = .absent) : d.Coherent where
  tied := hPasses.stirs.path.leadsTo.tied h.tied
  able := hPasses.stirs.audience.poisoned.trans h.able
  held := by rw [hPasses.cursor, hPasses.published, h.held]
  latest := by rw [hPasses.stirs.audience.latest, hPasses.published, h.latest]
  current := by
    rw [hPasses.published, ← h.current]
    exact congrArg Issue.content hPasses.stirs.current
  initialized := by rw [hPasses.published, ← h.initialized]; exact hPasses.stirs.initialized
  index hNone := by
    rw [hPasses.cursor]
    exact h.index (hPasses.published ▸ hNone)
  started hStarted := by
    have hInitialized := hPasses.stirs.initialized
    rcases hPasses.stirs.phase with hSame | hStopped
    · exact hInitialized.trans (h.started (hSame.symm.trans hStarted))
    · cases hStarted.symm.trans hStopped
  latent := hLatent

/-- A cache that is not latent needs no more than that to stay coherent when something passes. -/
theorem passes_of_not_latent (h : c.Coherent) (hPasses : c.Passes d)
    (hPhase : c.core.lifecycle.phase ≠ .latent) : d.Coherent :=
  h.passes hPasses fun hLatent => (hPasses.stirs.path.leadsTo.not_latent hPhase hLatent).elim

theorem settles (h : c.Coherent) {next : Option Index} (hSettles : Settles next c d)
    (hPhase : c.core.lifecycle.phase ≠ .latent) (hPublished : c.core.published ≠ []) :
    d.Coherent := by
  have hLast : c.core.published.getLast?.isSome := by simpa using hPublished
  have hInitialized : d.core.lifecycle.initialized = true := by
    rw [hSettles.lifecycle]
    by_cases hStarting : c.core.lifecycle.phase = .starting
    · rw [Lifecycle.settle_of_starting hStarting]
    · rw [Lifecycle.settle_of_ne_starting hStarting, h.initialized, hLast]
  exact
    { tied := hSettles.path.leadsTo.tied h.tied
      able := hSettles.audience ▸ h.able
      held := by rw [hSettles.cursor, hSettles.published, ← h.held]
      latest := by rw [hSettles.audience, hSettles.published, h.latest]
      current := by
        rw [hSettles.published, ← h.current]
        exact congrArg Issue.content hSettles.current
      initialized := by rw [hInitialized, hSettles.published, hLast]
      index := fun hNone => (hPublished (hSettles.published ▸ hNone)).elim
      started := fun _ => hInitialized
      latent := fun hLatent => (hSettles.path.leadsTo.not_latent hPhase hLatent).elim }

theorem issues (h : c.Coherent) {candidate : Snapshot K V} {next : Option Index}
    (hIssues : Issues candidate next c d) (hPhase : c.core.lifecycle.phase ≠ .latent)
    (hCancelled : c.core.cancelled = false) : d.Coherent := by
  have hLast : d.core.published.getLast? = some candidate := by
    rw [hIssues.published, List.getLast?_concat]
  have hInitialized : d.core.lifecycle.initialized = true := by
    rw [hIssues.initialized]
    have hNotStopped := h.not_stopped hCancelled
    cases hCase : c.core.lifecycle.phase with
    | latent => exact (hPhase hCase).elim
    | starting => rw [Lifecycle.settle_of_starting hCase]
    | started => rw [Lifecycle.settle_of_ne_starting (by simp [hCase]), h.started hCase]
    | stopped => exact (hNotStopped hCase).elim
  exact
    { tied := hIssues.path.leadsTo.tied h.tied
      able := hIssues.audience.poisoned.trans h.able
      held := by rw [hIssues.cursor, hLast]
      latest := hIssues.audience.latest.trans hLast.symm
      current := by
        rw [hLast]
        exact hIssues.current
      initialized := by rw [hInitialized, hLast]; rfl
      index := fun hNone => by simp [hIssues.published] at hNone
      started := fun _ => hInitialized
      latent := fun hLatent => (hIssues.path.leadsTo.not_latent hPhase hLatent).elim }

theorem takes [DecidableEq K] [DecidableEq V] {feed : Feed K V} {entries : List V}
    {returned : Index} {result : Cache K V × Except Panic CycleEnd} (h : c.Coherent)
    (hPhase : c.core.lifecycle.phase ≠ .latent) (hTakes : Takes feed entries returned c result) :
    result.1.Coherent ∧ Core.Path c.core result.1.core := by
  cases hTakes with
  | dropped => exact ⟨h, .refl _⟩
  | skipped _ _ _ notes =>
      exact ⟨h.passes_of_not_latent notes.toPasses hPhase, notes.stirs.path⟩
  | keyless _ _ _ notes => exact ⟨h.passes_of_not_latent notes.toPasses hPhase, notes.stirs.path⟩
  | @settled noted d candidate _ _ _ hAgrees notes hSettles =>
      have hNoted := h.passes_of_not_latent notes.toPasses hPhase
      refine ⟨hNoted.settles hSettles (notes.lifecycle ▸ hPhase) ?_,
        notes.stirs.path.trans hSettles.path⟩
      intro hNone
      rw [h.held, ← notes.published, hNone] at hAgrees
      cases hAgrees
  | @issued noted d candidate hCancelled _ _ _ notes hIssues =>
      have hNoted := h.passes_of_not_latent notes.toPasses hPhase
      exact ⟨hNoted.issues hIssues (notes.lifecycle ▸ hPhase) (notes.cancelled.trans hCancelled),
        notes.stirs.path.trans hIssues.path⟩

end Coherent

/-! ### Happenings -/

variable (feed : Feed K V)

/-- A latent cache was started, and the log does not know of it yet. -/
def begun (c : Cache K V) : Cache K V :=
  (c.modify fun core =>
    { core with lifecycle := { core.lifecycle with phase := .starting } }).becomes .spawned

/-- A start on a runtime does something exactly if the cache is latent. -/
theorem start_cases (runtime : Bool) (c : Cache K V) :
    c.core.lifecycle.phase = .latent ∧
        c.start feed runtime = (c.begun.log (feed.record .info "Watch cache starting" []), .ok ()) ∨
      (c.start feed runtime).1 = c ∧
        (runtime = true → (c.start feed runtime).2 = .error (.misuse c.core.lifecycle.phase)) := by
  cases runtime with
  | false => exact Or.inr ⟨rfl, by simp⟩
  | true =>
      by_cases hLatent : c.core.lifecycle.phase = .latent
      · refine Or.inl ⟨hLatent, ?_⟩
        simp only [start, Lifecycle.start, hLatent, Bool.not_true, Bool.false_eq_true, if_false,
          if_true]
        rfl
      · refine Or.inr ?_
        simp [start, Lifecycle.start, hLatent]

theorem Coherent.start (runtime : Bool) (h : c.Coherent) :
    (c.start feed runtime).1.Coherent ∧ Core.Path c.core (c.start feed runtime).1.core := by
  rcases start_cases feed runtime c with ⟨hLatent, hStart⟩ | ⟨hSame, _⟩
  · have hPath : Core.Path c.core c.begun.core := by
      refine (Core.Path.refl c.core).change
        { c.core.toView with lifecycle := { c.core.lifecycle with phase := .starting } }
        ⟨?_, fun hCancelled => ⟨hCancelled, rfl⟩, fun hTied => ?_⟩
      · rw [hLatent]
        exact Nat.zero_le _
      · exact Eq.trans hTied (by simp [Lifecycle.isStopped, hLatent])
    have hBegun : c.begun.Coherent :=
      { h with
        tied := hPath.leadsTo.tied h.tied
        started := fun hStarted => by cases hStarted
        latent := fun hLatent => by cases hLatent }
    have hLog := c.begun.log_passes (r := feed.record .info "Watch cache starting" [])
      (by simp [Feed.record, View.refusal])
    rw [hStart]
    exact ⟨hBegun.passes_of_not_latent hLog (by simp [begun, modify, Shared.modify, becomes, core]),
      hPath.trans hLog.stirs.path⟩
  · rw [hSame]
    exact ⟨h, .refl _⟩

/-- A joining succeeds in every phase. It enrols the newcomer, and then only the newcomer may be
called. -/
theorem Coherent.join_stirs (name : Name) (react : Nat → Reaction) (h : c.Coherent) :
    ∃ t : Shared K V,
      c.join feed name react =
        ({ c with shared := t.introduce name c.shared.audience.nextId }, .done ()) ∧
      Shared.Stirs (c.shared.enrolled name react) t ∧
      ∀ id, id ≠ c.shared.audience.nextId ∨ c.shared.audience.latest = none →
        t.around.heard id = c.core.heard id := by
  obtain ⟨t, hJoin, hStirs, hHeard⟩ :=
    Shared.join_stirs feed name react h.able h.tied h.content_eq
  exact ⟨t, by simp only [Cache.join, hJoin], hStirs, hHeard⟩

theorem Coherent.join (name : Name) (react : Nat → Reaction) (h : c.Coherent) :
    (c.join feed name react).1.Coherent ∧ Core.Path c.core (c.join feed name react).1.core := by
  obtain ⟨t, hJoin, hStirs, _⟩ := h.join_stirs feed name react
  have hPublished : t.around.published = c.core.published := hStirs.published
  have hLast : t.around.published.getLast? = c.core.published.getLast? :=
    congrArg List.getLast? hPublished
  rw [hJoin]
  refine ⟨?_, hStirs.path⟩
  exact
    { tied := hStirs.path.leadsTo.tied h.tied
      able := hStirs.audience.poisoned.trans h.able
      held := h.held.trans hLast.symm
      latest := hStirs.audience.latest.trans (h.latest.trans hLast.symm)
      current := (congrArg Issue.content hStirs.current).trans
        (h.current.trans (congrArg (·.getD .empty) hLast.symm))
      initialized := hStirs.initialized.trans
        (h.initialized.trans (congrArg Option.isSome hLast.symm))
      index := fun hNone => h.index (hPublished.symm.trans hNone)
      started := fun hStarted => by
        rcases hStirs.phase with hSame | hStopped
        · exact hStirs.initialized.trans (h.started (hSame.symm.trans hStarted))
        · cases hStarted.symm.trans hStopped
      latent := fun hLatent => by
        rcases hStirs.phase with hSame | hStopped
        · exact h.latent (hSame.symm.trans hLatent)
        · cases hLatent.symm.trans hStopped }

theorem leave_passes (name : Name) (c : Cache K V) : c.Passes (c.leave name).1 where
  stirs := { Shared.Stirs.refl c.shared with audience := c.shared.audience.leave_dwindles name }
  cursor := rfl
  heard _ := rfl

theorem elapse_passes (nanos : Nat) (c : Cache K V) :
    c.Passes (c.modify fun core => { core with now := core.now + nanos }) where
  stirs := { Shared.Stirs.refl c.shared with
    path := (Core.Path.refl _).change { c.core.toView with now := c.core.now + nanos }
      ⟨Nat.le_refl _, fun h => ⟨h, rfl⟩, id⟩ }
  cursor := rfl
  heard _ := rfl

theorem stop_not_latent (c : Cache K V) : (c.stop feed).core.lifecycle.phase ≠ .latent := by
  have hPhase : (c.stop feed).core.lifecycle.phase = .stopped := Core.phase_stop feed c.core
  rw [hPhase]
  decide

theorem turn_of_absent {c : Cache K V} (hWorker : c.worker = .absent) : c.turn feed = c := by
  simp only [turn, hWorker]

theorem Coherent.shutdown (h : c.Coherent) :
    (c.shutdown feed).Coherent ∧ Core.Path c.core (c.shutdown feed).core := by
  have hPasses := shutdown_passes feed c
  have hAfter := (turn_passes feed (c.stop feed)).trans (reportCrash_passes feed _)
  have hPhase := hAfter.stirs.path.leadsTo.not_latent (stop_not_latent feed c)
  exact ⟨h.passes hPasses fun hLatent => (hPhase hLatent).elim, hPasses.stirs.path⟩

variable [DecidableEq K] [DecidableEq V]

theorem Coherent.receive (acts : List Act) (answer : Answer V) (h : c.Coherent) :
    (c.receive feed acts answer).Coherent ∧ Core.Path c.core (c.receive feed acts answer).core := by
  rcases receive_cases feed acts answer c with ⟨_, hPasses, hAbsent⟩ | ⟨r, _, hWorker, hAfter, _⟩
  · by_cases hLatent : c.core.lifecycle.phase = .latent
    · rw [hAbsent (h.latent hLatent)]
      exact ⟨h, .refl _⟩
    · exact ⟨h.passes_of_not_latent hPasses hLatent, hPasses.stirs.path⟩
  · have hPhase : c.core.lifecycle.phase ≠ .latent := fun hLatent => hWorker (h.latent hLatent)
    have hActed := acted_passes feed acts c
    have hActedPhase := hActed.stirs.path.leadsTo.not_latent hPhase
    have hCoherent := h.passes_of_not_latent hActed hPhase
    obtain ⟨hTaken, hPath⟩ :=
      hCoherent.takes hActedPhase (apply_takes feed r.entries r.index hCoherent.able)
    exact ⟨hTaken.passes_of_not_latent hAfter (hPath.leadsTo.not_latent hActedPhase),
      (hActed.stirs.path.trans hPath).trans hAfter.stirs.path⟩

/-- Whatever happens, a coherent cache stays coherent, and its history goes on by the rules. -/
theorem Coherent.happen (happening : Happening V) (h : c.Coherent) :
    (c.happen feed happening).Coherent ∧ Core.Path c.core (c.happen feed happening).core := by
  cases happening with
  | start runtime => exact h.start feed runtime
  | stop =>
      exact ⟨h.passes (stop_passes feed c) fun hLatent => (stop_not_latent feed c hLatent).elim,
        (stop_passes feed c).stirs.path⟩
  | shutdown => exact h.shutdown feed
  | join name react => exact h.join feed name react
  | leave name =>
      have hPasses := c.leave_passes name
      exact ⟨h.passes hPasses fun hLatent => h.latent hLatent, hPasses.stirs.path⟩
  | answer acts answer => exact h.receive feed acts answer
  | elapse nanos =>
      have hPasses := c.elapse_passes nanos
      exact ⟨h.passes hPasses fun hLatent => h.latent hLatent, hPasses.stirs.path⟩
  | turn =>
      have hPasses := turn_passes feed c
      by_cases hLatent : c.core.lifecycle.phase = .latent
      · change (c.turn feed).Coherent ∧ Core.Path c.core (c.turn feed).core
        rw [turn_of_absent feed (h.latent hLatent)]
        exact ⟨h, .refl _⟩
      · exact ⟨h.passes_of_not_latent hPasses hLatent, hPasses.stirs.path⟩

theorem Coherent.replay (run : List (Happening V)) (h : c.Coherent) :
    (c.replay feed run).Coherent ∧ Core.Path c.core (c.replay feed run).core := by
  induction run generalizing c with
  | nil => exact ⟨h, .refl _⟩
  | cons happening rest ih =>
      obtain ⟨hNext, hPath⟩ := h.happen feed happening
      obtain ⟨hEnd, hRest⟩ := ih hNext
      exact ⟨hEnd, hPath.trans hRest⟩

/-- Every event of a run was admitted when it happened, and each view leads to all later ones. -/
theorem moments_replay (run : List (Happening V)) :
    let c := (initial : Cache K V).replay feed run
    (∀ m ∈ c.core.moments,
        m.view.Tied ∧ m.view.Admits m.event ∧ m.view.LeadsTo c.core.toView) ∧
      c.core.moments.Pairwise fun later earlier => earlier.view.LeadsTo later.view := by
  intro c
  obtain ⟨added, hMoments, hAdded, hOrder⟩ :=
    (Coherent.replay feed run (Coherent.initial (K := K) (V := V))).2.moments
  have hAll : c.core.moments = added := hMoments.trans (List.append_nil added)
  rw [hAll]
  refine ⟨fun m hm => ?_, hOrder⟩
  obtain ⟨hAdmits, hFrom, hTo⟩ := hAdded m hm
  exact ⟨hFrom.tied rfl, hAdmits, hTo⟩

section

variable {feed}

/-! ### Once ready, never starting -/

theorem takes_sound {entries : List V} {returned : Index}
    {result : Cache K V × Except Panic CycleEnd} (h : c.core.lifecycle.IsSound)
    (hTakes : Takes feed entries returned c result) : result.1.core.lifecycle.IsSound := by
  cases hTakes with
  | dropped => exact h
  | skipped _ _ _ notes => exact notes.lifecycle ▸ h
  | keyless _ _ _ notes => exact notes.lifecycle ▸ h
  | settled _ _ _ _ notes settles =>
      rw [settles.lifecycle, notes.lifecycle]
      exact h.settle
  | issued _ _ _ _ notes issues =>
      have hInitialized := issues.initialized
      have hPhase := issues.phase
      rw [notes.lifecycle] at hInitialized hPhase
      exact h.settle.of_same hInitialized hPhase

theorem happen_sound (happening : Happening V) (h : c.core.lifecycle.IsSound)
    (hCoherent : c.Coherent) : (c.happen feed happening).core.lifecycle.IsSound := by
  have hPassing {a b : Cache K V} (hPasses : a.Passes b) (ha : a.core.lifecycle.IsSound) :
      b.core.lifecycle.IsSound := ha.of_same hPasses.stirs.initialized hPasses.stirs.phase
  cases happening with
  | start runtime =>
      rcases start_cases feed runtime c with ⟨hLatent, hStart⟩ | ⟨hSame, _⟩
      · rw [happen, hStart]
        intro hReady
        rcases h hReady with hPhase | hPhase
        · cases hLatent.symm.trans hPhase
        · cases hLatent.symm.trans hPhase
      · rw [happen, hSame]
        exact h
  | stop => exact hPassing (stop_passes feed c) h
  | shutdown => exact hPassing (shutdown_passes feed c) h
  | join name react =>
      obtain ⟨t, hJoin, hStirs, _⟩ := hCoherent.join_stirs feed name react
      rw [happen, hJoin]
      exact h.of_same hStirs.initialized hStirs.phase
  | leave name => exact h
  | answer acts answer =>
      rcases receive_cases feed acts answer c with ⟨_, hPasses, _⟩ | ⟨r, _, _, hTaken, _⟩
      · exact hPassing hPasses h
      · have hActed := acted_passes feed acts c
        have hSound : (c.acted feed acts).shared.audience.poisoned = false :=
          hActed.stirs.audience.poisoned.trans hCoherent.able
        exact hPassing hTaken
          (takes_sound (hPassing hActed h) (apply_takes feed r.entries r.index hSound))
  | elapse nanos => exact h
  | turn => exact hPassing (turn_passes feed c) h

theorem replay_sound (run : List (Happening V)) (h : c.core.lifecycle.IsSound)
    (hCoherent : c.Coherent) : (c.replay feed run).core.lifecycle.IsSound := by
  induction run generalizing c with
  | nil => exact h
  | cons happening rest ih =>
      exact ih (happen_sound happening h hCoherent) (hCoherent.happen feed happening).1

end

/-- Between two happenings either nothing was published and no copy holds anything, or every copy is
the snapshot published last. In every call, be it in a broadcast or at a joining, the listener is
told what readers get. So no response is ever skipped while there is nothing published, and no
publication is refused. -/
theorem copies_agree (run : List (Happening V)) :
    let c := (initial : Cache K V).replay feed run
    (c.core.published = [] ∧ c.cursor.index = none ∧ c.cursor.published = none ∧
          c.shared.audience.latest = none ∧ c.snapshot = .empty ∧
          c.core.lifecycle.initialized = false ∨
        ∃ snapshot, c.core.published.getLast? = some snapshot ∧
          c.cursor.published = some snapshot ∧ c.shared.audience.latest = some snapshot ∧
          c.snapshot = snapshot ∧ c.core.lifecycle.initialized = true) ∧
      (∀ m ∈ c.core.moments, ∀ listener call snapshot,
        m.event = .notified listener call snapshot → m.view.current.content = snapshot) ∧
      (∀ returned, Index.movement c.cursor.index returned = .still → c.cursor.published.isSome) ∧
      (∀ snapshot, ∃ delivered,
        (c.shared.broadcast (Shared.setting feed) Shared.broadcastGate snapshot).2 =
          .done delivered) ∧
      ∀ m ∈ c.core.moments, ∀ r, m.event = .log r → r.message ≠ "Failed to publish snapshot" := by
  intro c
  have hCoherent : c.Coherent := (Coherent.initial.replay feed run).1
  refine ⟨?_, ?_, ?_, ?_, ?_⟩
  · cases hLast : c.core.published.getLast? with
    | none =>
        have hNone : c.core.published = [] := List.getLast?_eq_none_iff.1 hLast
        exact Or.inl ⟨hNone, hCoherent.index hNone, hCoherent.held.trans hLast,
          hCoherent.latest.trans hLast, by rw [hCoherent.current, hLast]; rfl,
          by rw [hCoherent.initialized, hLast]; rfl⟩
    | some snapshot =>
        exact Or.inr ⟨snapshot, rfl, hCoherent.held.trans hLast, hCoherent.latest.trans hLast,
          by rw [hCoherent.current, hLast]; rfl, by rw [hCoherent.initialized, hLast]; rfl⟩
  · intro m hm listener call snapshot hEvent
    have hAdmits := ((moments_replay feed run).1 m hm).2.1
    rw [hEvent] at hAdmits
    exact hAdmits.2
  · intro returned hStill
    have hHeld := Index.movement_eq_still_iff.1 hStill
    have hPublished : c.core.published ≠ [] := by
      intro hNone
      rw [hCoherent.index hNone] at hHeld
      cases hHeld
    rw [hCoherent.held]
    simpa using hPublished
  · intro snapshot
    obtain ⟨delivered, hDone, _⟩ := Shared.broadcast_cases feed snapshot hCoherent.able
    exact ⟨delivered, hDone⟩
  · intro m hm r hEvent
    have hAdmits := ((moments_replay feed run).1 m hm).2.1
    rw [hEvent] at hAdmits
    exact hAdmits

end Cache

end LongPoll
