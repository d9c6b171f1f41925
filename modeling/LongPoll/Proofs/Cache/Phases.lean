import LongPoll.Proofs.Rehearsal
import LongPoll.Proofs.Cache.Endurance

/-!
The life of a cache, over whole runs.

A phase is never followed by an earlier one, and the cache can be started once. From starting it
goes to started when a response is applied, and for no other reason. That a response was applied is
kept apart from the phase: a stop ends the life of the cache and leaves this fact alone, and it is
what those who wait for the cache are told.
-/

namespace LongPoll

variable {K V : Type}

namespace Cache

variable {c d : Cache K V} {feed : Feed K V}

section

variable [DecidableEq K] [DecidableEq V]

/-- A response that is taken makes the cache ready, unless the worker was told to end or a key
panics. -/
theorem Coherent.initialized_takes {entries : List V} {returned : Index}
    {result : Cache K V × Except Panic CycleEnd} (h : c.Coherent)
    (hPhase : c.core.lifecycle.phase ≠ .latent) (hTakes : Takes feed entries returned c result) :
    result.1.core.lifecycle.initialized =
      (c.core.lifecycle.initialized || (!c.core.cancelled && result.2.isOk)) := by
  have hReady (hSome : c.cursor.published.isSome = true) : c.core.lifecycle.initialized = true := by
    rw [h.initialized, ← h.held, hSome]
  have hAfter := (h.takes hPhase hTakes).1.initialized
  cases hTakes with
  | dropped hCancelled => simp [hCancelled]
  | skipped _ _ hPublished notes =>
      have hSame : _ = c.core.lifecycle.initialized := notes.stirs.initialized
      exact hSame.trans (by simp [hReady hPublished])
  | keyless _ _ _ notes =>
      have hSame : _ = c.core.lifecycle.initialized := notes.stirs.initialized
      exact hSame.trans (by simp [Except.isOk, Except.toBool])
  | settled _ _ _ hAgrees notes hSettles =>
      have hSome : c.cursor.published.isSome = true := by
        cases hPublished : c.cursor.published with
        | none => simp [hPublished] at hAgrees
        | some published => rfl
      rw [hSettles.published, notes.published, ← h.initialized] at hAfter
      exact hAfter.trans (by simp [hReady hSome])
  | issued hCancelled _ _ _ notes hIssues =>
      rw [hIssues.published, List.getLast?_concat] at hAfter
      exact hAfter.trans (by simp [hCancelled, Except.isOk, Except.toBool])

/-- A happening makes the cache ready exactly if it brings a response that is applied. -/
theorem Coherent.initialized_happen (h : c.Coherent) (happening : Happening V) :
    (c.happen feed happening).core.lifecycle.initialized =
      (c.core.lifecycle.initialized || (c.applied? feed happening).isSome) := by
  have hSame {d : Cache K V} (hPasses : c.Passes d) (hNone : c.applied? feed happening = none) :
      d.core.lifecycle.initialized =
        (c.core.lifecycle.initialized || (c.applied? feed happening).isSome) := by
    rw [hNone, Option.isSome_none, Bool.or_false]
    exact hPasses.stirs.initialized
  cases happening with
  | start runtime =>
      rcases start_cases feed runtime c with ⟨_, hStart⟩ | ⟨hUnmoved, _⟩
      · rw [Cache.happen, hStart]
        exact (Bool.or_false _).symm
      · rw [Cache.happen, hUnmoved]
        exact (Bool.or_false _).symm
  | stop => exact hSame (stop_passes feed c) rfl
  | shutdown => exact hSame (shutdown_passes feed c) rfl
  | join name react =>
      obtain ⟨t, hJoin, hStirs, _⟩ := h.join_stirs feed name react
      rw [Cache.happen, hJoin]
      exact hStirs.initialized.trans (Bool.or_false _).symm
  | leave name => exact (Bool.or_false _).symm
  | answer acts answer =>
      rcases receive_cases feed acts answer c with
        ⟨hNone, hPasses, _⟩ | ⟨r, hSome, hWorker, hAfter, _⟩
      · exact hSame hPasses (by simp only [applied?, hNone])
      · have hPhase : c.core.lifecycle.phase ≠ .latent := fun hLatent => hWorker (h.latent hLatent)
        have hActed := acted_passes feed acts c
        have hCoherent := h.passes_of_not_latent hActed hPhase
        have hTaken := hCoherent.initialized_takes
          (hActed.stirs.path.leadsTo.not_latent hPhase)
          (apply_takes feed r.entries r.index hCoherent.able)
        have hApplied : (c.applied? feed (.answer acts answer)).isSome =
            (!(c.acted feed acts).core.cancelled &&
              ((c.acted feed acts).apply feed r.entries r.index).2.isOk) := by
          have hTold : (c.acted feed acts).isCancelled = (c.acted feed acts).core.cancelled := rfl
          simp only [applied?, hSome, hTold]
          cases (c.acted feed acts).core.cancelled <;>
            cases ((c.acted feed acts).apply feed r.entries r.index).2 <;> rfl
        have hActedSame : (c.acted feed acts).core.lifecycle.initialized =
            c.core.lifecycle.initialized := hActed.stirs.initialized
        rw [hApplied, ← hActedSame, ← hTaken]
        exact hAfter.stirs.initialized
  | elapse nanos => exact (Bool.or_false _).symm
  | turn => exact hSame (turn_passes feed c) rfl

/-- A cache that is starting is started by a response that is applied, and by nothing else. -/
theorem started_iff_applied (hCoherent : c.Coherent) (hSound : c.core.lifecycle.IsSound)
    (hStarting : c.core.lifecycle.phase = .starting) (happening : Happening V) :
    (c.happen feed happening).core.lifecycle.phase = .started ↔
      (c.applied? feed happening).isSome ∧ (c.happen feed happening).core.cancelled = false := by
  let d := c.happen feed happening
  have hNext : d.Coherent := (hCoherent.happen feed happening).1
  have hInitialized : d.core.lifecycle.initialized = (c.applied? feed happening).isSome := by
    rw [hCoherent.initialized_happen, hSound.unready hStarting, Bool.false_or]
  constructor
  · intro hStarted
    refine ⟨hInitialized.symm.trans (hNext.started hStarted), Eq.trans hNext.tied ?_⟩
    rw [Lifecycle.isStopped, hStarted]
    rfl
  · rintro ⟨hApplied, hGoesOn⟩
    have hPhase := happen_sound happening hSound hCoherent (hInitialized.trans hApplied)
    exact hPhase.resolve_right (hNext.not_stopped hGoesOn)

/-- Somewhere along a run a response is applied. -/
def Answered (feed : Feed K V) (run : List (Happening V)) (c : Cache K V) : Prop :=
  ∃ first happening rest, run = first ++ happening :: rest ∧
    ((c.replay feed first).applied? feed happening).isSome

theorem answered_cons {happening : Happening V} {rest : List (Happening V)} :
    Answered feed (happening :: rest) c ↔
      (c.applied? feed happening).isSome ∨ Answered feed rest (c.happen feed happening) := by
  constructor
  · rintro ⟨first, next, rest', hRun, hApplied⟩
    cases first with
    | nil =>
        cases hRun
        exact Or.inl hApplied
    | cons head tail =>
        cases hRun
        exact Or.inr ⟨tail, next, rest', rfl, hApplied⟩
  · rintro (hApplied | ⟨first, next, rest', rfl, hApplied⟩)
    · exact ⟨[], happening, rest, rfl, hApplied⟩
    · exact ⟨happening :: first, next, rest', rfl, hApplied⟩

/-- A cache is ready after a run exactly if it was before or a response was applied. -/
theorem Coherent.initialized_replay (run : List (Happening V)) (h : c.Coherent) :
    (c.replay feed run).core.lifecycle.initialized = true ↔
      c.core.lifecycle.initialized = true ∨ Answered feed run c := by
  induction run generalizing c with
  | nil =>
      refine ⟨Or.inl, fun hReady => hReady.resolve_right ?_⟩
      rintro ⟨first, happening, rest, hRun, _⟩
      simp at hRun
  | cons happening rest ih =>
      refine (ih (h.happen feed happening).1).trans ?_
      rw [h.initialized_happen, Bool.or_eq_true, answered_cons, or_assoc]

/-- A response is applied before the cache is stopped. -/
theorem not_cancelled_of_applied {happening : Happening V}
    (h : (c.applied? feed happening).isSome) : c.core.cancelled = false := by
  cases happening with
  | answer acts answer =>
      have hActed : (c.acted feed acts).core.cancelled = false := by
        refine Bool.eq_false_iff.2 fun hCancelled => ?_
        have hTold : (c.acted feed acts).isCancelled = true := hCancelled
        cases hResponse : c.response? (.answer acts answer) <;>
          simp [applied?, hResponse, hTold] at h
      exact (acted_passes feed acts c).stirs.path.not_cancelled hActed
  | _ => cases h

end

/-- A start on a runtime succeeds exactly if the cache is latent. One that does not succeed says
which phase it found, and changes nothing. -/
theorem start_latent (feed : Feed K V) (c : Cache K V) :
    ((c.start feed true).2 = .ok () ↔ c.core.lifecycle.phase = .latent) ∧
      (c.core.lifecycle.phase ≠ .latent →
        c.start feed true = (c, .error (.misuse c.core.lifecycle.phase))) ∧
      c.start feed false = (c, .error .noRuntime) := by
  rcases start_cases feed true c with ⟨hLatent, hStart⟩ | ⟨hSame, hMisuse⟩
  · exact ⟨⟨fun _ => hLatent, fun _ => by rw [hStart]⟩, fun hOther => (hOther hLatent).elim, rfl⟩
  · have hRefused : c.start feed true = (c, .error (.misuse c.core.lifecycle.phase)) :=
      Prod.ext hSame (hMisuse rfl)
    refine ⟨⟨fun hOk => ?_, fun hLatent => ?_⟩, fun _ => hRefused, rfl⟩
    · rw [hRefused] at hOk
      cases hOk
    · have hOk : (c.start feed true).2 = .ok () := by
        simp [start, Lifecycle.start, hLatent]
      rw [hRefused] at hOk
      cases hOk

variable [DecidableEq K] [DecidableEq V]

/-- After a start that succeeded the cache is not latent any more. -/
theorem not_latent_of_started {first : List (Happening V)} {runtime : Bool}
    (rest : List (Happening V))
    (hStart : (((initial : Cache K V).replay feed first).start feed runtime).2 = .ok ()) :
    ((initial : Cache K V).replay feed (first ++ .start runtime :: rest)).core.lifecycle.phase ≠
      .latent := by
  let c := (initial : Cache K V).replay feed first
  have hCoherent : c.Coherent := (Coherent.initial.replay feed first).1
  have hNext : (c.happen feed (.start runtime)).Coherent :=
    (hCoherent.happen feed (.start runtime)).1
  have hPhase : (c.happen feed (.start runtime)).core.lifecycle.phase ≠ .latent := by
    rcases start_cases feed runtime c with ⟨_, hSome⟩ | ⟨_, hMisuse⟩
    · rw [happen, hSome]
      simp [begun, modify, Shared.modify, becomes, core, log, record, Core.record]
    · cases runtime with
      | true => cases (hMisuse rfl).symm.trans hStart
      | false => cases hStart
  rw [replay_append]
  exact (hNext.replay feed rest).2.leadsTo.not_latent hPhase

/-- Who waits for a cache is told at once that it is ready, if it is. Otherwise things happen to the
cache meanwhile; a yes means that a response was applied in the end, and a no that none had been
when the one who waits looked last. -/
theorem await_answered {run : List (Happening V)} {r : Rehearsal K V} (hFeed : r.feed = feed)
    (hCache : r.cache = (initial : Cache K V).replay feed run) (d : Duration) :
    (Answered feed run (initial : Cache K V) → r.await d = (r, true)) ∧
      ∃ wait, (r.await d).1.cache = (initial : Cache K V).replay feed (run ++ wait) ∧
        ((r.await d).2 = true → Answered feed (run ++ wait) (initial : Cache K V)) ∧
        ((r.await d).2 = false → ∃ first rest, wait = first ++ rest ∧
          ¬ Answered feed (run ++ first) (initial : Cache K V)) := by
  subst hFeed
  have hReady (more : List (Happening V)) :
      ((initial : Cache K V).replay r.feed more).core.lifecycle.initialized = true ↔
        Answered r.feed more (initial : Cache K V) :=
    (Coherent.initial.initialized_replay more).trans (or_iff_right (by rintro ⟨⟩))
  have hRun {r' : Rehearsal K V} {wait : List (Happening V)}
      (hWait : r'.cache = r.cache.replay r.feed wait) :
      r'.cache = (initial : Cache K V).replay r.feed (run ++ wait) := by
    rw [hWait, hCache, replay_append]
  refine ⟨fun hAnswered => Rehearsal.await_of_ready d ?_, ?_⟩
  · rw [hCache]
    exact (hReady run).2 hAnswered
  · obtain ⟨hFollows, hYes, hNo⟩ :=
      Rehearsal.awaitFor_cases (Rehearsal.tick (r.now + d.nanos) - r.now + 1)
        (Rehearsal.tick (r.now + d.nanos)) r
    change r.Follows (r.await d).1 at hFollows
    change (r.await d).2 = true → (r.await d).1.cache.core.lifecycle.initialized = true at hYes
    change (r.await d).2 = false → _ ∨ ∃ looked, r.Follows looked ∧
      looked.Follows (r.await d).1 ∧ looked.cache.core.lifecycle.initialized = false at hNo
    cases hAnswer : (r.await d).2 with
    | true =>
        obtain ⟨wait, hWait⟩ := hFollows.run
        refine ⟨wait, hRun hWait, fun _ => ?_, nofun⟩
        rw [← hReady, ← hRun hWait]
        exact hYes hAnswer
    | false =>
        obtain ⟨looked, hBefore, hAfter, hUnready⟩ := (hNo hAnswer).resolve_left (by omega)
        obtain ⟨first, hFirst⟩ := hBefore.run
        obtain ⟨rest, hRest⟩ := hAfter.run
        have hWait : (r.await d).1.cache = r.cache.replay r.feed (first ++ rest) := by
          rw [hRest, hBefore.feed, hFirst, replay_append]
        refine ⟨first ++ rest, hRun hWait, nofun, fun _ => ⟨first, rest, rfl, ?_⟩⟩
        rw [← hReady, ← hRun hFirst, hUnready]
        exact Bool.false_ne_true

/-- Along every run, and at every event of it, no phase is followed by an earlier one. A start on a
runtime succeeds exactly in the first phase, so at most once; any other start says what it found and
changes nothing. While the cache is starting no response was applied yet; it goes to started exactly
where the first one is, unless it is stopped meanwhile, so no failure takes it there. Every stop
ends in the last phase. A cache is ready exactly if a response was applied, which happens before the
first stop only, and it stays ready. Who waits for it is told so: at once if it is ready, otherwise
a yes means that a response was applied by then, and a no that none had been when the one who waits
looked last. -/
theorem life_goes_forward (feed : Feed K V) (run : List (Happening V)) :
    let c := (initial : Cache K V).replay feed run
    (c.core.moments.Pairwise (fun later earlier =>
        earlier.view.lifecycle.phase.rank ≤ later.view.lifecycle.phase.rank) ∧
      (∀ m ∈ c.core.moments, m.view.lifecycle.phase.rank ≤ c.core.lifecycle.phase.rank) ∧
      ∀ happening, c.core.lifecycle.phase.rank ≤
        (c.happen feed happening).core.lifecycle.phase.rank) ∧
    (((c.start feed true).2 = .ok () ↔ c.core.lifecycle.phase = .latent) ∧
      (c.core.lifecycle.phase ≠ .latent →
        c.start feed true = (c, .error (.misuse c.core.lifecycle.phase))) ∧
      c.start feed false = (c, .error .noRuntime) ∧
      ∀ first runtime rest, run = first ++ .start runtime :: rest →
        (((initial : Cache K V).replay feed first).start feed runtime).2 = .ok () →
          c.core.lifecycle.phase ≠ .latent) ∧
    ((c.core.lifecycle.phase = .starting → ¬ Answered feed run (initial : Cache K V) ∧
        ∀ happening, (c.happen feed happening).core.lifecycle.phase = .started ↔
          (c.applied? feed happening).isSome ∧
            (c.happen feed happening).core.cancelled = false) ∧
      (c.core.lifecycle.phase = .started → Answered feed run (initial : Cache K V))) ∧
    ((c.stop feed).core.lifecycle.phase = .stopped ∧
      (c.shutdown feed).core.lifecycle.phase = .stopped ∧
      ∀ core : Core K V, (core.stop feed).lifecycle.phase = .stopped) ∧
    ((c.core.lifecycle.initialized = true ↔ Answered feed run (initial : Cache K V)) ∧
      (∀ happening, (c.applied? feed happening).isSome → c.core.lifecycle.phase ≠ .stopped) ∧
      ∀ more, c.core.lifecycle.initialized = true →
        (c.replay feed more).core.lifecycle.initialized = true) ∧
    ∀ r : Rehearsal K V, r.feed = feed → r.cache = c → ∀ d,
      (Answered feed run (initial : Cache K V) → r.await d = (r, true)) ∧
        ∃ wait, (r.await d).1.cache = (initial : Cache K V).replay feed (run ++ wait) ∧
          ((r.await d).2 = true → Answered feed (run ++ wait) (initial : Cache K V)) ∧
          ((r.await d).2 = false → ∃ first rest, wait = first ++ rest ∧
            ¬ Answered feed (run ++ first) (initial : Cache K V)) := by
  intro c
  have hCoherent : c.Coherent := (Coherent.initial.replay feed run).1
  have hSound : c.core.lifecycle.IsSound := replay_sound run .initial Coherent.initial
  obtain ⟨hEach, hOrder⟩ := moments_replay feed run
  obtain ⟨hLatent, hMisuse, hNoRuntime⟩ := start_latent feed c
  have hReady : c.core.lifecycle.initialized = true ↔ Answered feed run (initial : Cache K V) :=
    (Coherent.initial.initialized_replay run).trans (or_iff_right (by rintro ⟨⟩))
  refine ⟨⟨hOrder.imp fun hLeads => hLeads.phase, fun m hm => (hEach m hm).2.2.phase,
      fun happening => (hCoherent.happen feed happening).2.leadsTo.phase⟩,
    ⟨hLatent, hMisuse, hNoRuntime, ?_⟩,
    ⟨fun hStarting => ⟨mt hReady.2 (Bool.eq_false_iff.1 (hSound.unready hStarting)),
      started_iff_applied hCoherent hSound hStarting⟩,
      fun hStarted => hReady.1 (hCoherent.started hStarted)⟩,
    ⟨Core.phase_stop feed c.core, ?_, Core.phase_stop feed⟩, ⟨hReady, ?_, ?_⟩,
    fun r hFeed hCache d => await_answered hFeed hCache d⟩
  · intro first runtime rest hRun hStart
    have hPhase := not_latent_of_started rest hStart
    rw [← hRun] at hPhase
    exact hPhase
  · have hStopped : (c.stop feed).core.lifecycle.phase = .stopped := Core.phase_stop feed c.core
    exact ((turn_passes feed _).trans (reportCrash_passes feed _)).stirs.path.leadsTo.stopped
      hStopped
  · exact fun happening hApplied => hCoherent.not_stopped (not_cancelled_of_applied hApplied)
  · exact fun more hReady => (hCoherent.initialized_replay more).2 (Or.inl hReady)

/-- A response makes the cache ready although its listener stops the cache, and it stays ready. One
that comes after a stop does not. -/
example :
    let feed : Feed Nat Nat := ⟨"numbers", .ok, toString, .default, .blank, fun _ => .idle⟩
    let answer : Happening Nat := .answer [] (.entries [7] ⟨1⟩)
    let stopping : List (Happening Nat) :=
      [.join "a" fun _ => ⟨[.stop], .returned⟩, .start true, .turn, answer, .turn]
    let late : List (Happening Nat) := [.start true, .turn, .stop, answer, .turn]
    ((initial : Cache Nat Nat).replay feed stopping).core.lifecycle = ⟨.stopped, true⟩ ∧
      ((initial : Cache Nat Nat).replay feed late).core.lifecycle = ⟨.stopped, false⟩ := by
  decide +kernel

end Cache

end LongPoll
