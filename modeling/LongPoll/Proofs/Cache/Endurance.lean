import LongPoll.Proofs.Cache.Publication
import LongPoll.Proofs.Cache.Requests
import LongPoll.Proofs.Cache.Stop

/-!
What can bring the worker down.

Four panics reach the worker: that of the source, that of a key, that of the callback for failed
cycles, and its own, where the time limit of a query does not exist. The settings that a cache
accepts do not exclude the last one. A cache without a time limit to send its query with loses its
worker in the first turn, and stays starting.
-/

namespace LongPoll

variable {K V : Type}

theorem Settings.readLimit_eq_error_iff {s : Settings} {overflow : DurationOverflow} :
    s.readLimit = .error overflow ↔
      s.adjust = true ∧ UInt64.size * 1000000000 ≤ s.watch.nanos + s.margin.nanos := by
  unfold readLimit
  split
  · next hAdjust =>
      cases hSum : s.watch.add? s.margin with
      | some d =>
          have hBound := d.bounded
          rw [Duration.add?_eq_some_iff.1 hSum] at hBound
          simp only [reduceCtorEq, false_iff, not_and]
          omega
      | none => exact ⟨fun _ => ⟨hAdjust, Duration.add?_eq_none_iff.1 hSum⟩, fun _ => rfl⟩
  · next hAdjust => simp [hAdjust]

theorem Settings.watch_le_of_validate {s : Settings} (h : s.validate = .ok ()) :
    s.watch.nanos ≤ maxWatchSeconds * 1000000000 := by
  unfold validate at h
  split at h
  · cases h
  · next hWhole =>
      split at h
      · cases h
      · next hRange =>
          simp only [Duration.subsecNanos, Duration.seconds, not_or, Nat.not_lt] at hWhole hRange
          omega

theorem Query.isNone_of_forCycle_ok {base q : Query} {held : Option Index} {seconds : Nat}
    (h : base.forCycle held seconds = .ok q) : base.index = none ∧ base.wait = none := by
  unfold Query.forCycle at h
  split at h
  · cases h
  · next hIndex =>
      split at h
      · cases h
      · next hWait =>
          exact ⟨Option.not_isSome_iff_eq_none.1 hIndex, Option.not_isSome_iff_eq_none.1 hWait⟩

namespace Feed

/-- A query can be made, and there is no time limit to send it with. -/
def IsStuck (feed : Feed K V) : Prop :=
  feed.base.index = none ∧ feed.base.wait = none ∧ feed.settings.adjust = true ∧
    UInt64.size * 1000000000 ≤ feed.settings.watch.nanos + feed.settings.margin.nanos

instance (feed : Feed K V) : Decidable feed.IsStuck := inferInstanceAs (Decidable (_ ∧ _))

theorem isStuck_of_limit {feed : Feed K V} {held : Option Index} {q : Query}
    {overflow : DurationOverflow}
    (hQuery : feed.base.forCycle held feed.settings.watchSeconds = .ok q)
    (hLimit : feed.settings.readLimit = .error overflow) : feed.IsStuck := by
  obtain ⟨hIndex, hWait⟩ := Query.isNone_of_forCycle_ok hQuery
  exact ⟨hIndex, hWait, Settings.readLimit_eq_error_iff.1 hLimit⟩

variable {feed : Feed K V}

theorem IsStuck.readLimit (h : feed.IsStuck) : feed.settings.readLimit = .error .mk :=
  Settings.readLimit_eq_error_iff.2 h.2.2

theorem IsStuck.request? (h : feed.IsStuck) (held : Option Index) :
    feed.request? held = none := by
  have hLimit := h.readLimit
  unfold Feed.request?
  split
  · next hOk => cases hLimit.symm.trans hOk
  · rfl

end Feed

namespace Cache

variable {c d : Cache K V} {p : Panic} {feed : Feed K V}

/-! ### What brings the worker down -/

theorem Broken.consumer_panicked {cancelled : Bool} {sent : List Signal}
    (h : Broken feed cancelled (.crashed p) sent) :
    ∃ n, (feed.consumer n).ending = .panicked p := by
  cases h with
  | crashed hEnding => exact ⟨_, hEnding⟩

theorem Destination.panicked {held : Option Index} {cancelled : Bool} {sent : List Signal}
    (h : Destination feed held cancelled (.crashed p) sent) :
    (∃ n, (feed.consumer n).ending = .panicked p) ∨ feed.IsStuck := by
  cases h with
  | crashed hQuery hLimit => exact Or.inr (Feed.isStuck_of_limit hQuery hLimit)
  | refused _ broken => exact Or.inl broken.consumer_panicked

theorem Moves.panicked {happening : Happening V} {r : Option (Response V)}
    (h : Moves feed happening c d r) (hCrashed : d.worker = .crashed p) :
    c.worker = .crashed p ∨ (∃ v, feed.keyOf v = .error p) ∨
      (∃ acts, happening = .answer acts (.panicked p)) ∨
      (∃ n, (feed.consumer n).ending = .panicked p) ∨ feed.IsStuck := by
  have hOwn (hCause : (∃ n, (feed.consumer n).ending = .panicked p) ∨ feed.IsStuck) :
      c.worker = .crashed p ∨ (∃ v, feed.keyOf v = .error p) ∨
        (∃ acts, happening = .answer acts (.panicked p)) ∨
        (∃ n, (feed.consumer n).ending = .panicked p) ∨ feed.IsStuck :=
    Or.inr (Or.inr (Or.inr hCause))
  cases h with
  | stays stays => exact Or.inl (stays.worker.symm.trans hCrashed)
  | starts _ _ hWorker => cases hWorker.symm.trans hCrashed
  | goesOn _ goesOn =>
      have hSent := goesOn.sent
      rw [hCrashed] at hSent
      exact hOwn hSent.panicked
  | breaksOff _ goesOn =>
      have hSent := goesOn.sent
      rw [hCrashed] at hSent
      exact hOwn (Or.inl hSent.consumer_panicked)
  | applies _ goesOn =>
      have hSent := goesOn.sent
      rw [hCrashed] at hSent
      exact hOwn hSent.panicked
  | torn hWorker hCause =>
      cases hWorker.symm.trans hCrashed
      exact Or.inr (hCause.imp_right Or.inl)
  | buried _ hWorker => cases hWorker.symm.trans hCrashed

/-- The worker is where it was, or it is at work, was torn down, or has ended on demand. -/
theorem Broken.manned {cancelled : Bool} {worker : Worker} {sent : List Signal}
    (h : Broken feed cancelled worker sent) :
    worker ≠ .absent ∧ (worker = .ended → cancelled = true) := by
  cases h with
  | abandoned hCancelled => exact ⟨nofun, fun _ => hCancelled⟩
  | failed hCancelled => exact ⟨nofun, fun _ => hCancelled⟩
  | crashed => exact ⟨nofun, nofun⟩
  | backingOff => exact ⟨nofun, nofun⟩

theorem Destination.manned {held : Option Index} {cancelled : Bool} {worker : Worker}
    {sent : List Signal} (h : Destination feed held cancelled worker sent) :
    worker ≠ .absent ∧ (worker = .ended → cancelled = true) := by
  cases h with
  | ended hCancelled => exact ⟨nofun, fun _ => hCancelled⟩
  | refused _ broken => exact broken.manned
  | _ => exact ⟨nofun, nofun⟩

theorem Moves.manned {happening : Happening V} {r : Option (Response V)}
    (h : Moves feed happening c d r) :
    d.worker = c.worker ∨ d.worker ≠ .absent ∧ (d.worker = .ended → d.core.cancelled = true) := by
  cases h with
  | stays stays => exact Or.inl stays.worker
  | starts _ _ hWorker => exact Or.inr (by rw [hWorker]; exact ⟨nofun, nofun⟩)
  | goesOn _ goesOn => exact Or.inr goesOn.sent.manned
  | breaksOff _ goesOn => exact Or.inr goesOn.sent.manned
  | applies _ goesOn => exact Or.inr goesOn.sent.manned
  | torn hWorker => exact Or.inr (by rw [hWorker]; exact ⟨nofun, nofun⟩)
  | buried _ hWorker hCancelled => exact Or.inr ⟨by rw [hWorker]; exact nofun, fun _ => hCancelled⟩

section

variable [DecidableEq K] [DecidableEq V]

/-- A worker that was torn down was so by the source, by a key, by the callback for failed cycles,
or for want of a time limit. -/
theorem replay_panicked (run : List (Happening V)) (hSynced : c.Synced)
    (hWorker : c.worker ≠ .crashed p) (hCrashed : (c.replay feed run).worker = .crashed p) :
    (∃ v, feed.keyOf v = .error p) ∨ (∃ acts, .answer acts (.panicked p) ∈ run) ∨
      (∃ n, (feed.consumer n).ending = .panicked p) ∨ feed.IsStuck := by
  induction run generalizing c with
  | nil => exact (hWorker hCrashed).elim
  | cons happening rest ih =>
      have hMoves := happen_moves feed happening hSynced
      by_cases hNext : (c.happen feed happening).worker = .crashed p
      · rcases hMoves.panicked hNext with hBefore | hKey | ⟨acts, rfl⟩ | hOwn
        · exact (hWorker hBefore).elim
        · exact Or.inl hKey
        · exact Or.inr (Or.inl ⟨acts, List.mem_cons_self ..⟩)
        · exact Or.inr (Or.inr hOwn)
      · rcases ih (hMoves.synced hSynced) hNext hCrashed with hKey | ⟨acts, hMember⟩ | hOwn
        · exact Or.inl hKey
        · exact Or.inr (Or.inl ⟨acts, List.mem_cons_of_mem _ hMember⟩)
        · exact Or.inr (Or.inr hOwn)

end

/-! ### Where there is a worker -/

theorem Coherent.stopped_of_cancelled (h : c.Coherent) (hCancelled : c.core.cancelled = true) :
    c.core.lifecycle.phase = .stopped := by
  have hTied : c.core.cancelled = c.core.lifecycle.isStopped := h.tied
  rw [hCancelled, Lifecycle.isStopped] at hTied
  exact beq_iff_eq.1 hTied.symm

/-- There is no worker before the start, and where it has ended the cache is stopped. -/
structure Manned (c : Cache K V) : Prop where
  absent : c.worker = .absent →
    c.core.lifecycle.phase = .latent ∨ c.core.lifecycle.phase = .stopped
  ended : c.worker = .ended → c.core.lifecycle.phase = .stopped

theorem Manned.initial : (initial : Cache K V).Manned := ⟨fun _ => Or.inl rfl, nofun⟩

/-- A worker that is neither ready nor waiting was torn down, if the cache is at work. -/
theorem Manned.at_work (h : c.Manned)
    (hPhase : c.core.lifecycle.phase = .starting ∨ c.core.lifecycle.phase = .started)
    (hWhole : ∀ p, c.worker ≠ .crashed p) : c.worker.IsReady ∨ c.worker.IsWaiting := by
  have hNotStopped : c.core.lifecycle.phase ≠ .stopped := by
    rcases hPhase with hPhase | hPhase <;> simp [hPhase]
  have hNotLatent : c.core.lifecycle.phase ≠ .latent := by
    rcases hPhase with hPhase | hPhase <;> simp [hPhase]
  cases hWorker : c.worker with
  | absent => exact ((h.absent hWorker).elim hNotLatent hNotStopped).elim
  | ended => exact (hNotStopped (h.ended hWorker)).elim
  | crashed p => exact (hWhole p hWorker).elim
  | fetching => exact Or.inr trivial
  | _ => exact Or.inl trivial

variable [DecidableEq K] [DecidableEq V]

/-- As long as there is no worker, the one thing that can change the phase is a stop. -/
theorem phase_of_absent (happening : Happening V) (h : c.Coherent)
    (hWorker : c.worker = .absent) (hNext : (c.happen feed happening).worker = .absent) :
    (c.happen feed happening).core.lifecycle.phase = c.core.lifecycle.phase ∨
      (c.happen feed happening).core.lifecycle.phase = .stopped := by
  cases happening with
  | start runtime =>
      rcases start_cases feed runtime c with ⟨_, hStart⟩ | ⟨hSame, _⟩
      · rw [happen, hStart] at hNext
        cases hNext
      · rw [happen, hSame]
        exact Or.inl rfl
  | stop => exact Or.inr (Core.phase_stop feed c.core)
  | shutdown =>
      have hStopped : (c.stop feed).worker = .absent := hWorker
      refine Or.inr ?_
      simp only [happen, shutdown, turn_of_absent feed hStopped, reportCrash, hStopped]
      exact Core.phase_stop feed c.core
  | join name react =>
      obtain ⟨t, hJoin, hStirs, _⟩ := h.join_stirs feed name react
      rw [happen, hJoin]
      exact hStirs.phase
  | leave name => exact Or.inl rfl
  | answer acts answer =>
      rw [happen, receive_of_not_fetching feed acts answer (by simp [hWorker])]
      exact Or.inl rfl
  | elapse nanos => exact Or.inl rfl
  | turn =>
      rw [happen, turn_of_absent feed hWorker]
      exact Or.inl rfl

theorem Manned.happen (happening : Happening V) (h : c.Manned) (hCoherent : c.Coherent)
    (hSynced : c.Synced) : (c.happen feed happening).Manned := by
  obtain ⟨hNext, hPath⟩ := hCoherent.happen feed happening
  -- where the worker stays it may be the phase that changes, and a stop leaves no other phase
  rcases (happen_moves feed happening hSynced).manned with hSame | ⟨hPresent, hEnds⟩
  · refine ⟨fun hAbsent => ?_, fun hEnded => ?_⟩
    · have hWorker : c.worker = .absent := hSame.symm.trans hAbsent
      rcases phase_of_absent happening hCoherent hWorker hAbsent with hPhase | hStopped
      · rw [hPhase]
        exact h.absent hWorker
      · exact Or.inr hStopped
    · exact hPath.leadsTo.stopped (h.ended (hSame.symm.trans hEnded))
  · exact ⟨fun hAbsent => (hPresent hAbsent).elim,
      fun hEnded => hNext.stopped_of_cancelled (hEnds hEnded)⟩

theorem Manned.replay (run : List (Happening V)) (h : c.Manned) (hCoherent : c.Coherent)
    (hSynced : c.Synced) : (c.replay feed run).Manned :=
  replay_keeps (fun _ happening hCoherent hSynced h => h.happen happening hCoherent hSynced) run
    hCoherent hSynced h

/-! ### Without a time limit -/

omit [DecidableEq K] [DecidableEq V] in
/-- The base is accepted, and then there is no time limit to send the query with. -/
theorem beginCycle_of_stuck (hStuck : feed.IsStuck) (c : Cache K V) :
    (c.beginCycle feed).worker = .crashed (.text "overflow when adding durations") := by
  have hLimit := hStuck.readLimit
  obtain ⟨hIndex, hWait, _⟩ := hStuck
  simp only [beginCycle, Query.forCycle, hIndex, hWait, hLimit, Option.isSome_none,
    Bool.false_eq_true, if_false]
  rfl

theorem responses_of_stuck (hStuck : feed.IsStuck) (run : List (Happening V))
    (hSynced : c.Synced) (hIdle : ¬ c.worker.IsWaiting) : responses feed run c = [] := by
  induction run generalizing c with
  | nil => rfl
  | cons happening rest ih =>
      have hNone : c.response? happening = none :=
        Option.eq_none_iff_forall_ne_some.2 fun r hSome => hIdle (waiting_of_response hSome)
      have hMoves := happen_moves feed happening hSynced
      have hStill : ¬ (c.happen feed happening).worker.IsWaiting := by
        generalize c.applied? feed happening = r at hMoves
        cases hMoves with
        | stays stays => exact stays.worker ▸ hIdle
        | starts _ _ hWorker => exact hWorker ▸ not_false
        | goesOn _ goesOn =>
            rcases goesOn.sent.asks with ⟨q, _, hRequest⟩ | ⟨_, hStill⟩
            · cases (hStuck.request? _).symm.trans hRequest
            · exact hStill
        | breaksOff hWaiting => exact (hIdle hWaiting).elim
        | applies hWaiting => exact (hIdle hWaiting).elim
        | torn hWorker => exact hWorker ▸ not_false
        | buried _ hWorker => exact hWorker ▸ not_false
      rw [responses, hNone]
      exact ih (hMoves.synced hSynced) hStill

/-- The first turn after a start. -/
theorem crashed_of_stuck (hStuck : feed.IsStuck) :
    ((initial : Cache K V).replay feed [.start true, .turn]).worker =
      .crashed (.text "overflow when adding durations") := by
  let said := ((initial : Cache K V).happen feed (.start true)).log (feed.record .info
    "Poll loop started" [("watch_seconds", Text.writeNatural feed.settings.watchSeconds)])
  have hRun : (initial : Cache K V).replay feed [.start true, .turn] = said.beginCycle feed := rfl
  rw [hRun]
  exact beginCycle_of_stuck hStuck said

/-- Without a response there is nothing published, and so the cache is not started. -/
theorem not_started_of_stuck (hStuck : feed.IsStuck) (hKeys : ∀ v, ∃ k, feed.keyOf v = .ok k)
    (run : List (Happening V)) :
    ((initial : Cache K V).replay feed run).core.lifecycle.phase ≠ .started := by
  intro hStarted
  have hCoherent : ((initial : Cache K V).replay feed run).Coherent :=
    (Coherent.initial.replay feed run).1
  have hCancelled : ((initial : Cache K V).replay feed run).core.cancelled = false := by
    refine Eq.trans hCoherent.tied ?_
    rw [Lifecycle.isStopped, hStarted]
    rfl
  obtain ⟨built, hBuilt, hTells⟩ :=
    replay_tells feed hKeys run Coherent.initial Registered.initial hCancelled
  rw [responses_of_stuck hStuck run .initial not_false] at hBuilt
  obtain rfl : built = [] := List.map_eq_nil_iff.1 hBuilt.symm
  have hInitialized := hCoherent.started hStarted
  rw [hCoherent.initialized, hTells.published] at hInitialized
  cases hInitialized

/-- Where neither the source nor a key nor the callback for failed cycles panics, the worker is at
work in every cache that is starting or started, exactly if the time limit of its queries exists or
none can be made. Accepted settings see to that by a margin of less than 2⁶⁴ - 600 seconds, but not
in general; and where they do not, no cache sends a request and none becomes started. -/
theorem survives_iff_not_stuck (feed : Feed K V) (hAccepted : feed.check = .ok ())
    (hKeys : ∀ v, ∃ k, feed.keyOf v = .ok k)
    (hConsumer : ∀ n p, (feed.consumer n).ending ≠ .panicked p) :
    ((∀ run : List (Happening V), (∀ acts p, .answer acts (.panicked p) ∉ run) →
        let c := (initial : Cache K V).replay feed run
        (∀ p, c.worker ≠ .crashed p) ∧
          (c.core.lifecycle.phase = .starting ∨ c.core.lifecycle.phase = .started →
            c.worker.IsReady ∨ c.worker.IsWaiting)) ↔
      ¬ feed.IsStuck) ∧
    (feed.settings.margin.nanos < (UInt64.size - 600) * 1000000000 → ¬ feed.IsStuck) ∧
    (feed.IsStuck → ∀ run : List (Happening V),
      (∀ r, .asked r ∉ signals feed run (initial : Cache K V)) ∧
        ((initial : Cache K V).replay feed run).core.lifecycle.phase ≠ .started) := by
  refine ⟨⟨fun hSurvives hStuck => ?_, fun hLimited run hSource => ?_⟩, fun hMargin hStuck => ?_,
    fun hStuck run => ⟨fun r hMember => ?_, not_started_of_stuck hStuck hKeys run⟩⟩
  · have hWhole := (hSurvives [.start true, .turn] (by simp)).1
    exact hWhole _ (crashed_of_stuck hStuck)
  · intro c
    have hWhole (p : Panic) : c.worker ≠ .crashed p := by
      intro hCrashed
      rcases replay_panicked run .initial nofun hCrashed with ⟨v, hKey⟩ | ⟨acts, hMember⟩ | hOwn
      · obtain ⟨k, hOk⟩ := hKeys v
        cases hKey.symm.trans hOk
      · exact hSource acts p hMember
      · exact hOwn.elim (fun ⟨n, hEnding⟩ => hConsumer n p hEnding) hLimited
    have hManned : c.Manned := Manned.initial.replay run Coherent.initial .initial
    exact ⟨hWhole, fun hPhase => hManned.at_work hPhase hWhole⟩
  · have hWatch := Settings.watch_le_of_validate hAccepted
    have hSum := hStuck.2.2.2
    unfold Settings.maxWatchSeconds at hWatch
    omega
  · have hLawful := (accords_replay feed run).lawful
    obtain ⟨held, hRequest⟩ := hLawful.exists_request (List.mem_reverse.2 hMember)
    cases (hStuck.request? held).symm.trans hRequest

/-- With the settings that hold where nothing else is said the worker is at work after a failed
cycle. -/
theorem survives_of_default :
    let feed : Feed Nat Nat :=
      ⟨"numbers", fun n => .ok (n % 10), toString, .default, .blank, fun _ => .idle⟩
    let run : List (Happening Nat) := [.start true, .turn, .answer [] (.failed .noIndex)]
    let c := (initial : Cache Nat Nat).replay feed run
    feed.check = .ok () ∧ (∀ v, ∃ k, feed.keyOf v = .ok k) ∧
      (∀ n p, (feed.consumer n).ending ≠ .panicked p) ∧ ¬ feed.IsStuck ∧
      (∀ acts p, .answer acts (.panicked p) ∉ run) ∧ c.core.lifecycle.phase = .starting ∧
      (c.worker.IsReady ∨ c.worker.IsWaiting) := by
  intro feed run c
  have hAccepted : feed.check = .ok () := by decide
  have hKeys : ∀ v, ∃ k, feed.keyOf v = .ok k := fun v => ⟨v % 10, rfl⟩
  have hConsumer : ∀ n p, (feed.consumer n).ending ≠ .panicked p := fun _ _ => nofun
  have hSource : ∀ acts p, .answer acts (.panicked p) ∉ run := by simp [run]
  have hPhase : c.core.lifecycle.phase = .starting := by decide +kernel
  have hLimited : ¬ feed.IsStuck := by decide +kernel
  obtain ⟨hSurvives, _⟩ := survives_iff_not_stuck feed hAccepted hKeys hConsumer
  have hRun : (initial : Cache Nat Nat).replay feed run = c := rfl
  have hAtWork := (hSurvives.2 hLimited run hSource).2
  rw [hRun] at hAtWork
  exact ⟨hAccepted, hKeys, hConsumer, hLimited, hSource, hPhase, hAtWork (Or.inl hPhase)⟩

/-- The longest margin in whole seconds is accepted, and the first turn brings the worker down. The
cache goes on to call itself starting. -/
theorem crashed_of_longest_margin :
    let feed : Feed Nat Nat :=
      ⟨"numbers", fun n => .ok (n % 10), toString,
        { Settings.default with margin := .ofSeconds 18446744073709551615 }, .blank,
        fun _ => .idle⟩
    let run : List (Happening Nat) := [.start true, .turn]
    let c := (initial : Cache Nat Nat).replay feed run
    feed.check = .ok () ∧ (∀ v, ∃ k, feed.keyOf v = .ok k) ∧
      (∀ n p, (feed.consumer n).ending ≠ .panicked p) ∧
      (∀ acts p, .answer acts (.panicked p) ∉ run) ∧ c.core.lifecycle.phase = .starting ∧
      c.worker = .crashed (.text "overflow when adding durations") ∧
      ¬ (c.worker.IsReady ∨ c.worker.IsWaiting) := by
  intro feed run c
  have hCrashed : c.worker = .crashed (.text "overflow when adding durations") :=
    crashed_of_stuck (by decide +kernel)
  refine ⟨by decide +kernel, fun v => ⟨v % 10, rfl⟩, fun _ _ => nofun, by simp [run],
    by decide +kernel, hCrashed, ?_⟩
  rw [hCrashed]
  exact fun h => h.elim id id

end Cache

end LongPoll
