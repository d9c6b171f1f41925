import LongPoll.Proofs.Cache.Failures

/-!
What readers and listeners depend on.

Of all that happens to a cache, the calls of its owner, the acts of its source and the responses
have an impact; time, turns and failed cycles have none. What is published and what listeners hear
is a function of the impacts in their order, and so runs that differ in their failed cycles only
show the same.
-/

namespace LongPoll

namespace Cache

variable {K V : Type} {c d e : Cache K V} {feed : Feed K V}

variable [DecidableEq K] [DecidableEq V]

/-- The impacts of a run, in order. -/
def allImpacts (feed : Feed K V) : List (Happening V) → Cache K V → List (Impact V)
  | [], _ => []
  | happening :: rest, c => c.impacts happening ++ allImpacts feed rest (c.happen feed happening)

/-- The cache after an impact, its worker aside. -/
def enact (feed : Feed K V) (c : Cache K V) : Impact V → Cache K V
  | .start runtime => (c.start feed runtime).1
  | .join name react => (c.join feed name react).1
  | .leave name => (c.leave name).1
  | .act act => c.acted feed [act]
  | .response r => (c.apply feed r.entries r.index).1

/-- Two caches that readers and listeners cannot tell apart. -/
abbrev outward : Likeness K V :=
  keeping False Event.isOutward

theorem Alike.weathers {faults : List Fault} (h : Alike outward e c)
    (hWeathers : Weathers feed faults c d) : Alike outward e d := by
  have hView {β : Type} (f : View K V → β) : f d.core.toView = f { c.core.toView with
      stats := { c.core.stats with failed := c.core.stats.failed + faults.length } } :=
    congrArg f hWeathers.view
  have hStats := h.core.stats
  exact
    { shared :=
        { around :=
            { lifecycle := (hView View.lifecycle).trans h.core.lifecycle
              cancelled := (hView View.cancelled).trans h.core.cancelled
              serial := (hView (·.current.serial)).trans h.core.serial
              current := h.core.current.trans (hView (·.current.content)).symm
              now := nofun
              stats :=
                { succeeded := (hView (·.stats.succeeded)).trans hStats.succeeded
                  unchanged := (hView (·.stats.unchanged)).trans hStats.unchanged
                  published := (hView (·.stats.published)).trans hStats.published
                  lastIndex := (hView (·.stats.lastIndex)).trans hStats.lastIndex
                  failed := nofun
                  lastContact := nofun }
              history := hWeathers.outward.trans h.core.history }
          audience := hWeathers.audience ▸ h.shared.audience }
      index := hWeathers.cursor ▸ h.index
      published := hWeathers.cursor ▸ h.published
      worker := nofun }

theorem enact_acts (acts : List Act) (c : Cache K V) :
    (acts.map Impact.act).foldl (enact feed) c = c.acted feed acts := by
  induction acts generalizing c with
  | nil => rfl
  | cons act rest ih => exact ih (c.acted feed [act])

/-- The impacts of a happening are all that readers and listeners learn of it. -/
theorem Alike.enact_impacts (hDiscreet : feed.IsDiscreet) (happening : Happening V)
    (h : Alike outward e c) :
    Alike outward ((c.impacts happening).foldl (enact feed) e) (c.happen feed happening) := by
  cases happening with
  | start runtime => exact h.start runtime
  | stop => exact h.acted feed [.stop]
  | shutdown =>
      have hStopped := h.acted feed [.stop]
      exact (hStopped.weathers (turn_fares hDiscreet _).toWeathers).weathers
        (reportCrash_weathers _)
  | join name react => exact h.join name react
  | leave name => exact h.leave name
  | answer acts answer =>
      dsimp only [impacts, Cache.happen]
      rcases answer_cases feed acts answer c with ⟨hAwaits, cycle, limit, hWorker, hReceive⟩ |
        ⟨hAwaits, ⟨_, hReceive⟩ | ⟨_, hReceive⟩⟩
      · rw [hAwaits, hReceive, if_pos rfl, List.foldl_append, enact_acts]
        have hActed := h.acted feed acts
        cases answer with
        | panicked p =>
            have hTorn : Weathers feed [] (c.acted feed acts) ((c.acted feed acts).crash p) :=
              (Weathers.refl _).becomes _
            exact hActed.weathers hTorn
        | failed fault => exact hActed.weathers (fail_fares hDiscreet cycle _ _).toWeathers
        | entries list index =>
            obtain ⟨faults, hWeathers, _⟩ := conclude_weathers hDiscreet cycle
              ((c.acted feed acts).apply feed list index)
            exact (hActed.apply (.refl list) index).1.weathers hWeathers
      · rw [hAwaits, hReceive]
        exact h.weathers (turn_fares hDiscreet c).toWeathers
      · rw [hAwaits, hReceive]
        exact h
  | elapse nanos => exact { h with shared := ⟨{ h.core with now := nofun }, h.shared.audience⟩ }
  | turn => exact h.weathers (turn_fares hDiscreet c).toWeathers

theorem Alike.enact_run (hDiscreet : feed.IsDiscreet) (run : List (Happening V))
    (h : Alike outward e c) :
    Alike outward ((allImpacts feed run c).foldl (enact feed) e) (c.replay feed run) := by
  -- `e` has no worker of its own, so it is no more than alike as soon as something happened
  induction run generalizing c e with
  | nil => exact h
  | cons happening rest ih =>
      rw [allImpacts, List.foldl_append]
      exact ih (h.enact_impacts hDiscreet happening)

/-- Runs with the same impacts look the same to readers and listeners. -/
theorem outward_eq (hDiscreet : feed.IsDiscreet) {run run' : List (Happening V)}
    (hImpacts : allImpacts feed run c = allImpacts feed run' c) :
    ∃ e, Alike outward e (c.replay feed run) ∧ Alike outward e (c.replay feed run') :=
  ⟨_, Alike.enact_run hDiscreet run (.keeping_refl c),
    hImpacts ▸ Alike.enact_run hDiscreet run' (.keeping_refl c)⟩

/-- What the worker is seen to do after a failed cycle is to send the same request again. -/
theorem asks_again {before mid after : List Signal} {r r' : Request} (run : List (Happening V))
    (hSignals : signals feed run (initial : Cache K V) =
      before ++ .asked r :: .failed :: (mid ++ .asked r' :: after))
    (hMid : ∀ q, Signal.asked q ∉ mid) : r' = r := by
  have hFailed (q : Request) : .asked q ∉ [.failed] ++ mid := by simp [hMid q]
  rcases signals_next run hSignals hFailed with ⟨_, hSame⟩ | ⟨i, hMid, _⟩
  · exact hSame
  · cases hMid

/-- Take a callback for failed cycles that neither acts on the cache nor panics. At each moment of
each run the cycles counted as failed are these: an error of the source, a query out of time, and a
query that cannot be made. When one fails, the acts of its source aside, the failure is counted and
reported once, the worker pauses unless it is told to end, and all else is as it was. The next
request is the one that failed, and it is sent when the pause is over. And two runs with the same
calls, acts and responses in the same order, whatever cycles fail in between, publish the same and
tell every listener the same. -/
theorem failed_cycles_change_nothing (feed : Feed K V) (hDiscreet : feed.IsDiscreet) :
    (∀ run happening,
      let c := (initial : Cache K V).replay feed run
      let d := c.happen feed happening
      (c.failure? feed happening = none → d.core.stats.failed = c.core.stats.failed) ∧
      ∀ cycle fault, c.failure? feed happening = some (cycle, fault) →
        ∃ acts : List Act, c.impacts happening = acts.map .act ∧
          let e := c.acted feed acts
          d.cursor = e.cursor ∧ d.shared.audience = e.shared.audience ∧
            d.core.toView = { e.core.toView with
              stats := { e.core.stats with failed := e.core.stats.failed + 1 } } ∧
            d.core.published = e.core.published ∧ (∀ id, d.core.heard id = e.core.heard id) ∧
            d.core.reports feed = e.core.reports feed ++
              [.ofFailure feed.settings.errorLog (failureMessage feed) fault] ∧
            d.core.seen = e.core.seen ++ [.failed] ∧
            d.worker = if e.core.cancelled then .ended
              else .backingOff cycle (e.core.now + feed.settings.backoff.nanos)) ∧
      (∀ run before r mid r' after,
        signals feed run (initial : Cache K V) =
          before ++ .asked r :: .failed :: (mid ++ .asked r' :: after) →
        (∀ q, Signal.asked q ∉ mid) → r' = r) ∧
      (∀ run happening cycle limit fault,
        let c := (initial : Cache K V).replay feed run
        let d := c.happen feed happening
        c.worker = .fetching cycle limit → c.failure? feed happening = some (cycle, fault) →
          d.core.cancelled = false →
          ∃ before r, signals feed run (initial : Cache K V) = before ++ [.asked r] ∧
            ∀ nanos, feed.settings.backoff.nanos ≤ nanos →
              cycle.started + feed.settings.minDelay.nanos ≤ d.core.now + nanos →
                (d.replay feed [.elapse nanos, .turn]).core.seen = d.core.seen ++ [.asked r]) ∧
      ∀ run run', allImpacts feed run (initial : Cache K V) =
          allImpacts feed run' (initial : Cache K V) →
        let c := (initial : Cache K V).replay feed run
        let d := (initial : Cache K V).replay feed run'
        d.core.published = c.core.published ∧ (∀ id, d.core.heard id = c.core.heard id) ∧
          d.snapshot = c.snapshot ∧ d.core.lifecycle = c.core.lifecycle ∧ d.cursor = c.cursor ∧
          d.shared.audience = c.shared.audience := by
  refine ⟨fun run happening => ⟨fun hNone => ?_, fun cycle fault hFailure => ?_⟩,
    fun run _ _ _ _ _ => asks_again run, fun run happening cycle limit fault => ?_,
    fun run run' hImpacts => ?_⟩
  · refine happen_failed hDiscreet happening (fun hWaiting => ?_) hNone
    obtain ⟨r, _, hOpen⟩ := (accords_replay feed run).suits.opened hWaiting
    have hLawful := (accords_replay feed run).lawful
    rw [hOpen] at hLawful
    exact ⟨_, r, hLawful.request⟩
  · obtain ⟨acts, hActs, hFares⟩ := happen_fares hDiscreet hFailure
    obtain ⟨hSeen, hWorker⟩ := hFares.outcome cycle fault rfl
    exact ⟨acts, hActs, hFares.cursor, hFares.audience, hFares.view,
      Core.published_of_outward hFares.outward, Core.heard_of_outward hFares.outward,
      hFares.reports, hSeen, hWorker⟩
  · intro c d hWorker hFailure hCancelled
    obtain ⟨r, rest, hPast, hRetries⟩ :=
      happen_retries hDiscreet (accords_replay feed run) hWorker hFailure hCancelled
    exact ⟨rest.reverse, r, List.reverse_eq_cons_iff.1 hPast, hRetries⟩
  · obtain ⟨e, hFirst, hSecond⟩ := outward_eq hDiscreet hImpacts
    have hOutward := hSecond.core.history.trans hFirst.core.history.symm
    exact ⟨Core.published_of_outward hOutward, Core.heard_of_outward hOutward,
      hSecond.core.current.symm.trans hFirst.core.current,
      hSecond.core.lifecycle.trans hFirst.core.lifecycle.symm,
      hSecond.cursor_eq.trans hFirst.cursor_eq.symm,
      hSecond.audience_eq.trans hFirst.audience_eq.symm⟩

/-- Before the first response the source fails, and before the second one the query runs out of
time. -/
theorem failed_cycles_change_nothing_of_numbers :
    let feed : Feed Nat Nat := ⟨"numbers", fun n => .ok (n % 10), toString,
      { Settings.default with errorLog := .custom }, .blank, fun _ => ⟨[], .failed "disk full"⟩⟩
    let run : List (Happening Nat) := [.join "a" fun _ => .idle, .start true, .turn,
      .answer [] (.entries [7] ⟨5⟩), .answer [] (.entries [8] ⟨6⟩)]
    let run' : List (Happening Nat) := [.join "a" fun _ => .idle, .start true, .turn,
      .answer [] (.failed .noIndex), .elapse 10000000000, .turn, .answer [] (.entries [7] ⟨5⟩),
      .elapse 12000000000, .turn, .elapse 10000000000, .turn, .answer [] (.entries [8] ⟨6⟩)]
    let c := (initial : Cache Nat Nat).replay feed run
    let d := (initial : Cache Nat Nat).replay feed run'
    feed.IsDiscreet ∧
      allImpacts feed run (initial : Cache Nat Nat) =
        allImpacts feed run' (initial : Cache Nat Nat) ∧
      d.core.published = c.core.published ∧ d.core.heard 0 = c.core.heard 0 ∧
      (c.core.heard 0).map Snapshot.entries = [[(7, 7)], [(8, 8)]] ∧
      c.core.stats.failed = 0 ∧ d.core.stats.failed = 2 := by
  intro feed run run' c d
  have hDiscreet : feed.IsDiscreet := fun _ _ => ⟨rfl, nofun⟩
  have hImpacts : allImpacts feed run (initial : Cache Nat Nat) =
      allImpacts feed run' (initial : Cache Nat Nat) := by
    simp only [allImpacts, impacts, run, run', List.map_nil, List.nil_append, List.append_nil]
    rw [if_pos, if_pos, if_pos, if_pos, if_pos]
    · rfl
    all_goals decide +kernel
  obtain ⟨hPublished, hHeard, _⟩ :=
    (failed_cycles_change_nothing feed hDiscreet).2.2.2 run run' hImpacts
  exact ⟨hDiscreet, hImpacts, hPublished, hHeard 0, by decide +kernel⟩

/-- Of two callbacks that never act on the cache one panics. The first failure is then the end of
the worker, and what would have been published after it is lost. The other does nothing, but the
source removes a listener while it is asked, and the cycle that fails leaves one listener less. -/
theorem panics_and_acts_change_more :
    let feed (reaction : Reaction) : Feed Nat Nat := ⟨"numbers", fun n => .ok (n % 10), toString,
      { Settings.default with errorLog := .custom }, .blank, fun _ => reaction⟩
    let panicking := feed ⟨[], .panicked .other⟩
    let run : List (Happening Nat) := [.start true, .turn, .answer [] (.entries [7] ⟨5⟩)]
    let run' : List (Happening Nat) := [.start true, .turn, .answer [] (.failed .noIndex),
      .elapse 10000000000, .turn, .answer [] (.entries [7] ⟨5⟩)]
    let idle := feed .idle
    let c := (initial : Cache Nat Nat).replay idle [.join "a" fun _ => .idle, .start true, .turn]
    let failing : Happening Nat := .answer [.remove "a"] (.failed .noIndex)
    ((∀ n, (panicking.consumer n).acts = []) ∧
      ((initial : Cache Nat Nat).replay panicking run).core.published.map Snapshot.entries =
        [[(7, 7)]] ∧
      ((initial : Cache Nat Nat).replay panicking run').core.published.map Snapshot.entries = []) ∧
    (∀ n, idle.consumer n = .idle) ∧ (c.failure? idle failing).isSome ∧ c.listeners = 1 ∧
      (c.happen idle failing).listeners = 0 := by
  refine ⟨⟨fun _ => rfl, ?_⟩, fun _ => rfl, ?_⟩
  · decide +kernel
  · decide +kernel

end Cache

end LongPoll
