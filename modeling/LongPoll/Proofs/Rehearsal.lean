import LongPoll.Rehearsal
import LongPoll.Proofs.Cache.Publication

/-!
A rehearsal is a run.

Whatever a rehearsal does with its cache, with its script and with its clock comes down to
happenings of the cache. So what holds after every run of a cache holds in every rehearsal.
-/

namespace LongPoll.Rehearsal

variable {K V : Type} [DecidableEq K] [DecidableEq V] {r r' r'' : Rehearsal K V}

/-- Something happened to the cache of a rehearsal, or nothing did. -/
structure Follows (r r' : Rehearsal K V) : Prop where
  feed : r'.feed = r.feed
  run : ∃ run, r'.cache = r.cache.replay r.feed run

namespace Follows

theorem refl (r : Rehearsal K V) : r.Follows r := ⟨rfl, [], rfl⟩

theorem trans (h : r.Follows r') (h' : r'.Follows r'') : r.Follows r'' := by
  obtain ⟨run, hRun⟩ := h.run
  obtain ⟨more, hMore⟩ := h'.run
  refine ⟨h'.feed.trans h.feed, run ++ more, ?_⟩
  rw [hMore, h.feed, hRun, Cache.replay_append]

/-- One thing happened. -/
theorem happens (happening : Happening V) (hFeed : r'.feed = r.feed)
    (hCache : r'.cache = r.cache.happen r.feed happening) : r.Follows r' :=
  ⟨hFeed, [happening], hCache⟩

/-- The cache was left alone. -/
theorem still (hFeed : r'.feed = r.feed) (hCache : r'.cache = r.cache) : r.Follows r' :=
  ⟨hFeed, [], hCache⟩

end Follows

theorem turn_follows (r : Rehearsal K V) : r.Follows r.turn :=
  .happens .turn rfl rfl

theorem step?_follows (h : r.step? = some r') : r.Follows r' := by
  unfold step? at h
  split at h
  · split at h
    · next ready cue _ =>
        split at h
        · cases h
          exact .happens (.answer cue.acts cue.answer) rfl rfl
        · split at h
          · cases h
            exact turn_follows r
          · cases h
    · cases h
      exact .still rfl rfl
    · split at h
      · cases h
        exact turn_follows r
      · cases h
  · split at h
    · cases h
      exact turn_follows r
    · cases h

theorem runFor_follows (n : Nat) (r : Rehearsal K V) : r.Follows (runFor n r) := by
  induction n generalizing r with
  | zero => exact .refl r
  | succ n ih =>
      rw [runFor]
      split
      · exact .refl r
      · next r' hStep => exact (step?_follows hStep).trans (ih r')

theorem Follows.runOn (h : r.Follows r') : r.Follows r'.runOn := h.trans (runFor_follows _ r')

/-- The clock is set, and what is due then happens. -/
theorem setClock_follows (moment : Nat) (r : Rehearsal K V) :
    r.Follows (r.setClock moment).runOn := by
  have hElapsed : r.Follows (r.setClock moment) :=
    .happens (.elapse (moment - r.now)) rfl rfl
  exact hElapsed.runOn

theorem passFor_follows (n target : Nat) (r : Rehearsal K V) : r.Follows (passFor n target r) := by
  induction n generalizing r with
  | zero => exact setClock_follows target r
  | succ n ih =>
      rw [passFor]
      split
      · exact setClock_follows target r
      · next due _ =>
          split
          · exact (setClock_follows due r).trans (ih _)
          · exact setClock_follows target r

/-- Who waits is told yes in a cache that is ready. Who is told no has looked at a cache that was
not, once at least if the wait is for more than no time. -/
theorem awaitFor_cases (n target : Nat) (r : Rehearsal K V) :
    r.Follows (awaitFor n target r).1 ∧
      ((awaitFor n target r).2 = true →
        (awaitFor n target r).1.cache.core.lifecycle.initialized = true) ∧
      ((awaitFor n target r).2 = false → n = 0 ∨ ∃ looked, r.Follows looked ∧
        looked.Follows (awaitFor n target r).1 ∧
          looked.cache.core.lifecycle.initialized = false) := by
  induction n generalizing r with
  | zero => exact ⟨setClock_follows target r, nofun, fun _ => Or.inl rfl⟩
  | succ n ih =>
      rw [awaitFor]
      split
      · next hReady => exact ⟨.refl r, fun _ => hReady, nofun⟩
      · next hNotReady =>
          have hLooked : r.cache.core.lifecycle.initialized = false :=
            Bool.eq_false_iff.2 hNotReady
          have hLast := setClock_follows target r
          split
          · exact ⟨hLast, nofun, fun _ => Or.inr ⟨r, .refl r, hLast, hLooked⟩⟩
          · next due _ =>
              split
              · obtain ⟨hFollows, hYes, hNo⟩ := ih (r.setClock due).runOn
                have hJump := setClock_follows due r
                refine ⟨hJump.trans hFollows, hYes, fun hAnswer => ?_⟩
                rcases hNo hAnswer with hNone | ⟨looked, hBefore, hAfter, hEmpty⟩
                · exact Or.inr ⟨r, .refl r, hJump.trans hFollows, hLooked⟩
                · exact Or.inr ⟨looked, hJump.trans hBefore, hAfter, hEmpty⟩
              · exact ⟨hLast, nofun, fun _ => Or.inr ⟨r, .refl r, hLast, hLooked⟩⟩

/-- Who waits for a cache that is ready need not wait. -/
theorem await_of_ready (d : Duration) (hReady : r.cache.core.lifecycle.initialized = true) :
    r.await d = (r, true) := by
  dsimp only [await]
  rw [awaitFor, if_pos hReady]

theorem await_follows (d : Duration) (r : Rehearsal K V) : r.Follows (r.await d).1 :=
  (awaitFor_cases _ _ r).1

/-- Each step of a rehearsal is a run of its cache. -/
theorem take_follows (s : Step V) (r : Rehearsal K V) : r.Follows (r.take s).1 := by
  have hTaken (happening : Happening V) (gone : Bool) :
      r.Follows { r with cache := r.cache.happen r.feed happening, gone } :=
    .happens happening rfl rfl
  -- waiting is kept closed: the moment until which one waits is not to be computed
  obtain ⟨waits, hWaits⟩ : ∃ waits, waits = @await K V _ _ := ⟨_, rfl⟩
  have hAwaited (d : Duration) : r.Follows (waits d r).1 := hWaits ▸ await_follows d r
  unfold take
  rw [← hWaits]
  split
  · next script =>
      have hExtended : r.Follows { r with script := r.script ++ script } := .still rfl rfl
      exact hExtended.runOn
  · exact passFor_follows _ _ r
  · split
    · exact .refl r
    · cases s with
      | start runtime => exact (hTaken (.start runtime) r.gone).runOn
      | stop => exact (hTaken .stop r.gone).runOn
      | shutdown => exact (hTaken .shutdown r.gone).runOn
      | release => exact (hTaken .stop true).runOn
      | join name react => exact (hTaken (.join name react) r.gone).runOn
      | leave name => exact (hTaken (.leave name) r.gone).runOn
      | await d => exact hAwaited d
      | look => exact .still rfl rfl
      | showText => exact .refl r
      | «recall» => exact .refl r
      | extend script => exact .refl r
      | pass d => exact .refl r

/-- Whatever the owner does in a rehearsal, the cache is where some run has left it. -/
theorem reached_by_run {feed : Feed K V} {script : List (Cue V)}
    (hBegin : begin feed script = .ok r)
    (steps : List (Step V)) :
    ∃ run, (steps.foldl (fun r s => (r.take s).1) r).cache =
      (Cache.initial : Cache K V).replay feed run := by
  have hFollows : r.Follows (steps.foldl (fun r s => (r.take s).1) r) := by
    clear hBegin
    induction steps generalizing r with
    | nil => exact .refl r
    | cons s rest ih => exact (take_follows s r).trans ih
  have hFresh : r.feed = feed ∧ r.cache = .initial := by
    unfold begin at hBegin
    cases hCheck : feed.check with
    | error fault =>
        rw [hCheck] at hBegin
        cases hBegin
    | ok _ =>
        rw [hCheck] at hBegin
        cases hBegin
        exact ⟨rfl, rfl⟩
  obtain ⟨run, hRun⟩ := hFollows.run
  exact ⟨run, by rw [hRun, hFresh.1, hFresh.2]⟩

end LongPoll.Rehearsal
