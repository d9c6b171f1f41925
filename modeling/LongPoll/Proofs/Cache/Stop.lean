import LongPoll.Proofs.Cache.Coherence

/-!
A stop is final.

Whoever stops the cache, and wherever in a cycle, a delivery or a report it happens, the phase and
the order to the worker change together, and neither ever changes back. Every effect that follows
asks for one of the two first: a joining for the phase, everything else for the order. So nothing is
asked, published or told any more, not even by a delivery that is under way or for a response that
is in flight.
-/

namespace LongPoll

variable {K V : Type}

namespace Event

/-- The events that must not follow a stop: a cycle begins, a query is sent, a snapshot becomes the
current one, or a listener is called. -/
def IsEffect : Event K V → Prop
  | .began _ | .asked _ _ | .published _ | .notified _ _ _ => True
  | _ => False

/-- An effect is admitted only as long as the worker is not told to end. -/
theorem not_cancelled_of_effect {v : View K V} {e : Event K V} (hAdmits : v.Admits e)
    (hEffect : e.IsEffect) : v.cancelled = false := by
  cases e with
  | began | asked => exact hAdmits
  | published | notified => exact hAdmits.1
  | _ => exact hEffect.elim

end Event

namespace View

variable {v w : View K V}

theorem Tied.cancelled (h : v.Tied) (hStopped : v.lifecycle.phase = .stopped) :
    v.cancelled = true := by
  rw [h, Lifecycle.isStopped, hStopped]
  rfl

/-- No phase comes after the last. -/
theorem LeadsTo.stopped (h : v.LeadsTo w) (hStopped : v.lifecycle.phase = .stopped) :
    w.lifecycle.phase = .stopped := by
  have hRank := h.phase
  rw [hStopped] at hRank
  cases hPhase : w.lifecycle.phase with
  | stopped => rfl
  | _ => simp [hPhase, Phase.rank] at hRank

/-- A view that is stopped passes its phase and its snapshot on. -/
theorem LeadsTo.settled (h : v.LeadsTo w) (hTied : v.Tied)
    (hStopped : v.lifecycle.phase = .stopped) :
    w.lifecycle.phase = .stopped ∧ w.current = v.current :=
  ⟨h.stopped hStopped, (h.cancelled (hTied.cancelled hStopped)).2⟩

theorem Tied.not_effect {e : Event K V} (h : v.Tied) (hStopped : v.lifecycle.phase = .stopped)
    (hAdmits : v.Admits e) : ¬ e.IsEffect := by
  intro hEffect
  cases (Event.not_cancelled_of_effect hAdmits hEffect).symm.trans (h.cancelled hStopped)

end View

namespace Cache

variable (feed : Feed K V)

/-- A cache that is stopped cannot be started. -/
theorem start_of_stopped {c : Cache K V} (hStopped : c.core.lifecycle.phase = .stopped) :
    c.start feed true = (c, .error (.misuse .stopped)) := by
  rcases start_cases feed true c with ⟨hLatent, _⟩ | ⟨hSame, hMisuse⟩
  · cases hLatent.symm.trans hStopped
  · exact Prod.ext hSame (hStopped ▸ hMisuse rfl)

/-- The log shows where a cache was stopped. -/
theorem moments_stop {c : Core K V} (hPhase : c.lifecycle.phase ≠ .stopped) :
    (c.stop feed).moments =
      ⟨(c.stop feed).toView, .log (feed.record .info "Watch cache stopped" [])⟩ :: c.moments := by
  have hFirst : (c.lifecycle.phase != .stopped) = true := by simpa using hPhase
  simp only [Core.stop, Lifecycle.stop, hFirst, if_true, Core.record]

variable [DecidableEq K] [DecidableEq V]

/-- Every stop, by the owner or by a callback, leaves the phase stopped, and the first one writes
down a moment in that phase. From any such moment on no event is an effect, the phase and the
current snapshot are what they were, and a start on a runtime fails. The rest of the run is
arbitrary, so an answer may come before the turn in which the worker would notice the stop. -/
theorem quiet_after_stop (run : List (Happening V)) (later earlier : List (Moment K V))
    (m : Moment K V)
    (hMoments : ((initial : Cache K V).replay feed run).core.moments = later ++ m :: earlier)
    (hStopped : m.view.lifecycle.phase = .stopped) :
    let c := (initial : Cache K V).replay feed run
    (∀ m' ∈ m :: later, m'.view.lifecycle.phase = .stopped ∧
        m'.view.current = m.view.current ∧ ¬ m'.event.IsEffect) ∧
      c.core.lifecycle.phase = .stopped ∧ c.core.current = m.view.current ∧
      c.start feed true = (c, .error (.misuse .stopped)) ∧
      ∀ core : Core K V, (core.stop feed).lifecycle.phase = .stopped ∧
        (core.lifecycle.phase ≠ .stopped → (core.stop feed).moments =
          ⟨(core.stop feed).toView, .log (feed.record .info "Watch cache stopped" [])⟩ ::
            core.moments) := by
  intro c
  obtain ⟨hEach, hOrder⟩ := moments_replay feed run
  rw [hMoments] at hEach hOrder
  obtain ⟨hTied, _, hEnd⟩ := hEach m (by simp)
  obtain ⟨hPhase, hCurrent⟩ := hEnd.settled hTied hStopped
  refine ⟨?_, hPhase, hCurrent, start_of_stopped feed hPhase, ?_⟩
  · intro m' hm'
    have hLeads : m.view.LeadsTo m'.view := by
      rcases List.mem_cons.1 hm' with rfl | hLater
      · exact .refl _
      · exact (List.pairwise_append.1 hOrder).2.2 m' hLater m (List.mem_cons_self ..)
    have hMember : m' ∈ later ++ m :: earlier := by
      rcases List.mem_cons.1 hm' with rfl | hLater
      · simp
      · exact List.mem_append_left _ hLater
    obtain ⟨hTied', hAdmits, _⟩ := hEach m' hMember
    obtain ⟨hSame, hContent⟩ := hLeads.settled hTied hStopped
    exact ⟨hSame, hContent, hTied'.not_effect hSame hAdmits⟩
  · intro core
    exact ⟨Core.phase_stop feed core, fun hFirst => moments_stop feed hFirst⟩

/-- The listener called first stops the cache in the middle of a broadcast. The other is not called,
and a response that comes later is lost. -/
theorem quiet_after_stop_in_broadcast :
    let feed : Feed Nat Nat := ⟨"numbers", .ok, toString, .default, .blank, fun _ => .idle⟩
    let run : List (Happening Nat) := [.join "a" fun _ => ⟨[.stop], .returned⟩,
      .join "b" fun _ => .idle, .start true, .turn, .answer [] (.entries [7] ⟨1⟩),
      .answer [] (.entries [8] ⟨2⟩), .turn]
    let c := (initial : Cache Nat Nat).replay feed run
    ∃ later m earlier, c.core.moments = later ++ m :: earlier ∧ m.view.lifecycle.phase = .stopped ∧
      (∀ m' ∈ m :: later, ¬ m'.event.IsEffect) ∧
      c.start feed true = (c, .error (.misuse .stopped)) ∧
      (c.core.heard 0).map Snapshot.entries = [[(7, 7)]] ∧ c.core.heard 1 = [] := by
  intro feed run c
  have hPhase : c.core.moments[5]?.map (fun m => m.view.lifecycle.phase) = some .stopped := by
    decide +kernel
  obtain ⟨m, hm, hStopped⟩ := Option.map_eq_some_iff.1 hPhase
  obtain ⟨hLength, hAt⟩ := List.getElem?_eq_some_iff.1 hm
  have hMoments : c.core.moments = c.core.moments.take 5 ++ m :: c.core.moments.drop 6 := by
    rw [← hAt, ← List.drop_eq_getElem_cons hLength, List.take_append_drop]
  obtain ⟨hQuiet, _, _, hStart, _⟩ := quiet_after_stop feed run _ _ _ hMoments hStopped
  have hHeard : (c.core.heard 0).map Snapshot.entries = [[(7, 7)]] := by decide +kernel
  have hMissed : (c.core.heard 1).map Snapshot.entries = [] := by decide +kernel
  exact ⟨_, _, _, hMoments, hStopped, fun m' hm' => (hQuiet m' hm').2.2, hStart, hHeard,
    List.map_eq_nil_iff.1 hMissed⟩

end Cache

end LongPoll
