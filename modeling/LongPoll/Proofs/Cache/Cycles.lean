import LongPoll.Cache.Happening
import LongPoll.Proofs.Cache.Callbacks

/-!
What the worker does between two publications.

Asking, failing, pausing, ending and being told to end change neither what was published nor what
the worker holds, and tell the listeners nothing. So a turn of the worker passes, and so does each
part of a cycle but the taking of a response.
-/

namespace LongPoll

variable {K V : Type}

namespace Event

/-- Events of which neither readers nor listeners learn. -/
def IsInternal : Event K V → Prop
  | .published _ | .notified _ _ _ => False
  | _ => True

theorem heardBy_internal {e : Event K V} (h : e.IsInternal) (id : Nat) : e.heardBy id = none := by
  cases e <;> first | rfl | exact h.elim

theorem ne_published_of_internal {e : Event K V} (h : e.IsInternal) (snapshot : Snapshot K V) :
    e ≠ .published snapshot := by
  rintro rfl
  exact h

end Event

namespace View

/-- Counting changes no more than the counters. -/
theorem leadsTo_stats (v : View K V) (stats : Stats) : v.LeadsTo { v with stats } :=
  ⟨Nat.le_refl _, fun h => ⟨h, rfl⟩, id⟩

end View

namespace Cache

variable {c d e : Cache K V}

/-- The worker or a call came by and left the published state alone. -/
structure Passes (c d : Cache K V) : Prop where
  stirs : c.shared.Stirs d.shared
  cursor : d.cursor = c.cursor
  heard : ∀ id, d.core.heard id = c.core.heard id

namespace Passes

theorem refl (c : Cache K V) : c.Passes c := ⟨.refl _, rfl, fun _ => rfl⟩

theorem trans (h : c.Passes d) (h' : d.Passes e) : c.Passes e :=
  ⟨h.stirs.trans h'.stirs, h'.cursor.trans h.cursor, fun id => (h'.heard id).trans (h.heard id)⟩

theorem published (h : c.Passes d) : d.core.published = c.core.published := h.stirs.published

end Passes

theorem record_passes (c : Cache K V) {e : Event K V} (hAdmits : c.core.toView.Admits e)
    (hInternal : e.IsInternal) : c.Passes (c.record e) where
  stirs := (Shared.Stirs.refl c.shared).note hAdmits (Event.ne_published_of_internal hInternal)
  cursor := rfl
  heard id := by
    refine (Event.heard_cons id e c.core.events).trans ?_
    rw [Event.heardBy_internal hInternal]
    exact List.append_nil _

theorem log_passes (c : Cache K V) {r : LogRecord} (h : r.message ≠ View.refusal) :
    c.Passes (c.log r) :=
  c.record_passes (e := .log r) h trivial

theorem becomes_passes (c : Cache K V) (worker : Worker) : c.Passes (c.becomes worker) :=
  ⟨.refl _, rfl, fun _ => rfl⟩

theorem count_passes (c : Cache K V) (f : Stats → Stats) : c.Passes (c.count f) where
  stirs := { Shared.Stirs.refl c.shared with
    path := (Core.Path.refl _).change _ (c.core.toView.leadsTo_stats (f c.core.stats)) }
  cursor := rfl
  heard _ := rfl

/-- A callback or the source has acted. -/
def acted (feed : Feed K V) (acts : List Act) (c : Cache K V) : Cache K V :=
  { c with shared := c.shared.performAll (Shared.setting feed) acts }

theorem acted_passes (feed : Feed K V) (acts : List Act) (c : Cache K V) :
    c.Passes (c.acted feed acts) where
  stirs := Shared.performAll_stirs feed acts c.shared
  cursor := rfl
  heard id := (Scene.performAll_quiet (Shared.setting_keeps feed) acts c.shared).heard_eq id

theorem stop_passes (feed : Feed K V) (c : Cache K V) : c.Passes (c.stop feed) :=
  acted_passes feed [.stop] c

variable (feed : Feed K V)

theorem exit_passes (c : Cache K V) : c.Passes (c.exit feed) :=
  (c.log_passes (by simp [Feed.record, View.refusal])).trans (becomes_passes _ _)

theorem noteEnd_passes (cycle : Cycle) (how : CycleEnd) (c : Cache K V) :
    c.Passes (c.noteEnd feed cycle how) :=
  (c.record_passes (e := .ended cycle how) trivial trivial).trans
    (log_passes _ (by simp [cycleRecord, Feed.record, View.refusal]))

theorem head_failureMessage : (failureMessage feed).toList.head? = some 'E' := by
  unfold failureMessage
  rw [String.toList_append, List.head?_append]
  have hHead : "Error getting response from ".toList.head? = some 'E' := by simp
  rw [hHead, Option.some_or]

theorem ne_failureMessage {text : String} (hHead : text.toList.head? ≠ some 'E') :
    text ≠ failureMessage feed := by
  intro hText
  rw [hText] at hHead
  exact hHead (head_failureMessage feed)

theorem failureMessage_ne_refusal : failureMessage feed ≠ View.refusal :=
  (ne_failureMessage feed (by simp [View.refusal])).symm

theorem report_passes (fault : Fault) (c : Cache K V) : c.Passes (c.report feed fault).1 := by
  have hRecord : c.Passes (c.record
      (.ofFailure feed.settings.errorLog (failureMessage feed) fault)) := by
    cases feed.settings.errorLog with
    | error => exact c.log_passes (failureMessage_ne_refusal feed)
    | warn => exact c.log_passes (failureMessage_ne_refusal feed)
    | custom => exact c.record_passes (e := .reported _ _ _) trivial trivial
  have hActed := hRecord.trans (acted_passes feed
    ((c.record (.ofFailure feed.settings.errorLog (failureMessage feed) fault)).reactionToFailure
      feed).acts _)
  dsimp only [report]
  split
  · exact hActed
  · exact hActed

theorem fail_passes (cycle : Cycle) (fault : Fault) (c : Cache K V) :
    c.Passes (c.fail feed cycle fault) := by
  have hReported := (c.count_passes fun s => { s with failed := s.failed + 1 }).trans
    (report_passes feed fault _)
  dsimp only [fail]
  split
  · exact hReported.trans (becomes_passes _ _)
  · have hEnded := hReported.trans (noteEnd_passes feed cycle .failed _)
    split
    · exact hEnded.trans (exit_passes feed _)
    · exact hEnded.trans (becomes_passes _ _)

theorem beginCycle_passes {c : Cache K V} (hCancelled : c.isCancelled = false) :
    c.Passes (c.beginCycle feed) := by
  have hBegan : c.Passes (c.record (.began ⟨c.cursor.index, c.core.now⟩)) :=
    c.record_passes hCancelled trivial
  dsimp only [beginCycle]
  split
  · exact hBegan.trans (fail_passes feed _ _ _)
  · split
    · exact hBegan.trans (becomes_passes _ _)
    · refine hBegan.trans (Passes.trans ?_ (becomes_passes _ _))
      exact record_passes _ hCancelled trivial

theorem goOn_passes (c : Cache K V) : c.Passes (c.goOn feed) := by
  unfold goOn
  split
  · exact exit_passes feed c
  · next hCancelled => exact beginCycle_passes feed (by simpa using hCancelled)

theorem rest_passes (cycle : Cycle) (c : Cache K V) : c.Passes (c.rest feed cycle) := by
  dsimp only [rest]
  split
  · split
    · exact exit_passes feed c
    · exact becomes_passes c _
  · exact goOn_passes feed c

theorem abandon_passes (c : Cache K V) : c.Passes c.abandon :=
  c.record_passes (e := .abandoned _) trivial trivial

/-- A turn of the worker takes no response, so it passes. -/
theorem turn_passes (c : Cache K V) : c.Passes (c.turn feed) := by
  unfold turn
  split
  · exact .refl c
  · exact .refl c
  · exact .refl c
  · exact (c.log_passes (by simp [Feed.record, View.refusal])).trans (goOn_passes feed _)
  · split
    · exact (abandon_passes c).trans (exit_passes feed _)
    · split
      · exact .refl c
      · split
        · exact (abandon_passes c).trans (fail_passes feed _ _ _)
        · exact .refl c
  · split
    · exact exit_passes feed c
    · split
      · exact rest_passes feed _ c
      · exact .refl c
  · split
    · exact exit_passes feed c
    · split
      · exact goOn_passes feed c
      · exact .refl c

theorem reportCrash_passes (c : Cache K V) : c.Passes (c.reportCrash feed) := by
  unfold reportCrash
  split
  · exact (c.log_passes (by simp [Feed.record, View.refusal])).trans (becomes_passes _ _)
  · exact .refl c

theorem shutdown_passes (c : Cache K V) : c.Passes (c.shutdown feed) :=
  ((stop_passes feed c).trans (turn_passes feed _)).trans (reportCrash_passes feed _)

variable {feed}

/-- A worker that was torn down is reported when the owner waits for it. -/
theorem shutdown_of_crashed {p : Panic} (hWorker : c.worker = .crashed p) :
    c.shutdown feed = Cache.becomes .ended ((c.stop feed).log
      (feed.record .warn "Poll loop ended abnormally" [("error", crashText p)])) := by
  have hStopped : (c.stop feed).worker = .crashed p := hWorker
  have hTurn : (c.stop feed).turn feed = c.stop feed := by simp only [turn, hStopped]
  simp only [shutdown, hTurn, reportCrash, hStopped]

end Cache

end LongPoll
