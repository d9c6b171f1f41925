import LongPoll.Proofs.Cache.Comments
import LongPoll.Proofs.Cache.Failures

/-!
The pace of the cycles.

The history shows when each cycle began and ended. Between two cycles the worker sleeps once or
twice, and the second sleep is shorter by what the first one took. So the next cycle begins no
earlier than the later of two moments, one counted from the begin of the cycle and one from its end,
and exactly then if no sleep takes longer than it should.

The time limit of a query is counted from the begin of its cycle too. An answer that comes after it
is never applied: the cycle has failed by then, or it fails instead.
-/

namespace LongPoll

variable {K V : Type}

/-- A cycle began or ended, at a time. -/
inductive Lap where
  | began (cycle : Cycle) (time : Nat)
  | ended (cycle : Cycle) (how : CycleEnd) (time : Nat)
  deriving DecidableEq, Repr

def Moment.lap? (m : Moment K V) : Option Lap :=
  match m.event with
  | .began cycle => some (.began cycle m.view.now)
  | .ended cycle how => some (.ended cycle how m.view.now)
  | _ => none

/-- All begins and ends of cycles so far, latest first. -/
def Core.laps (c : Core K V) : List Lap := c.moments.filterMap Moment.lap?

/-- When a worker that sleeps is due to wake. -/
def Worker.wakes? : Worker → Option Nat
  | .backingOff _ due | .resting _ due => some due
  | _ => none

namespace Settings

variable (s : Settings)

/-- How long the worker pauses on account of the end of a cycle. -/
def pauseAfter : CycleEnd → Nat
  | .failed => s.backoff.nanos
  | _ => 0

/-- The first moment at which the next cycle may begin. -/
def resumption (cycle : Cycle) (how : CycleEnd) (time : Nat) : Nat :=
  max (cycle.started + s.minDelay.nanos) (time + s.pauseAfter how)

end Settings

/-- After these laps, latest first, a cycle may begin now. If `exact`, it could not begin before. -/
inductive MayBegin (s : Settings) (exact : Prop) (now : Nat) : List Lap → Prop where
  | first : MayBegin s exact now []
  | next {cycle : Cycle} {how : CycleEnd} {time : Nat} {past : List Lap}
      (hDue : s.resumption cycle how time ≤ now)
      (hExact : exact → now = s.resumption cycle how time) :
      MayBegin s exact now (.ended cycle how time :: past)

/-- Laps, latest first, in which each cycle ends before the next begins and none begins too early.
If `exact`, none begins later than it may either. -/
inductive Paced (s : Settings) (exact : Prop) : List Lap → Prop where
  | nil : Paced s exact []
  | began {past : List Lap} {cycle : Cycle} (paced : Paced s exact past)
      (may : MayBegin s exact cycle.started past) :
      Paced s exact (.began cycle cycle.started :: past)
  | ended {past : List Lap} {cycle : Cycle} {time : Nat}
      (paced : Paced s exact (.began cycle cycle.started :: past)) (how : CycleEnd)
      (hLater : cycle.started ≤ time) :
      Paced s exact (.ended cycle how time :: .began cycle cycle.started :: past)

namespace Paced

variable {s : Settings} {exact : Prop}

theorem of_append {later earlier : List Lap} (h : Paced s exact (later ++ earlier)) :
    Paced s exact earlier := by
  induction later with
  | nil => exact h
  | cons lap rest ih =>
      rw [List.cons_append] at h
      generalize hAll : rest ++ earlier = all at h ih
      cases h with
      | began paced => exact ih paced
      | ended paced => exact ih paced

/-- Between two begins there is one end, and it says when the second could begin. -/
theorem next {cycle cycle' : Cycle} {t t' : Nat} {mid earlier : List Lap}
    (h : Paced s exact (.began cycle' t' :: (mid ++ .began cycle t :: earlier)))
    (hMid : ∀ b u, .began b u ∉ mid) :
    ∃ how e, mid = [.ended cycle how e] ∧ cycle.started = t ∧ t ≤ e ∧
      s.resumption cycle how e ≤ t' ∧ (exact → t' = s.resumption cycle how e) := by
  generalize hPast : mid ++ .began cycle t :: earlier = past at h
  cases h with
  | began paced may =>
      cases may with
      | first => simp at hPast
      | @next ended how e past hDue hExact =>
          cases paced with
          | ended paced _ hLater =>
              -- the end is the first lap between the two, and the next lap is a begin again
              match mid, hMid, hPast with
              | [], _, hPast => cases hPast
              | [lap], _, hPast =>
                  cases hPast
                  exact ⟨how, e, rfl, rfl, hLater, hDue, hExact⟩
              | lap :: lap' :: rest, hMid, hPast =>
                  cases hPast
                  exact (hMid _ _ (List.mem_cons_of_mem _ (List.mem_cons_self ..))).elim

end Paced

/-- What the worker keeps of the last lap, by where it is. -/
inductive Worker.Keeps (s : Settings) (exact : Prop) (now : Nat) (cancelled : Bool) :
    List Lap → Worker → Prop where
  | absent : Keeps s exact now cancelled [] .absent
  | spawned : Keeps s exact now cancelled [] .spawned
  | fetching {cycle : Cycle} {limit : Option Duration} {past : List Lap}
      (hStarted : cycle.started ≤ now) (hLimit : s.readLimit = .ok limit) :
      Keeps s exact now cancelled (.began cycle cycle.started :: past) (.fetching cycle limit)
  | backingOff {cycle : Cycle} {time : Nat} {past : List Lap} :
      Keeps s exact now cancelled (.ended cycle .failed time :: past)
        (.backingOff cycle (time + s.backoff.nanos))
  | resting {cycle : Cycle} {how : CycleEnd} {time : Nat} {past : List Lap}
      (hPaused : time + s.pauseAfter how ≤ now)
      (hExact : exact → time + s.pauseAfter how ≤ cycle.started + s.minDelay.nanos) :
      Keeps s exact now cancelled (.ended cycle how time :: past)
        (.resting cycle (cycle.started + s.minDelay.nanos))
  | crashed {cycle : Cycle} {p : Panic} {past : List Lap} :
      Keeps s exact now cancelled (.began cycle cycle.started :: past) (.crashed p)
  | ended {past : List Lap} (hCancelled : cancelled = true) :
      Keeps s exact now cancelled past .ended

/-- Time and stops do not matter to what the worker keeps. -/
theorem Worker.Keeps.mono {s : Settings} {exact : Prop} {now now' : Nat}
    {cancelled cancelled' : Bool}
    {past : List Lap} {worker : Worker} (h : worker.Keeps s exact now cancelled past)
    (hNow : now ≤ now') (hCancelled : cancelled = true → cancelled' = true) :
    worker.Keeps s exact now' cancelled' past := by
  cases h with
  | absent => exact .absent
  | spawned => exact .spawned
  | fetching hStarted hLimit => exact .fetching (Nat.le_trans hStarted hNow) hLimit
  | backingOff => exact .backingOff
  | resting hPaused hExact => exact .resting (Nat.le_trans hPaused hNow) hExact
  | crashed => exact .crashed
  | ended hEnded => exact .ended (hCancelled hEnded)

namespace Core

theorem laps_record {e : Event K V} {c : Core K V} (hNone : (Moment.mk c.toView e).lap? = none) :
    (c.record e).laps = c.laps := by
  rw [laps, record, List.filterMap_cons, hNone]
  rfl

theorem laps_comments {a b : Core K V} (h : a.Comments b) : b.laps = a.laps :=
  h.filterMap_eq fun m hComment => by
    obtain ⟨view, e⟩ := m
    cases e <;> first | rfl | exact hComment.elim

end Core

namespace Cache

variable {c d e : Cache K V}

/-- No cycle begins or ends, and no time passes. -/
structure Idles (c d : Cache K V) : Prop where
  laps : d.core.laps = c.core.laps
  now : d.core.now = c.core.now
  worker : d.worker = c.worker
  cancelled : c.core.cancelled = true → d.core.cancelled = true

namespace Idles

theorem refl (c : Cache K V) : c.Idles c := ⟨rfl, rfl, rfl, id⟩

theorem trans (h : c.Idles d) (h' : d.Idles e) : c.Idles e :=
  ⟨h'.laps.trans h.laps, h'.now.trans h.now, h'.worker.trans h.worker, h'.cancelled ∘ h.cancelled⟩

end Idles

theorem comments_idles (hComments : c.core.Comments d.core) (hWorker : d.worker = c.worker) :
    c.Idles d :=
  ⟨Core.laps_comments hComments, hComments.now, hWorker, hComments.cancelled⟩

theorem record_idles {e : Event K V} (c : Cache K V)
    (hNone : (Moment.mk c.core.toView e).lap? = none) : c.Idles (c.record e) :=
  ⟨Core.laps_record hNone, rfl, rfl, id⟩

theorem log_idles (r : LogRecord) (c : Cache K V) : c.Idles (c.log r) :=
  record_idles (e := .log r) c rfl

theorem count_idles (f : Stats → Stats) (c : Cache K V) : c.Idles (c.count f) := ⟨rfl, rfl, rfl, id⟩

theorem noteUnchanged_idles (c : Cache K V) : c.Idles c.noteUnchanged := count_idles _ c

theorem hold_idles (next : Option Index) (c : Cache K V) : c.Idles (c.hold next) :=
  ⟨rfl, rfl, rfl, id⟩

theorem settle_idles (c : Cache K V) : c.Idles c.settle.1 := ⟨rfl, rfl, rfl, id⟩

variable (feed : Feed K V)

theorem acted_idles (acts : List Act) (c : Cache K V) : c.Idles (c.acted feed acts) :=
  comments_idles (acted_comments feed acts c) rfl

theorem stop_idles (c : Cache K V) : c.Idles (c.stop feed) :=
  acted_idles feed [.stop] c

theorem heeded_idles (fault : Fault) (c : Cache K V) : c.Idles (c.heeded feed fault) := by
  have hReported : c.Idles (c.reported feed fault) := by
    refine (count_idles (fun s => { s with failed := s.failed + 1 }) c).trans (record_idles _ ?_)
    cases feed.settings.errorLog <;> rfl
  exact hReported.trans (acted_idles feed _ _)

/-! ### Responses take no time -/

theorem repeated_idles (keys : List K) (c : Cache K V) :
    c.Idles (keys.foldl (fun c k => c.log (Snapshot.repeatedRecord feed.showKey k)) c) := by
  induction keys generalizing c with
  | nil => exact .refl c
  | cons k rest ih => exact (log_idles _ c).trans (ih _)

theorem announce_idles (candidate : Snapshot K V) (c : Cache K V) :
    c.Idles (c.announce feed candidate) := by
  have hTold : c.Idles { c with
      shared := (c.shared.broadcast (Shared.setting feed) Shared.broadcastGate candidate).1 } :=
    comments_idles (Shared.broadcast_comments feed candidate c.shared) rfl
  dsimp only [announce]
  split
  · exact hTold.trans (log_idles _ _)
  · exact hTold

theorem publish_idles (candidate : Snapshot K V) (c : Cache K V) :
    c.Idles (c.publish feed candidate) := by
  have hNoted : c.Idles (c.issue candidate) :=
    ⟨(record_idles (e := .published candidate) c rfl).laps, rfl, rfl, id⟩
  have hIssued := hNoted.trans (settle_idles _)
  obtain ⟨said, hSaid, hPublish⟩ := publish_eq_announce feed candidate c
  have hSaid : c.Idles said := by
    rcases hSaid with rfl | ⟨r, _, rfl⟩
    · exact hIssued
    · exact hIssued.trans (log_idles r _)
  have hTold := hSaid.trans (announce_idles feed candidate said)
  rw [hPublish]
  exact ⟨hTold.laps, hTold.now, hTold.worker, hTold.cancelled⟩

section

variable [DecidableEq K] [DecidableEq V]

theorem absorb_idles (entries : List V) (next : Option Index) (c : Cache K V) :
    c.Idles (c.absorb feed entries next).1 ∧ (c.absorb feed entries next).2 ≠ .ok .failed := by
  have hBuilt := repeated_idles feed (Snapshot.build feed.keyOf entries).repeated c
  dsimp only [absorb]
  split
  · exact ⟨hBuilt, by simp⟩
  · split
    · exact ⟨(hBuilt.trans (hold_idles next _)).trans (publish_idles feed _ _), by simp⟩
    · exact ⟨((hBuilt.trans (hold_idles next _)).trans (settle_idles _)).trans
        (noteUnchanged_idles _), by simp⟩

/-- A response is applied at once, and the cycle it ends has not failed. -/
theorem apply_idles (entries : List V) (returned : Index) (c : Cache K V) :
    c.Idles (c.apply feed entries returned).1 ∧
      (c.apply feed entries returned).2 ≠ .ok .failed := by
  have hContact : c.Idles c.noteContact := count_idles _ c
  unfold apply
  split
  · exact ⟨.refl c, by simp⟩
  · dsimp only
    split
    · split
      · exact ⟨hContact.trans (noteUnchanged_idles _), by simp⟩
      · exact (absorb_idles feed entries _ _).imp hContact.trans id
    · exact (absorb_idles feed entries _ _).imp (hContact.trans (log_idles _ _)).trans id
    · exact (absorb_idles feed entries _ _).imp hContact.trans id

end

/-! ### The parts of a cycle -/

/-- The laps of a cache are paced, and its worker keeps the pace. -/
structure Timely (exact : Prop) (c : Cache K V) : Prop where
  paced : Paced feed.settings exact c.core.laps
  keeps : c.worker.Keeps feed.settings exact c.core.now c.core.cancelled c.core.laps

variable {feed} {exact : Prop}

theorem Timely.idles (h : Timely feed exact c) (hIdles : c.Idles d) : Timely feed exact d := by
  refine ⟨hIdles.laps ▸ h.paced, ?_⟩
  rw [hIdles.laps, hIdles.now, hIdles.worker]
  exact h.keeps.mono (Nat.le_refl _) hIdles.cancelled

theorem laps_exit (c : Cache K V) : (c.exit feed).core.laps = c.core.laps := (log_idles _ c).laps

theorem exit_timely (hPaced : Paced feed.settings exact c.core.laps)
    (hCancelled : c.core.cancelled = true) : Timely feed exact (c.exit feed) :=
  ⟨(laps_exit c).symm ▸ hPaced, .ended hCancelled⟩

theorem laps_noteEnd (feed : Feed K V) (cycle : Cycle) (how : CycleEnd) (c : Cache K V) :
    (c.noteEnd feed cycle how).core.laps = .ended cycle how c.core.now :: c.core.laps :=
  (log_idles _ _).laps

/-- A cycle that is on its way: its begin is the last lap. -/
structure Open (exact : Prop) (feed : Feed K V) (cycle : Cycle) (c : Cache K V) : Prop where
  paced : Paced feed.settings exact c.core.laps
  last : ∃ past, c.core.laps = .began cycle cycle.started :: past
  started : cycle.started ≤ c.core.now

namespace Open

variable {cycle : Cycle}

theorem idles (h : Open exact feed cycle c) (hIdles : c.Idles d) : Open exact feed cycle d :=
  ⟨hIdles.laps ▸ h.paced, hIdles.laps ▸ h.last, hIdles.now ▸ h.started⟩

theorem crash (h : Open exact feed cycle c) (p : Panic) : Timely feed exact (c.crash p) := by
  obtain ⟨past, hLaps⟩ := h.last
  have hCrashed : (c.crash p).core.laps = .began cycle cycle.started :: past := hLaps
  exact ⟨h.paced, hCrashed ▸ .crashed⟩

theorem noteEnd (h : Open exact feed cycle c) (how : CycleEnd) :
    Paced feed.settings exact (c.noteEnd feed cycle how).core.laps := by
  obtain ⟨past, hLaps⟩ := h.last
  have hPaced := h.paced
  rw [hLaps] at hPaced
  rw [laps_noteEnd, hLaps]
  exact hPaced.ended how h.started

/-- A cycle that fails is followed by a pause, if the worker goes on at all. -/
theorem fail (h : Open exact feed cycle c) (fault : Fault) :
    Timely feed exact (c.fail feed cycle fault) := by
  have hHeeded := h.idles (heeded_idles feed fault c)
  rcases fail_cases feed cycle fault c with
    ⟨p, _, hFail⟩ | ⟨hCancelled, hFail⟩ | ⟨_, hFail⟩
  · rw [hFail]
    exact hHeeded.crash p
  · rw [hFail]
    exact exit_timely (hHeeded.noteEnd .failed) hCancelled
  · rw [hFail]
    refine ⟨hHeeded.noteEnd .failed, ?_⟩
    have hLaps := laps_noteEnd feed cycle .failed (c.heeded feed fault)
    rw [now_heeded] at hLaps
    exact hLaps.symm ▸ .backingOff

end Open

theorem beginCycle_timely (hPaced : Paced feed.settings exact c.core.laps)
    (hMay : MayBegin feed.settings exact c.core.now c.core.laps) :
    Timely feed exact (c.beginCycle feed) := by
  let cycle : Cycle := ⟨c.cursor.index, c.core.now⟩
  have hOpen : Open exact feed cycle (c.record (.began cycle)) :=
    ⟨hPaced.began hMay, ⟨c.core.laps, rfl⟩, Nat.le_refl _⟩
  dsimp only [beginCycle]
  split
  · exact hOpen.fail _
  · next query _ =>
      split
      · exact hOpen.crash _
      · next limit hLimit =>
        have hAsked := hOpen.idles (record_idles (e := .asked query limit) _ rfl)
        obtain ⟨past, hLaps⟩ := hAsked.last
        refine ⟨hAsked.paced, ?_⟩
        exact hLaps.symm ▸ .fetching hAsked.started hLimit

theorem goOn_timely (hPaced : Paced feed.settings exact c.core.laps)
    (hMay : c.core.cancelled = false → MayBegin feed.settings exact c.core.now c.core.laps) :
    Timely feed exact (c.goOn feed) := by
  unfold goOn
  split
  · next hCancelled => exact exit_timely hPaced hCancelled
  · next hCancelled => exact beginCycle_timely hPaced (hMay (Bool.eq_false_iff.2 hCancelled))

/-- The worker rests after a cycle that called for no pause, or for one that is over. -/
theorem rest_timely {cycle : Cycle} {how : CycleEnd} {time : Nat} {past : List Lap}
    (hPaced : Paced feed.settings exact c.core.laps)
    (hLaps : c.core.laps = .ended cycle how time :: past)
    (hPaused : time + feed.settings.pauseAfter how ≤ c.core.now)
    (hExact : c.core.cancelled = false → exact →
      c.core.now = time + feed.settings.pauseAfter how) :
    Timely feed exact (c.rest feed cycle) := by
  dsimp only [rest]
  split
  · next hEarly =>
      split
      · next hCancelled => exact exit_timely hPaced hCancelled
      · next hCancelled =>
          have hRests : Worker.Keeps feed.settings exact c.core.now c.core.cancelled c.core.laps
              (.resting cycle (cycle.started + feed.settings.minDelay.nanos)) := by
            rw [hLaps]
            refine .resting hPaused fun hYes => ?_
            have hNow := hExact (Bool.eq_false_iff.2 hCancelled) hYes
            omega
          exact ⟨hPaced, hRests⟩
  · next hLate =>
      refine goOn_timely hPaced fun hCancelled => ?_
      rw [hLaps]
      refine .next ?_ fun hYes => ?_
      · exact Nat.max_le.2 ⟨Nat.not_lt.1 hLate, hPaused⟩
      · have hNow := hExact hCancelled hYes
        rw [Settings.resumption]
        omega

/-- In its turn a worker that sleeps begins the next cycle once it is due, and if it is woken in
time it begins it at the first moment it may. -/
theorem turn_timely (h : Timely feed exact c)
    (hPunctual : c.core.cancelled = false → exact →
      ∀ due, c.worker.wakes? = some due → c.core.now ≤ due) :
    Timely feed exact (c.turn feed) := by
  obtain ⟨hPaced, hKeeps⟩ := h
  unfold turn
  generalize hWorker : c.worker = worker at hKeeps hPunctual
  generalize hLaps : c.core.laps = laps at hKeeps
  cases hKeeps with
  | absent => exact ⟨hPaced, by rw [hLaps, hWorker]; exact .absent⟩
  | crashed => exact ⟨hPaced, by rw [hLaps, hWorker]; exact .crashed⟩
  | ended hCancelled => exact ⟨hPaced, by rw [hWorker]; exact .ended hCancelled⟩
  | spawned =>
      have hSaid := log_idles (feed.record .info "Poll loop started"
        [("watch_seconds", Text.writeNatural feed.settings.watchSeconds)]) c
      refine goOn_timely (hSaid.laps ▸ hPaced) fun _ => ?_
      rw [hSaid.laps, hLaps]
      exact .first
  | @fetching cycle limit past hStarted hLimit =>
      have hOpen : Open exact feed cycle c := ⟨hPaced, ⟨past, hLaps⟩, hStarted⟩
      have hSame : Timely feed exact c :=
        ⟨hPaced, by rw [hLaps, hWorker]; exact .fetching hStarted hLimit⟩
      have hAbandoned : c.Idles c.abandon := record_idles (e := .abandoned _) c rfl
      dsimp only
      split
      · next hCancelled => exact exit_timely (hOpen.idles hAbandoned).paced hCancelled
      · split
        · exact hSame
        · split
          · exact (hOpen.idles hAbandoned).fail _
          · exact hSame
  | @backingOff cycle time past =>
      dsimp only
      split
      · next hCancelled => exact exit_timely hPaced hCancelled
      · split
        · next hDue =>
            refine rest_timely hPaced hLaps hDue fun hCancelled hYes => ?_
            exact Nat.le_antisymm (hPunctual hCancelled hYes _ rfl) hDue
        · exact ⟨hPaced, by rw [hLaps, hWorker]; exact .backingOff⟩
  | @resting cycle how time past hPaused hExact =>
      dsimp only
      split
      · next hCancelled => exact exit_timely hPaced hCancelled
      · split
        · next hDue =>
            refine goOn_timely hPaced fun hCancelled => ?_
            rw [hLaps]
            refine .next (Nat.max_le.2 ⟨hDue, hPaused⟩) fun hYes => ?_
            have hNow := hPunctual hCancelled hYes _ rfl
            have hBefore := hExact hYes
            rw [Settings.resumption]
            omega
        · exact ⟨hPaced, by rw [hLaps, hWorker]; exact .resting hPaused hExact⟩

/-! ### Runs -/

theorem Timely.opened (h : Timely feed exact c) {cycle : Cycle} {limit : Option Duration}
    (hWorker : c.worker = .fetching cycle limit) :
    Open exact feed cycle c ∧ feed.settings.readLimit = .ok limit := by
  obtain ⟨hPaced, hKeeps⟩ := h
  rw [hWorker] at hKeeps
  generalize hLaps : c.core.laps = laps at hKeeps
  cases hKeeps with
  | fetching hStarted hLimit => exact ⟨⟨hPaced, ⟨_, hLaps⟩, hStarted⟩, hLimit⟩

/-- A worker that was torn down is buried after a stop only. -/
theorem Timely.reportCrash (h : Timely feed exact c) (hCancelled : c.core.cancelled = true) :
    Timely feed exact (c.reportCrash feed) := by
  unfold Cache.reportCrash
  split
  · next p _ =>
      have hLaps := (log_idles (feed.record .warn "Poll loop ended abnormally"
        [("error", crashText p)]) c).laps
      exact ⟨hLaps.symm ▸ h.paced, .ended hCancelled⟩
  · exact h

theorem Timely.shutdown (h : Timely feed exact c) : Timely feed exact (c.shutdown feed) := by
  have hStopped : (c.stop feed).core.cancelled = true :=
    (congrArg View.cancelled (Core.toView_stop feed c.core) :)
  have hTurned := turn_timely (h.idles (stop_idles feed c))
    fun hGoesOn => Bool.noConfusion (hStopped.symm.trans hGoesOn)
  exact hTurned.reportCrash
    ((turn_passes feed (c.stop feed)).stirs.path.leadsTo.cancelled hStopped).1

section

variable [DecidableEq K] [DecidableEq V]

theorem Open.finish {cycle : Cycle} (h : Open exact feed cycle c) (answer : Answer V) :
    Timely feed exact (c.finish feed cycle answer) := by
  cases answer with
  | panicked p => exact h.crash p
  | failed fault => exact h.fail _
  | entries list index =>
      obtain ⟨hIdles, hHow⟩ := apply_idles feed list index c
      dsimp only [Cache.finish]
      split
      · next taken p hApply =>
          rw [hApply] at hIdles
          exact (h.idles hIdles).crash p
      · next taken how hApply =>
          rw [hApply] at hIdles hHow
          have hPause : feed.settings.pauseAfter how = 0 := by
            cases how with
            | failed => exact (hHow rfl).elim
            | _ => rfl
          refine
            rest_timely ((h.idles hIdles).noteEnd how) (laps_noteEnd feed cycle how taken) ?_ ?_
          · rw [hPause]
            exact Nat.le_refl _
          · intro _ _
            rw [hPause]
            rfl

theorem Timely.receive (h : Timely feed exact c) (acts : List Act) (answer : Answer V) :
    Timely feed exact (c.receive feed acts answer) := by
  rcases answer_cases feed acts answer c with ⟨_, cycle, limit, hWorker, hReceive⟩ |
    ⟨_, ⟨⟨cycle, limit, hWorker⟩, hReceive⟩ | ⟨_, hReceive⟩⟩
  · rw [hReceive]
    exact ((h.opened hWorker).1.idles (acted_idles feed acts c)).finish answer
  · rw [hReceive]
    refine turn_timely h fun _ _ due hDue => ?_
    rw [hWorker] at hDue
    cases hDue
  · rw [hReceive]
    exact h

/-- Whatever happens the laps stay paced. If `exact`, a turn must not come to a worker that has
slept too long. -/
theorem Timely.happen (h : Timely feed exact c) (hCoherent : c.Coherent) (happening : Happening V)
    (hPunctual : happening = .turn → c.core.cancelled = false → exact →
      ∀ due, c.worker.wakes? = some due → c.core.now ≤ due) :
    Timely feed exact (c.happen feed happening) := by
  cases happening with
  | start runtime =>
      rcases start_cases feed runtime c with ⟨hLatent, hStart⟩ | ⟨hSame, _⟩
      · obtain ⟨hPaced, hKeeps⟩ := h
        rw [hCoherent.latent hLatent] at hKeeps
        generalize hLaps : c.core.laps = laps at hKeeps
        cases hKeeps with
        | absent =>
            have hBegun : (c.begun.log (feed.record .info "Watch cache starting" [])).core.laps =
                [] := (log_idles _ c.begun).laps.trans hLaps
            rw [Cache.happen, hStart]
            exact ⟨hBegun.symm ▸ .nil, hBegun.symm ▸ .spawned⟩
      · rw [Cache.happen, hSame]
        exact h
  | stop => exact h.idles (stop_idles feed c)
  | shutdown => exact h.shutdown
  | join name react => exact h.idles (comments_idles (join_comments feed name react c) rfl)
  | leave name => exact h.idles ⟨rfl, rfl, rfl, id⟩
  | answer acts answer => exact h.receive acts answer
  | elapse nanos => exact ⟨h.paced, h.keeps.mono (Nat.le_add_right _ _) id⟩
  | turn => exact turn_timely h (hPunctual rfl)

/-- No sleep takes longer than it should: whenever the worker gets its turn while it sleeps, the
moment at which it is due is not past yet. -/
def Punctual (feed : Feed K V) (run : List (Happening V)) (c : Cache K V) : Prop :=
  ∀ first rest, run = first ++ .turn :: rest →
    let d := c.replay feed first
    d.core.cancelled = false → ∀ due, d.worker.wakes? = some due → d.core.now ≤ due

theorem Timely.replay (run : List (Happening V)) (h : Timely feed exact c) (hCoherent : c.Coherent)
    (hPunctual : exact → Punctual feed run c) : Timely feed exact (c.replay feed run) := by
  induction run generalizing c with
  | nil => exact h
  | cons happening rest ih =>
      refine ih (h.happen hCoherent happening ?_) (hCoherent.happen feed happening).1 ?_
      · rintro rfl hCancelled hYes
        exact hPunctual hYes [] rest rfl hCancelled
      · intro hYes first rest' hRest
        exact hPunctual hYes (happening :: first) rest' (by rw [hRest, List.cons_append])

omit [DecidableEq K] [DecidableEq V] in
theorem Timely.initial : Timely feed exact (initial : Cache K V) := ⟨.nil, .absent⟩

theorem timely_replay (feed : Feed K V) (run : List (Happening V)) :
    Timely feed (Punctual feed run (initial : Cache K V))
      ((initial : Cache K V).replay feed run) :=
  Timely.initial.replay run Coherent.initial id

/-! ### The next cycle -/

omit [DecidableEq K] [DecidableEq V] in
theorem laps_fail (feed : Feed K V) (cycle : Cycle) (fault : Fault) (c : Cache K V) :
    c.core.laps <:+ (c.fail feed cycle fault).core.laps := by
  have hHeeded := (heeded_idles feed fault c).laps
  have hEnded : c.core.laps <:+
      ((c.heeded feed fault).noteEnd feed cycle .failed).core.laps := by
    rw [laps_noteEnd, hHeeded]
    exact List.suffix_cons _ _
  rcases fail_cases feed cycle fault c with ⟨p, _, hFail⟩ | ⟨_, hFail⟩ | ⟨_, hFail⟩
  · rw [hFail]
    exact hHeeded.symm ▸ List.suffix_refl _
  · rw [hFail, laps_exit]
    exact hEnded
  · rw [hFail]
    exact hEnded

omit [DecidableEq K] [DecidableEq V] in
theorem laps_beginCycle (feed : Feed K V) (c : Cache K V) :
    .began ⟨c.cursor.index, c.core.now⟩ c.core.now :: c.core.laps <:+
      (c.beginCycle feed).core.laps := by
  dsimp only [beginCycle]
  split
  · exact laps_fail feed _ _ (c.record (.began ⟨c.cursor.index, c.core.now⟩))
  · split
    · exact List.suffix_refl _
    · exact List.suffix_refl _

omit [DecidableEq K] [DecidableEq V] in
theorem turn_of_rested {cycle : Cycle} {due : Nat} (hWorker : c.worker = .resting cycle due)
    (hCancelled : c.core.cancelled = false) (hDue : due ≤ c.core.now) :
    c.turn feed = c.beginCycle feed := by
  have hGoesOn : c.isCancelled = false := hCancelled
  simp only [turn, goOn, hWorker, hGoesOn, hDue, if_true, Bool.false_eq_true, if_false]

omit [DecidableEq K] [DecidableEq V] in
theorem turn_of_early {cycle : Cycle} {due : Nat} (hWorker : c.worker = .backingOff cycle due)
    (hCancelled : c.core.cancelled = false) (hDue : due ≤ c.core.now)
    (hEarly : c.core.now < cycle.started + feed.settings.minDelay.nanos) :
    c.turn feed =
      c.becomes (.resting cycle (cycle.started + feed.settings.minDelay.nanos)) := by
  have hGoesOn : c.isCancelled = false := hCancelled
  simp only [turn, rest, hWorker, hGoesOn, hDue, hEarly, if_true, Bool.false_eq_true, if_false]

/-- A worker that rests begins the next cycle when it gets its turn at the right moment. -/
theorem resting_begins (feed : Feed K V) {cycle : Cycle} {due : Nat}
    (hWorker : c.worker = .resting cycle due)
    (hCancelled : c.core.cancelled = false) :
    .began ⟨c.cursor.index, max c.core.now due⟩ (max c.core.now due) :: c.core.laps <:+
      (c.replay feed [.elapse (due - c.core.now), .turn]).core.laps := by
  let later := c.happen feed (.elapse (due - c.core.now))
  have hNow : later.core.now = max c.core.now due := by
    change c.core.now + (due - c.core.now) = _
    omega
  have hTurn : later.turn feed = later.beginCycle feed :=
    turn_of_rested hWorker hCancelled (by omega)
  have hLaps := laps_beginCycle feed later
  rw [hNow] at hLaps
  change _ <:+ (later.turn feed).core.laps
  rw [hTurn]
  exact hLaps

/-- Unless it is told to end, a worker that gets its turn when its sleeps are over begins the next
cycle, and this at the first moment at which it may. -/
theorem Timely.next (h : Timely feed exact c) {cycle : Cycle} {how : CycleEnd} {time : Nat}
    {past : List Lap} (hLaps : c.core.laps = .ended cycle how time :: past)
    (hCancelled : c.core.cancelled = false) :
    ∃ wait : List (Happening V),
      (∀ happening ∈ wait, happening = .turn ∨ ∃ nanos, happening = .elapse nanos) ∧
        let t := max c.core.now (feed.settings.resumption cycle how time)
        .began ⟨c.cursor.index, t⟩ t :: c.core.laps <:+ (c.replay feed wait).core.laps := by
  have hKeeps := h.keeps
  rw [hLaps] at hKeeps
  generalize hWorker : c.worker = worker at hKeeps
  cases hKeeps with
  | ended hEnded => cases hEnded.symm.trans hCancelled
  | resting hPaused _ =>
      have hBegins := resting_begins feed hWorker hCancelled
      have hTime : max c.core.now (feed.settings.resumption cycle how time) =
          max c.core.now (cycle.started + feed.settings.minDelay.nanos) := by
        rw [Settings.resumption]
        omega
      exact ⟨[.elapse (cycle.started + feed.settings.minDelay.nanos - c.core.now), .turn],
        by simp, hTime ▸ hBegins⟩
  | backingOff =>
      -- the pause first, and then what is left of the least delay, if anything is
      let due := time + feed.settings.backoff.nanos
      let paused := c.happen feed (.elapse (due - c.core.now))
      have hNow : paused.core.now = max c.core.now due := by
        change c.core.now + (due - c.core.now) = _
        omega
      have hTime : max c.core.now (feed.settings.resumption cycle .failed time) =
          max paused.core.now (cycle.started + feed.settings.minDelay.nanos) := by
        simp only [Settings.resumption, Settings.pauseAfter, hNow, due]
        omega
      by_cases hEarly : paused.core.now < cycle.started + feed.settings.minDelay.nanos
      · let begin := cycle.started + feed.settings.minDelay.nanos
        have hTurn : paused.turn feed = paused.becomes (.resting cycle begin) :=
          turn_of_early hWorker hCancelled (by omega) hEarly
        have hBegins := resting_begins feed (c := paused.becomes (.resting cycle begin)) rfl
          hCancelled
        refine ⟨.elapse (due - c.core.now) :: .turn :: [.elapse
          (cycle.started + feed.settings.minDelay.nanos - paused.core.now), .turn], by simp, ?_⟩
        rw [hTime]
        change _ <:+ ((paused.turn feed).replay feed [.elapse
          (cycle.started + feed.settings.minDelay.nanos - paused.core.now), .turn]).core.laps
        rw [hTurn]
        exact hBegins
      · have hTurn : paused.turn feed = paused.beginCycle feed :=
          turn_of_paused hWorker hCancelled (by omega) (by omega)
        have hBegins := laps_beginCycle feed paused
        refine ⟨[.elapse (due - c.core.now), .turn], by simp, ?_⟩
        rw [hTime, Nat.max_eq_left (by omega)]
        change _ <:+ (paused.turn feed).core.laps
        rw [hTurn]
        exact hBegins

/-! ### Answers that come too late -/

omit [DecidableEq K] [DecidableEq V] in
/-- A failure is counted and reported, and unless its callback panics its cycle is over. -/
theorem fail_outcome (feed : Feed K V) (cycle : Cycle) (fault : Fault) (c : Cache K V) :
    let d := c.fail feed cycle fault
    d.core.stats = { c.core.stats with failed := c.core.stats.failed + 1 } ∧
      .ofFailure feed.settings.errorLog (failureMessage feed) fault :: c.core.events <:+
        d.core.events ∧
      (d.core.laps = .ended cycle .failed c.core.now :: c.core.laps ∨
        ∃ p, (c.reactionTo feed fault).ending = .panicked p ∧ d.worker = .crashed p) := by
  intro d
  let heeded := c.heeded feed fault
  obtain ⟨hStats, hReport⟩ := fail_counted feed cycle fault c
  have hLaps : (heeded.noteEnd feed cycle .failed).core.laps =
      .ended cycle .failed c.core.now :: c.core.laps := by
    rw [laps_noteEnd, (heeded_idles feed fault c).laps, now_heeded]
  refine ⟨hStats, hReport, ?_⟩
  rcases fail_cases feed cycle fault c with ⟨p, hPanic, hFail⟩ | ⟨_, hFail⟩ | ⟨_, hFail⟩
  · exact Or.inr ⟨p, hPanic, congrArg Cache.worker hFail⟩
  · refine Or.inl ?_
    simp only [d, hFail, laps_exit]
    exact hLaps
  · refine Or.inl ?_
    simp only [d, hFail]
    exact hLaps

theorem readLimit_of_adjust {s : Settings} {limit : Option Duration} (hAdjust : s.adjust = true)
    (hLimit : s.readLimit = .ok limit) :
    ∃ d : Duration, limit = some d ∧ d.nanos = s.watch.nanos + s.margin.nanos := by
  unfold Settings.readLimit at hLimit
  rw [if_pos hAdjust] at hLimit
  split at hLimit
  · next d hSum =>
      cases hLimit
      exact ⟨d, rfl, Duration.add?_eq_some_iff.1 hSum⟩
  · cases hLimit

/-- A response that is applied comes within the time limit of its query. -/
theorem in_time_of_applied {happening : Happening V} {r : Response V} {cycle : Cycle} {d : Duration}
    (hWorker : c.worker = .fetching cycle (some d))
    (hApplied : c.applied? feed happening = some r) : c.core.now ≤ cycle.started + d.nanos := by
  by_contra hLate
  have hMissed : c.awaits = false := by
    simp only [awaits, hWorker, expiry]
    simpa using hLate
  have hUnapplied : c.applied? feed happening = none := by
    simp only [applied?, response?_of_not_awaits hMissed]
  cases hUnapplied.symm.trans hApplied

omit [DecidableEq K] [DecidableEq V] in
/-- A query that is out of time is given up, and its cycle fails. -/
theorem turn_of_late {cycle : Cycle} {d : Duration}
    (hWorker : c.worker = .fetching cycle (some d)) (hCancelled : c.core.cancelled = false)
    (hLate : cycle.started + d.nanos ≤ c.core.now) :
    c.turn feed = c.abandon.fail feed cycle (.fetch (.timedOut d)) := by
  have hGoesOn : c.isCancelled = false := hCancelled
  simp only [turn, hWorker, hGoesOn, expiry, Option.map_some, hLate, Bool.false_eq_true, if_false,
    if_true]

theorem receive_of_late {cycle : Cycle} {d : Duration}
    (hWorker : c.worker = .fetching cycle (some d)) (hLate : cycle.started + d.nanos < c.core.now)
    (acts : List Act) (answer : Answer V) : c.receive feed acts answer = c.turn feed := by
  rw [receive_of_fetching feed acts answer hWorker]
  exact if_pos (by simpa [expiry] using hLate)

omit [DecidableEq K] [DecidableEq V] in
/-- A cycle that is out of time fails by its time limit, and it is over unless the callback for
failed cycles panics. -/
theorem turn_late_outcome {cycle : Cycle} {d : Duration}
    (hWorker : c.worker = .fetching cycle (some d)) (hCancelled : c.core.cancelled = false)
    (hLate : cycle.started + d.nanos ≤ c.core.now) :
    let late := c.turn feed
    late.core.stats = { c.core.stats with failed := c.core.stats.failed + 1 } ∧
      .ofFailure feed.settings.errorLog (failureMessage feed) (.fetch (.timedOut d)) ::
        .abandoned false :: c.core.events <:+ late.core.events ∧
      (late.core.laps = .ended cycle .failed c.core.now :: c.core.laps ∨
        ∃ p n, (feed.consumer n).ending = .panicked p ∧ late.worker = .crashed p) := by
  intro late
  have hTurn : late = c.abandon.fail feed cycle (.fetch (.timedOut d)) :=
    turn_of_late hWorker hCancelled hLate
  have hEvents : c.abandon.core.events = .abandoned false :: c.core.events := by
    rw [← hCancelled]
    rfl
  have hLaps : c.abandon.core.laps = c.core.laps :=
    (record_idles (e := .abandoned _) c rfl).laps
  obtain ⟨hStats, hReport, hOver⟩ :=
    fail_outcome feed cycle (.fetch (.timedOut d)) c.abandon
  rw [← hTurn] at hStats hReport hOver
  rw [hEvents] at hReport
  rw [hLaps] at hOver
  refine ⟨hStats, hReport, hOver.imp_right ?_⟩
  rintro ⟨p, hPanic, hCrashed⟩
  unfold reactionTo reactionToFailure at hPanic
  split at hPanic
  · exact ⟨p, _, hPanic, hCrashed⟩
  · cases hPanic

/-- Between the begins of two cycles the first one ends, once. The second begins no earlier than the
least delay after the first began and, if that one failed, the pause after it ended; it begins at
the later of the two moments if no sleep takes longer than it should. After the end of a cycle the
next one does begin, unless the cache is stopped, as soon as the worker gets its turn then. With a
time limit no response is applied that comes later than the wait and the margin together after its
cycle began. An answer that comes later, or none at all, leaves a cycle that failed by its time
limit. -/
theorem cycles_keep_pace (feed : Feed K V) (run : List (Happening V)) :
    let c := (initial : Cache K V).replay feed run
    (∀ later cycle' t' mid cycle t earlier,
        c.core.laps = later ++ .began cycle' t' :: (mid ++ .began cycle t :: earlier) →
        (∀ b u, .began b u ∉ mid) →
          ∃ how e, mid = [.ended cycle how e] ∧ cycle.started = t ∧ t ≤ e ∧ e ≤ t' ∧
            t + feed.settings.minDelay.nanos ≤ t' ∧
            (how = .failed → e + feed.settings.backoff.nanos ≤ t') ∧
            (Punctual feed run (initial : Cache K V) →
              t' = max (t + feed.settings.minDelay.nanos)
                (e + if how = .failed then feed.settings.backoff.nanos else 0))) ∧
      (∀ cycle how e earlier, c.core.laps = .ended cycle how e :: earlier →
        c.core.cancelled = false →
          ∃ wait : List (Happening V),
            (∀ happening ∈ wait, happening = .turn ∨ ∃ nanos, happening = .elapse nanos) ∧
              let t := max c.core.now (feed.settings.resumption cycle how e)
              .began ⟨c.cursor.index, t⟩ t :: c.core.laps <:+ (c.replay feed wait).core.laps) ∧
      (feed.settings.adjust = true → ∀ cycle limit, c.worker = .fetching cycle limit →
        ∃ d : Duration, limit = some d ∧
          d.nanos = feed.settings.watch.nanos + feed.settings.margin.nanos ∧
          (∀ happening r, c.applied? feed happening = some r →
            c.core.now ≤ cycle.started + d.nanos) ∧
          (cycle.started + d.nanos < c.core.now → ∀ acts answer,
            c.receive feed acts answer = c.turn feed) ∧
          (cycle.started + d.nanos ≤ c.core.now → c.core.cancelled = false →
            let late := c.turn feed
            late.core.stats = { c.core.stats with failed := c.core.stats.failed + 1 } ∧
              .ofFailure feed.settings.errorLog (failureMessage feed) (.fetch (.timedOut d)) ::
                .abandoned false :: c.core.events <:+ late.core.events ∧
              (late.core.laps = .ended cycle .failed c.core.now :: c.core.laps ∨
                ∃ p n, (feed.consumer n).ending = .panicked p ∧ late.worker = .crashed p))) := by
  intro c
  have hTimely := timely_replay feed run
  refine ⟨?_, ?_, ?_⟩
  · intro later cycle' t' mid cycle t earlier hLaps hMid
    have hPaced := hTimely.paced
    rw [show ((initial : Cache K V).replay feed run).core.laps = _ from hLaps] at hPaced
    obtain ⟨how, e, hEnd, hStarted, hLater, hDue, hExact⟩ := hPaced.of_append.next hMid
    have hPause : feed.settings.pauseAfter how =
        if how = .failed then feed.settings.backoff.nanos else 0 := by cases how <;> rfl
    rw [Settings.resumption, hPause, hStarted] at hDue hExact
    refine ⟨how, e, hEnd, hStarted, hLater, ?_, ?_, ?_, hExact⟩
    · omega
    · omega
    · intro hFailed
      rw [if_pos hFailed] at hDue
      omega
  · intro cycle how e earlier hLaps hCancelled
    exact hTimely.next hLaps hCancelled
  · intro hAdjust cycle limit hWorker
    obtain ⟨d, rfl, hNanos⟩ := readLimit_of_adjust hAdjust (hTimely.opened hWorker).2
    exact ⟨d, rfl, hNanos, fun _ _ hApplied => in_time_of_applied hWorker hApplied,
      fun hLate acts answer => receive_of_late hWorker hLate acts answer,
      fun hLate hCancelled => turn_late_outcome hWorker hCancelled hLate⟩

/-- A cycle that fails at once, one that ends within the least delay, and one whose query runs out
of time. -/
example :
    let settings : Settings := { Settings.default with
      backoff := .ofMillis 2000, minDelay := .ofMillis 3000, margin := .ofMillis 0 }
    let feed : Feed Nat Nat := ⟨"numbers", .ok, toString, settings, .blank, fun _ => .idle⟩
    let run : List (Happening Nat) := [.start true, .turn, .answer [] (.failed .noIndex),
      .elapse 2000000000, .turn, .elapse 1000000000, .turn, .elapse 500000000,
      .answer [] (.entries [7] ⟨5⟩), .elapse 2500000000, .turn, .elapse 10000000000, .turn]
    ((initial : Cache Nat Nat).replay feed run).core.laps.reverse =
      [.began ⟨none, 0⟩ 0, .ended ⟨none, 0⟩ .failed 0,
        .began ⟨none, 3000000000⟩ 3000000000, .ended ⟨none, 3000000000⟩ .published 3500000000,
        .began ⟨some ⟨5⟩, 6000000000⟩ 6000000000,
        .ended ⟨some ⟨5⟩, 6000000000⟩ .failed 16000000000] := by
  decide +kernel

end

end Cache

end LongPoll
