import LongPoll.Proofs.Cache.Likeness
import LongPoll.Proofs.Cache.Requests

/-!
What failed cycles leave behind.

A cycle fails by an error of its source, by its time limit, or because no query can be made from the
base. Unless the callback for failed cycles acts on the cache or panics, a failed cycle is counted
and reported, the worker pauses, and nothing else comes of it.
-/

namespace LongPoll

variable {K V : Type}

/-- The callback for failed cycles, if there is one, neither acts on the cache nor panics. -/
def Feed.IsDiscreet (feed : Feed K V) : Prop :=
  feed.settings.errorLog = .custom →
    ∀ n, (feed.consumer n).acts = [] ∧ ∀ p, (feed.consumer n).ending ≠ .panicked p

/-- Events of which readers or listeners learn. -/
def Event.isOutward : Event K V → Bool
  | .published _ | .notified _ _ _ => true
  | _ => false

theorem Event.isOutward_of_internal {e : Event K V} (h : e.IsInternal) : e.isOutward = false := by
  cases e <;> first | rfl | exact h.elim

/-- A report of a failed cycle, to the log or to the callback. -/
def Event.isReport (feed : Feed K V) : Event K V → Bool
  | .reported _ _ _ => true
  | .log r => r.message == Cache.failureMessage feed
  | _ => false

/-- The reports of failed cycles so far, in order. -/
def Core.reports (feed : Feed K V) (c : Core K V) : List (Event K V) :=
  Event.collect (fun e => if e.isReport feed then some e else none) c.events

theorem Event.isReport_ofFailure (feed : Feed K V) (fault : Fault) :
    (Event.ofFailure feed.settings.errorLog (Cache.failureMessage feed) fault :
      Event K V).isReport feed = true := by
  cases feed.settings.errorLog with
  | custom => rfl
  | _ => exact beq_self_eq_true _

theorem Event.isInternal_ofFailure (target : ErrorLog) (message : String) (fault : Fault) :
    (Event.ofFailure target message fault : Event K V).IsInternal := by
  cases target <;> trivial

namespace Core

variable {e : Event K V}

theorem outward_record (hInternal : e.IsInternal) (c : Core K V) :
    (c.record e).events.filter Event.isOutward = c.events.filter Event.isOutward := by
  rw [events_record, List.filter_cons, Event.isOutward_of_internal hInternal]
  rfl

variable {a b : Core K V}

theorem collect_of_outward {β : Type} {f : Event K V → Option β}
    (h : b.events.filter Event.isOutward = a.events.filter Event.isOutward)
    (hInternal : ∀ e : Event K V, e.isOutward = false → f e = none) :
    Event.collect f b.events = Event.collect f a.events := by
  rw [← Event.collect_filter hInternal b.events, h, Event.collect_filter hInternal]

theorem published_of_outward
    (h : b.events.filter Event.isOutward = a.events.filter Event.isOutward) :
    b.published = a.published := by
  refine collect_of_outward h fun e hInternal => ?_
  cases e <;> first | rfl | cases hInternal

theorem heard_of_outward (h : b.events.filter Event.isOutward = a.events.filter Event.isOutward)
    (id : Nat) : b.heard id = a.heard id := by
  refine collect_of_outward h fun e hInternal => ?_
  cases e <;> first | rfl | cases hInternal

theorem reports_record (feed : Feed K V) (e : Event K V) (c : Core K V) :
    (c.record e).reports feed = c.reports feed ++ if e.isReport feed then [e] else [] := by
  refine (Event.collect_cons e c.events).trans ?_
  cases e.isReport feed <;> rfl

end Core

/-- What there is in a happening apart from time, turns and failures: a call of the owner, an act of
the source, or a response. -/
inductive Impact (V : Type) where
  | start (runtime : Bool)
  | join (name : Name) (react : Nat → Reaction)
  | leave (name : Name)
  | act (act : Act)
  | response (response : Response V)

namespace Cache

variable {c d e : Cache K V}

/-! ### Where a cycle fails -/

section

variable (feed : Feed K V)

/-- The cycle that would begin now and the fault by which it would fail, if no query can be
made. -/
def refusal? (c : Cache K V) : Option (Cycle × Fault) :=
  match feed.base.forCycle c.cursor.index feed.settings.watchSeconds with
  | .error fault => some (⟨c.cursor.index, c.core.now⟩, fault)
  | .ok _ => none

/-- The cycle that fails when the worker goes on, with its fault. -/
def goOnFailure? (c : Cache K V) : Option (Cycle × Fault) :=
  if c.isCancelled then none else c.refusal? feed

def restFailure? (cycle : Cycle) (c : Cache K V) : Option (Cycle × Fault) :=
  if c.core.now < cycle.started + feed.settings.minDelay.nanos then none else c.goOnFailure? feed

/-- The cycle that fails when the worker gets its turn, with its fault. -/
def turnFailure? (c : Cache K V) : Option (Cycle × Fault) :=
  match c.worker with
  | .spawned => c.goOnFailure? feed
  | .fetching cycle limit =>
    if c.isCancelled then none
    else
      match expiry cycle limit with
      | none => none
      | some (due, d) => if due ≤ c.core.now then some (cycle, .fetch (.timedOut d)) else none
  | .backingOff cycle due =>
    if c.isCancelled then none else if due ≤ c.core.now then c.restFailure? feed cycle else none
  | .resting _ due =>
    if c.isCancelled then none else if due ≤ c.core.now then c.goOnFailure? feed else none
  | _ => none

/-- The cycle that fails when something happens, with its fault. -/
def failure? (happening : Happening V) (c : Cache K V) : Option (Cycle × Fault) :=
  match happening with
  | .turn => c.turnFailure? feed
  | .answer _ answer =>
    match c.worker, answer with
    | .fetching cycle _, .failed fault =>
      if c.awaits then some (cycle, .fetch fault) else c.turnFailure? feed
    | .fetching _ _, _ => if c.awaits then none else c.turnFailure? feed
    | _, _ => none
  | _ => none

/-- The impacts of a happening. A failed cycle has none, unless its source acts on the cache. -/
def impacts (happening : Happening V) (c : Cache K V) : List (Impact V) :=
  match happening with
  | .start runtime => [.start runtime]
  | .stop => [.act .stop]
  | .shutdown => [.act .stop]
  | .join name react => [.join name react]
  | .leave name => [.leave name]
  | .answer acts answer =>
    if c.awaits then
      acts.map .act ++
        match answer with
        | .entries list index => [.response ⟨list, index⟩]
        | _ => []
    else []
  | .elapse _ => []
  | .turn => []

end

/-! ### What a failed cycle changes -/

variable {feed : Feed K V}

theorem reactionToFailure_of_discreet (hDiscreet : feed.IsDiscreet) (c : Cache K V) :
    (c.reactionToFailure feed).acts = [] ∧
      ∀ p, (c.reactionToFailure feed).ending ≠ .panicked p := by
  unfold reactionToFailure
  split
  · next hTarget => exact hDiscreet hTarget _
  · exact ⟨rfl, nofun⟩

/-- A report to a callback that lets the cache alone. -/
theorem report_of_discreet (hDiscreet : feed.IsDiscreet) (fault : Fault) (c : Cache K V) :
    c.report feed fault =
      (c.record (.ofFailure feed.settings.errorLog (failureMessage feed) fault), none) := by
  obtain ⟨hActs, hEnding⟩ := reactionToFailure_of_discreet hDiscreet
    (c.record (.ofFailure feed.settings.errorLog (failureMessage feed) fault))
  dsimp only [report]
  rw [hActs]
  split
  · next p hPanic => exact (hEnding p hPanic).elim
  · rfl

/-- Nothing but these failures happened to what readers, listeners and the worker hold: they were
counted and reported. -/
structure Weathers (feed : Feed K V) (faults : List Fault) (c d : Cache K V) : Prop where
  cursor : d.cursor = c.cursor
  audience : d.shared.audience = c.shared.audience
  view : d.core.toView = { c.core.toView with
    stats := { c.core.stats with failed := c.core.stats.failed + faults.length } }
  outward : d.core.events.filter Event.isOutward = c.core.events.filter Event.isOutward
  reports : d.core.reports feed = c.core.reports feed ++
    faults.map (.ofFailure feed.settings.errorLog (failureMessage feed))

namespace Weathers

variable {faults faults' : List Fault}

theorem refl (c : Cache K V) : Weathers feed [] c c where
  cursor := rfl
  audience := rfl
  view := rfl
  outward := rfl
  reports := (List.append_nil _).symm

theorem trans (h : Weathers feed faults c d) (h' : Weathers feed faults' d e) :
    Weathers feed (faults ++ faults') c e where
  cursor := h'.cursor.trans h.cursor
  audience := h'.audience.trans h.audience
  view := by
    have hFailed : d.core.stats = { c.core.stats with
        failed := c.core.stats.failed + faults.length } := congrArg View.stats h.view
    rw [h'.view, hFailed, h.view, List.length_append, Nat.add_assoc]
  outward := h'.outward.trans h.outward
  reports := by rw [h'.reports, h.reports, List.map_append, List.append_assoc]

theorem becomes (h : Weathers feed faults c d) (worker : Worker) :
    Weathers feed faults c (d.becomes worker) := { h with }

end Weathers

theorem record_weathers {e : Event K V} (hInternal : e.IsInternal)
    (hReport : e.isReport feed = false) (c : Cache K V) : Weathers feed [] c (c.record e) where
  cursor := rfl
  audience := rfl
  view := rfl
  outward := c.core.outward_record hInternal
  reports := by
    refine (Core.reports_record feed e c.core).trans ?_
    rw [hReport]
    rfl

theorem log_weathers {r : LogRecord} (hHead : r.message.toList.head? ≠ some 'E') (c : Cache K V) :
    Weathers feed [] c (c.log r) :=
  record_weathers (e := .log r) trivial (beq_eq_false_iff_ne.2 (ne_failureMessage feed hHead)) c

theorem exit_weathers (c : Cache K V) : Weathers feed [] c (c.exit feed) :=
  (log_weathers (by simp [Feed.record]) c).becomes .ended

theorem noteEnd_weathers (cycle : Cycle) (how : CycleEnd) (c : Cache K V) :
    Weathers feed [] c (c.noteEnd feed cycle how) :=
  (record_weathers (e := .ended cycle how) trivial rfl c).trans
    (log_weathers (by simp [cycleRecord, Feed.record]) _)

theorem abandon_weathers (c : Cache K V) : Weathers feed [] c c.abandon :=
  record_weathers (e := .abandoned _) trivial rfl c

theorem reportCrash_weathers (c : Cache K V) : Weathers feed [] c (c.reportCrash feed) := by
  unfold reportCrash
  split
  · exact (log_weathers (by simp [Feed.record]) c).becomes .ended
  · exact .refl c

/-- A failure is counted and reported. -/
theorem reported_weathers (feed : Feed K V) (fault : Fault) (c : Cache K V) :
    Weathers feed [fault] c ((c.count fun s => { s with failed := s.failed + 1 }).record
      (.ofFailure feed.settings.errorLog (failureMessage feed) fault)) where
  cursor := rfl
  audience := rfl
  view := rfl
  outward := Core.outward_record (Event.isInternal_ofFailure _ _ fault) _
  reports := by
    refine (Core.reports_record feed _ _).trans ?_
    rw [Event.isReport_ofFailure]
    rfl

/-- The worker weathers a step in which this cycle fails, or none. It pauses after a failure, unless
it is told to end. -/
structure Fares (feed : Feed K V) (failure : Option (Cycle × Fault)) (c d : Cache K V) : Prop
    extends Weathers feed (failure.map Prod.snd).toList c d where
  outcome : ∀ cycle fault, failure = some (cycle, fault) →
    d.core.seen = c.core.seen ++ [.failed] ∧
      d.worker = if c.core.cancelled then .ended
        else .backingOff cycle (c.core.now + feed.settings.backoff.nanos)

theorem Weathers.fares (h : Weathers feed [] c d) : Fares feed none c d := ⟨h, nofun⟩

theorem Fares.after {failure : Option (Cycle × Fault)} (h : Weathers feed [] c d)
    (hSeen : d.core.seen = c.core.seen) (h' : Fares feed failure d e) : Fares feed failure c e where
  toWeathers := h.trans h'.toWeathers
  outcome cycle fault hFailure := by
    have hNow : d.core.now = c.core.now := congrArg View.now h.view
    have hCancelled : d.core.cancelled = c.core.cancelled := congrArg View.cancelled h.view
    rw [← hSeen, ← hNow, ← hCancelled]
    exact h'.outcome cycle fault hFailure

/-! ### The worker, step by step -/

section

variable (hDiscreet : feed.IsDiscreet)
include hDiscreet

theorem fail_fares (cycle : Cycle) (fault : Fault) (c : Cache K V) :
    Fares feed (some (cycle, fault)) c (c.fail feed cycle fault) := by
  let reported := (c.count fun s => { s with failed := s.failed + 1 }).record
    (.ofFailure feed.settings.errorLog (failureMessage feed) fault)
  have hEnded := (reported_weathers feed fault c).trans
    (noteEnd_weathers cycle .failed reported)
  have hSeen : (reported.noteEnd feed cycle .failed).core.seen = c.core.seen ++ [.failed] := by
    have hReported : reported.core.seen = c.core.seen :=
      (record_stays (Event.signal?_ofFailure _ _ fault) _).seen
    rw [seen_noteEnd_failed, hReported]
  dsimp only [fail]
  rw [report_of_discreet hDiscreet]
  dsimp only
  split
  · next hCancelled =>
      refine ⟨hEnded.trans (exit_weathers _), fun _ _ hSome => ?_⟩
      exact ⟨(log_stays _ _).seen.trans hSeen, (if_pos hCancelled).symm⟩
  · next hCancelled =>
      refine ⟨hEnded.becomes _, fun _ _ hSome => ?_⟩
      obtain ⟨rfl, rfl⟩ := Option.some.inj hSome
      exact ⟨hSeen, (if_neg hCancelled).symm⟩

theorem beginCycle_fares (c : Cache K V) : Fares feed (c.refusal? feed) c (c.beginCycle feed) := by
  have hBegan : Weathers feed [] c (c.record (.began ⟨c.cursor.index, c.core.now⟩)) :=
    record_weathers (e := .began _) trivial rfl c
  dsimp only [beginCycle, refusal?]
  cases feed.base.forCycle c.cursor.index feed.settings.watchSeconds with
  | error fault =>
      exact .after hBegan (record_stays rfl c).seen (fail_fares hDiscreet _ fault _)
  | ok query =>
      dsimp only
      split
      · exact (hBegan.becomes _).fares
      · next limit _ =>
          have hAsked := hBegan.trans (record_weathers (e := .asked query limit) trivial rfl _)
          exact (hAsked.becomes _).fares

theorem goOn_fares (c : Cache K V) : Fares feed (c.goOnFailure? feed) c (c.goOn feed) := by
  unfold goOn goOnFailure?
  cases c.isCancelled with
  | true => exact (exit_weathers c).fares
  | false => exact beginCycle_fares hDiscreet c

theorem rest_fares (cycle : Cycle) (c : Cache K V) :
    Fares feed (c.restFailure? feed cycle) c (c.rest feed cycle) := by
  dsimp only [rest, restFailure?]
  split
  · split
    · exact (exit_weathers c).fares
    · exact ((Weathers.refl c).becomes _).fares
  · exact goOn_fares hDiscreet c

theorem turn_fares (c : Cache K V) : Fares feed (c.turnFailure? feed) c (c.turn feed) := by
  unfold turn turnFailure?
  cases c.worker with
  | spawned =>
      let r := feed.record .info "Poll loop started"
        [("watch_seconds", Text.writeNatural feed.settings.watchSeconds)]
      exact .after (log_weathers (by simp [r, Feed.record]) c) (log_stays r c).seen
        (goOn_fares hDiscreet (c.log r))
  | fetching cycle limit =>
      dsimp only
      split
      · exact ((abandon_weathers c).trans (exit_weathers _)).fares
      · cases expiry cycle limit with
        | none => exact (Weathers.refl c).fares
        | some e =>
            dsimp only
            split
            · exact .after (abandon_weathers c) (abandon_stays c).seen
                (fail_fares hDiscreet cycle _ _)
            · exact (Weathers.refl c).fares
  | backingOff cycle due =>
      dsimp only
      split
      · exact (exit_weathers c).fares
      · split
        · exact rest_fares hDiscreet cycle c
        · exact (Weathers.refl c).fares
  | resting cycle due =>
      dsimp only
      split
      · exact (exit_weathers c).fares
      · split
        · exact goOn_fares hDiscreet c
        · exact (Weathers.refl c).fares
  | _ => exact (Weathers.refl c).fares

/-- After a response was taken the worker goes on, and the next cycle may fail at once. -/
theorem conclude_weathers [DecidableEq K] [DecidableEq V] (cycle : Cycle)
    (taken : Cache K V × Except Panic CycleEnd) :
    ∃ faults, Weathers feed faults taken.1 (conclude feed cycle taken) ∧
      (taken.1.refusal? feed = none → faults = []) := by
  obtain ⟨c, outcome⟩ := taken
  cases outcome with
  | error p => exact ⟨[], (Weathers.refl c).becomes _, fun _ => rfl⟩
  | ok how =>
      have hRests := rest_fares hDiscreet cycle (c.noteEnd feed cycle how)
      refine ⟨_, (noteEnd_weathers cycle how c).trans hRests.toWeathers, fun hMade => ?_⟩
      have hNone : (c.noteEnd feed cycle how).restFailure? feed cycle = none := by
        have hSame : (c.noteEnd feed cycle how).refusal? feed = none := hMade
        simp only [restFailure?, goOnFailure?, hSame, ite_self]
      rw [hNone]
      rfl

end

/-! ### Happenings -/

variable [DecidableEq K] [DecidableEq V]

/-- A failed cycle changes nothing but what its source does to the cache. -/
theorem happen_fares (hDiscreet : feed.IsDiscreet) {happening : Happening V}
    {failure : Cycle × Fault} (hFailure : c.failure? feed happening = some failure) :
    ∃ acts : List Act, c.impacts happening = acts.map .act ∧
      Fares feed (some failure) (c.acted feed acts) (c.happen feed happening) := by
  cases happening with
  | turn => exact ⟨[], rfl, hFailure ▸ turn_fares hDiscreet c⟩
  | answer acts answer =>
      dsimp only [failure?, impacts, happen] at hFailure ⊢
      rcases answer_cases feed acts answer c with ⟨hAwaits, cycle, limit, hWorker, hReceive⟩ |
        ⟨hAwaits, ⟨⟨cycle, limit, hWorker⟩, hReceive⟩ | ⟨hOther, hReceive⟩⟩
      · rw [hWorker, hAwaits] at hFailure
        rw [hReceive, hAwaits]
        cases answer with
        | failed fault =>
            cases hFailure
            exact ⟨acts, List.append_nil _, fail_fares hDiscreet cycle _ _⟩
        | _ => cases hFailure
      · rw [hWorker, hAwaits] at hFailure
        rw [hReceive, hAwaits, ← hFailure]
        refine ⟨[], rfl, ?_⟩
        cases answer <;> exact turn_fares hDiscreet c
      · cases hWorker : c.worker with
        | fetching cycle limit => exact (hOther cycle limit hWorker).elim
        | _ =>
            rw [hWorker] at hFailure
            cases hFailure
  | _ => cases hFailure

/-! ### Where no cycle fails -/

omit [DecidableEq K] [DecidableEq V] in
theorem failed_announce (candidate : Snapshot K V) (c : Cache K V) :
    (c.announce feed candidate).core.stats.failed = c.core.stats.failed := by
  have hSpares := Shared.broadcast_spares feed candidate c.shared
  dsimp only [announce]
  split
  · exact congrArg Stats.failed hSpares.stats
  · exact congrArg Stats.failed hSpares.stats

omit [DecidableEq K] [DecidableEq V] in
theorem failed_publish (candidate : Snapshot K V) (c : Cache K V) :
    (c.publish feed candidate).core.stats.failed = c.core.stats.failed := by
  obtain ⟨said, hSaid, hPublish⟩ := publish_eq_announce feed candidate c
  rw [hPublish]
  refine (failed_announce candidate said).trans ?_
  rcases hSaid with rfl | ⟨r, _, rfl⟩ <;> rfl

omit [DecidableEq K] [DecidableEq V] in
theorem failed_repeated (feed : Feed K V) (keys : List K) (c : Cache K V) :
    (keys.foldl (fun c k => c.log (Snapshot.repeatedRecord feed.showKey k)) c).core.stats.failed =
      c.core.stats.failed := by
  induction keys generalizing c with
  | nil => rfl
  | cons k rest ih => exact ih _

theorem failed_absorb (entries : List V) (next : Option Index) (c : Cache K V) :
    (c.absorb feed entries next).1.core.stats.failed = c.core.stats.failed := by
  have hRepeated := failed_repeated feed (Snapshot.build feed.keyOf entries).repeated c
  dsimp only [absorb]
  split
  · exact hRepeated
  · split
    · exact (failed_publish _ _).trans hRepeated
    · exact hRepeated

theorem failed_apply (entries : List V) (returned : Index) (c : Cache K V) :
    (c.apply feed entries returned).1.core.stats.failed = c.core.stats.failed := by
  unfold apply
  split
  · rfl
  · dsimp only
    split
    · split
      · rfl
      · exact failed_absorb _ _ _
    · exact failed_absorb _ _ _
    · exact failed_absorb _ _ _

omit [DecidableEq K] [DecidableEq V] in
theorem Weathers.failed (h : Weathers feed [] c d) : d.core.stats.failed = c.core.stats.failed :=
  congrArg (fun v => v.stats.failed) h.view

omit [DecidableEq K] [DecidableEq V] in
theorem failed_acted (acts : List Act) (c : Cache K V) :
    (c.acted feed acts).core.stats.failed = c.core.stats.failed :=
  congrArg Stats.failed (Shared.performAll_spares feed acts c.shared).stats

omit [DecidableEq K] [DecidableEq V] in
/-- Where a query could be made once, it always can. -/
theorem refusal?_eq_none {held : Option Index} {r : Request}
    (hRequest : feed.request? held = some r) (c : Cache K V) : c.refusal? feed = none := by
  unfold refusal?
  split
  · next fault hFault =>
      have hQuery := (Feed.request?_eq_some_iff.1 hRequest).1
      cases hQuery.symm.trans (Query.forCycle_error hFault held)
  · rfl

omit [DecidableEq K] [DecidableEq V] in
theorem turnFailure?_of_cancelled (hCancelled : c.core.cancelled = true) :
    c.turnFailure? feed = none := by
  have hTold : c.isCancelled = true := hCancelled
  unfold turnFailure? goOnFailure?
  rw [hTold]
  cases c.worker <;> rfl

/-- No other cycle is counted as failed. -/
theorem happen_failed (hDiscreet : feed.IsDiscreet) (happening : Happening V)
    (hMade : c.worker.IsWaiting → ∃ held r, feed.request? held = some r)
    (hNone : c.failure? feed happening = none) :
    (c.happen feed happening).core.stats.failed = c.core.stats.failed := by
  have hTurn {b : Cache K V} (hQuiet : b.turnFailure? feed = none) :
      (b.turn feed).core.stats.failed = b.core.stats.failed :=
    (hQuiet ▸ turn_fares hDiscreet b).failed
  cases happening with
  | start runtime =>
      rcases start_cases feed runtime c with ⟨_, hStart⟩ | ⟨hSame, _⟩
      · rw [happen, hStart]
        rfl
      · rw [happen, hSame]
  | stop => exact failed_acted [.stop] c
  | shutdown =>
      have hQuiet : (c.stop feed).turnFailure? feed = none :=
        turnFailure?_of_cancelled (congrArg View.cancelled (Core.toView_stop feed c.core) :)
      exact (reportCrash_weathers _).failed.trans ((hTurn hQuiet).trans (failed_acted [.stop] c))
  | join name react =>
      exact congrArg Stats.failed (Shared.join_spares feed name react c.shared).stats
  | leave name => rfl
  | answer acts answer =>
      dsimp only [failure?, happen] at hNone ⊢
      rcases answer_cases feed acts answer c with ⟨hAwaits, cycle, limit, hWorker, hReceive⟩ |
        ⟨hAwaits, ⟨⟨cycle, limit, hWorker⟩, hReceive⟩ | ⟨_, hReceive⟩⟩
      · rw [hWorker, hAwaits] at hNone
        rw [hReceive]
        cases answer with
        | failed fault => cases hNone
        | panicked p => exact failed_acted acts c
        | entries list index =>
            obtain ⟨held, r, hRequest⟩ := hMade (by rw [hWorker]; trivial)
            obtain ⟨faults, hWeathers, hQuiet⟩ := conclude_weathers hDiscreet cycle
              ((c.acted feed acts).apply feed list index)
            -- the next cycle may begin at once, but its query can be made like the one before
            obtain rfl := hQuiet (refusal?_eq_none hRequest _)
            exact hWeathers.failed.trans ((failed_apply list index _).trans (failed_acted acts c))
      · rw [hWorker, hAwaits] at hNone
        rw [hReceive]
        cases answer <;> exact hTurn hNone
      · rw [hReceive]
  | elapse nanos => rfl
  | turn => exact hTurn hNone

/-! ### After the pause -/

omit [DecidableEq K] [DecidableEq V] in
theorem seen_beginCycle {r : Request} (hRequest : feed.request? c.cursor.index = some r) :
    (c.beginCycle feed).core.seen = c.core.seen ++ [.asked r] := by
  obtain ⟨hQuery, hLimit⟩ := Feed.request?_eq_some_iff.1 hRequest
  have hBegan := (record_stays (e := .began ⟨c.cursor.index, c.core.now⟩) rfl c).seen
  dsimp only [beginCycle]
  rw [hQuery, hLimit, ← hBegan]
  exact Core.seen_record (.asked r.query r.limit) _

omit [DecidableEq K] [DecidableEq V] in
theorem turn_of_paused {cycle : Cycle} {due : Nat} (hWorker : c.worker = .backingOff cycle due)
    (hCancelled : c.core.cancelled = false) (hDue : due ≤ c.core.now)
    (hBegin : cycle.started + feed.settings.minDelay.nanos ≤ c.core.now) :
    c.turn feed = c.beginCycle feed := by
  have hGoesOn : c.isCancelled = false := hCancelled
  simp only [turn, rest, goOn, hWorker, hGoesOn, hDue, Nat.not_lt.2 hBegin, if_true, if_false,
    Bool.false_eq_true]

/-- When the pause after a failed cycle is over, its request is sent again. -/
theorem happen_retries (hDiscreet : feed.IsDiscreet) {past : List Signal} {happening : Happening V}
    {cycle : Cycle} {limit : Option Duration} {fault : Fault} (hAccords : Accords feed c past)
    (hWorker : c.worker = .fetching cycle limit)
    (hFailure : c.failure? feed happening = some (cycle, fault))
    (hCancelled : (c.happen feed happening).core.cancelled = false) :
    let d := c.happen feed happening
    ∃ r rest, past = .asked r :: rest ∧ ∀ nanos, feed.settings.backoff.nanos ≤ nanos →
      cycle.started + feed.settings.minDelay.nanos ≤ d.core.now + nanos →
        (d.replay feed [.elapse nanos, .turn]).core.seen = d.core.seen ++ [.asked r] := by
  intro d
  obtain ⟨r, rest, rfl⟩ := hAccords.suits.opened (by rw [hWorker]; trivial)
  obtain ⟨acts, _, hFares⟩ := happen_fares hDiscreet hFailure
  have hActed := acted_stays feed acts c
  obtain ⟨_, hPaused⟩ := hFares.outcome cycle fault rfl
  have hStill : (c.acted feed acts).core.cancelled = false :=
    (congrArg View.cancelled hFares.view).symm.trans hCancelled
  have hNow : d.core.now = (c.acted feed acts).core.now := (congrArg View.now hFares.view :)
  rw [hStill] at hPaused
  have hRequest : feed.request? d.cursor.index = some r := by
    rw [hFares.cursor, hActed.index, hAccords.held, Signal.due_asked]
    exact hAccords.lawful.request
  refine ⟨r, rest, rfl, fun nanos hBackoff hBegin => ?_⟩
  let later := d.modify fun core => { core with now := core.now + nanos }
  have hTurn : later.turn feed = later.beginCycle feed := by
    refine turn_of_paused hPaused hCancelled ?_ hBegin
    rw [← hNow]
    exact Nat.add_le_add_left hBackoff _
  exact (congrArg (fun c : Cache K V => c.core.seen) hTurn).trans (seen_beginCycle hRequest)

end Cache

end LongPoll
