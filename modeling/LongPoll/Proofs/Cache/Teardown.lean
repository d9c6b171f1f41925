import LongPoll.Proofs.Cache.Comments
import LongPoll.Proofs.Cache.Publication

/-!
What is left of a cache when the key of an entry panics.

The panic ends the worker in the middle of a response. Main statement: no half of the response stays
behind. It has been counted, and the log may have heard of it, but all that readers, listeners and
the next query would be told is as it was. From then on nothing is asked or published any more,
while listeners still join, hear the latest snapshot and leave; and the first shutdown reports the
panic, once.
-/

namespace LongPoll

variable {K V : Type}

namespace Snapshot

/-- The panic of the first entry that has no key. -/
inductive FirstPanic (keyOf : V → Except Panic K) : List V → Panic → Prop where
  | here {v : V} {rest : List V} {p : Panic} (hKey : keyOf v = .error p) :
      FirstPanic keyOf (v :: rest) p
  | later {v : V} {k : K} {rest : List V} {p : Panic} (hKey : keyOf v = .ok k)
      (h : FirstPanic keyOf rest p) : FirstPanic keyOf (v :: rest) p

variable {keyOf : V → Except Panic K} {entries : List V}

theorem exists_firstPanic {v : V} {q : Panic} (hMember : v ∈ entries) (hKey : keyOf v = .error q) :
    ∃ p, FirstPanic keyOf entries p := by
  induction entries with
  | nil => cases hMember
  | cons w rest ih =>
      cases hFirst : keyOf w with
      | error p => exact ⟨p, .here hFirst⟩
      | ok k =>
          rcases List.mem_cons.1 hMember with rfl | hRest
          · cases hFirst.symm.trans hKey
          · obtain ⟨p, hPanic⟩ := ih hRest
            exact ⟨p, .later hFirst hPanic⟩

theorem FirstPanic.build [DecidableEq K] {p : Panic} (h : FirstPanic keyOf entries p) :
    (build keyOf entries).outcome = .error p := by
  suffices hFrom :
      ∀ soFar repeated, (buildFrom keyOf soFar repeated entries).outcome = .error p from
    hFrom empty []
  induction h with
  | here hKey => exact fun _ _ => by simp only [buildFrom, hKey]
  | later hKey _ ih =>
      intro soFar repeated
      simp only [buildFrom, hKey]
      split
      · exact ih _ _
      · exact ih _ _

end Snapshot

/-! ### The moment of the panic -/

/-- The queries so far, with their time limits, in order. -/
def Core.queries (c : Core K V) : List (Query × Option Duration) :=
  Event.collect (fun | .asked query limit => some (query, limit) | _ => none) c.events

namespace Cache

variable {c d e : Cache K V}

/-- The log heard some records, one after the other. -/
def logAll (records : List LogRecord) (c : Cache K V) : Cache K V :=
  records.foldl (fun c r => c.log r) c

/-- The worker was torn down by a response that had just been counted. The log may have heard of the
response, and nobody else. -/
structure TornBy (p : Panic) (c d : Cache K V) : Prop where
  worker : d.worker = .crashed p
  cursor : d.cursor = c.cursor
  audience : d.shared.audience = c.shared.audience
  view : d.core.toView = { c.core.toView with
    stats := { c.core.stats with
      succeeded := c.core.stats.succeeded + 1
      lastContact := some c.core.now } }
  history : ∃ records : List LogRecord,
    d.core.events.reverse = c.core.events.reverse ++ records.map Event.log

theorem logAll_stands (records : List LogRecord) (c : Cache K V) :
    (c.logAll records).cursor = c.cursor ∧
      (c.logAll records).shared.audience = c.shared.audience ∧
      (c.logAll records).core.toView = c.core.toView ∧
      (c.logAll records).core.events.reverse = c.core.events.reverse ++ records.map Event.log := by
  induction records generalizing c with
  | nil => exact ⟨rfl, rfl, rfl, (List.append_nil _).symm⟩
  | cons r rest ih =>
      obtain ⟨hCursor, hAudience, hView, hEvents⟩ := ih (c.log r)
      have hFirst : (c.log r).core.events.reverse = c.core.events.reverse ++ [.log r] :=
        List.reverse_cons
      rw [hFirst, List.append_assoc] at hEvents
      exact ⟨hCursor, hAudience, hView, hEvents⟩

theorem TornBy.quiet {p : Panic} (h : TornBy p c d) : Event.Quiet c.core.events d.core.events := by
  obtain ⟨records, hEvents⟩ := h.history
  have hLatest : d.core.events = (records.map Event.log).reverse ++ c.core.events := by
    simpa using congrArg List.reverse hEvents
  rw [hLatest, ← List.map_reverse]
  generalize records.reverse = said
  induction said with
  | nil => exact .refl
  | cons r rest ih => exact ih.aside (.log r) trivial

theorem TornBy.queries_eq {p : Panic} (h : TornBy p c d) : d.core.queries = c.core.queries := by
  refine h.quiet.collect_eq fun x hAside => ?_
  cases x <;> first | rfl | exact hAside.elim

section

variable [DecidableEq K] [DecidableEq V] {feed : Feed K V} {list : List V} {index : Index}
  {p : Panic}

/-- A response whose index is not held is counted first. What follows before the panic is in the log
alone. -/
theorem apply_of_panic (hRunning : c.core.cancelled = false) (hNew : c.cursor.index ≠ some index)
    (hPanic : (Snapshot.build feed.keyOf list).outcome = .error p) :
    ∃ records, c.apply feed list index = (c.noteContact.logAll records, .error p) := by
  have hAbsorb (next : Option Index) (a : Cache K V) : a.absorb feed list next =
      (a.logAll ((Snapshot.build feed.keyOf list).repeated.map
        (Snapshot.repeatedRecord feed.showKey)), .error p) := by
    simp only [absorb, hPanic, logAll, List.foldl_map]
  have hMoves : Index.movement c.noteContact.cursor.index index ≠ .still :=
    hNew ∘ Index.movement_eq_still_iff.1
  simp only [apply, isCancelled, hRunning, Bool.false_eq_true, if_false]
  split
  · next hStill => exact (hMoves hStill).elim
  · exact ⟨backwardRecord feed _ index :: _, hAbsorb none _⟩
  · exact ⟨_, hAbsorb _ _⟩

theorem finish_of_panic (cycle : Cycle) (hRunning : c.core.cancelled = false)
    (hNew : c.cursor.index ≠ some index)
    (hPanic : (Snapshot.build feed.keyOf list).outcome = .error p) :
    TornBy p c (c.finish feed cycle (.entries list index)) := by
  obtain ⟨records, hApply⟩ := apply_of_panic hRunning hNew hPanic
  obtain ⟨hCursor, hAudience, hView, hEvents⟩ := c.noteContact.logAll_stands records
  simp only [finish, hApply]
  exact ⟨rfl, hCursor, hAudience, hView, records, hEvents⟩

end

end Cache

/-! ### Afterwards -/

/-- What the log hears when the owner has waited for a worker that was torn down. -/
def crashReport (feed : Feed K V) (p : Panic) : Event K V :=
  .log (feed.record .warn "Poll loop ended abnormally" [("error", Cache.crashText p)])

def Event.isCrashReport : Event K V → Bool
  | .log r => r.message == "Poll loop ended abnormally"
  | _ => false

theorem Event.isCrashReport_comment {e : Event K V} (h : e.IsComment) :
    e.isCrashReport = false := by
  cases e with
  | log r =>
      have hRemark : r.message ∈ remarks := h
      rw [isCrashReport, beq_eq_false_iff_ne]
      intro hText
      rw [hText] at hRemark
      exact absurd hRemark (by decide)
  | _ => rfl

def Happening.isShutdown : Happening V → Bool
  | .shutdown => true
  | _ => false

namespace Cache

variable {c d e f : Cache K V}

/-- The cache goes on without its worker, whose end was reported or is still to be. -/
structure GoesWithout (feed : Feed K V) (p : Panic) (reported : Bool) (d e : Cache K V) : Prop where
  worker : e.worker = if reported then .ended else .crashed p
  cursor : e.cursor = d.cursor
  current : e.core.current = d.core.current
  stats : e.core.stats = d.core.stats
  latest : e.shared.audience.latest = d.shared.audience.latest
  history : ∃ new : List (Event K V), e.core.events = new ++ d.core.events ∧
    (∀ x ∈ new, x.IsComment ∨ x = crashReport feed p) ∧
    new.filter Event.isCrashReport = if reported then [crashReport feed p] else []

/-- The owner is served. Newcomers hear the latest snapshot unless the cache is stopped, listeners
can be removed, and the cache can be stopped. -/
structure Serves (feed : Feed K V) (e : Cache K V) : Prop where
  able : e.shared.audience.poisoned = false
  joins : ∀ name react, let f := (e.join feed name react).1
    (e.join feed name react).2 = .done () ∧
      f.shared.audience.known.lookup name = some e.shared.audience.nextId ∧
      ∀ id, f.core.heard id = e.core.heard id ++
        if id = e.shared.audience.nextId ∧ e.core.lifecycle.isStopped = false then
          e.shared.audience.latest.toList
        else []
  leaves : ∀ name id, e.shared.audience.known.lookup name = some id →
    (e.leave name).2 = some (decide (id ∈ e.shared.audience.ids)) ∧
      (e.leave name).1.shared.audience.ids = e.shared.audience.ids.filter (· ≠ id)
  stops : (e.stop feed).core.lifecycle.phase = .stopped ∧ (e.stop feed).core.cancelled = true

/-- Nobody but the newcomer hears anything at a joining, and it hears what the audience heard
last. -/
theorem Coherent.heard_join (feed : Feed K V) (h : e.Coherent) (name : Name)
    (react : Nat → Reaction) (id : Nat) :
    (e.join feed name react).1.core.heard id = e.core.heard id ++
      if id = e.shared.audience.nextId ∧ e.core.lifecycle.isStopped = false then
        e.shared.audience.latest.toList
      else [] := by
  have hJoined : (e.join feed name react).1.core =
      (e.shared.join (Shared.setting feed) Shared.joinGate name react).1.around := rfl
  have hOpen : Shared.joinGate 0 (e.shared.enrolled name react) =
      if e.core.lifecycle.isStopped then .closed else .open := rfl
  rw [hJoined]
  rcases Scene.join_cases (Shared.setting feed) Shared.joinGate name react h.able with
    ⟨hNone, hJoin⟩ | ⟨snapshot, hSome, ⟨hGate, hJoin⟩ | ⟨hGate, hJoin⟩ | ⟨p, hGate, _⟩⟩
  · rw [hJoin, hNone, Option.toList_none, ite_self, List.append_nil]
    rfl
  · have hStopped : e.core.lifecycle.isStopped = true := by
      by_contra hStill
      rw [hOpen, if_neg hStill] at hGate
      cases hGate
    rw [hJoin, if_neg (by simp [hStopped]), List.append_nil]
    rfl
  · have hStill : e.core.lifecycle.isStopped = false := by
      refine Bool.eq_false_iff.2 fun hStopped => ?_
      rw [hOpen, if_pos hStopped] at hGate
      cases hGate
    rw [hJoin, hSome]
    refine
      (Scene.heard_greeted (Shared.setting_keeps feed) id name react snapshot e.shared).trans ?_
    simp [hStill, eq_comm]
    rfl
  · rw [hOpen] at hGate
    split at hGate <;> cases hGate

/-- A coherent cache serves its owner, whatever became of its worker. -/
theorem Coherent.serves (feed : Feed K V) (h : e.Coherent) : Serves feed e where
  able := h.able
  joins name react := by
    obtain ⟨t, hJoin, _⟩ := h.join_stirs feed name react
    refine ⟨by rw [hJoin], ?_, h.heard_join feed name react⟩
    rw [hJoin]
    exact List.lookup_cons_self
  leaves name id hKnown := by
    simp only [Cache.leave, Audience.leave, hKnown]
    refine ⟨congrArg some ?_, ?_⟩
    · rw [Bool.eq_iff_iff]
      simp [Audience.ids]
    · simp only [Audience.ids, Audience.expel, List.filter_map, Function.comp_def]
      refine congrArg (List.map _) (List.filter_congr fun m _ => ?_)
      rw [Bool.eq_iff_iff]
      simp
  stops := by
    have hView : (e.stop feed).core.toView = e.core.toView.stopped := Core.toView_stop feed e.core
    exact ⟨congrArg (fun v => v.lifecycle.phase) hView, congrArg View.cancelled hView⟩

variable {feed : Feed K V} {p : Panic} {reported : Bool}

namespace GoesWithout

theorem refl (hWorker : d.worker = .crashed p) : GoesWithout feed p false d d where
  worker := hWorker
  cursor := rfl
  current := rfl
  stats := rfl
  latest := rfl
  history := ⟨[], rfl, by simp, rfl⟩

/-- Callbacks and the owner comment only. -/
theorem comments (h : GoesWithout feed p reported d e) (hComments : e.core.Comments f.core)
    (hWorker : f.worker = e.worker) (hCursor : f.cursor = e.cursor)
    (hLatest : f.shared.audience.latest = e.shared.audience.latest) :
    GoesWithout feed p reported d f where
  worker := hWorker.trans h.worker
  cursor := hCursor.trans h.cursor
  current := hComments.current.trans h.current
  stats := hComments.stats.trans h.stats
  latest := hLatest.trans h.latest
  history := by
    obtain ⟨new, hEvents, hNew, hReports⟩ := h.history
    obtain ⟨more, hMore, hComment⟩ := hComments.exists_events
    refine ⟨more ++ new, by rw [hMore, hEvents, List.append_assoc], ?_, ?_⟩
    · intro x hMember
      rcases List.mem_append.1 hMember with hIn | hIn
      · exact Or.inl (hComment x hIn)
      · exact hNew x hIn
    · have hNone : more.filter Event.isCrashReport = [] :=
        List.filter_eq_nil_iff.2 fun x hIn => by
          rw [Event.isCrashReport_comment (hComment x hIn)]
          exact Bool.false_ne_true
      rw [List.filter_append, hNone, List.nil_append, hReports]

/-- What is read off neither comments nor the report stays the same. -/
theorem collect_eq {β : Type} {f : Event K V → Option β} (h : GoesWithout feed p reported d e)
    (hComment : ∀ x, x.IsComment → f x = none) (hLog : ∀ r, f (.log r) = none) :
    Event.collect f e.core.events = Event.collect f d.core.events := by
  obtain ⟨new, hEvents, hNew, _⟩ := h.history
  have hNone : new.reverse.filterMap f = [] := by
    refine List.filterMap_eq_nil_iff.2 fun x hMember => ?_
    rcases hNew x (List.mem_reverse.1 hMember) with hIn | rfl
    · exact hComment x hIn
    · exact hLog _
  rw [hEvents, Event.collect, List.reverse_append, List.filterMap_append, hNone, List.append_nil]
  rfl

theorem published_eq (h : GoesWithout feed p reported d e) :
    e.core.published = d.core.published := by
  refine h.collect_eq (fun x hComment => ?_) fun _ => rfl
  cases x <;> first | rfl | exact hComment.elim

theorem queries_eq (h : GoesWithout feed p reported d e) : e.core.queries = d.core.queries := by
  refine h.collect_eq (fun x hComment => ?_) fun _ => rfl
  cases x <;> first | rfl | exact hComment.elim

theorem stop (h : GoesWithout feed p reported d e) : GoesWithout feed p reported d (e.stop feed) :=
  h.comments (acted_comments feed [.stop] e) rfl rfl
    (acted_passes feed [.stop] e).stirs.audience.latest

theorem turn (h : GoesWithout feed p reported d e) : e.turn feed = e := by
  have hWorker := h.worker
  cases reported <;> simp only [Cache.turn, hWorker] <;> rfl

/-- The first shutdown reports the end of the worker, and later ones do not. -/
theorem shutdown (h : GoesWithout feed p reported d e) :
    GoesWithout feed p true d (e.shutdown feed) := by
  have hStopped := h.stop
  cases reported with
  | true =>
      have hSame : e.shutdown feed = e.stop feed := by
        have hWorker : (e.stop feed).worker = .ended := hStopped.worker
        simp only [Cache.shutdown, hStopped.turn, reportCrash, hWorker]
      rw [hSame]
      exact hStopped
  | false =>
      obtain ⟨new, hEvents, hNew, hReports⟩ := hStopped.history
      rw [shutdown_of_crashed h.worker]
      exact
        { hStopped with
          worker := rfl
          history := ⟨crashReport feed p :: new, congrArg (crashReport feed p :: ·) hEvents,
            List.forall_mem_cons.2 ⟨Or.inr rfl, hNew⟩,
            congrArg (crashReport feed p :: ·) hReports⟩ }

theorem happen [DecidableEq K] [DecidableEq V] (h : GoesWithout feed p reported d e)
    (hCoherent : e.Coherent) (happening : Happening V) :
    GoesWithout feed p (reported || happening.isShutdown) d (e.happen feed happening) := by
  have hSame {f : Cache K V} (hSame : f = e) : GoesWithout feed p (reported || false) d f := by
    rw [hSame, Bool.or_false]
    exact h
  have hGone : (∀ cycle limit, e.worker ≠ .fetching cycle limit) ∧ e.worker ≠ .absent := by
    rw [h.worker]
    cases reported <;> simp
  cases happening with
  | start runtime =>
      rcases start_cases feed runtime e with ⟨hLatent, _⟩ | ⟨hStart, _⟩
      · exact (hGone.2 (hCoherent.latent hLatent)).elim
      · exact hSame hStart
  | stop => exact (Bool.or_false reported).symm ▸ h.stop
  | shutdown => exact (Bool.or_true reported).symm ▸ h.shutdown
  | join name react =>
      obtain ⟨t, hJoin, hStirs, _⟩ := hCoherent.join_stirs feed name react
      have hLatest : (e.join feed name react).1.shared.audience.latest =
          e.shared.audience.latest := by
        rw [hJoin]
        exact hStirs.audience.latest
      exact (Bool.or_false reported).symm ▸
        h.comments (join_comments feed name react e) rfl rfl hLatest
  | leave name =>
      exact (Bool.or_false reported).symm ▸
        h.comments .refl rfl rfl (e.shared.audience.leave_dwindles name).latest
  | answer acts answer =>
      exact hSame (receive_of_not_fetching feed acts answer hGone.1)
  | elapse nanos => exact (Bool.or_false reported).symm ▸ { h with }
  | turn => exact hSame h.turn

theorem replay [DecidableEq K] [DecidableEq V] (later : List (Happening V))
    (h : GoesWithout feed p reported d e) (hCoherent : e.Coherent) :
    GoesWithout feed p (reported || later.any Happening.isShutdown) d (e.replay feed later) := by
  induction later generalizing e reported with
  | nil => exact (Bool.or_false reported).symm ▸ h
  | cons happening rest ih =>
      rw [List.any_cons, ← Bool.or_assoc]
      exact ih (h.happen hCoherent happening) (hCoherent.happen feed happening).1

end GoesWithout

variable [DecidableEq K] [DecidableEq V]

/-- Take any run after which the worker waits for an answer, and a response that comes before the
cache is stopped, whose index is not held and one of whose entries has a key that panics. The
response is counted, the log may hear of it, and nothing else has changed: nothing is published, and
no listener is called. Whatever happens later, nothing is asked or published any more, readers get
the same snapshot and the same counters, and the first shutdown reports the panic, once. All the
time listeners can join, hear the latest snapshot and be removed, and the cache can be stopped. -/
theorem panicking_key_changes_nothing_else (feed : Feed K V) (run : List (Happening V))
    (acts : List Act) {list : List V} {index : Index} {v : V} {q : Panic}
    (hAwaits : ((initial : Cache K V).replay feed run).awaits = true)
    (hRunning : (((initial : Cache K V).replay feed run).acted feed acts).core.cancelled = false)
    (hNew : ((initial : Cache K V).replay feed run).cursor.index ≠ some index)
    (hMember : v ∈ list) (hPanic : feed.keyOf v = .error q) :
    -- the source may have acted on the cache before its response is applied
    let c := ((initial : Cache K V).replay feed run).acted feed acts
    let d := ((initial : Cache K V).replay feed run).happen feed
      (.answer acts (.entries list index))
    ∃ p, Snapshot.FirstPanic feed.keyOf list p ∧ TornBy p c d ∧
      d.core.published = c.core.published ∧ d.core.queries = c.core.queries ∧
      (∀ id, d.core.heard id = c.core.heard id) ∧
      ∀ later, let e := d.replay feed later
        GoesWithout feed p (later.any Happening.isShutdown) d e ∧
          e.core.published = d.core.published ∧ e.core.queries = d.core.queries ∧
          Serves feed e := by
  intro c d
  have hStart : ((initial : Cache K V).replay feed run).Coherent :=
    (Coherent.initial.replay feed run).1
  obtain ⟨p, hFirst⟩ := Snapshot.exists_firstPanic hMember hPanic
  have hTorn : TornBy p c d := by
    rcases answer_cases feed acts (.entries list index) ((initial : Cache K V).replay feed run) with
      ⟨_, cycle, limit, _, hReceive⟩ | ⟨hLate, _⟩
    · have hEnd : d = c.finish feed cycle (.entries list index) := hReceive
      rw [hEnd]
      exact finish_of_panic cycle hRunning hNew hFirst.build
    · cases hLate.symm.trans hAwaits
  refine ⟨p, hFirst, hTorn, Core.published_quiet hTorn.quiet, hTorn.queries_eq,
    hTorn.quiet.heard_eq,
    fun later => ?_⟩
  have hCoherent : d.Coherent := (hStart.happen feed _).1
  have hGoes : GoesWithout feed p (later.any Happening.isShutdown) d (d.replay feed later) :=
    (GoesWithout.refl hTorn.worker).replay later hCoherent
  exact ⟨hGoes, hGoes.published_eq, hGoes.queries_eq, (hCoherent.replay feed later).1.serves feed⟩

/-- The third entry has no key. A listener that comes afterwards hears what was published before,
and two shutdowns report the panic once. -/
theorem panicking_key_after_publication :
    let feed : Feed Nat Nat := ⟨"numbers",
      fun n => if n % 10 = 3 then .error (.text "three") else .ok (n % 10), toString, .default,
      .blank, fun _ => .idle⟩
    let run : List (Happening Nat) := [.start true, .turn, .join "first" fun _ => .idle,
      .answer [] (.entries [7] ⟨5⟩)]
    let d := ((initial : Cache Nat Nat).replay feed run).happen feed
      (.answer [] (.entries [8, 18, 13, 9] ⟨6⟩))
    let later : List (Happening Nat) := [.join "second" fun _ => .idle, .shutdown, .shutdown]
    let e := d.replay feed later
    ((initial : Cache Nat Nat).replay feed run).awaits = true ∧
      (((initial : Cache Nat Nat).replay feed run).acted feed []).core.cancelled = false ∧
      ((initial : Cache Nat Nat).replay feed run).cursor.index ≠ some ⟨6⟩ ∧
      13 ∈ [8, 18, 13, 9] ∧ feed.keyOf 13 = .error (.text "three") ∧
      TornBy (.text "three") (((initial : Cache Nat Nat).replay feed run).acted feed []) d ∧
      GoesWithout feed (.text "three") true d e ∧
      (e.core.heard 0).map Snapshot.entries = [[(7, 7)]] ∧
      (e.core.heard 1).map Snapshot.entries = [[(7, 7)]] ∧
      e.core.events.countP Event.isCrashReport = 1 := by
  intro feed run d later e
  have hAwaits : ((initial : Cache Nat Nat).replay feed run).awaits = true := by decide +kernel
  have hRunning : (((initial : Cache Nat Nat).replay feed run).acted feed []).core.cancelled =
      false := by decide +kernel
  have hNew : ((initial : Cache Nat Nat).replay feed run).cursor.index ≠ some ⟨6⟩ := by
    decide +kernel
  have hMember : 13 ∈ [8, 18, 13, 9] := by decide
  have hPanic : feed.keyOf 13 = .error (.text "three") := rfl
  obtain ⟨p, hFirst, hTorn, _, _, _, hLater⟩ :=
    panicking_key_changes_nothing_else feed run [] hAwaits hRunning hNew hMember hPanic
  obtain rfl : p = .text "three" := by
    have hBuild : (Snapshot.build feed.keyOf [8, 18, 13, 9]).outcome = .error (.text "three") := rfl
    cases hFirst.build.symm.trans hBuild
    rfl
  refine ⟨hAwaits, hRunning, hNew, hMember, hPanic, hTorn, (hLater later).1, ?_, ?_, ?_⟩ <;>
    decide +kernel

end Cache

end LongPoll
