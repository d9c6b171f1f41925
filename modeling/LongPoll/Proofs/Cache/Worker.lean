import LongPoll.Proofs.Snapshot
import LongPoll.Proofs.Cache.Coherence

/-!
Where the worker goes, and what can be seen of it on the way.

Whatever happens, the worker stays where it is or goes on from there. When it goes on it ends, is
torn down, pauses, or sends one request, and what that request says is settled by the index held
alone. The index held, in turn, changes in one place only: where a response is applied.
-/

namespace LongPoll

/-- A blocking query with the time limit it is sent with. -/
structure Request where
  query : Query
  limit : Option Duration

/-- What can be seen of the worker: it sends a request, a cycle fails, or a response with an index
is applied. -/
inductive Signal where
  | asked (request : Request)
  | failed
  | answered (index : Index)

namespace Worker

/-- The worker is at work and no query is on its way. -/
def IsReady : Worker → Prop
  | .spawned | .backingOff _ _ | .resting _ _ => True
  | _ => False

/-- A query is on its way. -/
def IsWaiting : Worker → Prop
  | .fetching _ _ => True
  | _ => False

theorem isWaiting_iff {worker : Worker} :
    worker.IsWaiting ↔ ∃ cycle limit, worker = .fetching cycle limit := by
  cases worker with
  | fetching cycle limit => exact ⟨fun _ => ⟨cycle, limit, rfl⟩, fun _ => trivial⟩
  | _ => exact ⟨False.elim, fun ⟨_, _, h⟩ => by cases h⟩

end Worker

variable {K V : Type}

namespace Feed

/-- The request that is sent while an index is held; none if the base of the queries is refused or
the time limit does not exist. -/
def request? (feed : Feed K V) (held : Option Index) : Option Request :=
  match feed.base.forCycle held feed.settings.watchSeconds, feed.settings.readLimit with
  | .ok query, .ok limit => some ⟨query, limit⟩
  | _, _ => none

theorem request?_eq_some_iff {feed : Feed K V} {held : Option Index} {r : Request} :
    feed.request? held = some r ↔
      feed.base.forCycle held feed.settings.watchSeconds = .ok r.query ∧
        feed.settings.readLimit = .ok r.limit := by
  unfold request?
  split
  · next query limit hQuery hLimit =>
      rw [hQuery, hLimit, Option.some.injEq, Except.ok.injEq, Except.ok.injEq]
      exact ⟨fun h => h ▸ ⟨rfl, rfl⟩, fun h => by rw [h.1, h.2]⟩
  · next hRefused =>
      refine ⟨fun h => (by cases h), fun h => ?_⟩
      exact (hRefused _ _ h.1 h.2).elim

end Feed

theorem Query.forCycle_error {base : Query} {held : Option Index} {seconds : Nat} {fault : Fault}
    (h : base.forCycle held seconds = .error fault) (held' : Option Index) :
    base.forCycle held' seconds = .error fault := by
  unfold Query.forCycle at h ⊢
  split at h
  · next hIndex => rw [if_pos hIndex, ← h]
  · next hIndex =>
      split at h
      · next hWait => rw [if_neg hIndex, if_pos hWait, ← h]
      · cases h

theorem Query.index_forCycle {base q : Query} {held : Option Index} {seconds : Nat}
    (h : base.forCycle held seconds = .ok q) : q.index = held := by
  unfold Query.forCycle at h
  split at h
  · cases h
  · split at h
    · cases h
    · cases h
      rfl

namespace Feed

/-- A request carries the index that is held. -/
theorem index_request? {feed : Feed K V} {held : Option Index} {r : Request}
    (h : feed.request? held = some r) : r.query.index = held :=
  Query.index_forCycle (request?_eq_some_iff.1 h).1

/-- No query can be made from the base, whatever index is held. -/
def Refuses (feed : Feed K V) : Prop :=
  ∀ held, ∃ fault, feed.base.forCycle held feed.settings.watchSeconds = .error fault

theorem Refuses.request? {feed : Feed K V} (h : feed.Refuses) (held : Option Index) :
    feed.request? held = none := by
  obtain ⟨fault, hFault⟩ := h held
  rw [Feed.request?, hFault]

end Feed

namespace Event

/-- What can be seen by an event. An applied response is no event of its own. -/
def signal? : Event K V → Option Signal
  | .asked query limit => some (.asked ⟨query, limit⟩)
  | .ended _ .failed => some .failed
  | _ => none

theorem signal?_ofFailure (target : ErrorLog) (message : String) (fault : Fault) :
    (ofFailure target message fault : Event K V).signal? = none := by
  cases target <;> rfl

theorem signal?_aside (e : Event K V) (h : e.IsAside) : e.signal? = none := by
  cases e <;> first | rfl | exact h.elim

end Event

namespace Core

/-- What was seen by events so far, in order. -/
def seen (c : Core K V) : List Signal := Event.collect Event.signal? c.events

theorem seen_record (e : Event K V) (c : Core K V) :
    (c.record e).seen = c.seen ++ e.signal?.toList :=
  Event.collect_cons e c.events

variable {a b c : Core K V}

/-- Nothing was seen and nothing was counted. -/
structure Spares (a b : Core K V) : Prop where
  seen : b.seen = a.seen
  stats : b.stats = a.stats

namespace Spares

theorem refl (a : Core K V) : a.Spares a := ⟨rfl, rfl⟩

theorem trans (h : a.Spares b) (h' : b.Spares c) : a.Spares c :=
  ⟨h'.seen.trans h.seen, h'.stats.trans h.stats⟩

theorem note (h : a.Spares b) {e : Event K V} (hUnseen : e.signal? = none) :
    a.Spares (b.record e) := by
  refine ⟨?_, h.stats⟩
  rw [seen_record, hUnseen, Option.toList_none, List.append_nil, h.seen]

end Spares

end Core

namespace Shared

variable (feed : Feed K V)

theorem perform_spares (act : Act) (s : Shared K V) :
    s.around.Spares (perform feed act s).around := by
  cases act with
  | stop =>
      exact ⟨(Core.stop_quiet feed s.around).collect_eq Event.signal?_aside,
        (congrArg View.stats (Core.toView_stop feed s.around) :)⟩
  | observe => exact (Core.Spares.refl _).note rfl
  | remove target =>
      change s.around.Spares (s.removeBy _ target).around
      rcases Scene.removeBy_cases target s with hSame | ⟨found, hLeft⟩
      · rw [hSame]
        exact .refl _
      · rw [hLeft]
        exact (Core.Spares.refl _).note rfl

theorem performAll_spares (acts : List Act) (s : Shared K V) :
    s.around.Spares (s.performAll (setting feed) acts).around :=
  Scene.performAll_induction (P := fun t => s.around.Spares t.around)
    (fun act t h => h.trans (perform_spares feed act t)) acts (.refl _)

theorem call_spares (m : Member) (snapshot : Snapshot K V) (s : Shared K V) :
    s.around.Spares (s.call (setting feed) m snapshot).around := by
  have hTold : s.around.Spares (s.told (setting feed) m snapshot).around :=
    (Core.Spares.refl _).note rfl
  have hActed := hTold.trans (performAll_spares feed (m.react (m.calls + 1)).acts _)
  rcases Scene.call_cases (setting feed) m snapshot s with hCall | ⟨r, _, hCall⟩
  · rw [hCall]
    exact hActed
  · rw [hCall]
    exact hActed.note rfl

theorem broadcast_spares (snapshot : Snapshot K V) (s : Shared K V) :
    s.around.Spares (s.broadcast (setting feed) broadcastGate snapshot).1.around := by
  unfold Scene.broadcast
  split
  · exact .refl _
  · refine Scene.deliver_induction (P := fun t => s.around.Spares t.around) ?_ ?_ ?_
      s.audience.members 0 (.refl _)
    · exact fun _ m t h _ => h.trans (call_spares feed m snapshot t)
    · exact fun _ h => h.note rfl
    · exact fun _ _ _ h _ => h

theorem join_spares (name : Name) (react : Nat → Reaction) (s : Shared K V) :
    s.around.Spares (s.join (setting feed) joinGate name react).1.around := by
  cases hPoisoned : s.audience.poisoned with
  | true =>
      rw [Scene.join, if_pos hPoisoned]
      exact .refl _
  | false =>
      rcases Scene.join_cases (setting feed) joinGate name react hPoisoned with
        ⟨_, hJoin⟩ | ⟨snapshot, _, ⟨_, hJoin⟩ | ⟨_, hJoin⟩ | ⟨p, _, hJoin⟩⟩
      · rw [hJoin]
        exact .refl _
      · rw [hJoin]
        exact .refl _
      · have hWelcomed : s.around.Spares ((s.enrolled name react).log (setting feed)
            (Scene.welcome snapshot)).around := (Core.Spares.refl _).note rfl
        rw [hJoin]
        exact hWelcomed.trans (call_spares feed _ snapshot _)
      · rw [hJoin]
        exact .refl _

end Shared

namespace Cache

variable {c d e : Cache K V}

/-- The worker stays where it is, is not seen, and holds the same index. -/
structure Stays (c d : Cache K V) : Prop where
  worker : d.worker = c.worker
  index : d.cursor.index = c.cursor.index
  seen : d.core.seen = c.core.seen
  lastIndex : d.core.stats.lastIndex = c.core.stats.lastIndex

namespace Stays

theorem refl (c : Cache K V) : c.Stays c := ⟨rfl, rfl, rfl, rfl⟩

theorem trans (h : c.Stays d) (h' : d.Stays e) : c.Stays e :=
  ⟨h'.worker.trans h.worker, h'.index.trans h.index, h'.seen.trans h.seen,
    h'.lastIndex.trans h.lastIndex⟩

end Stays

/-- Where the worker can be after it broke a cycle off, and what was seen of that. -/
inductive Broken (feed : Feed K V) (cancelled : Bool) : Worker → List Signal → Prop where
  | abandoned (hCancelled : cancelled = true) : Broken feed cancelled .ended []
  | failed (hCancelled : cancelled = true) : Broken feed cancelled .ended [.failed]
  /-- The callback for failed cycles panicked. -/
  | crashed {n : Nat} {p : Panic} (hEnding : (feed.consumer n).ending = .panicked p) :
      Broken feed cancelled (.crashed p) []
  | backingOff (cycle : Cycle) (due : Nat) (hCancelled : cancelled = false) :
      Broken feed cancelled (.backingOff cycle due) [.failed]

/-- Where the worker can be after it went on while an index was held, and what was seen on the
way. -/
inductive Destination (feed : Feed K V) (held : Option Index) (cancelled : Bool) :
    Worker → List Signal → Prop where
  | ended (hCancelled : cancelled = true) : Destination feed held cancelled .ended []
  | resting (cycle : Cycle) (due : Nat) (hCancelled : cancelled = false) :
      Destination feed held cancelled (.resting cycle due) []
  | fetching (started : Nat) {r : Request} (hRequest : feed.request? held = some r) :
      Destination feed held cancelled (.fetching ⟨held, started⟩ r.limit) [.asked r]
  /-- There is no time limit to send a query with. -/
  | crashed {query : Query} {overflow : DurationOverflow}
      (hQuery : feed.base.forCycle held feed.settings.watchSeconds = .ok query)
      (hLimit : feed.settings.readLimit = .error overflow) :
      Destination feed held cancelled (.crashed (.text overflow.message)) []
  | refused {worker : Worker} {sent : List Signal} (hRefuses : feed.Refuses)
      (broken : Broken feed cancelled worker sent) : Destination feed held cancelled worker sent

/-- The worker went on to where it may, and holds the same index. -/
structure GoesOn (may : Bool → Worker → List Signal → Prop) (c d : Cache K V) : Prop where
  index : d.cursor.index = c.cursor.index
  lastIndex : d.core.stats.lastIndex = c.core.stats.lastIndex
  went : ∃ sent, d.core.seen = c.core.seen ++ sent ∧ may d.core.cancelled d.worker sent

section

variable {may may' : Bool → Worker → List Signal → Prop}

theorem Stays.goesOn (h : c.Stays d) (h' : GoesOn may d e) : GoesOn may c e where
  index := h'.index.trans h.index
  lastIndex := h'.lastIndex.trans h.lastIndex
  went := h.seen ▸ h'.went

theorem GoesOn.sent (h : GoesOn may c d) :
    may d.core.cancelled d.worker (d.core.seen.drop c.core.seen.length) := by
  obtain ⟨sent, hSeen, hMay⟩ := h.went
  rwa [hSeen, List.drop_left]

theorem GoesOn.imp (h : GoesOn may c d)
    (hMay : ∀ cancelled worker sent, may cancelled worker sent → may' cancelled worker sent) :
    GoesOn may' c d := by
  obtain ⟨sent, hSeen, hWent⟩ := h.went
  exact ⟨h.index, h.lastIndex, sent, hSeen, hMay _ _ _ hWent⟩

/-- The worker stops going on where nothing is seen of it. -/
theorem becomes_goesOn {worker : Worker} {c : Cache K V} (h : may c.core.cancelled worker []) :
    GoesOn may c (c.becomes worker) :=
  ⟨rfl, rfl, [], (List.append_nil _).symm, h⟩

end

/-! ### The parts of a cycle -/

theorem record_stays {e : Event K V} (hUnseen : e.signal? = none) (c : Cache K V) :
    c.Stays (c.record e) :=
  ⟨rfl, rfl, ((Core.Spares.refl c.core).note hUnseen).seen, rfl⟩

theorem log_stays (r : LogRecord) (c : Cache K V) : c.Stays (c.log r) :=
  record_stays (e := .log r) rfl c

variable (feed : Feed K V)

theorem acted_stays (acts : List Act) (c : Cache K V) : c.Stays (c.acted feed acts) := by
  have hSpares := Shared.performAll_spares feed acts c.shared
  exact ⟨rfl, rfl, hSpares.seen, congrArg Stats.lastIndex hSpares.stats⟩

theorem exit_goesOn {may : Bool → Worker → List Signal → Prop} {c : Cache K V}
    (h : may c.core.cancelled .ended []) : GoesOn may c (c.exit feed) :=
  (log_stays _ c).goesOn (becomes_goesOn h)

theorem noteEnd_stays (cycle : Cycle) {how : CycleEnd} (hHow : how ≠ .failed) (c : Cache K V) :
    c.Stays (c.noteEnd feed cycle how) := by
  refine (record_stays (e := .ended cycle how) ?_ c).trans (log_stays _ _)
  cases how with
  | failed => exact (hHow rfl).elim
  | _ => rfl

/-- The end of a failed cycle can be seen. -/
theorem seen_noteEnd_failed (cycle : Cycle) (c : Cache K V) :
    (c.noteEnd feed cycle .failed).core.seen = c.core.seen ++ [.failed] :=
  (log_stays _ _).seen.trans (Core.seen_record (.ended cycle .failed) _)

theorem report_stays (fault : Fault) (c : Cache K V) :
    c.Stays (c.report feed fault).1 ∧
      ∀ p, (c.report feed fault).2 = some p → ∃ n, (feed.consumer n).ending = .panicked p := by
  let reported := c.record (.ofFailure feed.settings.errorLog (failureMessage feed) fault)
  have hReported : c.Stays reported := record_stays (Event.signal?_ofFailure _ _ fault) c
  have hActed := hReported.trans
    (acted_stays feed (reported.reactionToFailure feed).acts reported)
  dsimp only [report]
  split
  · next p hEnding =>
      refine ⟨hActed, fun q hSome => ?_⟩
      cases hSome
      unfold reactionToFailure at hEnding
      split at hEnding
      · exact ⟨_, hEnding⟩
      · cases hEnding
  · exact ⟨hActed, fun p hSome => by cases hSome⟩

theorem fail_goesOn (cycle : Cycle) (fault : Fault) (c : Cache K V) :
    GoesOn (Broken feed) c (c.fail feed cycle fault) := by
  let counted := c.count fun s => { s with failed := s.failed + 1 }
  have hCounted : c.Stays counted := ⟨rfl, rfl, rfl, rfl⟩
  obtain ⟨hReport, hPanics⟩ := report_stays feed fault counted
  have hReported := hCounted.trans hReport
  dsimp only [fail]
  split
  · next p hPanic =>
      obtain ⟨n, hEnding⟩ := hPanics p hPanic
      exact hReported.goesOn (becomes_goesOn (.crashed hEnding))
  · let ended := (counted.report feed fault).1.noteEnd feed cycle .failed
    have hSeen := seen_noteEnd_failed feed cycle (counted.report feed fault).1
    split
    · next hCancelled =>
        refine hReported.goesOn ⟨rfl, rfl, [.failed], ?_, .failed hCancelled⟩
        exact (log_stays _ ended).seen.trans hSeen
    · next hCancelled =>
        exact hReported.goesOn ⟨rfl, rfl, [.failed], hSeen,
          .backingOff _ _ (Bool.eq_false_iff.2 hCancelled)⟩

theorem beginCycle_goesOn (c : Cache K V) :
    GoesOn (Destination feed c.cursor.index) c (c.beginCycle feed) := by
  have hBegan : c.Stays (c.record (.began ⟨c.cursor.index, c.core.now⟩)) := record_stays rfl c
  dsimp only [beginCycle]
  split
  · next fault hQuery =>
      have hRefuses : feed.Refuses := fun held => ⟨fault, Query.forCycle_error hQuery held⟩
      exact hBegan.goesOn ((fail_goesOn feed _ _ _).imp fun _ _ _ h => .refused hRefuses h)
  · next query hQuery =>
      split
      · next overflow hLimit => exact hBegan.goesOn (becomes_goesOn (.crashed hQuery hLimit))
      · next limit hLimit =>
          have hRequest : feed.request? c.cursor.index = some ⟨query, limit⟩ :=
            Feed.request?_eq_some_iff.2 ⟨hQuery, hLimit⟩
          refine hBegan.goesOn ⟨rfl, rfl, [.asked ⟨query, limit⟩], ?_, .fetching _ hRequest⟩
          exact Core.seen_record (.asked query limit) _

theorem goOn_goesOn (c : Cache K V) :
    GoesOn (Destination feed c.cursor.index) c (c.goOn feed) := by
  unfold goOn
  split
  · next hCancelled => exact exit_goesOn feed (.ended hCancelled)
  · exact beginCycle_goesOn feed c

theorem rest_goesOn (cycle : Cycle) (c : Cache K V) :
    GoesOn (Destination feed c.cursor.index) c (c.rest feed cycle) := by
  dsimp only [rest]
  split
  · split
    · next hCancelled => exact exit_goesOn feed (.ended hCancelled)
    · next hCancelled =>
        exact becomes_goesOn (.resting _ _ (Bool.eq_false_iff.2 hCancelled))
  · exact goOn_goesOn feed c

/-- Where the worker was told to end, no delay keeps it. -/
theorem rest_of_cancelled (cycle : Cycle) {c : Cache K V} (hCancelled : c.core.cancelled = true) :
    c.rest feed cycle = c.exit feed := by
  simp only [rest, goOn, isCancelled, hCancelled, if_true, ite_self]

theorem abandon_stays (c : Cache K V) : c.Stays c.abandon :=
  record_stays (e := .abandoned _) rfl c

/-- In a turn a worker that is ready goes on, one that waits may break the cycle off, and otherwise
nothing happens. -/
theorem turn_cases (c : Cache K V) :
    c.turn feed = c ∨
      c.worker.IsReady ∧ GoesOn (Destination feed c.cursor.index) c (c.turn feed) ∨
      c.worker.IsWaiting ∧ GoesOn (Broken feed) c (c.turn feed) := by
  cases hWorker : c.worker with
  | absent => exact Or.inl (turn_of_absent feed hWorker)
  | ended => exact Or.inl (by simp only [turn, hWorker])
  | crashed p => exact Or.inl (by simp only [turn, hWorker])
  | spawned =>
      refine Or.inr (Or.inl ⟨trivial, ?_⟩)
      let said := c.log (feed.record .info "Poll loop started"
        [("watch_seconds", Text.writeNatural feed.settings.watchSeconds)])
      have hGoes : GoesOn (Destination feed c.cursor.index) said (said.goOn feed) :=
        goOn_goesOn feed said
      simp only [turn, hWorker]
      exact (log_stays _ c).goesOn hGoes
  | fetching cycle limit =>
      simp only [turn, hWorker]
      split
      · next hCancelled =>
          exact Or.inr (Or.inr ⟨trivial,
            (abandon_stays c).goesOn (exit_goesOn feed (.abandoned hCancelled))⟩)
      · split
        · exact Or.inl rfl
        · split
          · exact Or.inr (Or.inr ⟨trivial,
              (abandon_stays c).goesOn (fail_goesOn feed _ _ _)⟩)
          · exact Or.inl rfl
  | backingOff cycle due =>
      simp only [turn, hWorker]
      split
      · next hCancelled => exact Or.inr (Or.inl ⟨trivial, exit_goesOn feed (.ended hCancelled)⟩)
      · split
        · exact Or.inr (Or.inl ⟨trivial, rest_goesOn feed _ c⟩)
        · exact Or.inl rfl
  | resting cycle due =>
      simp only [turn, hWorker]
      split
      · next hCancelled => exact Or.inr (Or.inl ⟨trivial, exit_goesOn feed (.ended hCancelled)⟩)
      · split
        · exact Or.inr (Or.inl ⟨trivial, goOn_goesOn feed c⟩)
        · exact Or.inl rfl

/-! ### Responses -/

theorem announce_stays (candidate : Snapshot K V) (c : Cache K V) :
    c.Stays (c.announce feed candidate) := by
  have hSpares := Shared.broadcast_spares feed candidate c.shared
  have hTold : c.Stays { c with
      shared := (c.shared.broadcast (Shared.setting feed) Shared.broadcastGate candidate).1 } :=
    ⟨rfl, rfl, hSpares.seen, congrArg Stats.lastIndex hSpares.stats⟩
  dsimp only [announce]
  split
  · exact hTold.trans (log_stays _ _)
  · exact hTold

theorem publish_stays (candidate : Snapshot K V) (c : Cache K V) :
    c.Stays (c.publish feed candidate) := by
  have hIssued : c.Stays (c.issue candidate).settle.1 :=
    ⟨rfl, rfl, (record_stays (e := .published candidate) rfl c).seen, rfl⟩
  obtain ⟨said, hSaid, hPublish⟩ := publish_eq_announce feed candidate c
  have hSaid : c.Stays said := by
    rcases hSaid with rfl | ⟨r, _, rfl⟩
    · exact hIssued
    · exact hIssued.trans (log_stays r _)
  have hTold := hSaid.trans (announce_stays feed candidate said)
  rw [hPublish]
  exact ⟨hTold.worker, hTold.index, hTold.seen, hTold.lastIndex⟩

theorem repeated_stays (keys : List K) (c : Cache K V) :
    c.Stays (keys.foldl (fun c k => c.log (Snapshot.repeatedRecord feed.showKey k)) c) := by
  induction keys generalizing c with
  | nil => exact .refl c
  | cons k rest ih => exact (log_stays _ c).trans (ih _)

theorem Stays.hold (h : c.Stays d) (next : Option Index) : (c.hold next).Stays (d.hold next) :=
  ⟨h.worker, rfl, h.seen, rfl⟩

variable [DecidableEq K] [DecidableEq V]

/-- Unless a key panics, the one thing that absorbing does to the index is to hold the next. -/
theorem absorb_stays (entries : List V) (next : Option Index) (h : c.Stays d) :
    (∃ p, (d.absorb feed entries next).2 = .error p ∧
        (Snapshot.build feed.keyOf entries).outcome = .error p ∧
        c.Stays (d.absorb feed entries next).1) ∨
      ∃ how, (d.absorb feed entries next).2 = .ok how ∧ how ≠ .failed ∧
        (c.hold next).Stays (d.absorb feed entries next).1 := by
  have hBuilt := h.trans (repeated_stays feed (Snapshot.build feed.keyOf entries).repeated d)
  dsimp only [absorb]
  split
  · next p hOutcome => exact Or.inl ⟨p, rfl, hOutcome, hBuilt⟩
  · split
    · exact Or.inr ⟨.published, rfl, by decide, (hBuilt.hold next).trans (publish_stays feed _ _)⟩
    · exact Or.inr ⟨.unchanged, rfl, by decide, (hBuilt.hold next).trans ⟨rfl, rfl, rfl, rfl⟩⟩

/-- The counters know the index that is held. -/
def Synced (c : Cache K V) : Prop := c.core.stats.lastIndex = c.cursor.index

omit [DecidableEq K] [DecidableEq V] in
theorem Synced.initial : (initial : Cache K V).Synced := rfl

omit [DecidableEq K] [DecidableEq V] in
theorem Stays.synced (h : c.Stays d) (hSynced : c.Synced) : d.Synced :=
  h.lastIndex.trans (hSynced.trans h.index.symm)

omit [DecidableEq K] [DecidableEq V] in
theorem GoesOn.synced {may : Bool → Worker → List Signal → Prop} (h : GoesOn may c d)
    (hSynced : c.Synced) : d.Synced :=
  h.lastIndex.trans (hSynced.trans h.index.symm)

/-- What becomes of the index when a response comes: it is left alone if the worker was told to end
or a key panics; otherwise the response is applied, and the index to go on with is held. -/
theorem apply_stays (entries : List V) (returned : Index) {c : Cache K V} (hSynced : c.Synced) :
    c.core.cancelled = true ∧ c.apply feed entries returned = (c, .ok .unchanged) ∨
      c.core.cancelled = false ∧
        ((∃ p, (c.apply feed entries returned).2 = .error p ∧
            (Snapshot.build feed.keyOf entries).outcome = .error p ∧
            c.Stays (c.apply feed entries returned).1) ∨
          ∃ how, (c.apply feed entries returned).2 = .ok how ∧ how ≠ .failed ∧
            (c.hold (Index.resume c.cursor.index returned)).Stays
              (c.apply feed entries returned).1) := by
  have hContact : c.Stays c.noteContact := ⟨rfl, rfl, rfl, rfl⟩
  cases hCancelled : c.core.cancelled with
  | true => exact Or.inl ⟨rfl, by simp only [apply, isCancelled, hCancelled, if_true]⟩
  | false =>
      refine Or.inr ⟨rfl, ?_⟩
      have hCursor : c.noteContact.cursor = c.cursor := rfl
      simp only [apply, isCancelled, hCancelled, Bool.false_eq_true, if_false, hCursor]
      cases hMovement : Index.movement c.cursor.index returned with
      | still =>
          have hHeld := Index.movement_eq_still_iff.1 hMovement
          rw [hHeld, Index.resume_of_still]
          dsimp only
          split
          · exact Or.inr ⟨.unchanged, rfl, by decide, rfl, hHeld, rfl, hSynced.trans hHeld⟩
          · exact absorb_stays feed entries _ hContact
      | backward =>
          rw [Index.resume_of_backward hMovement]
          exact absorb_stays feed entries _ (hContact.trans (log_stays _ _))
      | forward next =>
          rw [Index.resume_of_forward hMovement]
          exact absorb_stays feed entries _ hContact

/-! ### Happenings -/

omit [DecidableEq K] [DecidableEq V] in
/-- A response comes to a worker that waits. -/
theorem waiting_of_response {happening : Happening V} {r : Response V} {c : Cache K V}
    (h : c.response? happening = some r) : c.worker.IsWaiting := by
  unfold response? at h
  split at h
  · next hWorker =>
      rw [hWorker]
      trivial
  · cases h

/-- The response that a happening brings, if it is applied: the worker waits for it, it is not too
late, nobody told the worker to end, and no key panics. -/
def applied? (happening : Happening V) (c : Cache K V) : Option (Response V) :=
  match happening, c.response? happening with
  | .answer acts _, some r =>
    let c := c.acted feed acts
    match c.isCancelled, (c.apply feed r.entries r.index).2 with
    | false, .ok _ => some r
    | _, _ => none
  | _, _ => none

/-- How the worker moves when something happens that brings this applied response, or none. -/
inductive Moves (happening : Happening V) (c d : Cache K V) : Option (Response V) → Prop where
  | stays (stays : c.Stays d) : Moves happening c d none
  | starts (hStart : happening = .start true) (hLatent : c.core.lifecycle.phase = .latent)
      (hWorker : d.worker = .spawned) (stays : c.Stays { d with worker := c.worker }) :
      Moves happening c d none
  | goesOn (hReady : c.worker.IsReady) (goesOn : GoesOn (Destination feed c.cursor.index) c d) :
      Moves happening c d none
  | breaksOff (hWaiting : c.worker.IsWaiting) (goesOn : GoesOn (Broken feed) c d) :
      Moves happening c d none
  | applies {r : Response V} (hWaiting : c.worker.IsWaiting)
      (goesOn : GoesOn (Destination feed (Index.resume c.cursor.index r.index))
        (c.hold (Index.resume c.cursor.index r.index)) d) :
      Moves happening c d (some r)
  /-- The key of an entry or the source panicked. -/
  | torn {p : Panic} (hWorker : d.worker = .crashed p)
      (hCause : (∃ v, feed.keyOf v = .error p) ∨ ∃ acts, happening = .answer acts (.panicked p))
      (stays : c.Stays { d with worker := c.worker }) : Moves happening c d none
  /-- The end of a worker that was torn down is reported. -/
  | buried {p : Panic} (hCrashed : c.worker = .crashed p) (hWorker : d.worker = .ended)
      (hCancelled : d.core.cancelled = true) (stays : c.Stays { d with worker := c.worker }) :
      Moves happening c d none

omit [DecidableEq K] [DecidableEq V] in
theorem turn_moves (happening : Happening V) (c : Cache K V) :
    Moves feed happening c (c.turn feed) none := by
  rcases turn_cases feed c with hSame | ⟨hReady, hGoes⟩ | ⟨hWaiting, hBreaks⟩
  · rw [hSame]
    exact .stays (.refl c)
  · exact .goesOn hReady hGoes
  · exact .breaksOff hWaiting hBreaks

/-- `d` is `c` after the acts of the source. -/
theorem finish_entries_moves {happening : Happening V} (cycle : Cycle) (list : List V)
    (index : Index) (hWaiting : c.worker.IsWaiting) (hActed : c.Stays d) (hSynced : d.Synced) :
    Moves feed happening c (d.finish feed cycle (.entries list index))
      (match d.isCancelled, (d.apply feed list index).2 with
        | false, .ok _ => some ⟨list, index⟩
        | _, _ => none) := by
  dsimp only [finish, isCancelled]
  rcases apply_stays feed list index hSynced with
    ⟨hCancelled, hApply⟩ | ⟨hCancelled, ⟨p, hError, hBuild, hStays⟩ | ⟨how, hOk, hHow, hStays⟩⟩
  · have hHow : CycleEnd.unchanged ≠ .failed := by decide
    have hEnded := hActed.trans (noteEnd_stays feed cycle hHow d)
    rw [hApply, hCancelled]
    dsimp only
    rw [rest_of_cancelled feed cycle (by exact hCancelled)]
    exact .breaksOff hWaiting (hEnded.goesOn (exit_goesOn feed (.abandoned hCancelled)))
  · obtain ⟨v, _, hKey⟩ := Snapshot.exists_of_build_error hBuild
    have hEnd : d.apply feed list index = ((d.apply feed list index).1, .error p) :=
      Prod.ext rfl hError
    have hAll := hActed.trans hStays
    rw [hEnd, hCancelled]
    exact .torn rfl (Or.inl ⟨v, hKey⟩) ⟨rfl, hAll.index, hAll.seen, hAll.lastIndex⟩
  · have hEnd : d.apply feed list index = ((d.apply feed list index).1, .ok how) :=
      Prod.ext rfl hOk
    rw [hActed.index] at hStays
    have hEnded := ((hActed.hold _).trans hStays).trans (noteEnd_stays feed cycle hHow _)
    have hRests := rest_goesOn feed cycle ((d.apply feed list index).1.noteEnd feed cycle how)
    rw [hEnded.index] at hRests
    rw [hEnd, hCancelled]
    exact .applies hWaiting (hEnded.goesOn hRests)

theorem receive_moves (acts : List Act) (answer : Answer V) (hSynced : c.Synced) :
    Moves feed (.answer acts answer) c (c.receive feed acts answer)
      (c.applied? feed (.answer acts answer)) := by
  have hUnapplied (hAwaits : c.awaits = false) : c.applied? feed (.answer acts answer) = none := by
    simp only [applied?, response?_of_not_awaits hAwaits]
  rcases answer_cases feed acts answer c with ⟨hAwaits, cycle, limit, hWorker, hReceive⟩ |
    ⟨hAwaits, ⟨_, hReceive⟩ | ⟨_, hReceive⟩⟩
  · have hActed := acted_stays feed acts c
    have hWaiting : c.worker.IsWaiting := Worker.isWaiting_iff.2 ⟨cycle, limit, hWorker⟩
    rw [hReceive]
    cases answer with
    | panicked p => exact .torn rfl (Or.inr ⟨acts, rfl⟩) (hActed.trans ⟨rfl, rfl, rfl, rfl⟩)
    | failed fault => exact .breaksOff hWaiting (hActed.goesOn (fail_goesOn feed cycle _ _))
    | entries list index =>
        simp only [applied?, response?_of_awaits hAwaits]
        exact finish_entries_moves feed cycle list index hWaiting hActed (hActed.synced hSynced)
  · rw [hReceive, hUnapplied hAwaits]
    exact turn_moves feed _ c
  · rw [hReceive, hUnapplied hAwaits]
    exact .stays (.refl c)

omit [DecidableEq K] [DecidableEq V] in
/-- A worker that is told to end while it is ready or waits does so in its next turn. -/
theorem turn_of_cancelled {c : Cache K V} (hCancelled : c.core.cancelled = true) :
    c.turn feed = c ∨
      ∃ d, c.turn feed = d.exit feed ∧ c.Stays d ∧ d.core.cancelled = true ∧
        (c.worker.IsReady ∨ c.worker.IsWaiting) := by
  cases hWorker : c.worker with
  | absent => exact Or.inl (turn_of_absent feed hWorker)
  | ended => exact Or.inl (by simp only [turn, hWorker])
  | crashed p => exact Or.inl (by simp only [turn, hWorker])
  | fetching cycle limit =>
      refine Or.inr ⟨c.abandon, ?_, abandon_stays c, hCancelled, Or.inr trivial⟩
      simp only [turn, hWorker, isCancelled, hCancelled, if_true]
  | spawned =>
      let said := c.log (feed.record .info "Poll loop started"
        [("watch_seconds", Text.writeNatural feed.settings.watchSeconds)])
      have hSaid : said.isCancelled = true := hCancelled
      refine Or.inr ⟨said, ?_, log_stays _ c, hCancelled, Or.inl trivial⟩
      simp only [turn, hWorker, goOn]
      exact if_pos hSaid
  | _ =>
      refine Or.inr ⟨c, ?_, .refl c, hCancelled, Or.inl trivial⟩
      simp only [turn, hWorker, isCancelled, hCancelled, if_true]

omit [DecidableEq K] [DecidableEq V] in
theorem shutdown_moves (happening : Happening V) (c : Cache K V) :
    Moves feed happening c (c.shutdown feed) none := by
  have hStopped : c.Stays (c.stop feed) := acted_stays feed [.stop] c
  have hCancelled : (c.stop feed).core.cancelled = true :=
    (congrArg View.cancelled (Core.toView_stop feed c.core) :)
  rcases turn_of_cancelled feed hCancelled with hSame | ⟨d, hTurn, hStays, hStill, hActive⟩
  · rw [shutdown, hSame]
    unfold reportCrash
    split
    · next p hWorker =>
        have hSaid := hStopped.trans (log_stays (feed.record .warn "Poll loop ended abnormally"
          [("error", crashText p)]) _)
        exact .buried (hStopped.worker.symm.trans hWorker) rfl hCancelled
          ⟨rfl, hSaid.index, hSaid.seen, hSaid.lastIndex⟩
    · exact .stays hStopped
  · have hAll := hStopped.trans hStays
    have hShutdown : c.shutdown feed = d.exit feed := by
      rw [shutdown, hTurn]
      rfl
    rw [hShutdown]
    rw [hStopped.worker] at hActive
    rcases hActive with hReady | hWaiting
    · exact .goesOn hReady (hAll.goesOn (exit_goesOn feed (.ended hStill)))
    · exact .breaksOff hWaiting
        (hAll.goesOn (exit_goesOn feed (.abandoned hStill)))

omit [DecidableEq K] [DecidableEq V] in
theorem join_stays (name : Name) (react : Nat → Reaction) (c : Cache K V) :
    c.Stays (c.join feed name react).1 := by
  have hSpares := Shared.join_spares feed name react c.shared
  exact ⟨rfl, rfl, hSpares.seen, congrArg Stats.lastIndex hSpares.stats⟩

/-- Whatever happens, the worker moves by these rules. -/
theorem happen_moves (happening : Happening V) (hSynced : c.Synced) :
    Moves feed happening c (c.happen feed happening) (c.applied? feed happening) := by
  cases happening with
  | start runtime =>
      rcases start_cases feed runtime c with ⟨hLatent, hStart⟩ | ⟨hSame, _⟩
      · cases runtime with
        | false => cases congrArg Prod.snd hStart
        | true =>
            have hBegun := log_stays (feed.record .info "Watch cache starting" []) c.begun
            rw [happen, hStart]
            exact .starts rfl hLatent rfl ⟨rfl, rfl, hBegun.seen, rfl⟩
      · exact .stays (by rw [happen, hSame]; exact .refl c)
  | stop => exact .stays (acted_stays feed [.stop] c)
  | shutdown => exact shutdown_moves feed _ c
  | join name react => exact .stays (join_stays feed name react c)
  | leave name => exact .stays ⟨rfl, rfl, rfl, rfl⟩
  | answer acts answer => exact receive_moves feed acts answer hSynced
  | elapse nanos => exact .stays ⟨rfl, rfl, rfl, rfl⟩
  | turn => exact turn_moves feed _ c

omit [DecidableEq K] [DecidableEq V] in
theorem Moves.synced {feed : Feed K V} {happening : Happening V} {r : Option (Response V)}
    (h : Moves feed happening c d r) (hSynced : c.Synced) : d.Synced := by
  cases h with
  | stays stays => exact stays.synced hSynced
  | starts _ _ _ stays => exact stays.synced hSynced
  | goesOn _ goesOn => exact goesOn.synced hSynced
  | breaksOff _ goesOn => exact goesOn.synced hSynced
  | applies _ goesOn => exact goesOn.synced rfl
  | torn _ _ stays => exact stays.synced hSynced
  | buried _ _ _ stays => exact stays.synced hSynced

/-- What each happening keeps of a cache whose copies agree, a run keeps. -/
theorem replay_keeps {P : Cache K V → Prop} {feed : Feed K V}
    (hStep : ∀ (c : Cache K V) happening, c.Coherent → c.Synced → P c → P (c.happen feed happening))
    (run : List (Happening V)) (hCoherent : c.Coherent) (hSynced : c.Synced) (h : P c) :
    P (c.replay feed run) := by
  induction run generalizing c with
  | nil => exact h
  | cons happening rest ih =>
      exact ih (hCoherent.happen feed happening).1
        ((happen_moves feed happening hSynced).synced hSynced)
        (hStep c happening hCoherent hSynced h)

omit [DecidableEq K] [DecidableEq V] in
/-- What was seen stays seen. -/
theorem Moves.seen {feed : Feed K V} {happening : Happening V} {r : Option (Response V)}
    (h : Moves feed happening c d r) : ∃ sent, d.core.seen = c.core.seen ++ sent := by
  have hSame (hSeen : d.core.seen = c.core.seen) : ∃ sent, d.core.seen = c.core.seen ++ sent :=
    ⟨[], hSeen.trans (List.append_nil _).symm⟩
  cases h with
  | stays stays => exact hSame stays.seen
  | starts _ _ _ stays => exact hSame stays.seen
  | goesOn _ goesOn => exact goesOn.went.imp fun _ h => h.1
  | breaksOff _ goesOn => exact goesOn.went.imp fun _ h => h.1
  | applies _ goesOn => exact goesOn.went.imp fun _ h => h.1
  | torn _ _ stays => exact hSame stays.seen
  | buried _ _ _ stays => exact hSame stays.seen

end Cache

end LongPoll
