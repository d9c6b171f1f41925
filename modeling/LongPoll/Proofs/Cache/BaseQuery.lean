import LongPoll.Proofs.Cache.Accounts
import LongPoll.Proofs.Cache.Outline
import LongPoll.Proofs.Cache.Phases

/-!
The base of the queries.

The base says what each query asks for, and the cache adds the index it holds and the wait. Nothing
of a base is lost, and a base that sets one of the two itself is refused: every cycle fails as soon
as it begins, and the source is never asked. Then there is no response, and all that only responses
bring about stays away.
-/

namespace LongPoll

variable {K V : Type}

namespace Query

/-- The fault of a base that sets a field of the cache. -/
def refusal (base : Query) : Fault := .reserved (if base.index.isSome then "index" else "wait")

theorem forCycle_of_free {base : Query} (hIndex : base.index = none) (hWait : base.wait = none)
    (held : Option Index) (seconds : Nat) :
    base.forCycle held seconds =
      .ok { base with index := held, wait := some (Text.writeNatural seconds ++ "s") } := by
  simp [forCycle, hIndex, hWait]

theorem forCycle_of_set {base : Query} (hSet : base.index.isSome ∨ base.wait.isSome)
    (held : Option Index) (seconds : Nat) : base.forCycle held seconds = .error base.refusal := by
  unfold forCycle refusal
  by_cases hIndex : base.index.isSome
  · simp [hIndex]
  · simp [hIndex, hSet.resolve_left hIndex]

end Query

/-- The time limit of a query is the wait and the margin together, if there is to be one. -/
theorem Settings.readLimit_eq_ok_iff {s : Settings} {limit : Option Duration} :
    s.readLimit = .ok limit ↔
      if s.adjust then ∃ d, limit = some d ∧ d.nanos = s.watch.nanos + s.margin.nanos
      else limit = none := by
  unfold Settings.readLimit
  cases s.adjust with
  | false => simp [eq_comm]
  | true =>
      simp only [if_true]
      cases hSum : s.watch.add? s.margin with
      | none =>
          refine ⟨nofun, ?_⟩
          rintro ⟨d, _, hNanos⟩
          rw [Duration.add?_eq_some_iff.2 hNanos] at hSum
          cases hSum
      | some d =>
          have hNanos := Duration.add?_eq_some_iff.1 hSum
          constructor
          · intro hLimit
            exact ⟨d, (Except.ok.inj hLimit).symm, hNanos⟩
          · rintro ⟨e, rfl, hSame⟩
            rw [Duration.ext (hNanos.trans hSame.symm)]

namespace Event

def isAsk : Event K V → Bool
  | .asked _ _ => true
  | _ => false

end Event

/-- The cache is not started and never was, and every cycle that ended had failed. -/
structure Core.Idles (c : Core K V) : Prop where
  phase : c.lifecycle.phase ≠ .started
  moments : ∀ m ∈ c.moments, m.view.lifecycle.phase ≠ .started ∧
    ∀ cycle how, m.event = .ended cycle how → how = .failed

namespace Core.Idles

variable {a b : Core K V}

theorem initial : (Core.initial : Core K V).Idles where
  phase h := by cases h
  moments m hMember := (List.not_mem_nil hMember).elim

theorem record (h : a.Idles) {e : Event K V}
    (hEvent : ∀ cycle how, e = .ended cycle how → how = .failed) : (a.record e).Idles := by
  refine ⟨h.phase, fun m hMember => ?_⟩
  rcases List.mem_cons.1 hMember with rfl | hEarlier
  · exact ⟨h.phase, hEvent⟩
  · exact h.moments m hEarlier

theorem comments (h : a.Idles) (hComments : a.Comments b) : b.Idles := by
  induction hComments with
  | refl => exact h
  | note _ e hComment ih =>
      refine ih.record ?_
      rintro cycle how rfl
      exact hComment.elim
  | stop _ ih => exact ⟨by simp [View.stopped], ih.moments⟩

end Core.Idles

namespace Cache

variable {feed : Feed K V} {c : Cache K V}

theorem idles_persists (feed : Feed K V) : Persists feed fun c : Cache K V => c.core.Idles where
  record _ h hRoutine := by
    refine h.record ?_
    rintro cycle how rfl
    exact hRoutine
  heeded {c} h fault := by
    have hCounted : (c.count fun s => { s with failed := s.failed + 1 }).core.Idles :=
      ⟨h.phase, h.moments⟩
    have hReported : (c.reported feed fault).core.Idles := by
      refine hCounted.record fun cycle how hSame => ?_
      cases hTarget : feed.settings.errorLog <;> rw [hTarget] at hSame <;> cases hSame
    exact hReported.comments (heeded_comments feed fault c)
  becomes h _ := h

section

variable [DecidableEq K] [DecidableEq V]

/-! ### Bases that are refused -/

omit [DecidableEq K] [DecidableEq V] in
theorem refuses_of_set (hSet : feed.base.index.isSome ∨ feed.base.wait.isSome) : feed.Refuses :=
  fun held => ⟨_, Query.forCycle_of_set hSet held _⟩

/-- The worker never waits for an answer. -/
theorem not_waiting_of_refuses (hRefuses : feed.Refuses) (run : List (Happening V)) :
    ¬ ((initial : Cache K V).replay feed run).worker.IsWaiting := by
  intro hWaiting
  have hAccords := accords_replay (K := K) feed run
  obtain ⟨r, rest, hOpen⟩ := hAccords.suits.opened hWaiting
  obtain ⟨held, hRequest⟩ := hAccords.lawful.exists_request (r := r) (by simp [hOpen])
  rw [hRefuses.request? held] at hRequest
  cases hRequest

theorem idles_happen (h : c.core.Idles) (hWaiting : ¬ c.worker.IsWaiting)
    (happening : Happening V) : (c.happen feed happening).core.Idles := by
  have hPersists := idles_persists (K := K) (V := V) feed
  cases happening with
  | start runtime =>
      rcases start_cases feed runtime c with ⟨_, hStart⟩ | ⟨hSame, _⟩
      · have hPhase : c.begun.core.lifecycle.phase = .starting := rfl
        have hBegun : c.begun.core.Idles := ⟨by simp [hPhase], h.moments⟩
        rw [happen, hStart]
        exact hPersists.log hBegun _
      · rw [happen, hSame]
        exact h
  | stop => exact h.comments (acted_comments feed [.stop] c)
  | shutdown =>
      have hStopped : (c.stop feed).core.Idles := h.comments (acted_comments feed [.stop] c)
      exact hPersists.reportCrash (hPersists.turn hStopped)
  | join name react => exact h.comments (join_comments feed name react c)
  | leave name => exact h
  | answer acts answer =>
      have hNot (cycle : Cycle) (limit : Option Duration) : c.worker ≠ .fetching cycle limit :=
        fun hFetching => hWaiting (hFetching ▸ trivial)
      rw [happen, receive_of_not_fetching feed acts answer hNot]
      exact h
  | elapse nanos => exact ⟨h.phase, h.moments⟩
  | turn => exact hPersists.turn h

theorem idles_of_refuses (hRefuses : feed.Refuses) (run : List (Happening V)) :
    ((initial : Cache K V).replay feed run).core.Idles := by
  induction run using List.reverseRecOn with
  | nil => exact .initial
  | append_singleton past happening ih =>
      rw [replay_append]
      exact idles_happen ih (not_waiting_of_refuses hRefuses past) happening

/-- All there is to the outline of a run is that cycles begin and fail. -/
theorem outline_of_set (hSet : feed.base.index.isSome ∨ feed.base.wait.isSome)
    (run : List (Happening V)) :
    ∃ cycles : List Cycle, ((initial : Cache K V).replay feed run).core.outline =
      cycles.flatMap fun cycle => [.began cycle,
        .ofFailure feed.settings.errorLog (failureMessage feed) feed.base.refusal] := by
  have hOpening (cycle : Cycle) : (feed.opening cycle : List (Event K V)) = [.began cycle,
      .ofFailure feed.settings.errorLog (failureMessage feed) feed.base.refusal] := by
    rw [Feed.opening, Query.forCycle_of_set hSet]
  obtain ⟨cycles, hCycles⟩ := openings_replay feed (fun _ => true) run
    fun first happening new _ hDraws => by
      cases hDraws with
      | nothing => rfl
      | failed _ _ hWaiting =>
          exact (not_waiting_of_refuses (refuses_of_set hSet) first hWaiting).elim
      | response hWaiting =>
          exact (not_waiting_of_refuses (refuses_of_set hSet) first hWaiting).elim
  refine ⟨cycles, ?_⟩
  simpa only [List.filter_true, hOpening] using hCycles

/-! ### Bases that are accepted -/

/-- Each cycle asks once, and its query is the base with the index held and the wait. -/
theorem openings_of_free (hIndex : feed.base.index = none) (hWait : feed.base.wait = none)
    {limit : Option Duration} (hLimit : feed.settings.readLimit = .ok limit)
    (run : List (Happening V)) :
    ∃ cycles : List Cycle, ((initial : Cache K V).replay feed run).core.events.reverse.filter
        (fun e => e.isBegin || e.isAsk) =
      cycles.flatMap fun cycle => [.began cycle,
        .asked { feed.base with
          index := cycle.requested
          wait := some (Text.writeNatural feed.settings.watchSeconds ++ "s") } limit] := by
  have hFailure (fault : Fault) : ((Event.ofFailure feed.settings.errorLog (failureMessage feed)
      fault : Event K V).isBegin || (Event.ofFailure feed.settings.errorLog (failureMessage feed)
        fault : Event K V).isAsk) = false := by
    cases feed.settings.errorLog <;> rfl
  obtain ⟨cycles, hCycles⟩ := openings_replay feed
    (fun e => e.isBegin || e.isAsk) run fun first happening new _ hDraws => by
      cases hDraws with
      | nothing => rfl
      | failed _ fault => simp [hFailure]
      | response _ hReads =>
          cases hReads with
          | ignored => rfl
          | noted => simp [Event.repeatWarning, Event.isBegin, Event.isAsk]
          | published => simp [Event.repeatWarning, Event.isBegin, Event.isAsk]
  refine ⟨cycles, ?_⟩
  have hMajor (e : Event K V) (hKeep : (e.isBegin || e.isAsk) = true) : e.isMajor = true := by
    cases e with
    | began | asked => rfl
    | _ => cases hKeep
  rw [← Core.filter_outline hMajor, hCycles]
  simp only [Feed.opening, Query.forCycle_of_free hIndex hWait, hLimit]
  rfl

/-- The source is never asked, and readers never get anything. -/
theorem nothing_of_set (hSet : feed.base.index.isSome ∨ feed.base.wait.isSome)
    (run : List (Happening V)) :
    let c := (initial : Cache K V).replay feed run
    (∀ query limit, .asked query limit ∉ c.core.events) ∧ c.core.published = [] ∧
      c.core.lifecycle.initialized = false := by
  intro c
  obtain ⟨cycles, hOutline⟩ := outline_of_set (K := K) hSet run
  have hOnly {e : Event K V} (hMember : e ∈ c.core.events) (hMajor : e.isMajor = true) :
      (∃ cycle, e = .began cycle) ∨
        e = .ofFailure feed.settings.errorLog (failureMessage feed) feed.base.refusal := by
    have hIn := Core.mem_outline hMember hMajor
    rw [hOutline] at hIn
    obtain ⟨cycle, _, hEvent⟩ := List.mem_flatMap.1 hIn
    rcases List.mem_cons.1 hEvent with hBegan | hFailed
    · exact Or.inl ⟨cycle, hBegan⟩
    · exact Or.inr (List.mem_singleton.1 hFailed)
  have hPublished : c.core.published = [] := by
    refine List.eq_nil_iff_forall_not_mem.2 fun s hMember => ?_
    rcases hOnly (Core.mem_published_iff.1 hMember) rfl with ⟨_, hOther⟩ | hOther
    · cases hOther
    · exact Event.ne_published_of_internal (Event.isInternal_ofFailure _ _ _) s hOther.symm
  refine ⟨fun query limit hMember => ?_, hPublished, ?_⟩
  · rcases hOnly hMember rfl with ⟨_, hOther⟩ | hOther
    · cases hOther
    · cases hTarget : feed.settings.errorLog <;> rw [hTarget] at hOther <;> cases hOther
  · have hCoherent : c.Coherent := (Coherent.initial.replay feed run).1
    rw [hCoherent.initialized, hPublished]
    rfl

/-- As many cycles were counted as failed as began, and no response was. -/
theorem counted_of_set (run : List (Happening V)) {cycles : List Cycle} {fault : Fault}
    (hOutline : ((initial : Cache K V).replay feed run).core.outline = cycles.flatMap fun cycle =>
      [.began cycle, .ofFailure feed.settings.errorLog (failureMessage feed) fault]) :
    let c := (initial : Cache K V).replay feed run
    c.core.stats.failed = cycles.length ∧ c.core.stats.succeeded = 0 := by
  intro c
  have hBalanced : Balanced feed (KeyPanics feed run (initial : Cache K V)) c :=
    replay_balanced run (.between (Or.inl rfl) .initial) Coherent.initial id
  obtain ⟨b, _, _, books⟩ := hBalanced.books
  have hReport : (Event.ofFailure feed.settings.errorLog (failureMessage feed) fault :
      Event K V).isReport feed = true := Event.isReport_ofFailure feed fault
  have hBegin : (Event.ofFailure feed.settings.errorLog (failureMessage feed) fault :
      Event K V).isBegin = false := by
    cases feed.settings.errorLog <;> rfl
  have hReports : (c.core.reports feed).length = cycles.length := by
    rw [Core.reports, Event.collect_of_keep, List.filter_reverse, List.length_reverse,
      ← List.countP_eq_length_filter, ← Core.countP_outline (fun _ => Event.isMajor_of_isReport),
      hOutline,
      List.countP_flatMap]
    have hEach (cycle : Cycle) : (Event.began cycle : Event K V).isReport feed = false := rfl
    simp [Function.comp_def, hReport, hEach]
  have hCycles : c.core.cycles = cycles.length := by
    have hMajor (e : Event K V) (hKeep : e.isBegin = true) : e.isMajor = true := by
      cases e with
      | began => rfl
      | _ => cases hKeep
    rw [Core.cycles, ← Core.countP_outline hMajor, hOutline, List.countP_flatMap]
    have hEach (cycle : Cycle) : (Event.began cycle : Event K V).isBegin = true := rfl
    simp [Function.comp_def, hBegin, hEach]
  have hFailed : c.core.stats.failed = cycles.length := books.failed.symm.trans hReports
  have hAll := books.cycles
  exact ⟨hFailed, by omega⟩

/-- What a base says is in every query, and what belongs to the cache it cannot say. If it sets
neither index nor wait, every query is the base with the index held and the wait of the settings,
and it has a time limit, the wait and the margin together, exactly if the settings ask for one; and
unless that limit is out of range each cycle asks once. If the base sets one of the two, the source
is never asked. Every cycle begins and fails by an error that names the field, the index before the
wait; the severity of the error is the highest, and it is reported as the settings say. So the cache
is not started at any event, publishes nothing, and whoever waits for it waits in vain. -/
theorem base_passes_through (feed : Feed K V) (run : List (Happening V)) :
    let c := (initial : Cache K V).replay feed run
    let wait := Text.writeNatural feed.settings.watchSeconds ++ "s"
    let fault : Fault := .reserved (if feed.base.index.isSome then "index" else "wait")
    (feed.base.index = none → feed.base.wait = none →
      (∀ query limit, .asked query limit ∈ c.core.events →
        query = { feed.base with index := query.index, wait := some wait } ∧
          if feed.settings.adjust then
            ∃ d, limit = some d ∧ d.nanos = feed.settings.watch.nanos + feed.settings.margin.nanos
          else limit = none) ∧
      ∀ limit, feed.settings.readLimit = .ok limit → ∃ cycles : List Cycle,
        c.core.events.reverse.filter (fun e => e.isBegin || e.isAsk) = cycles.flatMap fun cycle =>
          [.began cycle,
            .asked { feed.base with index := cycle.requested, wait := some wait } limit]) ∧
    (feed.base.index.isSome ∨ feed.base.wait.isSome →
      (∀ query limit, .asked query limit ∉ c.core.events) ∧
      (∃ cycles : List Cycle,
        c.core.outline = cycles.flatMap (fun cycle => [.began cycle,
          .ofFailure feed.settings.errorLog (failureMessage feed) fault]) ∧
        c.core.stats.failed = cycles.length ∧ c.core.stats.succeeded = 0) ∧
      fault.severity = .error ∧
      (∀ m ∈ c.core.moments, m.view.lifecycle.phase ≠ .started ∧
        ∀ cycle how, m.event = .ended cycle how → how = .failed) ∧
      c.core.lifecycle.phase ≠ .started ∧ c.core.published = [] ∧ c.snapshot = .empty ∧
      ∀ r : Rehearsal K V, r.feed = feed → r.cache = c → ∀ d, (r.await d).2 = false) := by
  intro c wait fault
  have hCoherent : c.Coherent := (Coherent.initial.replay feed run).1
  constructor
  · intro hIndex hWait
    refine ⟨fun query limit hMember => ?_,
      fun limit hLimit => openings_of_free hIndex hWait hLimit run⟩
    rcases (comes_of_mem feed run (Core.mem_outline hMember rfl)).cases with
      ⟨_, hOther⟩ | ⟨cycle, query', limit', hQuery, hLimit, hSame⟩ | ⟨fault', hOther⟩ |
        ⟨_, _, _, new, _, hReads, hNew⟩
    · cases hOther
    · cases hSame
      rw [Query.forCycle_of_free hIndex hWait] at hQuery
      cases hQuery
      exact ⟨rfl, Settings.readLimit_eq_ok_iff.1 hLimit⟩
    · cases hTarget : feed.settings.errorLog <;> rw [hTarget] at hOther <;> cases hOther
    · exact (not_asked_of_reads hReads hNew).elim
  · intro hSet
    have hFault : feed.base.refusal = fault := rfl
    have hIdles : c.core.Idles := idles_of_refuses (refuses_of_set hSet) run
    obtain ⟨hAsked, hPublished, _⟩ := nothing_of_set hSet run
    obtain ⟨cycles, hOutline⟩ := outline_of_set (K := K) hSet run
    refine ⟨hAsked, ⟨cycles, hOutline, counted_of_set run hOutline⟩, rfl, hIdles.moments,
      hIdles.phase, hPublished, ?_, ?_⟩
    · rw [hCoherent.current, hPublished]
      rfl
    · intro r hFeed hCache d
      obtain ⟨_, more, _, hYes, _⟩ := await_answered hFeed hCache d
      refine Bool.eq_false_iff.2 fun hAnswer => ?_
      have hReady := (Coherent.initial.initialized_replay (run ++ more)).2 (Or.inr (hYes hAnswer))
      rw [(nothing_of_set hSet (run ++ more)).2.2] at hReady
      cases hReady

/-- The callback for failed cycles hears of each cycle, once for every pause. -/
example :
    let settings : Settings := { Settings.default with errorLog := .custom }
    let feed : Feed Nat Nat :=
      ⟨"numbers", .ok, toString, settings, { Query.blank with wait := some "1s" }, fun _ => .idle⟩
    let c := (initial : Cache Nat Nat).replay feed [.start true, .turn, .elapse 10000000000, .turn]
    c.core.stats.failed = 2 ∧ c.core.lifecycle.phase = .starting ∧
      (c.core.reports feed).length = 2 := by
  decide +kernel

end

end Cache

end LongPoll
