import LongPoll.Proofs.Cache.Cycles

/-!
What becomes of a response.

A response that comes after a stop is dropped. One with the index that is held is only counted. Of
any other a snapshot is built, and if the keys of all entries are found the snapshot is compared
with the one published last: the same map is only noted, and a new one is published.
-/

namespace LongPoll

variable {K V : Type}

namespace Index

/-- The index to go on with when a response comes while an index is held: the one of the response,
or none if that is the lower. -/
def resume (held : Option Index) (returned : Index) : Option Index :=
  match held with
  | none => some returned
  | some last => if returned.value < last.value then none else some returned

theorem movement_eq_still_iff {held : Option Index} {returned : Index} :
    movement held returned = .still ↔ held = some returned := by
  cases held with
  | none => simp [movement]
  | some last =>
      simp only [movement, Option.some.injEq]
      split
      · next h => simp [h]
      · next h =>
          split
          · simpa using Ne.symm h
          · simpa using Ne.symm h

theorem resume_of_backward {held : Option Index} {returned : Index}
    (h : movement held returned = .backward) : resume held returned = none := by
  cases held with
  | none => cases h
  | some last =>
      simp only [movement] at h
      split at h
      · cases h
      · split at h
        · next hLt => exact if_pos hLt
        · cases h

theorem resume_of_forward {held : Option Index} {returned next : Index}
    (h : movement held returned = .forward next) : resume held returned = some next := by
  cases held with
  | none =>
      cases h
      rfl
  | some last =>
      simp only [movement] at h
      split at h
      · cases h
      · split at h
        · cases h
        · next hLt =>
            cases h
            exact if_neg hLt

theorem resume_of_still (returned : Index) : resume (some returned) returned = some returned :=
  if_neg (UInt64.lt_irrefl _)

end Index

/-- What a source gives when all goes well. -/
structure Response (V : Type) where
  entries : List V
  index : Index

namespace Cache

/-- A query is on its way, and an answer to it is not too late. -/
def awaits (c : Cache K V) : Bool :=
  match c.worker with
  | .fetching cycle limit => !(expiry cycle limit).any fun e => e.1 < c.core.now
  | _ => false

/-- The response that a happening brings, if the worker waits for one and it is not too late. -/
def response? (h : Happening V) (c : Cache K V) : Option (Response V) :=
  match h, c.worker with
  | .answer _ (.entries list index), .fetching cycle limit =>
    if (expiry cycle limit).any fun e => e.1 < c.core.now then none else some ⟨list, index⟩
  | _, _ => none

theorem response?_of_awaits {c : Cache K V} (h : c.awaits = true) (acts : List Act)
    (list : List V) (index : Index) :
    c.response? (.answer acts (.entries list index)) = some ⟨list, index⟩ := by
  unfold awaits at h
  split at h
  · next cycle limit hWorker =>
      rw [Bool.not_eq_true'] at h
      simp only [response?, hWorker, h, Bool.false_eq_true, if_false]
  · cases h

theorem response?_of_not_awaits {c : Cache K V} (h : c.awaits = false) (happening : Happening V) :
    c.response? happening = none := by
  unfold response?
  split
  · next hWorker =>
      rw [awaits, hWorker, Bool.not_eq_false'] at h
      exact if_pos h
  · rfl

/-- Only the log and the counters know of it. -/
structure Notes (c d : Cache K V) : Prop extends Passes c d where
  audience : d.shared.audience = c.shared.audience
  view : ∃ stats, d.core.toView = { c.core.toView with stats }
  worker : d.worker = c.worker

namespace Notes

variable {c d e : Cache K V}

theorem refl (c : Cache K V) : c.Notes c := ⟨.refl c, rfl, ⟨c.core.stats, rfl⟩, rfl⟩

theorem trans (h : c.Notes d) (h' : d.Notes e) : c.Notes e := by
  refine ⟨h.toPasses.trans h'.toPasses, h'.audience.trans h.audience, ?_, h'.worker.trans h.worker⟩
  obtain ⟨stats, hView⟩ := h.view
  obtain ⟨stats', hView'⟩ := h'.view
  exact ⟨stats', by rw [hView', hView]⟩

theorem lifecycle (h : c.Notes d) : d.core.lifecycle = c.core.lifecycle := by
  obtain ⟨stats, hView⟩ := h.view
  exact (congrArg View.lifecycle hView :)

theorem cancelled (h : c.Notes d) : d.core.cancelled = c.core.cancelled := by
  obtain ⟨stats, hView⟩ := h.view
  exact (congrArg View.cancelled hView :)

theorem current (h : c.Notes d) : d.core.current = c.core.current := by
  obtain ⟨stats, hView⟩ := h.view
  exact (congrArg View.current hView :)

end Notes

theorem log_notes (c : Cache K V) {r : LogRecord} (h : r.message ≠ View.refusal) :
    c.Notes (c.log r) :=
  ⟨c.log_passes h, rfl, ⟨c.core.stats, rfl⟩, rfl⟩

theorem count_notes (c : Cache K V) (f : Stats → Stats) : c.Notes (c.count f) :=
  ⟨c.count_passes f, rfl, ⟨f c.core.stats, rfl⟩, rfl⟩

theorem repeated_notes (feed : Feed K V) (keys : List K) (c : Cache K V) :
    c.Notes (keys.foldl (fun c k => c.log (Snapshot.repeatedRecord feed.showKey k)) c) := by
  induction keys generalizing c with
  | nil => exact .refl c
  | cons k rest ih =>
      exact (c.log_notes (by simp [Snapshot.repeatedRecord, View.refusal])).trans (ih _)

variable (feed : Feed K V)

/-! ### The two ways of taking a candidate -/

theorem leadsTo_settle (v : View K V) :
    v.LeadsTo { v with lifecycle := v.lifecycle.settle.1 } where
  phase := by
    unfold Lifecycle.settle
    split
    · next hPhase =>
        rw [hPhase]
        exact Nat.le_succ 1
    · exact Nat.le_refl _
  cancelled h := ⟨h, rfl⟩
  tied hTied := by
    refine Eq.trans hTied ?_
    unfold Lifecycle.settle
    split
    · next hPhase => simp [Lifecycle.isStopped, hPhase]
    · rfl

/-- A response showed what was published last. -/
structure Settles (next : Option Index) (c d : Cache K V) : Prop where
  path : Core.Path c.core d.core
  audience : d.shared.audience = c.shared.audience
  current : d.core.current = c.core.current
  lifecycle : d.core.lifecycle = c.core.lifecycle.settle.1
  published : d.core.published = c.core.published
  cursor : d.cursor = ⟨next, c.cursor.published⟩
  heard : ∀ id, d.core.heard id = c.core.heard id
  worker : d.worker = c.worker

theorem settles (next : Option Index) (c : Cache K V) :
    Settles next c (c.hold next).settle.1.noteUnchanged where
  path := by
    have hHeld : Core.Path c.core (c.hold next).core :=
      (c.count_passes fun s => { s with lastIndex := next }).stirs.path
    have hSettled : Core.Path c.core (c.hold next).settle.1.core :=
      hHeld.change _ (leadsTo_settle (c.hold next).core.toView)
    exact hSettled.trans (count_passes (c.hold next).settle.1 _).stirs.path
  audience := rfl
  current := rfl
  lifecycle := rfl
  published := rfl
  cursor := rfl
  heard _ := rfl
  worker := rfl

/-- A snapshot was published: readers have it, the worker and the audience keep it, and unless the
cache was stopped meanwhile each member has heard it. -/
structure Issues (candidate : Snapshot K V) (next : Option Index) (c d : Cache K V) : Prop where
  path : Core.Path c.core d.core
  audience : (c.shared.noting candidate).audience.Dwindles d.shared.audience
  current : d.core.current.content = candidate
  initialized : d.core.lifecycle.initialized = c.core.lifecycle.settle.1.initialized
  phase : d.core.lifecycle.phase = c.core.lifecycle.settle.1.phase ∨
    d.core.lifecycle.phase = .stopped
  published : d.core.published = c.core.published ++ [candidate]
  cursor : d.cursor = ⟨next, some candidate⟩
  heard : d.core.cancelled = false → c.shared.audience.Numbered → ∀ id,
    d.core.heard id =
      c.core.heard id ++ if id ∈ c.shared.audience.ids then [candidate] else []
  worker : d.worker = c.worker

/-- Readers have the candidate and the audience does not know of it yet. -/
theorem issue_settle (candidate : Snapshot K V) {c : Cache K V}
    (hCancelled : c.core.cancelled = false) :
    let d := (c.issue candidate).settle.1
    Core.Path c.core d.core ∧ d.core.published = c.core.published ++ [candidate] ∧
      ∀ id, d.core.heard id = c.core.heard id := by
  intro d
  refine ⟨?_, Event.collect_cons _ _, ?_⟩
  · have hIssued : Core.Path c.core (c.modify fun core =>
        { core with current := ⟨core.current.serial + 1, candidate⟩ }).core :=
      (Core.Path.refl _).change _ ⟨Nat.le_refl _, by simp [hCancelled], id⟩
    have hNoted : Core.Path c.core (c.issue candidate).core :=
      hIssued.note (.published candidate) ⟨hCancelled, rfl⟩
    exact hNoted.change _ (leadsTo_settle (c.issue candidate).core.toView)
  · intro id
    exact (Event.heard_cons id _ c.core.events).trans (List.append_nil _)

/-- The audience is told what readers have. Where the cache is not stopped meanwhile, each member
hears it exactly once. -/
theorem announce_stirs (candidate : Snapshot K V) {c : Cache K V}
    (hSound : c.shared.audience.poisoned = false) (hCurrent : c.core.current.content = candidate) :
    let d := c.announce feed candidate
    Shared.Stirs (c.shared.noting candidate) d.shared ∧ d.cursor = c.cursor ∧
      d.worker = c.worker ∧
      (d.core.cancelled = false → c.shared.audience.Numbered → ∀ id, d.core.heard id =
        c.core.heard id ++ if id ∈ c.shared.audience.ids then [candidate] else []) := by
  intro d
  have hStirs := Shared.broadcast_stirs feed hSound hCurrent
  obtain ⟨delivered, hDone, hAll⟩ := Shared.broadcast_cases feed candidate hSound
  let told : Cache K V := { c with
    shared := (c.shared.broadcast (Shared.setting feed) Shared.broadcastGate candidate).1 }
  have hLog : told.Notes d := by
    have hAnnounce : d = told.log (feed.record .debug "Published snapshot"
        [("entries", Text.writeNatural candidate.size),
          ("delivered", Text.writeNatural delivered)]) := by
      simp only [d, told, announce, hDone, broadcastRecord]
    rw [hAnnounce]
    exact told.log_notes (by simp [Feed.record, View.refusal])
  refine ⟨hStirs.trans hLog.stirs, hLog.cursor, hLog.worker, ?_⟩
  intro hCancelled hNumbered id
  rw [hLog.cancelled] at hCancelled
  rw [hLog.heard]
  refine (congrArg (fun t : Shared K V => t.around.heard id) (hAll hCancelled)).trans ?_
  exact Scene.heard_callAll (Shared.setting_keeps feed) id candidate hNumbered.nodup _

/-- Between issuing a candidate and announcing it, all that may happen is that the log hears of the
first one. -/
theorem publish_eq_announce (candidate : Snapshot K V) (c : Cache K V) :
    let ready := (c.issue candidate).settle.1
    ∃ said, (said = ready ∨ ∃ r, r.message ≠ View.refusal ∧ said = ready.log r) ∧
      c.publish feed candidate =
        let told := said.announce feed candidate
        { told.count fun s => { s with published := s.published + 1 } with
          cursor := { told.cursor with published := some candidate } } := by
  intro ready
  cases hFirst : (c.issue candidate).settle.2 with
  | true =>
      let r := feed.record .info "Watch cache initialized"
        [("entries", Text.writeNatural candidate.size)]
      refine ⟨ready.log r, Or.inr ⟨r, by simp [r, Feed.record, View.refusal], rfl⟩, ?_⟩
      simp only [publish, hFirst, if_true, ready, r]
  | false =>
      refine ⟨ready, Or.inl rfl, ?_⟩
      simp only [publish, hFirst, Bool.false_eq_true, if_false, ready]

theorem publish_issues (candidate : Snapshot K V) (next : Option Index) {c : Cache K V}
    (hSound : c.shared.audience.poisoned = false) (hCancelled : c.core.cancelled = false) :
    Issues candidate next c ((c.hold next).publish feed candidate) := by
  have hHeld : c.Notes { c.hold next with cursor := c.cursor } :=
    c.count_notes fun s => { s with lastIndex := next }
  obtain ⟨hPath, hPublished, hHeard⟩ := issue_settle candidate (c := c.hold next) hCancelled
  let ready := ((c.hold next).issue candidate).settle.1
  obtain ⟨said, hSaid, hPublish⟩ := publish_eq_announce feed candidate (c.hold next)
  have hNotes : ready.Notes said := by
    rcases hSaid with rfl | ⟨r, hMessage, rfl⟩
    · exact .refl _
    · exact ready.log_notes hMessage
  have hSaidSound : said.shared.audience.poisoned = false := by
    rw [hNotes.audience]
    exact hSound
  have hSaidCurrent : said.core.current.content = candidate := by rw [hNotes.current]; rfl
  obtain ⟨hStirs, hCursor, hWorker, hTold⟩ := announce_stirs feed candidate hSaidSound hSaidCurrent
  have hLifecycle : said.core.lifecycle = c.core.lifecycle.settle.1 := hNotes.lifecycle
  have hCounted := (said.announce feed candidate).count_notes fun s =>
    { s with published := s.published + 1 }
  have hStart (id : Nat) : said.core.heard id = c.core.heard id :=
    (hNotes.heard id).trans ((hHeard id).trans (hHeld.heard id))
  rw [hPublish]
  exact
    { path := ((hHeld.stirs.path.trans hPath).trans hNotes.stirs.path).trans
        (hStirs.path.trans hCounted.stirs.path)
      audience := by
        have hNoting : (said.shared.noting candidate).audience =
            (c.shared.noting candidate).audience :=
          congrArg (fun a : Audience K V => { a with latest := some candidate }) hNotes.audience
        exact hNoting ▸ hStirs.audience
      current := (congrArg Issue.content hStirs.current).trans hSaidCurrent
      initialized := by
        rw [← hLifecycle]
        exact hStirs.initialized
      phase := by
        rw [← hLifecycle]
        exact hStirs.phase
      published := hStirs.published.trans (hNotes.published.trans hPublished)
      cursor := by
        have hNext : said.cursor.index = next := congrArg Cursor.index hNotes.cursor
        exact congrArg (Cursor.mk · (some candidate)) ((congrArg Cursor.index hCursor).trans hNext)
      heard := by
        intro hStill hNumbered id
        have hAudience : said.shared.audience = c.shared.audience := hNotes.audience
        rw [← hStart id, ← hAudience]
        exact hTold hStill (hAudience.symm ▸ hNumbered) id
      worker := hWorker.trans hNotes.worker }

/-! ### All that can become of a response -/

variable [DecidableEq K] [DecidableEq V]

/-- A response that counts is absorbed by a cache that has taken note of it. -/
theorem apply_cases (entries : List V) (returned : Index) (c : Cache K V) :
    c.core.cancelled = true ∧ c.apply feed entries returned = (c, .ok .unchanged) ∨
      c.core.cancelled = false ∧ c.cursor.index = some returned ∧ c.cursor.published.isSome ∧
        c.Notes (c.apply feed entries returned).1 ∧
        (c.apply feed entries returned).2 = .ok .unchanged ∨
      c.core.cancelled = false ∧ (c.cursor.index = some returned → c.cursor.published = none) ∧
        ∃ d, c.Notes d ∧ c.apply feed entries returned =
          d.absorb feed entries (Index.resume c.cursor.index returned) := by
  have hContact : c.Notes c.noteContact := c.count_notes _
  have hCursor : c.noteContact.cursor = c.cursor := hContact.cursor
  cases hCancelled : c.core.cancelled with
  | true => exact Or.inl ⟨rfl, by simp only [apply, isCancelled, hCancelled, if_true]⟩
  | false =>
      refine Or.inr ?_
      have hNot (h : Index.movement c.cursor.index returned ≠ .still) :
          c.cursor.index ≠ some returned := h ∘ Index.movement_eq_still_iff.2
      simp only [apply, isCancelled, hCancelled, Bool.false_eq_true, if_false, hCursor]
      cases hMovement : Index.movement c.cursor.index returned with
      | still =>
          have hHeld := Index.movement_eq_still_iff.1 hMovement
          cases hPublished : c.cursor.published with
          | none =>
              refine Or.inr ⟨trivial, fun _ => rfl, _, hContact, ?_⟩
              rw [hHeld, Index.resume_of_still]
              rfl
          | some published =>
              have hUnchanged : c.noteContact.Notes c.noteContact.noteUnchanged :=
                count_notes _ _
              exact Or.inl ⟨trivial, hHeld, rfl, hContact.trans hUnchanged, rfl⟩
      | backward =>
          refine Or.inr ⟨trivial, fun hHeld => (hNot (by simp [hMovement]) hHeld).elim, _,
            hContact.trans (log_notes _ (r := backwardRecord feed c.cursor.index returned)
              (by simp [backwardRecord, Feed.record, View.refusal])), ?_⟩
          rw [Index.resume_of_backward hMovement]
      | forward next =>
          refine Or.inr ⟨trivial, fun hHeld => (hNot (by simp [hMovement]) hHeld).elim, _,
            hContact, ?_⟩
          rw [Index.resume_of_forward hMovement]

/-- Where the key of an entry panics nothing is held; otherwise the next index is held, and the
candidate is published if it is news. -/
theorem absorb_cases (entries : List V) (next : Option Index) (c : Cache K V) :
    ∃ d, c.Notes d ∧
      ((∃ p, (Snapshot.build feed.keyOf entries).outcome = .error p ∧
          c.absorb feed entries next = (d, .error p)) ∨
        ∃ candidate, (Snapshot.build feed.keyOf entries).outcome = .ok candidate ∧
          (c.cursor.published.any (·.agrees candidate) = true ∧
              c.absorb feed entries next =
                ((d.hold next).settle.1.noteUnchanged, .ok .unchanged) ∨
            c.cursor.published.any (·.agrees candidate) = false ∧
              c.absorb feed entries next =
                ((d.hold next).publish feed candidate, .ok .published))) := by
  have hNotes := repeated_notes feed (Snapshot.build feed.keyOf entries).repeated c
  refine ⟨_, hNotes, ?_⟩
  cases hOutcome : (Snapshot.build feed.keyOf entries).outcome with
  | error p => exact Or.inl ⟨p, rfl, by simp only [absorb, hOutcome]⟩
  | ok candidate =>
      refine Or.inr ⟨candidate, rfl, ?_⟩
      simp only [absorb, hOutcome, isNews, hold, hNotes.cursor]
      cases hPublished : c.cursor.published with
      | none => exact Or.inr ⟨rfl, rfl⟩
      | some published =>
          cases hAgrees : published.agrees candidate with
          | true => exact Or.inl ⟨by simpa using hAgrees, by simp [hAgrees]⟩
          | false => exact Or.inr ⟨by simpa using hAgrees, by simp [hAgrees]⟩

/-- What a cache can come to by a response, with the end of the cycle. -/
inductive Takes (entries : List V) (returned : Index) (c : Cache K V) :
    Cache K V × Except Panic CycleEnd → Prop where
  /-- The worker was told to end. -/
  | dropped (hCancelled : c.core.cancelled = true) : Takes entries returned c (c, .ok .unchanged)
  /-- The index was held. -/
  | skipped {d : Cache K V} (hCancelled : c.core.cancelled = false)
      (hHeld : c.cursor.index = some returned) (hPublished : c.cursor.published.isSome)
      (notes : c.Notes d) : Takes entries returned c (d, .ok .unchanged)
  /-- The key of an entry panicked. -/
  | keyless {d : Cache K V} {p : Panic} (hCancelled : c.core.cancelled = false)
      (hHeld : c.cursor.index = some returned → c.cursor.published = none)
      (hBuild : (Snapshot.build feed.keyOf entries).outcome = .error p) (notes : c.Notes d) :
      Takes entries returned c (d, .error p)
  /-- The snapshot was the one published last. -/
  | settled {e d : Cache K V} {candidate : Snapshot K V} (hCancelled : c.core.cancelled = false)
      (hHeld : c.cursor.index = some returned → c.cursor.published = none)
      (hBuild : (Snapshot.build feed.keyOf entries).outcome = .ok candidate)
      (hAgrees : c.cursor.published.any (·.agrees candidate) = true) (notes : c.Notes e)
      (settles : Settles (Index.resume c.cursor.index returned) e d) :
      Takes entries returned c (d, .ok .unchanged)
  /-- The snapshot was news. -/
  | issued {e d : Cache K V} {candidate : Snapshot K V} (hCancelled : c.core.cancelled = false)
      (hHeld : c.cursor.index = some returned → c.cursor.published = none)
      (hBuild : (Snapshot.build feed.keyOf entries).outcome = .ok candidate)
      (hNews : c.cursor.published.any (·.agrees candidate) = false) (notes : c.Notes e)
      (issues : Issues candidate (Index.resume c.cursor.index returned) e d) :
      Takes entries returned c (d, .ok .published)

theorem apply_takes (entries : List V) (returned : Index) {c : Cache K V}
    (hSound : c.shared.audience.poisoned = false) :
    Takes feed entries returned c (c.apply feed entries returned) := by
  rcases apply_cases feed entries returned c with
    ⟨hCancelled, hApply⟩ | ⟨hCancelled, hHeld, hPublished, hNotes, hEnd⟩ |
      ⟨hCancelled, hHeld, noted, hNoted, hApply⟩
  · exact hApply ▸ .dropped hCancelled
  · have hApply : c.apply feed entries returned =
        ((c.apply feed entries returned).1, .ok .unchanged) := Prod.ext rfl hEnd
    rw [hApply]
    exact .skipped hCancelled hHeld hPublished hNotes
  · rw [hApply]
    obtain ⟨built, hBuilt, hCases⟩ :=
      absorb_cases feed entries (Index.resume c.cursor.index returned) noted
    have hAll := hNoted.trans hBuilt
    rw [hNoted.cursor] at hCases
    rcases hCases with ⟨p, hBuild, hEnd⟩ |
      ⟨candidate, hBuild, ⟨hAgrees, hEnd⟩ | ⟨hNews, hEnd⟩⟩
    · rw [hEnd]
      exact .keyless hCancelled hHeld hBuild hAll
    · rw [hEnd]
      exact .settled hCancelled hHeld hBuild hAgrees hAll (settles _ built)
    · rw [hEnd]
      have hBuiltSound : built.shared.audience.poisoned = false := by
        rw [hAll.audience]
        exact hSound
      exact .issued hCancelled hHeld hBuild hNews hAll
        (publish_issues feed candidate _ hBuiltSound (hAll.cancelled.trans hCancelled))

/-! ### Answers -/

theorem receive_of_fetching {cycle : Cycle} {limit : Option Duration} (acts : List Act)
    (answer : Answer V) {c : Cache K V} (hWorker : c.worker = .fetching cycle limit) :
    c.receive feed acts answer =
      if (expiry cycle limit).any fun e => e.1 < c.core.now then c.turn feed
      else (c.acted feed acts).finish feed cycle answer := by
  unfold receive
  split
  · next hFetching =>
      rw [hWorker] at hFetching
      cases hFetching
      rfl
  · next hOther => exact (hOther _ _ hWorker).elim

theorem receive_of_not_fetching (acts : List Act) (answer : Answer V) {c : Cache K V}
    (hWorker : ∀ cycle limit, c.worker ≠ .fetching cycle limit) :
    c.receive feed acts answer = c := by
  unfold receive
  split
  · next hFetching => exact (hWorker _ _ hFetching).elim
  · rfl

/-- A worker that was torn down waits for no answer. -/
theorem receive_of_crashed {feed : Feed K V} {p : Panic} {c : Cache K V}
    (hWorker : c.worker = .crashed p) (acts : List Act) (answer : Answer V) :
    c.receive feed acts answer = c :=
  receive_of_not_fetching feed acts answer (by simp [hWorker])

/-- An answer is taken after the acts of its source. One that comes too late is no more than a turn
of the worker, and one that nobody waits for is nothing. -/
theorem answer_cases (acts : List Act) (answer : Answer V) (c : Cache K V) :
    (c.awaits = true ∧ ∃ cycle limit, c.worker = .fetching cycle limit ∧
        c.receive feed acts answer = (c.acted feed acts).finish feed cycle answer) ∨
      c.awaits = false ∧
        ((∃ cycle limit, c.worker = .fetching cycle limit) ∧
            c.receive feed acts answer = c.turn feed ∨
          (∀ cycle limit, c.worker ≠ .fetching cycle limit) ∧
            c.receive feed acts answer = c) := by
  by_cases hFetching : ∃ cycle limit, c.worker = .fetching cycle limit
  · obtain ⟨cycle, limit, hWorker⟩ := hFetching
    rw [receive_of_fetching feed acts answer hWorker]
    cases hLate : (expiry cycle limit).any fun e => e.1 < c.core.now with
    | true => exact Or.inr ⟨by simp [awaits, hWorker, hLate], Or.inl ⟨⟨_, _, hWorker⟩, rfl⟩⟩
    | false => exact Or.inl ⟨by simp [awaits, hWorker, hLate], cycle, limit, hWorker, rfl⟩
  · have hOther (cycle : Cycle) (limit : Option Duration) : c.worker ≠ .fetching cycle limit :=
      fun hWorker => hFetching ⟨cycle, limit, hWorker⟩
    refine Or.inr ⟨?_, Or.inr ⟨hOther, receive_of_not_fetching feed acts answer hOther⟩⟩
    unfold awaits
    split
    · next hWorker => exact (hOther _ _ hWorker).elim
    · rfl

/-- When the entries of a response were applied, what follows passes, and where the key of one of
them panicked the worker is torn down. -/
theorem finish_entries (cycle : Cycle) (list : List V) (index : Index) (c : Cache K V) :
    (c.apply feed list index).1.Passes (c.finish feed cycle (.entries list index)) ∧
      ∀ p, (c.apply feed list index).2 = .error p →
        (c.finish feed cycle (.entries list index)).worker = .crashed p := by
  dsimp only [finish]
  split
  next taken p hApply =>
    rw [hApply]
    refine ⟨becomes_passes _ _, fun q hError => ?_⟩
    cases hError
    rfl
  next taken how hApply =>
    rw [hApply]
    exact ⟨(noteEnd_passes feed cycle how taken).trans (rest_passes feed cycle _),
      fun q hError => by cases hError⟩

/-- An answer that brings no response passes. One that does is applied after the acts of the source,
and what follows passes; where the key of an entry panics, the worker is torn down. -/
theorem receive_cases (acts : List Act) (answer : Answer V) (c : Cache K V) :
    c.response? (.answer acts answer) = none ∧ c.Passes (c.receive feed acts answer) ∧
        (c.worker = .absent → c.receive feed acts answer = c) ∨
      ∃ r, c.response? (.answer acts answer) = some r ∧ c.worker ≠ .absent ∧
        ((c.acted feed acts).apply feed r.entries r.index).1.Passes
          (c.receive feed acts answer) ∧
        ∀ p, ((c.acted feed acts).apply feed r.entries r.index).2 = .error p →
          (c.receive feed acts answer).worker = .crashed p := by
  rcases answer_cases feed acts answer c with ⟨hAwaits, cycle, limit, hWorker, hReceive⟩ |
    ⟨hAwaits, ⟨⟨cycle, limit, hWorker⟩, hReceive⟩ | ⟨_, hReceive⟩⟩
  · have hActed := acted_passes feed acts c
    rw [hReceive, hWorker]
    cases answer with
    | panicked p => exact Or.inl ⟨rfl, hActed.trans (becomes_passes _ _), by simp⟩
    | failed fault => exact Or.inl ⟨rfl, hActed.trans (fail_passes feed _ _ _), by simp⟩
    | entries list index =>
        exact Or.inr ⟨⟨list, index⟩, response?_of_awaits hAwaits acts list index, by simp,
          finish_entries feed cycle list index _⟩
  · rw [hReceive, hWorker]
    exact Or.inl ⟨response?_of_not_awaits hAwaits _, turn_passes feed c, by simp⟩
  · rw [hReceive]
    exact Or.inl ⟨response?_of_not_awaits hAwaits _, .refl c, fun _ => rfl⟩

end Cache

end LongPoll
