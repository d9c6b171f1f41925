import LongPoll.Proofs.Cache.Worker

/-!
The requests of a run, and the indexes they carry.

Along a run the worker sends requests, and each is followed by the failure of its cycle or by a
response that is applied, before the next one is sent. The index of a request is the one that is due
by what was seen before it, and the counters show it as soon as the cycle before is over.
-/

namespace LongPoll

theorem Index.le_of_resume {i j returned : Index} (h : resume (some i) returned = some j) :
    i.value ≤ j.value := by
  dsimp only [resume] at h
  split at h
  · cases h
  · next hLower =>
      cases h
      exact UInt64.not_lt.1 hLower

namespace Signal

/-- The request that is sent. -/
def request? : Signal → Option Request
  | .asked r => some r
  | _ => none

/-- The index that the next request is to carry after these signals, latest first: that of the last
response applied, or none if it is lower than the one that its own request carried. -/
def due : List Signal → Option Index
  | [] => none
  | .answered i :: .asked r :: _ => Index.resume r.query.index i
  | _ :: past => due past

theorem due_asked (r : Request) (past : List Signal) : due (.asked r :: past) = due past := by
  cases past <;> rfl

theorem due_failed (past : List Signal) : due (.failed :: past) = due past := by
  cases past <;> rfl

variable {K V : Type}

/-- The last that was seen is that a request was sent. -/
def IsOpen (past : List Signal) : Prop := ∃ r rest, past = .asked r :: rest

/-- What can be seen along a run, latest first. -/
inductive Lawful (feed : Feed K V) : List Signal → Prop where
  | nil : Lawful feed []
  | asked {past : List Signal} {r : Request} (h : Lawful feed past) (hClosed : ¬ IsOpen past)
      (hRequest : feed.request? (due past) = some r) : Lawful feed (.asked r :: past)
  | answered {past : List Signal} {r : Request} {i : Index} (h : Lawful feed (.asked r :: past)) :
      Lawful feed (.answered i :: .asked r :: past)
  | failed {past : List Signal} {r : Request} (h : Lawful feed (.asked r :: past)) :
      Lawful feed (.failed :: .asked r :: past)
  /-- Where no query can be made every cycle fails. -/
  | refused {past : List Signal} (h : Lawful feed past) (hRefuses : feed.Refuses) :
      Lawful feed (.failed :: past)

variable {feed : Feed K V} {past : List Signal}

namespace Lawful

theorem tail {s : Signal} (h : Lawful feed (s :: past)) : Lawful feed past := by
  cases h with
  | asked h => exact h
  | answered h => exact h
  | failed h => exact h
  | refused h => exact h

theorem of_append {recent : List Signal} (h : Lawful feed (recent ++ past)) :
    Lawful feed past := by
  induction recent with
  | nil => exact h
  | cons s rest ih => exact ih h.tail

/-- A request carries the index that was due before it. -/
theorem request {r : Request} (h : Lawful feed (.asked r :: past)) :
    feed.request? (due past) = some r := by
  cases h
  assumption

/-- A response that is applied answers the request before it. -/
theorem answered_open {i : Index} (h : Lawful feed (.answered i :: past)) : IsOpen past := by
  cases h
  exact ⟨_, _, rfl⟩

/-- Every request was made while some index was held. -/
theorem exists_request {r : Request} (h : Lawful feed past) (hMember : .asked r ∈ past) :
    ∃ held, feed.request? held = some r := by
  induction h with
  | nil => cases hMember
  | asked _ _ hRequest ih =>
      rcases List.mem_cons.1 hMember with hEq | hMember
      · cases hEq
        exact ⟨_, hRequest⟩
      · exact ih hMember
  | answered _ ih => exact ih ((List.mem_cons.1 hMember).resolve_left nofun)
  | failed _ ih => exact ih ((List.mem_cons.1 hMember).resolve_left nofun)
  | refused _ _ ih => exact ih ((List.mem_cons.1 hMember).resolve_left nofun)

/-- What is seen of a cycle but its request, where queries can be made. -/
theorem outcome {s : Signal} (h : Lawful feed (s :: past)) (hOther : ∀ q, s ≠ .asked q)
    (hMade : ¬ feed.Refuses) : (s = .failed ∨ ∃ i, s = .answered i) ∧ IsOpen past := by
  cases h with
  | asked => exact (hOther _ rfl).elim
  | answered => exact ⟨Or.inr ⟨_, rfl⟩, _, _, rfl⟩
  | failed => exact ⟨Or.inl rfl, _, _, rfl⟩
  | refused _ hRefuses => exact (hMade hRefuses).elim

/-- After a request was sent, what is seen up to the next one is that its cycle failed, or that a
response was applied. -/
theorem between {r r' : Request} {mid : List Signal}
    (h : Lawful feed (.asked r' :: (mid ++ .asked r :: past))) (hMid : ∀ q, .asked q ∉ mid) :
    mid = [.failed] ∨ ∃ i, mid = [.answered i] := by
  have hMade : ¬ feed.Refuses := fun hRefuses => by
    cases (hRefuses.request? _).symm.trans h.request
  cases h with
  | asked hBefore hClosed _ =>
      cases mid with
      | nil => exact (hClosed ⟨r, past, rfl⟩).elim
      | cons s rest =>
          have hOther (q : Request) : s ≠ .asked q := fun hEq =>
            hMid q (hEq ▸ List.mem_cons_self ..)
          obtain ⟨hOutcome, q, tail, hOpen⟩ := hBefore.outcome hOther hMade
          obtain rfl : rest = [] := by
            cases rest with
            | nil => rfl
            | cons t _ =>
                have hHead : t = .asked q := (List.cons.inj hOpen).1
                exact (hMid q (hHead ▸ by simp)).elim
          exact hOutcome.imp (congrArg (· :: [])) fun ⟨i, hi⟩ => ⟨i, congrArg (· :: []) hi⟩

/-- After a failure the same request is sent again, and after a response the one with the index to
go on with. -/
theorem next {r r' : Request} {mid : List Signal}
    (h : Lawful feed (.asked r' :: (mid ++ .asked r :: past))) (hMid : ∀ q, .asked q ∉ mid) :
    mid = [.failed] ∧ r' = r ∨
      ∃ i, mid = [.answered i] ∧ r'.query.index = Index.resume r.query.index i := by
  have hRequest := h.request
  rcases h.between hMid with rfl | ⟨i, rfl⟩
  · have hBefore : feed.request? (due past) = some r := h.tail.tail.request
    rw [List.singleton_append, due_failed, due_asked, hBefore, Option.some.injEq] at hRequest
    exact Or.inl ⟨rfl, hRequest.symm⟩
  · exact Or.inr ⟨i, rfl, Feed.index_request? hRequest⟩

end Lawful

end Signal

namespace Worker

/-- What was seen last, by where the worker is: that a request was sent exactly if one is on its
way. -/
def Suits (past : List Signal) : Worker → Prop
  | fetching _ _ => Signal.IsOpen past
  | ended | crashed _ => True
  | _ => ¬ Signal.IsOpen past

variable {worker : Worker} {past : List Signal}

theorem Suits.closed (h : worker.Suits past) (hReady : worker.IsReady) :
    ¬ Signal.IsOpen past := by
  cases worker with
  | spawned => exact h
  | backingOff => exact h
  | resting => exact h
  | _ => exact hReady.elim

theorem Suits.opened (h : worker.Suits past) (hWaiting : worker.IsWaiting) :
    Signal.IsOpen past := by
  cases worker with
  | fetching => exact h
  | _ => exact hWaiting.elim

end Worker

namespace Cache

open Signal

variable {c d : Cache K V} {past : List Signal}

/-- The worker, the index held and what was seen, latest first, fit together. -/
structure Accords (feed : Feed K V) (c : Cache K V) (past : List Signal) : Prop where
  lawful : Lawful feed past
  held : c.cursor.index = due past
  suits : c.worker.Suits past

variable {feed : Feed K V}

theorem not_open_failed : ¬ IsOpen (.failed :: past) := by
  rintro ⟨_, _, h⟩
  cases h

theorem not_open_answered {i : Index} : ¬ IsOpen (.answered i :: past) := by
  rintro ⟨_, _, h⟩
  cases h

/-- A cycle that is broken off is seen to fail, or leaves nothing to go on with. -/
theorem Broken.accords {cancelled : Bool} {sent : List Signal}
    (h : Broken feed cancelled d.worker sent) (hFailed : Lawful feed (.failed :: past))
    (hHeld : d.cursor.index = due past) : Accords feed d (sent.reverse ++ past) := by
  generalize hWorker : d.worker = worker at h
  have hDue : d.cursor.index = due (.failed :: past) := hHeld.trans (due_failed past).symm
  cases h with
  | abandoned => exact ⟨hFailed.tail, hHeld, hWorker ▸ trivial⟩
  | failed => exact ⟨hFailed, hDue, hWorker ▸ trivial⟩
  | crashed => exact ⟨hFailed.tail, hHeld, hWorker ▸ trivial⟩
  | backingOff => exact ⟨hFailed, hDue, hWorker ▸ not_open_failed⟩

/-- A worker that can go on does so lawfully. -/
theorem Destination.accords {cancelled : Bool} {sent : List Signal}
    (h : Destination feed d.cursor.index cancelled d.worker sent) (hLawful : Lawful feed past)
    (hHeld : d.cursor.index = due past) (hClosed : ¬ IsOpen past) :
    Accords feed d (sent.reverse ++ past) := by
  generalize hWorker : d.worker = worker at h
  cases h with
  | ended => exact ⟨hLawful, hHeld, hWorker ▸ trivial⟩
  | resting => exact ⟨hLawful, hHeld, hWorker ▸ hClosed⟩
  | fetching _ hRequest =>
      exact ⟨.asked hLawful hClosed (hHeld ▸ hRequest), hHeld.trans (due_asked _ past).symm,
        hWorker ▸ ⟨_, _, rfl⟩⟩
  | crashed => exact ⟨hLawful, hHeld, hWorker ▸ trivial⟩
  | refused hRefuses broken =>
      exact Broken.accords (hWorker ▸ broken) (.refused hLawful hRefuses) hHeld

/-- A worker that goes on sends a request, or nothing is on its way after that. -/
theorem Destination.asks {held : Option Index} {cancelled : Bool} {worker : Worker}
    {sent : List Signal} (h : Destination feed held cancelled worker sent) :
    (∃ q, sent = [.asked q] ∧ feed.request? held = some q) ∨
      sent.findSome? Signal.request? = none ∧ ¬ worker.IsWaiting := by
  cases h with
  | fetching _ hRequest => exact Or.inl ⟨_, rfl, hRequest⟩
  | refused _ broken => cases broken <;> exact Or.inr ⟨rfl, not_false⟩
  | _ => exact Or.inr ⟨rfl, not_false⟩

theorem Accords.of_stays (h : Accords feed c past)
    (hStays : c.Stays { d with worker := c.worker }) (hSuits : d.worker.Suits past) :
    Accords feed d ((d.core.seen.drop c.core.seen.length).reverse ++ past) := by
  have hSeen : d.core.seen = c.core.seen := hStays.seen
  rw [hSeen, List.drop_length]
  exact ⟨h.lawful, (hStays.index : d.cursor.index = _).trans h.held, hSuits⟩

variable [DecidableEq K] [DecidableEq V]

/-- What can be seen when something happens: the response applied comes before all that the worker
does next. -/
def shown (feed : Feed K V) (happening : Happening V) (c : Cache K V) : List Signal :=
  ((c.applied? feed happening).map fun r => Signal.answered r.index).toList ++
    (c.happen feed happening).core.seen.drop c.core.seen.length

/-- What can be seen along a run, in order. -/
def signals (feed : Feed K V) : List (Happening V) → Cache K V → List Signal
  | [], _ => []
  | happening :: rest, c => shown feed happening c ++ signals feed rest (c.happen feed happening)

theorem Accords.happen (happening : Happening V) (h : Accords feed c past)
    (hCoherent : c.Coherent) (hSynced : c.Synced) :
    Accords feed (c.happen feed happening) ((shown feed happening c).reverse ++ past) := by
  have hMoves := happen_moves feed happening hSynced
  rw [shown]
  -- which response is applied and how the worker moves are told apart together
  generalize c.applied? feed happening = r at hMoves ⊢
  cases hMoves with
  | stays stays =>
      exact h.of_stays ⟨rfl, stays.index, stays.seen, stays.lastIndex⟩ (stays.worker ▸ h.suits)
  | starts _ hLatent hWorker stays =>
      have hSuits := h.suits
      rw [hCoherent.latent hLatent] at hSuits
      exact h.of_stays stays (hWorker ▸ hSuits)
  | goesOn hReady goesOn =>
      have hSent := goesOn.sent
      rw [← goesOn.index] at hSent
      exact hSent.accords h.lawful (goesOn.index.trans h.held) (h.suits.closed hReady)
  | breaksOff hWaiting goesOn =>
      obtain ⟨q, rest, rfl⟩ := h.suits.opened hWaiting
      exact goesOn.sent.accords (.failed h.lawful) (goesOn.index.trans h.held)
  | @applies r hWaiting goesOn =>
      obtain ⟨q, rest, rfl⟩ := h.suits.opened hWaiting
      have hHeld : q.query.index = c.cursor.index :=
        (Feed.index_request? h.lawful.request).trans (h.held.trans (due_asked q rest)).symm
      have hIndex : (c.happen feed happening).cursor.index = Index.resume q.query.index r.index :=
        goesOn.index.trans (congrArg (Index.resume · r.index) hHeld.symm)
      have hSent := goesOn.sent
      rw [← hHeld, ← hIndex] at hSent
      have hAll := hSent.accords (.answered h.lawful) hIndex not_open_answered
      rw [List.reverse_append, List.append_assoc]
      exact hAll
  | torn hWorker _ stays => exact h.of_stays stays (hWorker ▸ trivial)
  | buried _ hWorker _ stays => exact h.of_stays stays (hWorker ▸ trivial)

/-- Along every run the worker, the index held and what was seen fit together. -/
theorem Accords.replay (run : List (Happening V)) (h : Accords feed c past)
    (hCoherent : c.Coherent) (hSynced : c.Synced) :
    Accords feed (c.replay feed run) ((signals feed run c).reverse ++ past) := by
  induction run generalizing c past with
  | nil => exact h
  | cons happening rest ih =>
      have hNext := ih (h.happen happening hCoherent hSynced)
        (hCoherent.happen feed happening).1 ((happen_moves feed happening hSynced).synced hSynced)
      rw [signals, List.reverse_append, List.append_assoc]
      exact hNext

omit [DecidableEq K] [DecidableEq V] in
theorem Accords.initial : Accords feed (initial : Cache K V) [] := by
  refine ⟨.nil, rfl, ?_⟩
  rintro ⟨_, _, h⟩
  cases h

/-- What can be seen along a run is lawful, and the worker and the index held fit it. -/
theorem accords_replay (feed : Feed K V) (run : List (Happening V)) :
    Accords feed ((initial : Cache K V).replay feed run)
      (signals feed run (initial : Cache K V)).reverse := by
  have hInitial : Accords feed (initial : Cache K V) [] := .initial
  have hAll := hInitial.replay run Coherent.initial .initial
  rwa [List.append_nil] at hAll

/-- What is seen between two requests, and what the second then is. -/
theorem signals_next {before mid after : List Signal} {r r' : Request} (run : List (Happening V))
    (hSignals : signals feed run (initial : Cache K V) =
      before ++ .asked r :: (mid ++ .asked r' :: after)) (hMid : ∀ q, .asked q ∉ mid) :
    mid = [.failed] ∧ r' = r ∨
      ∃ i, mid = [.answered i] ∧ r'.query.index = Index.resume r.query.index i := by
  have hLawful := (accords_replay feed run).lawful
  rw [hSignals] at hLawful
  simp only [List.reverse_append, List.reverse_cons, List.append_assoc] at hLawful
  have hNext := hLawful.of_append.next fun q hMember => hMid q (List.mem_reverse.1 hMember)
  simpa only [List.reverse_eq_iff, List.reverse_singleton] using hNext

/-- While no query is on its way the next request carries the index that is held. -/
theorem next_request (run : List (Happening V)) (hSynced : c.Synced)
    (hIdle : ¬ c.worker.IsWaiting) {r : Request}
    (hNext : (signals feed run c).findSome? Signal.request? = some r) :
    r.query.index = c.cursor.index := by
  -- the index held stays until the worker goes on, and then this request is sent or none is
  induction run generalizing c with
  | nil => cases hNext
  | cons happening rest ih =>
      have hMoves := happen_moves feed happening hSynced
      have hRest := ih (hMoves.synced hSynced)
      have hStill (hStays : c.Stays { c.happen feed happening with worker := c.worker })
          (hNone : c.applied? feed happening = none)
          (hIdle' : ¬ (c.happen feed happening).worker.IsWaiting) :
          r.query.index = c.cursor.index := by
        have hSeen : (c.happen feed happening).core.seen = c.core.seen := hStays.seen
        rw [signals, shown, hNone, hSeen, List.drop_length] at hNext
        exact (hRest hIdle' hNext).trans hStays.index
      rw [signals, shown, List.findSome?_append, List.findSome?_append] at hNext
      generalize hApplied : c.applied? feed happening = applied at hMoves hNext
      cases hMoves with
      | stays stays =>
          exact hStill ⟨rfl, stays.index, stays.seen, stays.lastIndex⟩ hApplied
            (stays.worker ▸ hIdle)
      | starts _ _ hWorker stays => exact hStill stays hApplied (hWorker ▸ not_false)
      | goesOn _ goesOn =>
          rcases goesOn.sent.asks with ⟨q, hSent, hRequest⟩ | ⟨hNone, hIdle'⟩
          · rw [hSent] at hNext
            cases hNext
            exact Feed.index_request? hRequest
          · rw [hNone] at hNext
            exact (hRest hIdle' hNext).trans goesOn.index
      | breaksOff hWaiting => exact (hIdle hWaiting).elim
      | applies hWaiting => exact (hIdle hWaiting).elim
      | torn hWorker _ stays => exact hStill stays hApplied (hWorker ▸ not_false)
      | buried _ hWorker _ stays => exact hStill stays hApplied (hWorker ▸ not_false)

/-- The requests among the signals are those of the history. -/
theorem requests_replay (run : List (Happening V)) (hSynced : c.Synced) :
    (c.replay feed run).core.seen.filterMap Signal.request? =
      c.core.seen.filterMap Signal.request? ++
        (signals feed run c).filterMap Signal.request? := by
  induction run generalizing c with
  | nil => exact (List.append_nil _).symm
  | cons happening rest ih =>
      have hMoves := happen_moves feed happening hSynced
      obtain ⟨sent, hSeen⟩ := hMoves.seen
      have hShown : (shown feed happening c).filterMap Signal.request? =
          sent.filterMap Signal.request? := by
        rw [shown, hSeen, List.drop_left, List.filterMap_append]
        cases c.applied? feed happening <;> rfl
      have hRest := ih (hMoves.synced hSynced)
      rw [hSeen, List.filterMap_append, List.append_assoc, ← hShown,
        ← List.filterMap_append] at hRest
      exact hRest

/-- Along every run each applied response answers the request right before it, and each request
carries the index that is due by what was seen before it. Between two requests there is one failed
cycle, and the second request is the first again, or one applied response, and the second carries
the index of the response or, if that is the lower, none; so the index of a request is never lower
than that of the request before. While no query is on its way, the counters show the index that the
next request carries. -/
theorem requests_carry_due (feed : Feed K V) (run : List (Happening V)) :
    let log := signals feed run (initial : Cache K V)
    ((initial : Cache K V).replay feed run).core.seen.filterMap Signal.request? =
        log.filterMap Signal.request? ∧
      (∀ before i after, log = before ++ .answered i :: after →
        ∃ earlier r, before = earlier ++ [.asked r]) ∧
      (∀ before r after, log = before ++ .asked r :: after →
        r.query.index = due before.reverse) ∧
      (∀ before r mid r' after, log = before ++ .asked r :: (mid ++ .asked r' :: after) →
        (∀ q, .asked q ∉ mid) →
          (mid = [.failed] ∧ r' = r ∨
            ∃ i, mid = [.answered i] ∧ r'.query.index = Index.resume r.query.index i) ∧
          ∀ i j, r.query.index = some i → r'.query.index = some j → i.value ≤ j.value) ∧
      ∀ first rest, run = first ++ rest →
        let c := (initial : Cache K V).replay feed first
        (∀ cycle limit, c.worker ≠ .fetching cycle limit) →
          ∀ r, (signals feed rest c).findSome? Signal.request? = some r →
            r.query.index = c.core.stats.lastIndex := by
  intro log
  have hLawful : Lawful feed log.reverse := (accords_replay feed run).lawful
  refine ⟨requests_replay run .initial, ?_, ?_, ?_, ?_⟩
  · intro before i after hLog
    rw [hLog, List.reverse_append, List.reverse_cons, List.append_assoc] at hLawful
    obtain ⟨r, rest, hBefore⟩ : IsOpen before.reverse := hLawful.of_append.answered_open
    exact ⟨rest.reverse, r, List.reverse_eq_cons_iff.1 hBefore⟩
  · intro before r after hLog
    rw [hLog, List.reverse_append, List.reverse_cons, List.append_assoc] at hLawful
    exact Feed.index_request? hLawful.of_append.request
  · intro before r mid r' after hLog hMid
    have hOutcome := signals_next run hLog hMid
    refine ⟨hOutcome, fun i j hIndex hIndex' => ?_⟩
    rcases hOutcome with ⟨_, rfl⟩ | ⟨returned, _, hResume⟩
    · obtain rfl : i = j := Option.some.inj (hIndex.symm.trans hIndex')
      exact UInt64.le_refl _
    · rw [hIndex, hIndex'] at hResume
      exact Index.le_of_resume hResume.symm
  · intro first rest _ c hIdle r hNext
    have hSynced : c.Synced :=
      replay_keeps (fun _ happening _ hSynced _ => (happen_moves feed happening hSynced).synced
        hSynced) first .initial .initial .initial
    have hNot : ¬ c.worker.IsWaiting := fun hWaiting =>
      let ⟨cycle, limit, hWorker⟩ := Worker.isWaiting_iff.1 hWaiting
      hIdle cycle limit hWorker
    exact (next_request rest hSynced hNot hNext).trans hSynced.symm

/-- A failure before any response, a response, a failure, the same state again, and an index that
went back. -/
example :
    let feed : Feed Nat Nat :=
      ⟨"numbers", fun n => .ok (n % 10), toString, .default, .blank, fun _ => .idle⟩
    let failure : List (Happening Nat) :=
      [.answer [] (.failed .noIndex), .elapse 10000000000, .turn]
    let run := [.start true, .turn] ++ failure ++ .answer [] (.entries [7] ⟨5⟩) :: failure ++
      [.answer [] (.entries [7] ⟨5⟩), .answer [] (.entries [8] ⟨4⟩), .answer [] (.entries [] ⟨4⟩)]
    ((signals feed run (initial : Cache Nat Nat)).filterMap Signal.request?).map (·.query.index) =
      [none, none, some ⟨5⟩, some ⟨5⟩, some ⟨5⟩, none, some ⟨4⟩] := by decide +kernel

end Cache

end LongPoll
