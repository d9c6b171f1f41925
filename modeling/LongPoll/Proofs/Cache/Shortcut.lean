import Mathlib.Data.List.Chain
import LongPoll.Proofs.Cache.Likeness
import LongPoll.Proofs.Cache.Publication
import LongPoll.Proofs.Cache.Worker

/-!
The shortcut for a response with the index that is held.

A response whose index is held is not built. The plain way is to build it all the same, and to
publish its snapshot if it is news. Where the source shows one map under one index, the two ways go
side by side: the index held is always that of the last response, what was published last is the
map it showed, and so the plain way finds no news. Only the warnings about repeated keys differ.
-/

namespace LongPoll

variable {K V : Type}

deriving instance DecidableEq for Response

namespace Response

variable [DecidableEq K]

/-- Where the second response has the index of the first, both show the same map. -/
def Repeats (feed : Feed K V) (q r : Response V) : Prop :=
  q.index = r.index → ∃ s t : Snapshot K V,
    (Snapshot.build feed.keyOf q.entries).outcome = .ok s ∧
      (Snapshot.build feed.keyOf r.entries).outcome = .ok t ∧ s.SameMap t

end Response

namespace Event

/-- A warning that a key was found again in a response. -/
def isRepeatWarning : Event K V → Bool
  | .log r => r.message == "Duplicate key in response, keeping the first occurrence"
  | _ => false

end Event

namespace Cache

variable {c d : Cache K V} (feed : Feed K V)

/-! ### The plain way -/

variable [DecidableEq K] [DecidableEq V]

/-- Apply a response without the shortcut: whatever index is held, the snapshot is built, and
published if it is news. -/
def applyPlainly (entries : List V) (returned : Index) (c : Cache K V) :
    Cache K V × Except Panic CycleEnd :=
  if c.isCancelled then (c, .ok .unchanged)
  else
    let c := c.noteContact
    match Index.movement c.cursor.index returned with
    | .still => c.absorb feed entries (some returned)
    | .backward =>
      (c.log (backwardRecord feed c.cursor.index returned)).absorb feed entries none
    | .forward next => c.absorb feed entries (some next)

/-- A way to take a response. -/
abbrev Taking (K V : Type) := List V → Index → Cache K V → Cache K V × Except Panic CycleEnd

/-- The state after a happening, where responses are taken in a given way. -/
def happenTaking (take : Taking K V) (happening : Happening V) (c : Cache K V) : Cache K V :=
  match happening, c.worker with
  | .answer acts (.entries list index), .fetching cycle limit =>
    if (expiry cycle limit).any fun e => e.1 < c.core.now then c.turn feed
    else conclude feed cycle (take list index (c.acted feed acts))
  | _, _ => c.happen feed happening

def replayTaking (take : Taking K V) (run : List (Happening V)) (c : Cache K V) : Cache K V :=
  run.foldl (fun c happening => c.happenTaking feed take happening) c

/-- What happens to a cache is that responses are taken by the shortcut. -/
theorem happenTaking_apply (happening : Happening V) (c : Cache K V) :
    c.happenTaking feed (fun list index c => c.apply feed list index) happening =
      c.happen feed happening := by
  unfold happenTaking
  split
  · next acts list index cycle limit hWorker =>
      rw [happen, receive_of_fetching feed acts (.entries list index) hWorker]
      rfl
  · rfl

/-! ### What the index held stands for -/

variable {feed}

/-- Where an index is held it is that of the last response, and what was published last is the map
that this response showed. -/
def Grounded (feed : Feed K V) (last : Option (Response V)) (c : Cache K V) : Prop :=
  c.core.cancelled = true ∨ (∃ p, c.worker = .crashed p) ∨
    ∀ i, c.cursor.index = some i → ∃ r s, last = some r ∧ r.index = i ∧
      (Snapshot.build feed.keyOf r.entries).outcome = .ok s ∧
        c.cursor.published.any (·.agrees s) = true

theorem Grounded.initial : Grounded feed none (initial : Cache K V) := by
  refine Or.inr (Or.inr fun i hHeld => ?_)
  cases hHeld

theorem resume_eq_some {held : Option Index} {returned i : Index}
    (h : Index.resume held returned = some i) : returned = i := by
  cases held with
  | none => exact Option.some.inj h
  | some last =>
      dsimp only [Index.resume] at h
      split at h
      · cases h
      · exact Option.some.inj h

/-- Where a response shows the same map again as the last, it shows what was published last. -/
theorem agrees_of_repeats {last : Option (Response V)} {r : Response V}
    (hGround : ∃ q s, last = some q ∧ q.index = r.index ∧
      (Snapshot.build feed.keyOf q.entries).outcome = .ok s ∧
        c.cursor.published.any (·.agrees s) = true)
    (hRepeats : ∀ q, last = some q → q.Repeats feed r) :
    ∃ t, (Snapshot.build feed.keyOf r.entries).outcome = .ok t ∧
      c.cursor.published.any (·.agrees t) = true := by
  obtain ⟨q, s, hLast, hIndex, hBuild, hAgrees⟩ := hGround
  obtain ⟨s', t, hBuild', hBuildR, hSame⟩ := hRepeats q hLast hIndex
  obtain rfl : s = s' := Except.ok.inj (hBuild.symm.trans hBuild')
  refine ⟨t, hBuildR, ?_⟩
  rw [Option.any_eq_true] at hAgrees ⊢
  obtain ⟨published, hPublished, hAgrees⟩ := hAgrees
  refine ⟨published, hPublished, ?_⟩
  rw [Snapshot.agrees_iff_sameMap] at hAgrees ⊢
  exact fun k => (hAgrees k).trans (hSame k)

theorem takes_grounded {last : Option (Response V)} {r : Response V}
    {result : Cache K V × Except Panic CycleEnd} (hWaiting : c.worker.IsWaiting)
    (hGround : Grounded feed last c) (hRepeats : ∀ q, last = some q → q.Repeats feed r)
    (hTakes : Takes feed r.entries r.index c result) :
    result.1.core.cancelled = true ∨ (∃ p, result.2 = .error p) ∨
      ∀ i, result.1.cursor.index = some i → ∃ q s, some r = some q ∧ q.index = i ∧
        (Snapshot.build feed.keyOf q.entries).outcome = .ok s ∧
          result.1.cursor.published.any (·.agrees s) = true := by
  cases hTakes with
  | dropped hCancelled => exact Or.inl hCancelled
  | keyless => exact Or.inr (Or.inl ⟨_, rfl⟩)
  | skipped hCancelled hHeld _ notes =>
      have hStands : ∀ i, c.cursor.index = some i → ∃ q s, last = some q ∧ q.index = i ∧
          (Snapshot.build feed.keyOf q.entries).outcome = .ok s ∧
            c.cursor.published.any (·.agrees s) = true := by
        rcases hGround with hTold | ⟨p, hCrashed⟩ | hStands
        · cases hCancelled.symm.trans hTold
        · rw [hCrashed] at hWaiting
          exact hWaiting.elim
        · exact hStands
      obtain ⟨t, hBuild, hAgrees⟩ := agrees_of_repeats (hStands r.index hHeld) hRepeats
      refine Or.inr (Or.inr fun i hIndex => ⟨r, t, rfl, ?_, hBuild, ?_⟩)
      · rw [notes.cursor, hHeld] at hIndex
        exact Option.some.inj hIndex
      · rw [notes.cursor]
        exact hAgrees
  | @settled _ d candidate _ _ hBuild hAgrees notes settles =>
      refine Or.inr (Or.inr fun i hIndex => ⟨r, candidate, rfl, ?_, hBuild, ?_⟩)
      · rw [settles.cursor] at hIndex
        exact resume_eq_some hIndex
      · rw [settles.cursor, notes.cursor]
        exact hAgrees
  | @issued _ d candidate _ _ hBuild _ notes issues =>
      refine Or.inr (Or.inr fun i hIndex => ⟨r, candidate, rfl, ?_, hBuild, ?_⟩)
      · rw [issues.cursor] at hIndex
        exact resume_eq_some hIndex
      · rw [issues.cursor]
        exact Snapshot.agrees_iff_sameMap.2 fun _ => rfl

/-- Without a response the worker keeps what it holds. -/
theorem happen_cursor {happening : Happening V} (hNone : c.response? happening = none) :
    (c.happen feed happening).cursor = c.cursor := by
  cases happening with
  | start runtime =>
      rcases start_cases feed runtime c with ⟨_, hStart⟩ | ⟨hSame, _⟩
      · rw [happen, hStart]
        rfl
      · rw [happen, hSame]
  | stop => exact (stop_passes feed c).cursor
  | shutdown => exact (shutdown_passes feed c).cursor
  | join name react => rfl
  | leave name => rfl
  | answer acts answer =>
      rcases receive_cases feed acts answer c with ⟨_, hPasses, _⟩ | ⟨r, hSome, _⟩
      · exact hPasses.cursor
      · cases hNone.symm.trans hSome
  | elapse nanos => rfl
  | turn => exact (turn_passes feed c).cursor

omit [DecidableEq K] [DecidableEq V] in
/-- A worker that was torn down stays so until the cache is stopped. -/
theorem Moves.of_crashed {happening : Happening V} {r : Option (Response V)} {p : Panic}
    (h : Moves feed happening c d r) (hCrashed : c.worker = .crashed p)
    (hLatent : c.core.lifecycle.phase = .latent → c.worker = .absent) :
    d.core.cancelled = true ∨ ∃ q, d.worker = .crashed q := by
  have hIdle : ¬ c.worker.IsReady ∧ ¬ c.worker.IsWaiting := by
    rw [hCrashed]
    exact ⟨id, id⟩
  cases h with
  | stays stays => exact Or.inr ⟨p, stays.worker.trans hCrashed⟩
  | starts _ hPhase => cases (hLatent hPhase).symm.trans hCrashed
  | goesOn hReady => exact (hIdle.1 hReady).elim
  | breaksOff hWaiting => exact (hIdle.2 hWaiting).elim
  | applies hWaiting => exact (hIdle.2 hWaiting).elim
  | torn hWorker => exact Or.inr ⟨_, hWorker⟩
  | buried _ _ hCancelled => exact Or.inl hCancelled

/-- What passes does not touch what the index held stands for. -/
theorem Grounded.passes {last : Option (Response V)} (h : Grounded feed last c)
    (hPasses : c.Passes d) (hWorker : d.worker = c.worker) : Grounded feed last d := by
  rcases h with hCancelled | ⟨p, hCrashed⟩ | hStands
  · exact Or.inl (hPasses.stirs.path.leadsTo.cancelled hCancelled).1
  · exact Or.inr (Or.inl ⟨p, hWorker.trans hCrashed⟩)
  · exact Or.inr (Or.inr (hPasses.cursor ▸ hStands))

theorem receive_grounded {last : Option (Response V)} {acts : List Act} {answer : Answer V}
    {r : Response V} (h : Grounded feed last c) (hCoherent : c.Coherent)
    (hWaiting : c.worker.IsWaiting)
    (hRepeats : ∀ q, last = some q → q.Repeats feed r)
    (hTaken : ((c.acted feed acts).apply feed r.entries r.index).1.Passes
      (c.receive feed acts answer))
    (hPanic : ∀ p, ((c.acted feed acts).apply feed r.entries r.index).2 = .error p →
      (c.receive feed acts answer).worker = .crashed p) :
    Grounded feed (some r) (c.receive feed acts answer) := by
  have hActed := acted_passes feed acts c
  have hSound : (c.acted feed acts).shared.audience.poisoned = false :=
    hActed.stirs.audience.poisoned.trans hCoherent.able
  have hStill : (c.acted feed acts).worker.IsWaiting := hWaiting
  rcases takes_grounded hStill (h.passes hActed rfl) hRepeats
    (apply_takes feed r.entries r.index hSound) with hCancelled | ⟨p, hError⟩ | hStands
  · exact Or.inl (hTaken.stirs.path.leadsTo.cancelled hCancelled).1
  · exact Or.inr (Or.inl ⟨p, hPanic p hError⟩)
  · exact Or.inr (Or.inr (hTaken.cursor ▸ hStands))

theorem Grounded.happen {last : Option (Response V)} (happening : Happening V)
    (h : Grounded feed last c) (hCoherent : c.Coherent) (hSynced : c.Synced)
    (hRepeats : ∀ q r, last = some q → c.response? happening = some r → q.Repeats feed r) :
    Grounded feed ((c.response? happening).or last) (c.happen feed happening) := by
  have hPath := (hCoherent.happen feed happening).2
  cases hResponse : c.response? happening with
  | none =>
      rcases h with hCancelled | ⟨p, hCrashed⟩ | hStands
      · exact Or.inl (hPath.leadsTo.cancelled hCancelled).1
      · rcases (happen_moves feed happening hSynced).of_crashed hCrashed hCoherent.latent with
          hCancelled | hCrashed
        · exact Or.inl hCancelled
        · exact Or.inr (Or.inl hCrashed)
      · exact Or.inr (Or.inr (happen_cursor hResponse ▸ hStands))
  | some r =>
      cases happening with
      | answer acts answer =>
          rcases receive_cases feed acts answer c with ⟨hNone, _⟩ | ⟨q, hSome, _, hTaken, hPanic⟩
          · cases hNone.symm.trans hResponse
          · obtain rfl : q = r := Option.some.inj (hSome.symm.trans hResponse)
            exact receive_grounded h hCoherent (waiting_of_response hResponse)
              (fun p hLast => hRepeats p q hLast hResponse) hTaken hPanic
      | _ => cases hResponse

/-! ### Side by side -/

/-- Two caches that differ in warnings about repeated keys only. -/
abbrev unwarned : Likeness K V := keeping True fun e => !e.isRepeatWarning

theorem Alike.warned (h : Alike unwarned c d) (keys : List K) :
    Alike unwarned c
      (keys.foldl (fun c k => c.log (Snapshot.repeatedRecord feed.showKey k)) d) := by
  induction keys generalizing d with
  | nil => exact h
  | cons k rest ih =>
      refine ih { h with shared := ⟨{ h.core with history := ?_ }, h.shared.audience⟩ }
      exact h.core.history

omit [DecidableEq K] [DecidableEq V] in
theorem hold_of_held {next : Option Index} (hHeld : c.cursor.index = next) (hSynced : c.Synced) :
    c.hold next = c := by
  subst hHeld
  have hStats : { c.core.stats with lastIndex := c.cursor.index } = c.core.stats := by
    rw [← hSynced]
  exact congrArg (fun stats => { c with
    shared := { c.shared with around := { c.core with stats } } }) hStats

omit [DecidableEq K] [DecidableEq V] in
theorem settle_of_settled (hPhase : c.core.lifecycle.phase ≠ .starting) : c.settle.1 = c :=
  congrArg (fun lifecycle => { c with
    shared := { c.shared with around := { c.core with lifecycle } } })
    (Lifecycle.settle_of_ne_starting hPhase)

/-- The plain way takes a response that shows what was published last under the index held. -/
theorem absorb_of_held {entries : List V} {held : Index} {t : Snapshot K V}
    (hHeld : c.cursor.index = some held) (hSynced : c.Synced)
    (hPhase : c.core.lifecycle.phase ≠ .starting)
    (hBuild : (Snapshot.build feed.keyOf entries).outcome = .ok t)
    (hAgrees : c.cursor.published.any (·.agrees t) = true) :
    c.absorb feed entries (some held) =
      (((Snapshot.build feed.keyOf entries).repeated.foldl
        (fun c k => c.log (Snapshot.repeatedRecord feed.showKey k)) c).noteUnchanged,
          .ok .unchanged) := by
  let warned := (Snapshot.build feed.keyOf entries).repeated.foldl
    (fun c k => c.log (Snapshot.repeatedRecord feed.showKey k)) c
  have hNotes : c.Notes warned := repeated_notes feed _ c
  have hStays : c.Stays warned := repeated_stays feed _ c
  have hSame : (warned.hold (some held)).settle.1 = warned := by
    rw [hold_of_held (hStays.index.trans hHeld) (hStays.synced hSynced),
      settle_of_settled (by rw [hNotes.lifecycle]; exact hPhase)]
  have hNews : (warned.hold (some held)).isNews t = false := by
    obtain ⟨published, hPublished, hAgrees⟩ := (Option.any_eq_true _ _).1 hAgrees
    simp [isNews, hold, hNotes.cursor, hPublished, hAgrees]
  dsimp only [absorb]
  rw [hBuild]
  dsimp only
  rw [hNews, hSame]
  rfl

/-- Where the index is held the plain way finds no news either. -/
theorem Alike.apply_plainly {entries : List V} {returned : Index} (h : Alike unwarned c d)
    (hSynced : c.Synced)
    (hSettled : c.cursor.published.isSome → c.core.lifecycle.phase ≠ .starting)
    (hShows : c.core.cancelled = false → c.cursor.index = some returned →
      ∃ t, (Snapshot.build feed.keyOf entries).outcome = .ok t ∧
        c.cursor.published.any (·.agrees t) = true) :
    Alike unwarned (c.apply feed entries returned).1 (d.applyPlainly feed entries returned).1 ∧
      (d.applyPlainly feed entries returned).2 = (c.apply feed entries returned).2 := by
  have hContact := h.noteContact
  have hContactSynced : d.noteContact.Synced :=
    hContact.core.stats.lastIndex.trans (hSynced.trans hContact.index.symm)
  unfold Cache.apply Cache.applyPlainly
  rw [h.isCancelled]
  split
  · exact ⟨h, rfl⟩
  · next hCancelled =>
      dsimp only
      rw [hContact.index]
      cases hMovement : Index.movement c.noteContact.cursor.index returned with
      -- the two ways part here only: the one skips, the other builds and finds no news
      | still =>
          have hHeld : c.cursor.index = some returned := Index.movement_eq_still_iff.1 hMovement
          obtain ⟨t, hBuild, hAgrees⟩ := hShows (Bool.eq_false_iff.2 hCancelled) hHeld
          have hPublished : c.cursor.published.isSome = true := by
            obtain ⟨published, hSome, _⟩ := (Option.any_eq_true _ _).1 hAgrees
            rw [hSome]
            rfl
          have hPhase : d.noteContact.core.lifecycle.phase ≠ .starting := by
            rw [hContact.core.lifecycle]
            exact hSettled hPublished
          have hPlain := absorb_of_held (hContact.index.trans hHeld) hContactSynced hPhase hBuild
            (h.cursor_eq.symm ▸ hAgrees)
          dsimp only
          rw [if_pos (by exact hPublished), hPlain]
          exact ⟨(hContact.warned _).noteUnchanged, rfl⟩
      | backward => exact (hContact.log _).absorb (.refl entries) _
      | forward next => exact hContact.absorb (.refl entries) _

omit [DecidableEq K] [DecidableEq V] in
/-- A cache that has published is not starting. -/
theorem not_starting_of_published (hCoherent : c.Coherent) (hSound : c.core.lifecycle.IsSound)
    (hPasses : c.Passes d) (hPublished : d.cursor.published.isSome) :
    d.core.lifecycle.phase ≠ .starting := by
  have hReady : c.core.lifecycle.initialized = true := by
    rw [hCoherent.initialized, ← hCoherent.held, ← hPasses.cursor]
    exact hPublished
  have hLater := hSound.of_same hPasses.stirs.initialized hPasses.stirs.phase
  intro hStarting
  rcases hLater (hPasses.stirs.initialized.trans hReady) with hPhase | hPhase
  · cases hPhase.symm.trans hStarting
  · cases hPhase.symm.trans hStarting

/-- Side by side, a response is taken by the shortcut and plainly. -/
theorem happen_plainly {last : Option (Response V)} (happening : Happening V)
    (h : Alike unwarned c d) (hCoherent : c.Coherent) (hSynced : c.Synced)
    (hSound : c.core.lifecycle.IsSound) (hGround : Grounded feed last c)
    (hRepeats : ∀ q r, last = some q → c.response? happening = some r → q.Repeats feed r) :
    Alike unwarned (c.happen feed happening)
      (d.happenTaking feed (fun list index c => c.applyPlainly feed list index) happening) := by
  have hOther : Alike unwarned (c.happen feed happening) (d.happen feed happening) :=
    h.happen trivial (.same happening)
  have hNow : d.core.now = c.core.now := h.core.now trivial
  rw [← happenTaking_apply feed happening c]
  unfold happenTaking
  rw [h.worker trivial, hNow]
  split
  · next acts list index cycle limit hWorker =>
      cases hLate : (expiry cycle limit).any fun e => e.1 < c.core.now with
      | true => exact h.turn trivial
      | false =>
          have hResponse : c.response? (.answer acts (.entries list index)) =
              some ⟨list, index⟩ := by simp [response?, hWorker, hLate]
          have hActed := acted_passes feed acts c
          have hShows (hCancelled : (c.acted feed acts).core.cancelled = false)
              (hHeld : (c.acted feed acts).cursor.index = some index) :
              ∃ t, (Snapshot.build feed.keyOf list).outcome = .ok t ∧
                (c.acted feed acts).cursor.published.any (·.agrees t) = true := by
            rcases hGround.passes hActed rfl with hTold | ⟨p, hCrashed⟩ | hStands
            · cases hCancelled.symm.trans hTold
            · cases hCrashed.symm.trans hWorker
            · exact agrees_of_repeats (r := ⟨list, index⟩) (hStands index hHeld)
                fun q hLast => hRepeats q _ hLast hResponse
          obtain ⟨hApplied, hEnd⟩ := (h.acted feed acts).apply_plainly
            ((acted_stays feed acts c).synced hSynced)
            (not_starting_of_published hCoherent hSound hActed) hShows
          exact Alike.conclude trivial cycle hApplied hEnd
  · exact hOther

/-- Side by side along a run. The index held stands for the last response throughout. -/
theorem replay_plainly {last : Option (Response V)} (run : List (Happening V))
    (h : Alike unwarned c d) (hCoherent : c.Coherent) (hSynced : c.Synced)
    (hSound : c.core.lifecycle.IsSound) (hGround : Grounded feed last c)
    (hSource : (last.toList ++ responses feed run c).IsChain (Response.Repeats feed)) :
    Alike unwarned (c.replay feed run)
      (d.replayTaking feed (fun list index c => c.applyPlainly feed list index) run) := by
  -- the last response is generalised too: the one before `run` counts for the first in it
  induction run generalizing c d last with
  | nil => exact h
  | cons happening rest ih =>
      rw [responses] at hSource
      have hRepeats (q r : Response V) (hLast : last = some q)
          (hResponse : c.response? happening = some r) : q.Repeats feed r := by
        rw [hLast, hResponse] at hSource
        exact (List.isChain_cons_cons.1 hSource).1
      have hRest : (((c.response? happening).or last).toList ++
          responses feed rest (c.happen feed happening)).IsChain (Response.Repeats feed) := by
        cases hResponse : c.response? happening with
        | none =>
            rw [hResponse] at hSource
            exact hSource
        | some r =>
            rw [hResponse] at hSource
            exact hSource.right_of_append
      exact ih (happen_plainly happening h hCoherent hSynced hSound hGround hRepeats)
        (hCoherent.happen feed happening).1 ((happen_moves feed happening hSynced).synced hSynced)
        (happen_sound happening hSound hCoherent)
        (hGround.happen happening hCoherent hSynced hRepeats) hRest

/-- Take a source that shows one map under one index: two responses that come in time one after the
other and carry the same index build snapshots that are the same map. At each moment of each run,
the cache that takes the shortcut is the cache that builds every response: what there is to see of
it, what its worker holds and where it waits, its audience, what it published, and what each
listener heard. The histories are the same but for the warnings about repeated keys. -/
theorem plain_agrees (feed : Feed K V) (run : List (Happening V))
    (hSource : (responses feed run (initial : Cache K V)).IsChain (Response.Repeats feed))
    (past : List (Happening V)) (hPast : past <+: run) :
    let c := (initial : Cache K V).replay feed past
    let d := (initial : Cache K V).replayTaking feed
      (fun list index c => c.applyPlainly feed list index) past
    d.core.toView = c.core.toView ∧ d.cursor = c.cursor ∧ d.worker = c.worker ∧
      d.shared.audience = c.shared.audience ∧ d.core.published = c.core.published ∧
      (∀ id, d.core.heard id = c.core.heard id) ∧
      d.core.events.filter (fun e => !e.isRepeatWarning) =
        c.core.events.filter fun e => !e.isRepeatWarning := by
  intro c d
  have hAlike : Alike unwarned c d := by
    refine replay_plainly past (.keeping_refl _) .initial .initial .initial .initial ?_
    obtain ⟨after, rfl⟩ := hPast
    rw [responses_append] at hSource
    exact hSource.left_of_append
  have hLeft {β : Type} (f : Event K V → Option β) (hLog : ∀ r, f (.log r) = none)
      (e : Event K V) (hWarning : (!e.isRepeatWarning) = false) : f e = none := by
    cases e with
    | log r => exact hLog r
    | _ => cases hWarning
  refine ⟨hAlike.toView_eq trivial, hAlike.cursor_eq, hAlike.worker trivial, hAlike.audience_eq,
    hAlike.collect_eq (hLeft _ fun _ => rfl), fun id => ?_, hAlike.core.history⟩
  exact hAlike.collect_eq (hLeft (Event.heardBy id) fun _ => rfl)

/-- After a failure the source repeats itself, and the plain way warns again of the repeated key. -/
theorem plain_agrees_of_repeated_key :
    let feed : Feed Nat Nat :=
      ⟨"numbers", fun n => .ok (n % 10), toString, .default, .blank, fun _ => .idle⟩
    let run : List (Happening Nat) := [.start true, .turn, .answer [] (.entries [7, 17] ⟨5⟩),
      .answer [] (.failed .noIndex), .elapse 10000000000, .turn,
      .answer [] (.entries [7, 27] ⟨5⟩), .answer [] (.entries [8] ⟨6⟩)]
    let c := (initial : Cache Nat Nat).replay feed run
    let d := (initial : Cache Nat Nat).replayTaking feed
      (fun list index c => c.applyPlainly feed list index) run
    (responses feed run (initial : Cache Nat Nat)).IsChain (Response.Repeats feed) ∧
      run <+: run ∧ d.core.toView = c.core.toView ∧ c.core.stats.published = 2 ∧
      c.core.stats.unchanged = 1 ∧ (c.core.events.filter Event.isRepeatWarning).length = 1 ∧
      (d.core.events.filter Event.isRepeatWarning).length = 2 := by
  intro feed run c d
  have hSource :
      (responses feed run (initial : Cache Nat Nat)).IsChain (Response.Repeats feed) := by
    have hResponses : responses feed run (initial : Cache Nat Nat) =
        [⟨[7, 17], ⟨5⟩⟩, ⟨[7, 27], ⟨5⟩⟩, ⟨[8], ⟨6⟩⟩] := by
      decide +kernel
    have hSeven : (⟨[7, 17], ⟨5⟩⟩ : Response Nat).Repeats feed ⟨[7, 27], ⟨5⟩⟩ :=
      fun _ => ⟨_, _, rfl, rfl, fun _ => rfl⟩
    have hEight : (⟨[7, 27], ⟨5⟩⟩ : Response Nat).Repeats feed ⟨[8], ⟨6⟩⟩ := by
      intro hIndex
      exact absurd hIndex (by decide)
    rw [hResponses]
    exact List.isChain_cons_cons.2 ⟨hSeven, List.isChain_cons_cons.2 ⟨hEight, .singleton _⟩⟩
  refine ⟨hSource, List.prefix_rfl, (plain_agrees feed run hSource run List.prefix_rfl).1, ?_⟩
  decide +kernel

end Cache

end LongPoll
