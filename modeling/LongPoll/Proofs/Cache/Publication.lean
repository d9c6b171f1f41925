import LongPoll.Proofs.Snapshot
import LongPoll.Proofs.Cache.Coherence

/-!
What a cache publishes, as a function of the responses of its source.

Of the responses that come in time, those with the index that is held at that moment are dropped.
Each of the others makes a snapshot, and a snapshot is published if it is the first or a map other
than the one published last. A listener that was there from the beginning hears the same list. All
this is about a cache that is not stopped; what a stop cuts off is not stated here.
-/

namespace LongPoll

variable {K V : Type}

namespace Response

/-- Responses in order, without those whose index is held when they come. -/
def fresh (held : Option Index) : List (Response V) → List (Response V)
  | [] => []
  | r :: rest =>
    if held = some r.index then fresh held rest
    else r :: fresh (Index.resume held r.index) rest

end Response

namespace Snapshot

variable [DecidableEq K] [DecidableEq V]

/-- Snapshots in order, without those that are the same map as the one kept just before. -/
def news : Option (Snapshot K V) → List (Snapshot K V) → List (Snapshot K V)
  | _, [] => []
  | none, s :: rest => s :: news (some s) rest
  | some last, s :: rest =>
    if last.SameMap s then news (some last) rest else s :: news (some s) rest

/-- What is news after the first of some snapshots depends on whether that one was. -/
theorem news_cons (list : List (Snapshot K V)) (s : Snapshot K V) (rest : List (Snapshot K V)) :
    news list.getLast? (s :: rest) =
      news list.getLast? [s] ++ news (list ++ news list.getLast? [s]).getLast? rest := by
  cases hLast : list.getLast? with
  | none => simp [news]
  | some last =>
      by_cases hSame : last.SameMap s
      · simp [news, hSame, hLast]
      · simp [news, hSame]

end Snapshot

namespace Cache

variable {c d e : Cache K V}

/-! ### Who hears what -/

/-- No number was given twice, and those to come were never heard of. -/
structure Registered (c : Cache K V) : Prop where
  numbered : c.shared.audience.Numbered
  unheard : ∀ id, c.shared.audience.nextId ≤ id → c.core.heard id = []

theorem Registered.initial : (initial : Cache K V).Registered := ⟨.empty, fun _ _ => rfl⟩

/-- Some snapshots were published, and each listener that was there before and still is has heard
them. -/
structure Tells (new : List (Snapshot K V)) (c d : Cache K V) : Prop where
  published : d.core.published = c.core.published ++ new
  registered : d.Registered
  nextId : c.shared.audience.nextId ≤ d.shared.audience.nextId
  members : ∀ id < c.shared.audience.nextId,
    id ∈ d.shared.audience.ids → id ∈ c.shared.audience.ids
  heard : ∀ id < c.shared.audience.nextId, id ∈ d.shared.audience.ids →
    d.core.heard id = c.core.heard id ++ new

theorem Tells.trans {new more : List (Snapshot K V)} (h : Tells new c d) (h' : Tells more d e) :
    Tells (new ++ more) c e where
  published := by rw [h'.published, h.published, List.append_assoc]
  registered := h'.registered
  nextId := Nat.le_trans h.nextId h'.nextId
  members id hId hMember :=
    h.members id hId (h'.members id (Nat.lt_of_lt_of_le hId h.nextId) hMember)
  heard id hId hMember := by
    have hLater := Nat.lt_of_lt_of_le hId h.nextId
    rw [h'.heard id hLater hMember, h.heard id hId (h'.members id hLater hMember),
      List.append_assoc]

/-- Members may have left, and nothing was published or heard. -/
theorem tells_nothing (hRegistered : c.Registered)
    (hAudience : c.shared.audience.Dwindles d.shared.audience)
    (hPublished : d.core.published = c.core.published)
    (hHeard : ∀ id, d.core.heard id = c.core.heard id) : Tells [] c d where
  published := by rw [hPublished, List.append_nil]
  registered := by
    refine ⟨hRegistered.numbered.dwindles hAudience, fun id hId => ?_⟩
    rw [hHeard]
    exact hRegistered.unheard id (hAudience.nextId ▸ hId)
  nextId := Nat.le_of_eq hAudience.nextId.symm
  members id _ hMember := hAudience.ids.subset hMember
  heard id _ _ := by rw [hHeard, List.append_nil]

theorem Passes.tells (h : c.Passes d) (hRegistered : c.Registered) : Tells [] c d :=
  tells_nothing hRegistered h.stirs.audience h.published h.heard

theorem Settles.tells {next : Option Index} (h : Settles next c d) (hRegistered : c.Registered) :
    Tells [] c d :=
  tells_nothing hRegistered (h.audience ▸ .refl _) h.published h.heard

theorem Issues.tells {candidate : Snapshot K V} {next : Option Index}
    (h : Issues candidate next c d) (hCancelled : d.core.cancelled = false)
    (hRegistered : c.Registered) : Tells [candidate] c d := by
  have hHeard := h.heard hCancelled hRegistered.numbered
  have hNext : d.shared.audience.nextId = c.shared.audience.nextId := h.audience.nextId
  have hNoted : (c.shared.noting candidate).audience.Numbered :=
    ⟨hRegistered.numbered.nodup, hRegistered.numbered.lt⟩
  have hMembers : ∀ id ∈ d.shared.audience.ids, id ∈ c.shared.audience.ids :=
    fun id hMember => h.audience.ids.subset hMember
  refine ⟨h.published, ⟨hNoted.dwindles h.audience, ?_⟩, Nat.le_of_eq hNext.symm,
    fun id _ => hMembers id, ?_⟩
  · intro id hId
    rw [hNext] at hId
    have hAbsent : id ∉ c.shared.audience.ids := fun hMember =>
      Nat.not_lt.2 hId (hRegistered.numbered.lt id hMember)
    rw [hHeard, if_neg hAbsent, List.append_nil]
    exact hRegistered.unheard id hId
  · intro id _ hMember
    rw [hHeard, if_pos (hMembers id hMember)]

theorem start_tells (feed : Feed K V) (runtime : Bool) (hRegistered : c.Registered) :
    Tells [] c (c.start feed runtime).1 ∧ (c.start feed runtime).1.cursor = c.cursor := by
  rcases start_cases feed runtime c with ⟨_, hStart⟩ | ⟨hSame, _⟩
  · have hBegun : Tells [] c c.begun :=
      tells_nothing hRegistered (.refl _) rfl fun _ => rfl
    have hLog := c.begun.log_passes (r := feed.record .info "Watch cache starting" [])
      (by simp [Feed.record, View.refusal])
    rw [hStart]
    exact ⟨hBegun.trans (hLog.tells hBegun.registered), rfl⟩
  · rw [hSame]
    exact ⟨tells_nothing hRegistered (.refl _) rfl fun _ => rfl, rfl⟩

/-- A joining publishes nothing, and nobody who was there hears anything. A newcomer that joins
before the first publication hears nothing either. -/
theorem join_tells (feed : Feed K V) (name : Name) (react : Nat → Reaction) (h : c.Coherent)
    (hRegistered : c.Registered) :
    Tells [] c (c.join feed name react).1 ∧
      (c.join feed name react).1.shared.audience.nextId = c.shared.audience.nextId + 1 ∧
      (c.core.published = [] →
        (c.join feed name react).1.core.heard c.shared.audience.nextId = []) := by
  obtain ⟨t, hJoin, hStirs, hHeard⟩ := h.join_stirs feed name react
  have hNext : t.audience.nextId = c.shared.audience.nextId + 1 := hStirs.audience.nextId
  have hNumbered := (hRegistered.numbered.enrol name react).dwindles hStirs.audience
  have hPublished : t.around.published = c.core.published := hStirs.published
  rw [hJoin]
  refine ⟨⟨hPublished.trans (List.append_nil _).symm,
    ⟨⟨hNumbered.nodup, hNumbered.lt⟩, ?_⟩, ?_, ?_, ?_⟩, hNext, ?_⟩
  · intro id (hId : t.audience.nextId ≤ id)
    exact (hHeard id (Or.inl (by omega))).trans (hRegistered.unheard id (by omega))
  · change c.shared.audience.nextId ≤ t.audience.nextId
    omega
  · intro id hId hMember
    have hOld := hStirs.audience.ids.subset hMember
    rw [Scene.enrolled, Audience.ids_enrol, List.mem_append, List.mem_singleton] at hOld
    exact hOld.resolve_right (Nat.ne_of_lt hId)
  · intro id hId _
    exact (hHeard id (Or.inl (Nat.ne_of_lt hId))).trans (List.append_nil _).symm
  · intro hNone
    have hLatest : c.shared.audience.latest = none := by rw [h.latest, hNone]; rfl
    exact (hHeard _ (Or.inr hLatest)).trans (hRegistered.unheard _ (Nat.le_refl _))

/-! ### What is learned from a response -/

/-- A coherent cache that holds an index has published something. -/
theorem Coherent.ne_held (h : c.Coherent) {returned : Index}
    (hHeld : c.cursor.index = some returned → c.cursor.published = none) :
    c.cursor.index ≠ some returned := by
  intro hSome
  have hNone : c.core.published = [] :=
    List.getLast?_eq_none_iff.1 (h.held.symm.trans (hHeld hSome))
  cases (h.index hNone).symm.trans hSome

section

variable [DecidableEq K] [DecidableEq V] (feed : Feed K V)

/-- What becomes of the index held, and what is published, when a happening brings this response, or
none. -/
inductive Learns (c d : Cache K V) : Option (Response V) → List (Snapshot K V) → Prop where
  | nothing (index : d.cursor.index = c.cursor.index) : Learns c d none []
  | known {r : Response V} (hHeld : c.cursor.index = some r.index)
      (index : d.cursor.index = c.cursor.index) : Learns c d (some r) []
  | built {r : Response V} {s : Snapshot K V} (hHeld : c.cursor.index ≠ some r.index)
      (hBuild : (Snapshot.build feed.keyOf r.entries).outcome = .ok s)
      (index : d.cursor.index = Index.resume c.cursor.index r.index) :
      Learns c d (some r) (Snapshot.news c.core.published.getLast? [s])

/-- What passes, before or after, does not matter to what is learned. -/
theorem Learns.passes {c' d' : Cache K V} {r : Option (Response V)} {new : List (Snapshot K V)}
    (h : Learns feed c d r new) (hBefore : c'.Passes c) (hAfter : d.Passes d') :
    Learns feed c' d' r new := by
  have hIndex := congrArg Cursor.index hBefore.cursor
  have hIndex' := congrArg Cursor.index hAfter.cursor
  cases h with
  | nothing index => exact .nothing (hIndex'.trans (index.trans hIndex))
  | known hHeld index => exact .known (hIndex ▸ hHeld) (hIndex'.trans (index.trans hIndex))
  | built hHeld hBuild index =>
      rw [hBefore.published]
      exact .built (hIndex ▸ hHeld) hBuild (hIndex'.trans (hIndex ▸ index))

theorem news_of_held (h : c.Coherent) (s : Snapshot K V) :
    Snapshot.news c.core.published.getLast? [s] =
      if c.cursor.published.any (·.agrees s) then [] else [s] := by
  rw [h.held]
  cases c.core.published.getLast? with
  | none => rfl
  | some last => simp only [Snapshot.news, Option.any_some, Snapshot.agrees_iff_sameMap]

/-- Each way of taking a response tells what is learned from it. -/
theorem takes_tells (hKeys : ∀ v, ∃ k, feed.keyOf v = .ok k) {entries : List V} {returned : Index}
    {result : Cache K V × Except Panic CycleEnd} (h : c.Coherent) (hRegistered : c.Registered)
    (hTakes : Takes feed entries returned c result) (hCancelled : result.1.core.cancelled = false) :
    ∃ new, Tells new c result.1 ∧ Learns feed c result.1 (some ⟨entries, returned⟩) new := by
  cases hTakes with
  | dropped hTold => cases hTold.symm.trans hCancelled
  | skipped _ hHeld _ notes =>
      exact ⟨[], notes.toPasses.tells hRegistered,
        .known hHeld (congrArg Cursor.index notes.cursor)⟩
  | keyless _ _ hBuild _ =>
      obtain ⟨s, hOutcome⟩ := Snapshot.build_ok hKeys entries
      cases hBuild.symm.trans hOutcome
  | @settled _ _ candidate _ hHeld hBuild hAgrees notes hSettles =>
      have hNoted := notes.toPasses.tells hRegistered
      have hNews := news_of_held h candidate
      rw [if_pos hAgrees] at hNews
      refine ⟨_, (hNoted.trans (hSettles.tells hNoted.registered)), ?_⟩
      rw [List.append_nil, ← hNews]
      exact .built (h.ne_held hHeld) hBuild (congrArg Cursor.index hSettles.cursor)
  | @issued _ _ candidate _ hHeld hBuild hDiffers notes hIssues =>
      have hNoted := notes.toPasses.tells hRegistered
      have hNews := news_of_held h candidate
      rw [if_neg (by rw [hDiffers]; exact Bool.false_ne_true)] at hNews
      refine ⟨_, (hNoted.trans (hIssues.tells hCancelled hNoted.registered)), ?_⟩
      rw [List.nil_append, ← hNews]
      exact .built (h.ne_held hHeld) hBuild (congrArg Cursor.index hIssues.cursor)

theorem receive_tells (hKeys : ∀ v, ∃ k, feed.keyOf v = .ok k) (acts : List Act)
    (answer : Answer V) (h : c.Coherent) (hRegistered : c.Registered)
    (hCancelled : (c.receive feed acts answer).core.cancelled = false) :
    ∃ new, Tells new c (c.receive feed acts answer) ∧
      Learns feed c (c.receive feed acts answer) (c.response? (.answer acts answer)) new := by
  rcases receive_cases feed acts answer c with
    ⟨hNone, hPasses, _⟩ | ⟨r, hSome, hWorker, hAfter, _⟩
  · rw [hNone]
    exact ⟨[], hPasses.tells hRegistered, .nothing (congrArg Cursor.index hPasses.cursor)⟩
  · have hPhase : c.core.lifecycle.phase ≠ .latent := fun hLatent => hWorker (h.latent hLatent)
    have hActed := acted_passes feed acts c
    have hTellsActed := hActed.tells hRegistered
    have hCoherent := h.passes_of_not_latent hActed hPhase
    obtain ⟨new, hTells, hLearns⟩ := takes_tells feed hKeys hCoherent hTellsActed.registered
      (apply_takes feed r.entries r.index hCoherent.able)
      (hAfter.stirs.path.not_cancelled hCancelled)
    have hTellsAfter := hAfter.tells hTells.registered
    refine ⟨new, ?_, hSome ▸ hLearns.passes feed hActed hAfter⟩
    simpa using (hTellsActed.trans hTells).trans hTellsAfter

/-- One happening: what is published is what is learned, and the listeners hear it. -/
theorem happen_tells (hKeys : ∀ v, ∃ k, feed.keyOf v = .ok k) (happening : Happening V)
    (h : c.Coherent) (hRegistered : c.Registered)
    (hCancelled : (c.happen feed happening).core.cancelled = false) :
    ∃ new, Tells new c (c.happen feed happening) ∧
      Learns feed c (c.happen feed happening) (c.response? happening) new := by
  have hPassing {d : Cache K V} (hPasses : c.Passes d) (hNone : c.response? happening = none) :
      ∃ new, Tells new c d ∧ Learns feed c d (c.response? happening) new := by
    rw [hNone]
    exact ⟨[], hPasses.tells hRegistered, .nothing (congrArg Cursor.index hPasses.cursor)⟩
  cases happening with
  | start runtime =>
      obtain ⟨hTells, hCursor⟩ := start_tells feed runtime hRegistered
      exact ⟨[], hTells, .nothing (congrArg Cursor.index hCursor)⟩
  | stop => exact hPassing (stop_passes feed c) rfl
  | shutdown => exact hPassing (shutdown_passes feed c) rfl
  | join name react => exact ⟨[], (join_tells feed name react h hRegistered).1, .nothing rfl⟩
  | leave name => exact hPassing (leave_passes name c) rfl
  | answer acts answer => exact receive_tells feed hKeys acts answer h hRegistered hCancelled
  | elapse nanos => exact hPassing (elapse_passes nanos c) rfl
  | turn => exact hPassing (turn_passes feed c) rfl

/-! ### Runs -/

/-- The responses that come in time along a run, in order. -/
def responses : List (Happening V) → Cache K V → List (Response V)
  | [], _ => []
  | happening :: rest, c =>
    (c.response? happening).toList ++ responses rest (c.happen feed happening)

/-- A run of a cache that is not stopped at the end publishes the news among the snapshots of the
responses that are fresh, and who stays hears them. -/
theorem replay_tells (hKeys : ∀ v, ∃ k, feed.keyOf v = .ok k) (run : List (Happening V))
    (h : c.Coherent) (hRegistered : c.Registered)
    (hCancelled : (c.replay feed run).core.cancelled = false) :
    ∃ built : List (Snapshot K V),
      (Response.fresh c.cursor.index (responses feed run c)).map
          (fun r => (Snapshot.build feed.keyOf r.entries).outcome) = built.map Except.ok ∧
        Tells (Snapshot.news c.core.published.getLast? built) c (c.replay feed run) := by
  -- the index held and the snapshot published last are those of `c`, so a run can begin anywhere
  induction run generalizing c with
  | nil => exact ⟨[], rfl, tells_nothing hRegistered (.refl _) rfl fun _ => rfl⟩
  | cons happening rest ih =>
      have hNext := (h.happen feed happening).1
      have hStill := (hNext.replay feed rest).2.not_cancelled hCancelled
      obtain ⟨new, hTells, hLearns⟩ := happen_tells feed hKeys happening h hRegistered hStill
      obtain ⟨built, hBuilt, hRest⟩ := ih hNext hTells.registered hCancelled
      have hPublished := hTells.published
      have hAll := hTells.trans hRest
      rw [hPublished] at hAll
      rw [responses]
      cases hResponse : c.response? happening with
      | none =>
          rw [hResponse] at hLearns
          cases hLearns with
          | nothing index =>
              rw [index] at hBuilt
              simp only [List.append_nil, List.nil_append] at hAll
              exact ⟨built, hBuilt, hAll⟩
      | some r =>
          rw [hResponse] at hLearns
          cases hLearns with
          | known hHeld index =>
              rw [index] at hBuilt
              simp only [List.append_nil, List.nil_append] at hAll
              exact ⟨built, by simpa [Response.fresh, hHeld] using hBuilt, hAll⟩
          | @built _ s hHeld hBuild index =>
              refine ⟨s :: built, ?_, ?_⟩
              · rw [index] at hBuilt
                simp only [Option.toList_some, List.singleton_append, Response.fresh, hHeld,
                  if_false, List.map_cons, hBuild, hBuilt]
              · rw [Snapshot.news_cons]
                exact hAll

/-- Before a start on a runtime there is no worker, and no response comes. -/
theorem happen_absent {happening : Happening V} (hStart : happening ≠ .start true)
    (hWorker : c.worker = .absent) :
    (c.happen feed happening).worker = .absent ∧ c.response? happening = none := by
  have hNone : c.response? happening = none := by simp [response?, hWorker]
  refine ⟨?_, hNone⟩
  cases happening with
  | start runtime =>
      cases runtime with
      | false => exact hWorker
      | true => exact (hStart rfl).elim
  | shutdown =>
      have hStopped : (c.stop feed).worker = .absent := hWorker
      simp only [happen, shutdown, turn_of_absent feed hStopped, reportCrash, hStopped]
  | answer acts answer =>
      rw [happen, receive_of_not_fetching feed acts answer (by simp [hWorker])]
      exact hWorker
  | turn =>
      rw [happen, turn_of_absent feed hWorker]
      exact hWorker
  | _ => exact hWorker

theorem responses_of_not_started {run : List (Happening V)} (hStart : .start true ∉ run)
    (hWorker : c.worker = .absent) : responses feed run c = [] := by
  induction run generalizing c with
  | nil => rfl
  | cons happening rest ih =>
      rw [List.mem_cons, not_or] at hStart
      obtain ⟨hNext, hNone⟩ := happen_absent feed (Ne.symm hStart.1) hWorker
      rw [responses, hNone]
      exact ih hStart.2 hNext

theorem replay_append (first second : List (Happening V)) (c : Cache K V) :
    c.replay feed (first ++ second) = (c.replay feed first).replay feed second :=
  List.foldl_append

theorem responses_append (first second : List (Happening V)) (c : Cache K V) :
    responses feed (first ++ second) c =
      responses feed first c ++ responses feed second (c.replay feed first) := by
  induction first generalizing c with
  | nil => rfl
  | cons happening rest ih =>
      rw [List.cons_append, responses, responses, ih, List.append_assoc]
      rfl

/-- As long as a cache is not stopped, and if every entry has a key, the published snapshots are the
first of those built from fresh responses and each later one that is another map than the one
published just before it; readers get the last of them. A listener that joined before the start has
heard exactly these, in this order, if it is still there under the number it was given then. -/
theorem published_eq_news (hKeys : ∀ v, ∃ k, feed.keyOf v = .ok k) (run : List (Happening V))
    (hOpen : ((initial : Cache K V).replay feed run).core.lifecycle.phase ≠ .stopped) :
    let c := (initial : Cache K V).replay feed run
    (∃ built : List (Snapshot K V),
        (Response.fresh none (responses feed run (initial : Cache K V))).map
            (fun r => (Snapshot.build feed.keyOf r.entries).outcome) = built.map Except.ok ∧
          c.core.published = Snapshot.news none built) ∧
      c.snapshot = c.core.published.getLast?.getD .empty ∧
      ∀ before name react after, run = before ++ .join name react :: after →
        .start true ∉ before →
          let id := ((initial : Cache K V).replay feed before).shared.audience.nextId
          id ∈ c.shared.audience.ids → c.core.heard id = c.core.published := by
  intro c
  have hCoherent : c.Coherent := (Coherent.initial.replay feed run).1
  have hCancelled : c.core.cancelled = false := by
    have hTied : c.core.cancelled = c.core.lifecycle.isStopped := hCoherent.tied
    rw [hTied, Lifecycle.isStopped]
    simpa using hOpen
  refine ⟨?_, hCoherent.current, ?_⟩
  · obtain ⟨built, hBuilt, hTells⟩ :=
      replay_tells feed hKeys run Coherent.initial Registered.initial hCancelled
    exact ⟨built, hBuilt, hTells.published⟩
  · rintro before name react after rfl hStart id hMember
    let early := (initial : Cache K V).replay feed before
    let joined := (early.join feed name react).1
    have hSplit : c = joined.replay feed after := replay_append feed before _ _
    have hEarly := Coherent.initial.replay feed before
    have hJoined := hEarly.1.join feed name react
    have hPath := (hJoined.1.replay feed after).2
    rw [← hSplit] at hPath
    have hTellsEarly : Tells [] initial early := by
      obtain ⟨built, hBuilt, hTells⟩ := replay_tells feed hKeys before Coherent.initial
        Registered.initial (hJoined.2.not_cancelled (hPath.not_cancelled hCancelled))
      rw [responses_of_not_started feed hStart rfl] at hBuilt
      obtain rfl : built = [] := List.map_eq_nil_iff.1 hBuilt.symm
      exact hTells
    have hNone : early.core.published = [] := hTellsEarly.published
    obtain ⟨hTellsJoin, hNext, hUnheard⟩ :=
      join_tells feed name react hEarly.1 hTellsEarly.registered
    obtain ⟨built, _, hTells⟩ := replay_tells feed hKeys after hJoined.1 hTellsJoin.registered
      (hSplit ▸ hCancelled)
    rw [← hSplit] at hTells
    have hId : id < joined.shared.audience.nextId := by
      rw [hNext]
      exact Nat.lt_succ_self _
    rw [hTells.heard id hId hMember, hUnheard hNone, hTells.published, hTellsJoin.published, hNone]
    rfl

/-- The second response shows the first map again and the third another one; the fourth has the
index that is held and is dropped; after a failure an index goes back, and the map is empty. -/
theorem published_eq_news_of_numbers :
    let feed : Feed Nat Nat :=
      ⟨"numbers", fun n => .ok (n % 10), toString, .default, .blank, fun _ => .idle⟩
    let after : List (Happening Nat) := [.start true, .turn, .answer [] (.entries [7] ⟨5⟩),
      .answer [] (.entries [7] ⟨6⟩), .answer [] (.entries [17] ⟨7⟩), .answer [] (.entries [8] ⟨7⟩),
      .answer [] (.failed .noIndex), .elapse 10000000000, .turn, .answer [] (.entries [] ⟨2⟩)]
    let run := .join "a" (fun _ => .idle) :: after
    let c := (initial : Cache Nat Nat).replay feed run
    (∀ v, ∃ k, feed.keyOf v = .ok k) ∧ c.core.lifecycle.phase ≠ .stopped ∧
      .start true ∉ ([] : List (Happening Nat)) ∧ 0 ∈ c.shared.audience.ids ∧
      c.core.heard 0 = c.core.published ∧
      c.core.published.map Snapshot.entries = [[(7, 7)], [(7, 17)], []] := by
  intro feed after run c
  have hKeys : ∀ v, ∃ k, feed.keyOf v = .ok k := fun v => ⟨v % 10, rfl⟩
  have hOpen : c.core.lifecycle.phase ≠ .stopped := by decide +kernel
  have hMember : 0 ∈ c.shared.audience.ids := by decide +kernel
  have hPublished : c.core.published.map Snapshot.entries = [[(7, 7)], [(7, 17)], []] := by
    decide +kernel
  have hRun : c = (initial : Cache Nat Nat).replay feed run := rfl
  have hLaw := published_eq_news feed hKeys run (hRun ▸ hOpen)
  rw [← hRun] at hLaw
  have hHeard := hLaw.2.2 [] "a" _ after rfl List.not_mem_nil hMember
  exact ⟨hKeys, hOpen, List.not_mem_nil, hMember, hHeard, hPublished⟩

end

end Cache

end LongPoll
