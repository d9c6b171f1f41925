import LongPoll.Proofs.Cache.Likeness
import LongPoll.Proofs.Cache.Requests

/-!
The order of the entries in a response.

Two runs that differ in the order of entries go side by side, as long as no key comes twice in a
response that is rearranged. The snapshots are the same maps, so the comparison with the snapshot
published last decides alike. Where keys panic, the order decides which panic tears the worker down;
that is all that can ever tell the two runs apart.
-/

namespace LongPoll

variable {K V : Type} [DecidableEq K]

/-- The two happenings are the same, but for the order of the entries of a response in which no key
comes twice. -/
inductive Happening.Rearranges (keyOf : V → Except Panic K) : Happening V → Happening V → Prop where
  | same (happening : Happening V) : Rearranges keyOf happening happening
  | response (acts : List Act) (index : Index) {list list' : List V}
      (hDistinct : Snapshot.Distinct keyOf list) (hPerm : list.Perm list') :
      Rearranges keyOf (.answer acts (.entries list index)) (.answer acts (.entries list' index))

/-- The two events are the same, but for the order in snapshots and for the panic that tore a worker
down. -/
inductive Event.Resembles (feed : Feed K V) : Event K V → Event K V → Prop where
  | like {e e' : Event K V} (h : e.Like Snapshot.SameMap e') : Resembles feed e e'
  | torn (p q : Panic) : Resembles feed
      (.log (feed.record .warn "Poll loop ended abnormally" [("error", Cache.crashText p)]))
      (.log (feed.record .warn "Poll loop ended abnormally" [("error", Cache.crashText q)]))

/-- What is read off two histories that resemble each other is related if that holds of what is read
off two events. -/
theorem Event.collect_resembles {feed : Feed K V} {β : Type} {rel : β → β → Prop}
    {f : Event K V → Option β}
    (hEvent : ∀ e e', Event.Resembles feed e e' → Option.Rel rel (f e) (f e'))
    {past past' : List (Event K V)} (h : List.Forall₂ (Event.Resembles feed) past past') :
    List.Forall₂ rel (Event.collect f past) (Event.collect f past') := by
  induction h with
  | nil => exact .nil
  | @cons e e' _ _ hHead _ ih =>
      rw [Event.collect_cons, Event.collect_cons]
      refine List.rel_append ih ?_
      have hRead := hEvent e e' hHead
      generalize f e = x at hRead
      generalize f e' = y at hRead
      cases hRead with
      | none => exact .nil
      | some hRel => exact .cons hRel .nil

variable [DecidableEq V]

namespace Cache

/-- Snapshots count as the same if they are the same map, and events resemble each other. -/
def regardless (feed : Feed K V) : Likeness K V where
  same := Snapshot.SameMap
  exact := True
  inStep := List.Forall₂ (Event.Resembles feed)
  refl _ _ := rfl
  size h := h.size
  agrees {s t s' t'} h h' := by
    rw [Bool.eq_iff_iff, Snapshot.agrees_iff_sameMap, Snapshot.agrees_iff_sameMap]
    constructor
    · intro hSame k
      rw [← h k, hSame k, h' k]
    · intro hSame k
      rw [h k, hSame k, h' k]
  note hEvent h := .cons (.like hEvent) h

variable {feed : Feed K V} {c d : Cache K V}

/-- The two caches are the same but for the order in snapshots, and for the panic if both workers
are torn down. -/
structure Matches (feed : Feed K V) (c d : Cache K V) : Prop where
  alike : Alike (regardless feed) c (d.becomes c.worker)
  worker : d.worker = c.worker ∨ (∃ p, c.worker = .crashed p) ∧ ∃ q, d.worker = .crashed q

namespace Matches

theorem of_alike (h : Alike (regardless feed) c d) : Matches feed c d where
  alike := h.becomes c.worker
  worker := Or.inl (h.worker trivial)

/-- Unless both workers are torn down, the caches are alike. -/
theorem cases (h : Matches feed c d) :
    Alike (regardless feed) c d ∨ (∃ p, c.worker = .crashed p) ∧ ∃ q, d.worker = .crashed q := by
  refine h.worker.imp_left fun hWorker => ?_
  have hSame : d.becomes c.worker = d := by rw [← hWorker]; rfl
  exact hSame ▸ h.alike

theorem crash (h : Alike (regardless feed) c d) (p q : Panic) :
    Matches feed (c.crash p) (d.crash q) where
  alike := h.becomes (.crashed p)
  worker := Or.inr ⟨⟨p, rfl⟩, q, rfl⟩

end Matches

/-! ### Rearranged responses -/

variable {list list' : List V}

/-- Which panic a key meets decides only by which panic the worker is torn down. -/
theorem apply_of_panics {keys : List K} {p q : Panic}
    (hBuild : Snapshot.build feed.keyOf list = ⟨keys, .error p⟩)
    (hBuild' : Snapshot.build feed.keyOf list' = ⟨keys, .error q⟩) (returned : Index)
    (c : Cache K V) :
    (c.apply feed list' returned).1 = (c.apply feed list returned).1 ∧
      ((c.apply feed list' returned).2 = (c.apply feed list returned).2 ∨
        (c.apply feed list returned).2 = .error p ∧
          (c.apply feed list' returned).2 = .error q) := by
  have hAbsorb (next : Option Index) (d : Cache K V) :
      (d.absorb feed list' next).1 = (d.absorb feed list next).1 ∧
        (d.absorb feed list next).2 = .error p ∧ (d.absorb feed list' next).2 = .error q := by
    simp only [absorb, hBuild, hBuild', and_self]
  have hAll (next : Option Index) (d : Cache K V) :
      (d.absorb feed list' next).1 = (d.absorb feed list next).1 ∧
        ((d.absorb feed list' next).2 = (d.absorb feed list next).2 ∨
          (d.absorb feed list next).2 = .error p ∧
            (d.absorb feed list' next).2 = .error q) :=
    ⟨(hAbsorb next d).1, Or.inr (hAbsorb next d).2⟩
  unfold apply
  split
  · exact ⟨rfl, Or.inl rfl⟩
  · dsimp only
    split
    · split
      · exact ⟨rfl, Or.inl rfl⟩
      · exact hAll _ _
    · exact hAll _ _
    · exact hAll _ _

/-- A rearranged response is taken in the same way, or tears the worker down by another panic. -/
theorem apply_rearranged (h : Alike (regardless feed) c d)
    (hDistinct : Snapshot.Distinct feed.keyOf list) (hPerm : list.Perm list') (returned : Index) :
    Alike (regardless feed) (c.apply feed list returned).1 (d.apply feed list' returned).1 ∧
      ((d.apply feed list' returned).2 = (c.apply feed list returned).2 ∨
        ∃ p q, (c.apply feed list returned).2 = .error p ∧
          (d.apply feed list' returned).2 = .error q) := by
  obtain ⟨hNone, hNone', ⟨p, q, hError, hError'⟩ | ⟨s, t, hOk, hOk', hSame⟩⟩ :=
    Snapshot.build_perm hDistinct hPerm
  · have hBuild : Snapshot.build feed.keyOf list = ⟨[], .error p⟩ := by rw [← hNone, ← hError]
    have hBuild' : Snapshot.build feed.keyOf list' = ⟨[], .error q⟩ := by rw [← hNone', ← hError']
    obtain ⟨hState, hEnd⟩ := apply_of_panics hBuild hBuild' returned d
    obtain ⟨hAlike, hSameEnd⟩ := h.apply (Likeness.Builds.refl list) returned
    rw [hState]
    refine ⟨hAlike, ?_⟩
    rcases hEnd with hEnd | ⟨hEnd, hEnd'⟩
    · exact Or.inl (hEnd.trans hSameEnd)
    · exact Or.inr ⟨p, q, hSameEnd.symm.trans hEnd, hEnd'⟩
  · have hBuilds : (regardless feed).Builds feed list list' := by
      refine ⟨hNone'.trans hNone.symm, ?_⟩
      rw [hOk, hOk']
      exact hSame
    obtain ⟨hAlike, hEnd⟩ := h.apply hBuilds returned
    exact ⟨hAlike, Or.inl hEnd⟩

omit [DecidableEq K] [DecidableEq V] in
theorem conclude_of_error (cycle : Cycle) {taken : Cache K V × Except Panic CycleEnd} {p : Panic}
    (h : taken.2 = .error p) : conclude feed cycle taken = taken.1.crash p := by
  obtain ⟨c, outcome⟩ := taken
  cases h
  rfl

theorem receive_rearranged (h : Alike (regardless feed) c d) (acts : List Act)
    (hDistinct : Snapshot.Distinct feed.keyOf list) (hPerm : list.Perm list') (index : Index) :
    Matches feed (c.receive feed acts (.entries list index))
      (d.receive feed acts (.entries list' index)) := by
  have hWorker : d.worker = c.worker := h.worker trivial
  have hNow : d.core.now = c.core.now := h.core.now trivial
  by_cases hFetching : ∃ cycle limit, c.worker = .fetching cycle limit
  · obtain ⟨cycle, limit, hHere⟩ := hFetching
    rw [receive_of_fetching feed acts _ hHere,
      receive_of_fetching feed acts _ (hWorker.trans hHere), hNow]
    split
    · exact .of_alike (h.turn trivial)
    · have hTaken := apply_rearranged (h.acted feed acts) hDistinct hPerm index
      change Matches feed (conclude feed cycle ((c.acted feed acts).apply feed list index))
        (conclude feed cycle ((d.acted feed acts).apply feed list' index))
      obtain ⟨hAlike, hEnd | ⟨p, q, hEnd, hEnd'⟩⟩ := hTaken
      · exact .of_alike (Alike.conclude trivial cycle hAlike hEnd)
      · rw [conclude_of_error cycle hEnd, conclude_of_error cycle hEnd']
        exact .crash hAlike p q
  · have hNot (cycle : Cycle) (limit : Option Duration) : c.worker ≠ .fetching cycle limit :=
      fun hHere => hFetching ⟨cycle, limit, hHere⟩
    rw [receive_of_not_fetching feed acts _ hNot,
      receive_of_not_fetching feed acts _ (hWorker ▸ hNot)]
    exact .of_alike h

/-! ### Torn down workers -/

namespace Matches

theorem start_of_crashed (h : Matches feed c d) {p : Panic} (hWorker : c.worker = .crashed p)
    (hCoherent : c.Coherent) (runtime : Bool) :
    Matches feed (c.start feed runtime).1 (d.start feed runtime).1 := by
  have hPhase : c.core.lifecycle.phase ≠ .latent := by
    intro hLatent
    rw [hCoherent.latent hLatent] at hWorker
    cases hWorker
  have hLifecycle : d.core.lifecycle = c.core.lifecycle := h.alike.core.lifecycle
  rcases start_cases feed runtime c with ⟨hLatent, _⟩ | ⟨hSame, _⟩
  · exact (hPhase hLatent).elim
  · rcases start_cases feed runtime d with ⟨hLatent, _⟩ | ⟨hSame', _⟩
    · exact (hPhase (hLifecycle ▸ hLatent)).elim
    · rw [hSame, hSame']
      exact h

theorem shutdown_of_crashed (h : Matches feed c d) {p q : Panic} (hWorker : c.worker = .crashed p)
    (hWorker' : d.worker = .crashed q) : Matches feed (c.shutdown feed) (d.shutdown feed) := by
  have hStopped := h.alike.acted feed [.stop]
  have hTold := hStopped.core.history
  rw [Cache.shutdown_of_crashed hWorker, Cache.shutdown_of_crashed hWorker']
  exact .of_alike
    { hStopped with
      shared :=
        ⟨{ hStopped.core with history := .cons (.torn p q) hTold }, hStopped.shared.audience⟩
      worker := fun _ => rfl }

/-- Whatever happens to two caches whose workers are torn down, they go on to match. -/
theorem happen_of_crashed (h : Matches feed c d) (hCoherent : c.Coherent) {p q : Panic}
    (hWorker : c.worker = .crashed p) (hWorker' : d.worker = .crashed q) (happening : Happening V) :
    Matches feed (c.happen feed happening) (d.happen feed happening) := by
  have hTorn : (∃ p, c.worker = .crashed p) ∧ ∃ q, d.worker = .crashed q :=
    ⟨⟨p, hWorker⟩, q, hWorker'⟩
  cases happening with
  | start runtime => exact h.start_of_crashed hWorker hCoherent runtime
  | stop => exact ⟨h.alike.acted feed [.stop], Or.inr hTorn⟩
  | shutdown => exact h.shutdown_of_crashed hWorker hWorker'
  | join name react => exact ⟨h.alike.join name react, Or.inr hTorn⟩
  | leave name => exact ⟨h.alike.leave name, Or.inr hTorn⟩
  | answer acts answer =>
      rw [happen, happen, receive_of_crashed hWorker, receive_of_crashed hWorker']
      exact h
  | elapse nanos =>
      exact ⟨h.alike.happen trivial (.same (.elapse nanos)), Or.inr hTorn⟩
  | turn =>
      simp only [happen, turn, hWorker, hWorker']
      exact h

/-! ### Runs -/

variable {happening happening' : Happening V}

theorem happen (h : Matches feed c d) (hCoherent : c.Coherent)
    (hHappening : happening.Rearranges feed.keyOf happening') :
    Matches feed (c.happen feed happening) (d.happen feed happening') := by
  rcases h.cases with hAlike | ⟨⟨p, hWorker⟩, q, hWorker'⟩
  · cases hHappening with
    | same => exact .of_alike (hAlike.happen trivial (.same happening))
    | response acts index hDistinct hPerm =>
        exact receive_rearranged hAlike acts hDistinct hPerm index
  · cases hHappening with
    | same => exact h.happen_of_crashed hCoherent hWorker hWorker' happening
    | response acts index _ _ =>
        rw [Cache.happen, Cache.happen, receive_of_crashed hWorker, receive_of_crashed hWorker']
        exact h

/-- Two runs that differ in the order of entries go side by side. -/
theorem replay {run run' : List (Happening V)} (h : Matches feed c d) (hCoherent : c.Coherent)
    (hRun : List.Forall₂ (Happening.Rearranges feed.keyOf) run run') :
    Matches feed (c.replay feed run) (d.replay feed run') := by
  induction hRun generalizing c d with
  | nil => exact h
  | cons hHappening _ ih =>
      exact ih (h.happen hCoherent hHappening) (hCoherent.happen feed _).1

end Matches

/-! ### What can be told of two caches -/

/-- The two caches cannot be told apart but by the order in snapshots, and by the panic if their
workers are torn down. -/
structure Tallies (feed : Feed K V) (c d : Cache K V) : Prop where
  snapshot : c.snapshot.SameMap d.snapshot
  stats : d.core.stats = c.core.stats
  lifecycle : d.core.lifecycle = c.core.lifecycle
  cancelled : d.core.cancelled = c.core.cancelled
  now : d.core.now = c.core.now
  /-- The index that the next query carries. -/
  index : d.cursor.index = c.cursor.index
  /-- The requests that were sent, and the cycles that failed. -/
  seen : d.core.seen = c.core.seen
  published : List.Forall₂ Snapshot.SameMap c.core.published d.core.published
  heard : ∀ id, List.Forall₂ Snapshot.SameMap (c.core.heard id) (d.core.heard id)
  /-- The listeners, with the number of their calls. -/
  members : d.shared.audience.members = c.shared.audience.members
  events : List.Forall₂ (Event.Resembles feed) c.core.events d.core.events

omit [DecidableEq V] in
theorem signal?_resembles {e e' : Event K V} (h : e.Resembles feed e') :
    Option.Rel Eq e.signal? e'.signal? := by
  have hSame : e.signal? = e'.signal? := by
    rcases h with hLike | _
    · cases hLike <;> rfl
    · rfl
  rw [hSame]
  cases e'.signal? with
  | none => exact .none
  | some _ => exact .some rfl

theorem Alike.tallies (h : Alike (regardless feed) c d) : Tallies feed c d where
  snapshot := h.core.current
  stats := by
    have hStats := h.core.stats
    exact Stats.ext hStats.succeeded (hStats.failed trivial) hStats.unchanged hStats.published
      hStats.lastIndex (hStats.lastContact trivial)
  lifecycle := h.core.lifecycle
  cancelled := h.core.cancelled
  now := h.core.now trivial
  index := h.index
  seen := by
    have hSeen := Event.collect_resembles (fun _ _ => signal?_resembles) h.core.history
    rw [List.forall₂_eq_eq_eq] at hSeen
    exact hSeen.symm
  published := by
    refine Event.collect_resembles (fun e e' hEvent => ?_) h.core.history
    rcases hEvent with hLike | _
    · cases hLike with
      | published hSame => exact .some hSame
      | same =>
          cases e with
          | published s => exact .some fun _ => rfl
          | _ => exact .none
      | _ => exact .none
    · exact .none
  heard id := by
    refine Event.collect_resembles (fun e e' hEvent => ?_) h.core.history
    rcases hEvent with hLike | _
    · cases hLike with
      | notified listener call hSame =>
          dsimp only [Event.heardBy]
          split
          · exact .some hSame
          · exact .none
      | same =>
          cases e.heardBy id with
          | none => exact .none
          | some s => exact .some fun _ => rfl
      | _ => exact .none
    · exact .none
  members := h.shared.audience.members
  events := h.core.history

/-- The order of entries in responses does not matter as long as no key comes twice in a response
that is rearranged. At each moment of two such runs the caches have published the same maps, told
them to the same listeners as often, sent the same requests and counted the same; and whatever
response comes next, in whatever order, is taken in the same way. Only which panic tears a worker
down can differ. -/
theorem replay_rearranged (feed : Feed K V) {run run' : List (Happening V)}
    (hRun : List.Forall₂ (Happening.Rearranges feed.keyOf) run run') (n : Nat) :
    let c := (initial : Cache K V).replay feed (run.take n)
    let d := (initial : Cache K V).replay feed (run'.take n)
    Tallies feed c d ∧
      (d.worker = c.worker ∨ (∃ p, c.worker = .crashed p) ∧ ∃ q, d.worker = .crashed q) ∧
      (c.worker.IsWaiting → ∀ (acts : List Act) (list list' : List V) (index : Index),
        Snapshot.Distinct feed.keyOf list → list.Perm list' →
          let taken := (c.acted feed acts).apply feed list index
          let taken' := (d.acted feed acts).apply feed list' index
          Tallies feed taken.1 taken'.1 ∧
            (taken'.2 = taken.2 ∨ ∃ p q, taken.2 = .error p ∧ taken'.2 = .error q)) := by
  intro c d
  have hInitial : Alike (regardless feed) (initial : Cache K V) initial :=
    { shared := ⟨⟨rfl, rfl, rfl, fun _ => rfl, fun _ => rfl,
        ⟨rfl, rfl, rfl, rfl, fun _ => rfl, fun _ => rfl⟩, .nil⟩, ⟨rfl, .none, rfl, rfl, rfl⟩⟩
      index := rfl
      published := .none
      worker := fun _ => rfl }
  have hMatches : Matches feed c d :=
    (Matches.of_alike hInitial).replay .initial (List.forall₂_take n hRun)
  have hTallies : Tallies feed c d := { hMatches.alike.tallies with }
  refine ⟨hTallies, hMatches.worker, ?_⟩
  intro hWaiting acts list list' index hDistinct hPerm taken taken'
  rcases hMatches.cases with hAlike | ⟨⟨p, hWorker⟩, _⟩
  · obtain ⟨hTaken, hEnd⟩ := apply_rearranged (hAlike.acted feed acts) hDistinct hPerm index
    exact ⟨hTaken.tallies, hEnd⟩
  · rw [hWorker] at hWaiting
    exact hWaiting.elim

/-- Both responses are rearranged, and the second has news in an old place. -/
theorem replay_rearranged_of_numbers :
    let feed : Feed Nat Nat :=
      ⟨"numbers", fun n => .ok (n % 10), toString, .default, .blank, fun _ => .idle⟩
    let run (first second : List Nat) : List (Happening Nat) :=
      [.join "a" fun _ => .idle, .start true, .turn, .answer [] (.entries first ⟨5⟩),
        .answer [] (.entries second ⟨6⟩)]
    let c := (initial : Cache Nat Nat).replay feed (run [7, 18] [7, 28])
    let d := (initial : Cache Nat Nat).replay feed (run [18, 7] [28, 7])
    List.Forall₂ (Happening.Rearranges feed.keyOf) (run [7, 18] [7, 28]) (run [18, 7] [28, 7]) ∧
      Tallies feed c d ∧ c.core.stats.published = 2 ∧
      (c.core.heard 0).map Snapshot.entries = [[(7, 7), (8, 18)], [(7, 7), (8, 28)]] ∧
      (d.core.heard 0).map Snapshot.entries = [[(8, 18), (7, 7)], [(8, 28), (7, 7)]] := by
  intro feed run c d
  have hDistinct {list : List Nat} (hKeys : (list.map (· % 10)).Nodup) :
      Snapshot.Distinct feed.keyOf list := Snapshot.distinct_iff_nodup.2 hKeys
  have hRun : List.Forall₂ (Happening.Rearranges feed.keyOf) (run [7, 18] [7, 28])
      (run [18, 7] [28, 7]) :=
    .cons (.same _) (.cons (.same _) (.cons (.same _)
      (.cons (.response [] ⟨5⟩ (hDistinct (by decide)) (.swap 18 7 []))
        (.cons (.response [] ⟨6⟩ (hDistinct (by decide)) (.swap 28 7 [])) .nil))))
  exact ⟨hRun, (replay_rearranged feed hRun 5).1, by decide +kernel, by decide +kernel,
    by decide +kernel⟩

end Cache

end LongPoll
