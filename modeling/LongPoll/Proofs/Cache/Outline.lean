import LongPoll.Proofs.Cache.Comments
import LongPoll.Proofs.Cache.Failures
import LongPoll.Proofs.Cache.Shortcut

/-!
The outline of a history.

The outline leaves out what callbacks comment, how cycles end, and what the log hears by the way. It
keeps which cycles began, what they asked, which failures were reported, which keys were repeated
and what was published. A cycle opens in one way, whatever led to it; apart from that only answers
and time limits add to the outline.
-/

namespace LongPoll

variable {K V : Type}

namespace Event

/-- What the log hears of the worker by the way. -/
def notices : List String :=
  ["Watch cache starting", "Poll loop started", "Poll loop exited", "Poll loop ended abnormally",
    "Poll cycle complete", "Watch cache initialized", "Published snapshot",
    "Failed to publish snapshot", "Index went backwards, restarting the watch without an index"]

/-- The events that an outline keeps. -/
def isMajor : Event K V → Bool
  | .began _ | .asked _ _ | .published _ | .reported _ _ _ => true
  | .log r => r.message ∉ remarks ∧ r.message ∉ notices
  | _ => false

theorem isMajor_comment {e : Event K V} (h : e.IsComment) : e.isMajor = false := by
  cases e with
  | log r =>
      have hRemark : r.message ∈ remarks := h
      simp [isMajor, hRemark]
  | notified | removed | observed => rfl
  | _ => exact h.elim

theorem isMajor_notice {r : LogRecord} (h : r.message ∈ notices) :
    (Event.log r : Event K V).isMajor = false := by
  simp [isMajor, h]

theorem isMajor_of_isReport {feed : Feed K V} {e : Event K V} (h : e.isReport feed = true) :
    e.isMajor = true := by
  cases e with
  | reported => rfl
  | log r =>
      have hText : r.message = Cache.failureMessage feed := by simpa [isReport] using h
      have hHead : r.message.toList.head? = some 'E' := by
        rw [hText]
        exact Cache.head_failureMessage feed
      have hOther {text : String} (hMinor : text ∈ remarks ∨ text ∈ notices) :
          text.toList.head? ≠ some 'E' := by
        simp only [remarks, notices, List.mem_cons, List.not_mem_nil, or_false] at hMinor
        rcases hMinor with (rfl | rfl | rfl | rfl | rfl) |
          (rfl | rfl | rfl | rfl | rfl | rfl | rfl | rfl | rfl) <;> simp
      have hRemark : r.message ∉ remarks := fun hMinor => hOther (Or.inl hMinor) hHead
      have hNotice : r.message ∉ notices := fun hMinor => hOther (Or.inr hMinor) hHead
      simp [isMajor, hRemark, hNotice]
  | _ => cases h

theorem isMajor_ofFailure (feed : Feed K V) (fault : Fault) :
    (Event.ofFailure feed.settings.errorLog (Cache.failureMessage feed) fault :
      Event K V).isMajor = true :=
  isMajor_of_isReport (isReport_ofFailure feed fault)

/-- To read off the events of some kinds is to filter them. -/
theorem collect_of_keep (keep : Event K V → Bool) (events : List (Event K V)) :
    collect (fun e => if keep e then some e else none) events = events.reverse.filter keep := by
  unfold collect
  induction events.reverse with
  | nil => rfl
  | cons e rest ih => cases hKeep : keep e <;> simp [hKeep, ih]

/-- The warning that a key was found again. -/
def repeatWarning (feed : Feed K V) (k : K) : Event K V :=
  .log (Snapshot.repeatedRecord feed.showKey k)

theorem isMajor_of_isRepeatWarning {e : Event K V} (h : e.isRepeatWarning = true) :
    e.isMajor = true := by
  cases e with
  | log r =>
      have hText : r.message = "Duplicate key in response, keeping the first occurrence" := by
        simpa [isRepeatWarning] using h
      simp [isMajor, hText, remarks, notices]
  | _ => cases h

theorem isRepeatWarning_repeatWarning (feed : Feed K V) (k : K) :
    (repeatWarning feed k).isRepeatWarning = true := by
  simp [repeatWarning, isRepeatWarning, Snapshot.repeatedRecord]

theorem isRepeatWarning_ofFailure (feed : Feed K V) (fault : Fault) :
    (Event.ofFailure feed.settings.errorLog (Cache.failureMessage feed) fault :
      Event K V).isRepeatWarning = false := by
  have hText : Cache.failureMessage feed ≠
      "Duplicate key in response, keeping the first occurrence" :=
    (Cache.ne_failureMessage feed (by simp)).symm
  cases feed.settings.errorLog <;> simp [ofFailure, isRepeatWarning, hText]

end Event

namespace Core

variable {c d : Core K V}

/-- The outline of what happened so far, in order. -/
def outline (c : Core K V) : List (Event K V) :=
  Event.collect (fun e => if e.isMajor then some e else none) c.events

theorem outline_record (e : Event K V) (c : Core K V) :
    (c.record e).outline = c.outline ++ if e.isMajor then [e] else [] := by
  refine (Event.collect_cons e c.events).trans ?_
  cases e.isMajor <;> rfl

theorem Comments.outline_eq (h : c.Comments d) : d.outline = c.outline := by
  induction h with
  | refl => rfl
  | note _ e hComment ih =>
      rw [outline_record, Event.isMajor_comment hComment, ih]
      exact List.append_nil _
  | stop _ ih => exact ih

theorem mem_outline {e : Event K V} (h : e ∈ c.events) (hMajor : e.isMajor = true) :
    e ∈ c.outline :=
  List.mem_filterMap.2 ⟨e, List.mem_reverse.2 h, if_pos hMajor⟩

theorem mem_published_iff {s : Snapshot K V} : s ∈ c.published ↔ .published s ∈ c.events := by
  unfold published Event.collect
  rw [List.mem_filterMap]
  constructor
  · rintro ⟨e, hMember, hEvent⟩
    cases e with
    | published t =>
        cases hEvent
        exact List.mem_reverse.1 hMember
    | _ => cases hEvent
  · intro hMember
    exact ⟨_, List.mem_reverse.2 hMember, rfl⟩

/-- What an outline keeps can be read off it. -/
theorem filter_outline {keep : Event K V → Bool} (hMajor : ∀ e, keep e = true → e.isMajor = true)
    (c : Core K V) : c.outline.filter keep = c.events.reverse.filter keep := by
  rw [outline, Event.collect_of_keep, List.filter_filter]
  refine List.filter_congr fun e _ => ?_
  cases hKeep : keep e with
  | true => simp [hMajor e hKeep]
  | false => rfl

theorem countP_outline {keep : Event K V → Bool} (hMajor : ∀ e, keep e = true → e.isMajor = true)
    (c : Core K V) : c.outline.countP keep = c.events.countP keep := by
  rw [List.countP_eq_length_filter, filter_outline hMajor, List.filter_reverse,
    List.length_reverse, ← List.countP_eq_length_filter]

end Core

/-- How a cycle opens. It asks its query; where none can be made it fails, and where the time limit
is out of range it gets no further. -/
def Feed.opening (feed : Feed K V) (cycle : Cycle) : List (Event K V) :=
  .began cycle ::
    match feed.base.forCycle cycle.requested feed.settings.watchSeconds with
    | .error fault => [.ofFailure feed.settings.errorLog (Cache.failureMessage feed) fault]
    | .ok query =>
      match feed.settings.readLimit with
      | .error _ => []
      | .ok limit => [.asked query limit]

theorem Feed.mem_opening {feed : Feed K V} {cycle : Cycle} {e : Event K V}
    (h : e ∈ feed.opening cycle) :
    e = .began cycle ∨
      (∃ fault, e = .ofFailure feed.settings.errorLog (Cache.failureMessage feed) fault) ∨
      ∃ query limit, feed.base.forCycle cycle.requested feed.settings.watchSeconds = .ok query ∧
        feed.settings.readLimit = .ok limit ∧ e = .asked query limit := by
  unfold opening at h
  rw [List.mem_cons] at h
  refine h.imp_right fun hRest => ?_
  cases hQuery : feed.base.forCycle cycle.requested feed.settings.watchSeconds with
  | error fault =>
      rw [hQuery] at hRest
      exact Or.inl ⟨fault, List.mem_singleton.1 hRest⟩
  | ok query =>
      rw [hQuery] at hRest
      cases hLimit : feed.settings.readLimit with
      | error overflow =>
          rw [hLimit] at hRest
          cases hRest
      | ok limit =>
          rw [hLimit] at hRest
          exact Or.inr ⟨query, limit, rfl, rfl, List.mem_singleton.1 hRest⟩

namespace Cache

variable {c d e : Cache K V} {new more : List (Event K V)}

/-- The outline grew by these events. -/
def Adds (new : List (Event K V)) (c d : Cache K V) : Prop :=
  d.core.outline = c.core.outline ++ new

namespace Adds

theorem refl (c : Cache K V) : Adds [] c c := (List.append_nil _).symm

theorem trans (h : Adds new c d) (h' : Adds more d e) : Adds (new ++ more) c e := by
  unfold Adds at *
  rw [h', h, List.append_assoc]

/-- Adding nothing more. -/
theorem still (h : Adds new c d) (h' : Adds [] d e) : Adds new c e := by
  have hAll := h.trans h'
  rwa [List.append_nil] at hAll

/-- Nothing was added before. -/
theorem after (h : Adds [] c d) (h' : Adds new d e) : Adds new c e := h.trans h'

theorem becomes (h : Adds new c d) (worker : Worker) : Adds new c (d.becomes worker) := h

end Adds

theorem comments_adds (h : c.core.Comments d.core) : Adds [] c d :=
  h.outline_eq.trans (List.append_nil _).symm

theorem record_adds {e : Event K V} (hMajor : e.isMajor = true) (c : Cache K V) :
    Adds [e] c (c.record e) := by
  refine (c.core.outline_record e).trans ?_
  rw [hMajor]
  rfl

theorem record_adds_nothing {e : Event K V} (hMinor : e.isMajor = false) (c : Cache K V) :
    Adds [] c (c.record e) := by
  refine (c.core.outline_record e).trans ?_
  rw [hMinor]
  rfl

theorem notice_adds {r : LogRecord} (h : r.message ∈ Event.notices) (c : Cache K V) :
    Adds [] c (c.log r) :=
  record_adds_nothing (Event.isMajor_notice h) c

variable (feed : Feed K V)

theorem exit_adds (c : Cache K V) : Adds [] c (c.exit feed) :=
  (notice_adds (by simp [Feed.record, Event.notices]) c).becomes .ended

theorem noteEnd_adds (cycle : Cycle) (how : CycleEnd) (c : Cache K V) :
    Adds [] c (c.noteEnd feed cycle how) :=
  (record_adds_nothing (e := .ended cycle how) rfl c).trans
    (notice_adds (by simp [cycleRecord, Feed.record, Event.notices]) _)

theorem abandon_adds (c : Cache K V) : Adds [] c c.abandon :=
  record_adds_nothing (e := .abandoned _) rfl c

theorem reportCrash_adds (c : Cache K V) : Adds [] c (c.reportCrash feed) := by
  unfold reportCrash
  split
  · exact (notice_adds (by simp [Feed.record, Event.notices]) c).becomes .ended
  · exact .refl c

theorem start_adds (runtime : Bool) (c : Cache K V) : Adds [] c (c.start feed runtime).1 := by
  rcases start_cases feed runtime c with ⟨_, hStart⟩ | ⟨hStart, _⟩
  · rw [hStart]
    exact notice_adds (by simp [Feed.record, Event.notices]) c.begun
  · rw [hStart]
    exact .refl c

/-! ### The worker -/

/-- A failure is reported, whatever its callback does. -/
theorem fail_adds (cycle : Cycle) (fault : Fault) (c : Cache K V) :
    Adds [.ofFailure feed.settings.errorLog (failureMessage feed) fault] c
      (c.fail feed cycle fault) := by
  have hHeeded : Adds [.ofFailure feed.settings.errorLog (failureMessage feed) fault] c
      (c.heeded feed fault) :=
    (record_adds (Event.isMajor_ofFailure feed fault)
      (c.count fun s => { s with failed := s.failed + 1 })).still
        (comments_adds (heeded_comments feed fault c))
  rcases fail_cases feed cycle fault c with ⟨p, _, hFail⟩ | ⟨_, hFail⟩ | ⟨_, hFail⟩
  · rw [hFail]
    exact hHeeded.becomes _
  · rw [hFail]
    exact (hHeeded.still (noteEnd_adds feed cycle .failed _)).still (exit_adds feed _)
  · rw [hFail]
    exact (hHeeded.still (noteEnd_adds feed cycle .failed _)).becomes _

theorem beginCycle_adds (c : Cache K V) :
    Adds (feed.opening ⟨c.cursor.index, c.core.now⟩) c (c.beginCycle feed) := by
  have hBegan : Adds [.began ⟨c.cursor.index, c.core.now⟩] c
      (c.record (.began ⟨c.cursor.index, c.core.now⟩)) := record_adds rfl c
  dsimp only [beginCycle, Feed.opening]
  cases feed.base.forCycle c.cursor.index feed.settings.watchSeconds with
  | error fault => exact hBegan.trans (fail_adds feed _ fault _)
  | ok query =>
      cases feed.settings.readLimit with
      | error overflow => exact hBegan
      | ok limit => exact hBegan.trans (record_adds (e := .asked query limit) rfl _)

/-- A cycle opened, or nothing was added. -/
def Opens (feed : Feed K V) (c d : Cache K V) : Prop :=
  Adds [] c d ∨ ∃ cycle, Adds (feed.opening cycle) c d

theorem Opens.of_adds {feed : Feed K V} (h : Adds [] c d) (h' : Opens feed d e) :
    Opens feed c e := by
  rcases h' with hNone | ⟨cycle, hOpens⟩
  · exact Or.inl (h.trans hNone)
  · exact Or.inr ⟨cycle, h.after hOpens⟩

theorem goOn_opens (c : Cache K V) : Opens feed c (c.goOn feed) := by
  unfold goOn
  split
  · exact Or.inl (exit_adds feed c)
  · exact Or.inr ⟨_, beginCycle_adds feed c⟩

theorem rest_opens (cycle : Cycle) (c : Cache K V) : Opens feed c (c.rest feed cycle) := by
  dsimp only [rest]
  split
  · split
    · exact Or.inl (exit_adds feed c)
    · exact Or.inl ((Adds.refl c).becomes _)
  · exact goOn_opens feed c

/-- In a turn a cycle opens, or a query runs out of time, or nothing is added. -/
theorem turn_adds (c : Cache K V) :
    Opens feed c (c.turn feed) ∨ c.worker.IsWaiting ∧
      ∃ fault, Adds [.ofFailure feed.settings.errorLog (failureMessage feed) (.fetch fault)] c
        (c.turn feed) := by
  unfold turn
  cases c.worker with
  | spawned =>
      exact Or.inl (.of_adds (notice_adds (by simp [Feed.record, Event.notices]) c)
        (goOn_opens feed _))
  | fetching cycle limit =>
      dsimp only
      split
      · exact Or.inl (Or.inl ((abandon_adds c).trans (exit_adds feed _)))
      · cases expiry cycle limit with
        | none => exact Or.inl (Or.inl (.refl c))
        | some due =>
            dsimp only
            split
            · exact Or.inr ⟨trivial, _, (abandon_adds c).after (fail_adds feed cycle _ _)⟩
            · exact Or.inl (Or.inl (.refl c))
  | backingOff cycle due =>
      dsimp only
      split
      · exact Or.inl (Or.inl (exit_adds feed c))
      · split
        · exact Or.inl (rest_opens feed cycle c)
        · exact Or.inl (Or.inl (.refl c))
  | resting cycle due =>
      dsimp only
      split
      · exact Or.inl (Or.inl (exit_adds feed c))
      · split
        · exact Or.inl (goOn_opens feed c)
        · exact Or.inl (Or.inl (.refl c))
  | _ => exact Or.inl (Or.inl (.refl c))

/-- The outline grew by these events, and perhaps a cycle opened after them. -/
def Grows (feed : Feed K V) (new : List (Event K V)) (c d : Cache K V) : Prop :=
  Adds new c d ∨ ∃ cycle, Adds (new ++ feed.opening cycle) c d

theorem Opens.grows {feed : Feed K V} (h : Adds new c d) (h' : Opens feed d e) :
    Grows feed new c e := by
  rcases h' with hNone | ⟨cycle, hOpens⟩
  · exact Or.inl (h.still hNone)
  · exact Or.inr ⟨cycle, h.trans hOpens⟩

/-! ### Responses -/

theorem announce_adds (candidate : Snapshot K V) (c : Cache K V) :
    Adds [] c (c.announce feed candidate) := by
  let told : Cache K V := { c with
    shared := (c.shared.broadcast (Shared.setting feed) Shared.broadcastGate candidate).1 }
  have hTold : Adds [] c told :=
    comments_adds (Shared.broadcast_comments feed candidate c.shared)
  dsimp only [announce]
  split
  · next r hRecord =>
      refine hTold.trans (notice_adds ?_ told)
      unfold broadcastRecord at hRecord
      split at hRecord
      · cases hRecord
        simp [Feed.record, Event.notices]
      · cases hRecord
        simp [Feed.record, Event.notices]
      · cases hRecord
  · exact hTold

theorem publish_adds (candidate : Snapshot K V) (c : Cache K V) :
    Adds [.published candidate] c (c.publish feed candidate) := by
  let ready := (c.issue candidate).settle.1
  let r := feed.record .info "Watch cache initialized"
    [("entries", Text.writeNatural candidate.size)]
  have hIssued : Adds [.published candidate] c ready :=
    record_adds (e := .published candidate) rfl
      (c.modify fun core => { core with current := ⟨core.current.serial + 1, candidate⟩ })
  have hLogged : Adds [] ready (ready.log r) :=
    notice_adds (by simp [r, Feed.record, Event.notices]) ready
  have hCounted (told : Cache K V) : Adds [] told
      { told.count (fun s => { s with published := s.published + 1 }) with
        cursor := { told.cursor with published := some candidate } } := .refl told
  have hTold (said : Cache K V) := (announce_adds feed candidate said).still (hCounted _)
  dsimp only [publish]
  split
  · exact (hIssued.still hLogged).still (hTold (ready.log r))
  · exact hIssued.still (hTold ready)

theorem repeated_adds (keys : List K) (c : Cache K V) :
    Adds (keys.map (Event.repeatWarning feed)) c
      (keys.foldl (fun c k => c.log (Snapshot.repeatedRecord feed.showKey k)) c) := by
  induction keys generalizing c with
  | nil => exact .refl c
  | cons k rest ih => exact (record_adds (Event.isMajor_of_isRepeatWarning
      (Event.isRepeatWarning_repeatWarning feed k)) c).trans (ih _)

section

variable [DecidableEq K] [DecidableEq V]

/-- What a response adds to the outline if it is taken: a warning for each repeated key and then, if
it is news, the publication of its snapshot. -/
inductive Reads (feed : Feed K V) (entries : List V) : List (Event K V) → Prop where
  | ignored : Reads feed entries []
  | noted : Reads feed entries
      ((Snapshot.build feed.keyOf entries).repeated.map (Event.repeatWarning feed))
  | published {s : Snapshot K V} (hBuild : (Snapshot.build feed.keyOf entries).outcome = .ok s) :
      Reads feed entries ((Snapshot.build feed.keyOf entries).repeated.map
        (Event.repeatWarning feed) ++ [.published s])

omit [DecidableEq V] in
theorem not_asked_of_reads {feed : Feed K V} {entries : List V} {new : List (Event K V)}
    (h : Reads feed entries new) {query : Query} {limit : Option Duration} :
    .asked query limit ∉ new := by
  cases h <;> simp [Event.repeatWarning]

/-- Absorbing a response warns of its repeated keys first. Then its snapshot may be published. -/
theorem absorb_adds_warnings (entries : List V) (next : Option Index) (c : Cache K V) :
    ∃ issued, (issued = [] ∨
        ∃ s, (Snapshot.build feed.keyOf entries).outcome = .ok s ∧ issued = [.published s]) ∧
      Adds ((Snapshot.build feed.keyOf entries).repeated.map (Event.repeatWarning feed) ++ issued) c
        (c.absorb feed entries next).1 := by
  let keys := (Snapshot.build feed.keyOf entries).repeated
  let warned := keys.foldl (fun c k => c.log (Snapshot.repeatedRecord feed.showKey k)) c
  have hRepeated : Adds (keys.map (Event.repeatWarning feed)) c warned := repeated_adds feed keys c
  have hHeld : Adds [] warned (warned.hold next) := .refl warned
  have hNothing : Adds (keys.map (Event.repeatWarning feed) ++ []) c warned :=
    hRepeated.trans (.refl warned)
  dsimp only [absorb]
  cases hBuild : (Snapshot.build feed.keyOf entries).outcome with
  | error p => exact ⟨[], Or.inl rfl, hNothing⟩
  | ok candidate =>
      dsimp only
      split
      · have hPublished := publish_adds feed candidate (warned.hold next)
        exact ⟨[.published candidate], Or.inr ⟨candidate, rfl, rfl⟩,
          hRepeated.trans (hHeld.after hPublished)⟩
      · exact ⟨[], Or.inl rfl, hNothing⟩

theorem absorb_adds (entries : List V) (next : Option Index) (c : Cache K V) :
    ∃ new, Reads feed entries new ∧ Adds new c (c.absorb feed entries next).1 := by
  obtain ⟨issued, rfl | ⟨s, hBuild, rfl⟩, hAdds⟩ := absorb_adds_warnings feed entries next c
  · rw [List.append_nil] at hAdds
    exact ⟨_, .noted, hAdds⟩
  · exact ⟨_, .published hBuild, hAdds⟩

theorem apply_adds (entries : List V) (returned : Index) (c : Cache K V) :
    ∃ new, Reads feed entries new ∧ Adds new c (c.apply feed entries returned).1 := by
  dsimp only [apply]
  split
  · exact ⟨[], .ignored, .refl c⟩
  · split
    · split
      · exact ⟨[], .ignored, .refl c⟩
      · exact absorb_adds feed entries _ c.noteContact
    · have hLogged := notice_adds (r := backwardRecord feed c.noteContact.cursor.index returned)
        (by simp [backwardRecord, Feed.record, Event.notices]) c.noteContact
      obtain ⟨new, hReads, hAdds⟩ := absorb_adds feed entries none
        (c.noteContact.log (backwardRecord feed c.noteContact.cursor.index returned))
      exact ⟨new, hReads, hLogged.after hAdds⟩
    · exact absorb_adds feed entries _ c.noteContact

/-! ### Happenings -/

/-- What a happening adds to the outline before a cycle opens. Only a worker that waits for its
answer lets it add anything. -/
inductive Draws (feed : Feed K V) (c : Cache K V) : Happening V → List (Event K V) → Prop where
  | nothing (happening : Happening V) : Draws feed c happening []
  | failed (happening : Happening V) (fault : FetchFault) (hWaiting : c.worker.IsWaiting) :
      Draws feed c happening
        [.ofFailure feed.settings.errorLog (failureMessage feed) (.fetch fault)]
  | response {acts : List Act} {entries : List V} {index : Index} {new : List (Event K V)}
      (hWaiting : c.worker.IsWaiting) (hReads : Reads feed entries new) :
      Draws feed c (.answer acts (.entries entries index)) new

omit [DecidableEq V] in
theorem turn_grows (happening : Happening V) (c : Cache K V) :
    ∃ new, Draws feed c happening new ∧ Grows feed new c (c.turn feed) := by
  rcases turn_adds feed c with hOpens | ⟨hWaiting, fault, hAdds⟩
  · exact ⟨[], .nothing happening, hOpens.grows (.refl c)⟩
  · exact ⟨_, .failed happening fault hWaiting, Or.inl hAdds⟩

theorem finish_entries_grows (cycle : Cycle) (list : List V) (index : Index) (c : Cache K V) :
    ∃ new, Reads feed list new ∧ Grows feed new c (c.finish feed cycle (.entries list index)) := by
  obtain ⟨new, hReads, hAdds⟩ := apply_adds feed list index c
  refine ⟨new, hReads, ?_⟩
  dsimp only [finish]
  split
  · next taken p hApply =>
      rw [hApply] at hAdds
      exact Or.inl (hAdds.becomes _)
  · next taken how hApply =>
      rw [hApply] at hAdds
      exact (rest_opens feed cycle _).grows (hAdds.still (noteEnd_adds feed cycle how taken))

theorem receive_grows (acts : List Act) (answer : Answer V) (c : Cache K V) :
    ∃ new, Draws feed c (.answer acts answer) new ∧
      Grows feed new c (c.receive feed acts answer) := by
  rcases answer_cases feed acts answer c with ⟨_, cycle, limit, hWorker, hReceive⟩ |
    ⟨_, ⟨_, hReceive⟩ | ⟨_, hReceive⟩⟩
  · have hActed : Adds [] c (c.acted feed acts) := comments_adds (acted_comments feed acts c)
    have hWaiting : c.worker.IsWaiting := hWorker ▸ trivial
    rw [hReceive]
    cases answer with
    | panicked p => exact ⟨[], .nothing _, Or.inl (hActed.becomes _)⟩
    | failed fault =>
        exact ⟨_, .failed _ fault hWaiting, Or.inl (hActed.after (fail_adds feed cycle _ _))⟩
    | entries list index =>
        obtain ⟨new, hReads, hGrows⟩ :=
          finish_entries_grows feed cycle list index (c.acted feed acts)
        refine ⟨new, .response hWaiting hReads, ?_⟩
        exact hGrows.imp hActed.after fun ⟨opened, hAdds⟩ => ⟨opened, hActed.after hAdds⟩
  · rw [hReceive]
    exact turn_grows feed _ c
  · rw [hReceive]
    exact ⟨[], .nothing _, Or.inl (.refl c)⟩

/-- What is added to the outline when something happens. -/
theorem happen_grows (happening : Happening V) (c : Cache K V) :
    ∃ new, Draws feed c happening new ∧ Grows feed new c (c.happen feed happening) := by
  have hSilent (hAdds : Adds [] c (c.happen feed happening)) :
      ∃ new, Draws feed c happening new ∧ Grows feed new c (c.happen feed happening) :=
    ⟨[], .nothing happening, Or.inl hAdds⟩
  cases happening with
  | start runtime => exact hSilent (start_adds feed runtime c)
  | stop => exact hSilent (comments_adds (acted_comments feed [.stop] c))
  | shutdown =>
      have hStopped : Adds [] c (c.stop feed) := comments_adds (acted_comments feed [.stop] c)
      obtain ⟨new, hDraws, hGrows⟩ := turn_grows feed .shutdown (c.stop feed)
      have hReported := reportCrash_adds feed ((c.stop feed).turn feed)
      refine ⟨new, ?_, ?_⟩
      · cases hDraws with
        | nothing => exact .nothing _
        | failed _ fault hWaiting => exact .failed _ fault hWaiting
      · exact hGrows.imp (fun hAdds => (hStopped.after hAdds).still hReported)
          fun ⟨cycle, hAdds⟩ => ⟨cycle, (hStopped.after hAdds).still hReported⟩
  | join name react => exact hSilent (comments_adds (join_comments feed name react c))
  | leave name => exact hSilent (.refl c)
  | answer acts answer => exact receive_grows feed acts answer c
  | elapse nanos => exact hSilent (.refl c)
  | turn => exact turn_grows feed .turn c

/-- Every event of an outline has its place in the run: it opens a cycle, it reports that a query
failed, or a response brought it. -/
inductive Comes (feed : Feed K V) (run : List (Happening V)) (e : Event K V) : Prop where
  | opening (cycle : Cycle) (hMember : e ∈ feed.opening cycle)
  | failed (fault : FetchFault)
      (hEvent : e = .ofFailure feed.settings.errorLog (failureMessage feed) (.fetch fault))
  | response (acts : List Act) (entries : List V) (index : Index) (new : List (Event K V))
      (hAnswer : .answer acts (.entries entries index) ∈ run) (hReads : Reads feed entries new)
      (hMember : e ∈ new)

omit [DecidableEq V] in
theorem Comes.later {feed : Feed K V} {run : List (Happening V)} {e : Event K V}
    (h : Comes feed run e) (happening : Happening V) : Comes feed (happening :: run) e := by
  cases h with
  | opening cycle hMember => exact .opening cycle hMember
  | failed fault hEvent => exact .failed fault hEvent
  | response acts entries index new hAnswer hReads hMember =>
      exact .response acts entries index new (List.mem_cons_of_mem _ hAnswer) hReads hMember

omit [DecidableEq V] in
theorem Draws.comes {feed : Feed K V} {happening : Happening V} {new : List (Event K V)}
    (h : Draws feed c happening new) (run : List (Happening V)) {e : Event K V}
    (hMember : e ∈ new) :
    Comes feed (happening :: run) e := by
  cases h with
  | nothing => cases hMember
  | failed _ fault => exact .failed fault (List.mem_singleton.1 hMember)
  | response _ hReads => exact .response _ _ _ new (List.mem_cons_self ..) hReads hMember

theorem mem_outline_replay (run : List (Happening V)) (c : Cache K V) {e : Event K V}
    (hMember : e ∈ (c.replay feed run).core.outline) : e ∈ c.core.outline ∨ Comes feed run e := by
  induction run generalizing c with
  | nil => exact Or.inl hMember
  | cons happening rest ih =>
      rcases ih (c.happen feed happening) hMember with hBefore | hComes
      · obtain ⟨new, hDraws, hAdds | ⟨cycle, hAdds⟩⟩ := happen_grows feed happening c
        · rw [hAdds, List.mem_append] at hBefore
          exact hBefore.imp_right (hDraws.comes rest)
        · rw [hAdds, List.mem_append, List.mem_append] at hBefore
          rcases hBefore with hOld | hNew | hOpening
          · exact Or.inl hOld
          · exact Or.inr (hDraws.comes rest hNew)
          · exact Or.inr (.opening cycle hOpening)
      · exact Or.inr (hComes.later happening)

omit [DecidableEq V] in
/-- What stands in an outline is the begin of a cycle, its query, the report of its failure, or what
a response brought. -/
theorem Comes.cases {feed : Feed K V} {run : List (Happening V)} {e : Event K V}
    (h : Comes feed run e) :
    (∃ cycle, e = .began cycle) ∨
      (∃ (cycle : Cycle) (query : Query) (limit : Option Duration),
        feed.base.forCycle cycle.requested feed.settings.watchSeconds = .ok query ∧
          feed.settings.readLimit = .ok limit ∧ e = .asked query limit) ∨
      (∃ fault, e = .ofFailure feed.settings.errorLog (failureMessage feed) fault) ∨
      ∃ acts entries index new, .answer acts (.entries entries index) ∈ run ∧
        Reads feed entries new ∧ e ∈ new := by
  rcases h with ⟨cycle, hMember⟩ | ⟨fault, hEvent⟩ |
    ⟨acts, entries, index, new, hAnswer, hReads, hMember⟩
  · rcases Feed.mem_opening hMember with hBegan | hFailed | hAsked
    · exact Or.inl ⟨cycle, hBegan⟩
    · exact Or.inr (Or.inr (Or.inl hFailed))
    · exact Or.inr (Or.inl ⟨cycle, hAsked⟩)
  · exact Or.inr (Or.inr (Or.inl ⟨_, hEvent⟩))
  · exact Or.inr (Or.inr (Or.inr ⟨acts, entries, index, new, hAnswer, hReads, hMember⟩))

/-- A run from the beginning has no other outline. -/
theorem comes_of_mem (run : List (Happening V)) {e : Event K V}
    (hMember : e ∈ ((initial : Cache K V).replay feed run).core.outline) : Comes feed run e :=
  (mem_outline_replay feed run initial hMember).resolve_left List.not_mem_nil

/-- Where nothing else that happens adds to it, an excerpt of the outline is how cycles open, one
after the other. -/
theorem openings_replay (keep : Event K V → Bool) (run : List (Happening V))
    (hDraws : ∀ first happening new, first ++ [happening] <+: run →
      Draws feed ((initial : Cache K V).replay feed first) happening new → new.filter keep = []) :
    ∃ cycles : List Cycle, ((initial : Cache K V).replay feed run).core.outline.filter keep =
      cycles.flatMap fun cycle => (feed.opening cycle).filter keep := by
  induction run using List.reverseRecOn with
  | nil => exact ⟨[], rfl⟩
  | append_singleton past happening ih =>
      obtain ⟨cycles, hPast⟩ := ih fun first next new hFirst =>
        hDraws first next new (hFirst.trans (List.prefix_append _ _))
      obtain ⟨new, hNew, hGrows⟩ :=
        happen_grows feed happening ((initial : Cache K V).replay feed past)
      have hNone : new.filter keep = [] := hDraws past happening new (List.prefix_refl _) hNew
      have hNext : (initial : Cache K V).replay feed (past ++ [happening]) =
          ((initial : Cache K V).replay feed past).happen feed happening :=
        replay_append feed past [happening] _
      rw [hNext]
      rcases hGrows with hAdds | ⟨cycle, hAdds⟩
      · refine ⟨cycles, ?_⟩
        rw [hAdds, List.filter_append, hNone, List.append_nil, hPast]
      · refine ⟨cycles ++ [cycle], ?_⟩
        rw [hAdds, List.filter_append, List.filter_append, hNone, List.nil_append, hPast,
          List.flatMap_append, List.flatMap_singleton]

end

end Cache

end LongPoll
