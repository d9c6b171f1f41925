import LongPoll.Proofs.Cache.Comments
import LongPoll.Proofs.Cache.Endurance
import LongPoll.Proofs.Cache.Failures

/-!
The counters and the history tell the same.

Responses, failures and publications are counted at six places, and a publication is counted only
after its listeners were told. What the counters still owe at any time is a `Balance`: a cycle on
its way, a response that was taken and not yet booked, a publication that is being told. Each step
of the worker passes it on by the rules, and between two cycles nothing is owed but what a stop cut
off.
-/

namespace LongPoll

variable {K V : Type}

namespace Event

def isBegin : Event K V → Bool
  | .began _ => true
  | _ => false

/-- Of events, latest first: a snapshot was published, and its listeners are still being told. -/
def announcing : List (Event K V) → Bool
  | [] => false
  | .published _ :: _ => true
  | .log r :: earlier => r.message != "Published snapshot" && announcing earlier
  | _ :: earlier => announcing earlier

end Event

namespace Moment

/-- A stop cuts a cycle off: its query is given up, or its response is dropped. -/
def isCut (m : Moment K V) : Bool :=
  match m.event with
  | .abandoned cancelled => cancelled
  | .ended _ .unchanged => m.view.cancelled
  | _ => false

/-- Of no account: nothing begins, is published, reported or cut off, and no announcement ends. -/
def IsPlain (m : Moment K V) : Prop :=
  match m.event with
  | .began _ | .published _ | .reported _ _ _ => False
  | .log r => r.message.toList.head? ≠ some 'E' ∧ r.message ≠ "Published snapshot"
  | _ => m.isCut = false

theorem isPlain_comment {m : Moment K V} (h : m.event.IsComment) : m.IsPlain := by
  obtain ⟨view, e⟩ := m
  cases e with
  | log r =>
      have hMember : r.message ∈ Event.remarks := h
      simp only [Event.remarks, List.mem_cons, List.not_mem_nil, or_false] at hMember
      rcases hMember with hText | hText | hText | hText | hText <;> simp [IsPlain, hText]
  | notified | removed | observed => rfl
  | _ => exact h.elim

end Moment

namespace Core

variable {a b c : Core K V}

/-- How many cycles began. -/
def cycles (c : Core K V) : Nat := c.events.countP Event.isBegin

/-- How many cycles a stop cut off. -/
def cuts (c : Core K V) : Nat := c.moments.countP Moment.isCut

theorem cycles_record (e : Event K V) (c : Core K V) :
    (c.record e).cycles = c.cycles + if e.isBegin then 1 else 0 := List.countP_cons

theorem cuts_record (e : Event K V) (c : Core K V) :
    (c.record e).cuts = c.cuts + if (Moment.mk c.toView e).isCut then 1 else 0 := List.countP_cons

theorem published_record_of_ne {e : Event K V} (hOther : ∀ s, e ≠ .published s) (c : Core K V) :
    (c.record e).published = c.published := by
  rw [published, events_record, Event.collect_cons]
  cases e with
  | published s => exact (hOther s rfl).elim
  | _ => exact List.append_nil _

/-- The counters agree with the history: each response published a snapshot or changed nothing, each
publication and each report is counted, and so is each cycle, those aside that a stop cut off. -/
structure Balances (feed : Feed K V) (c : Core K V) : Prop where
  succeeded : c.stats.succeeded = c.stats.published + c.stats.unchanged
  published : c.stats.published = c.published.length
  failed : c.stats.failed = (c.reports feed).length
  cycles : c.cycles = c.stats.succeeded + c.stats.failed + c.cuts

/-- What the counters showed when an event happened. While listeners are told of a publication, it
is the one thing not booked. -/
structure Faithful (feed : Feed K V) (c : Core K V) (e : Event K V) : Prop where
  told : Event.announcing c.events = true →
    c.stats.succeeded = c.stats.published + c.stats.unchanged + 1 ∧
      c.published.length = c.stats.published + 1
  began : ∀ cycle, e = .began cycle → c.Balances feed ∧ c.cuts = 0

/-- No counter is about an event that happens now. It may be that a stop cuts a cycle off. -/
structure Ignores (feed : Feed K V) (c : Core K V) (e : Event K V) : Prop where
  begins : e.isBegin = false
  reports : e.isReport feed = false
  publishes : ∀ s, e ≠ .published s
  announcing : Event.announcing (e :: c.events) = Event.announcing c.events

theorem Ignores.ne_began {feed : Feed K V} {e : Event K V} (h : c.Ignores feed e) (cycle : Cycle) :
    e ≠ .began cycle := by
  rintro rfl
  cases h.begins

theorem ignores_plain (feed : Feed K V) {e : Event K V} (hPlain : (Moment.mk c.toView e).IsPlain) :
    c.Ignores feed e where
  begins := by cases e <;> first | rfl | exact hPlain.elim
  reports := by
    cases e with
    | log r => exact beq_eq_false_iff_ne.2 (Cache.ne_failureMessage feed hPlain.1)
    | reported => exact hPlain.elim
    | _ => rfl
  publishes := by
    rintro s rfl
    exact hPlain
  announcing := by
    cases e with
    | log r => simp only [Event.announcing, bne_iff_ne.2 hPlain.2, Bool.true_and]
    | published => exact hPlain.elim
    | _ => rfl

theorem ignores_cut (feed : Feed K V) {e : Event K V} (hCut : (Moment.mk c.toView e).isCut = true) :
    c.Ignores feed e := by
  cases e with
  | abandoned | ended => exact ⟨rfl, rfl, nofun, rfl⟩
  | _ => cases hCut

end Core

/-- What the counters owe. -/
structure Balance where
  /-- Cycles that began and were neither counted nor cut off. -/
  flying : Nat
  /-- Responses that were taken, and neither published nor found to change nothing. -/
  loose : Nat
  /-- Cycles cut off. -/
  cuts : Nat
  /-- A publication is not counted yet. -/
  untold : Bool

namespace Balance

/-- Nothing is owed. -/
def closed : Balance := ⟨0, 0, 0, false⟩

/-- A cycle is on its way. -/
def underway : Balance := ⟨1, 0, 0, false⟩

/-- The response of a cycle was taken. -/
def taken : Balance := ⟨0, 1, 0, false⟩

/-- A snapshot was published and its listeners are being told. -/
def issued : Balance := ⟨0, 1, 0, true⟩

/-- A cycle was cut off, and there will be no other. -/
def cutOff : Balance := ⟨0, 0, 1, false⟩

end Balance

/-- The counters are what the history says, up to this balance, and they always were. -/
structure Books (feed : Feed K V) (b : Balance) (c : Core K V) : Prop where
  succeeded : c.stats.succeeded = c.stats.published + c.stats.unchanged + b.loose
  published : c.published.length = c.stats.published + b.untold.toNat
  failed : (c.reports feed).length = c.stats.failed
  cycles : c.cycles = c.stats.succeeded + c.stats.failed + b.flying + b.cuts
  cuts : c.cuts = b.cuts
  announcing : Event.announcing c.events = b.untold
  owed : b.untold = true → b.loose = 1
  faithful : ∀ m earlier, m :: earlier <:+ c.moments →
    Core.Faithful feed ⟨m.view, earlier⟩ m.event

namespace Books

variable {feed : Feed K V} {b : Balance} {c d : Core K V}

theorem initial : Books feed .closed (Core.initial : Core K V) where
  succeeded := rfl
  published := rfl
  failed := rfl
  cycles := rfl
  cuts := rfl
  announcing := rfl
  owed := nofun
  faithful m earlier h := by cases List.suffix_nil.1 h

theorem balances (h : Books feed b c) (hFlying : b.flying = 0) (hLoose : b.loose = 0)
    (hTold : b.untold = false) : c.Balances feed where
  succeeded := by rw [h.succeeded, hLoose, Nat.add_zero]
  published := by rw [h.published, hTold]; rfl
  failed := h.failed.symm
  cycles := by rw [h.cycles, hFlying, h.cuts, Nat.add_zero]

/-- The books are about the history and the counters. -/
theorem of_eq (h : Books feed b c) (hMoments : d.moments = c.moments) (hStats : d.stats = c.stats) :
    Books feed b d := by
  have hEvents : d.events = c.events := congrArg (List.map Moment.event) hMoments
  have hPublished : d.published = c.published := congrArg (Event.collect _) hEvents
  have hReports : d.reports feed = c.reports feed := congrArg (Event.collect _) hEvents
  have hCycles : d.cycles = c.cycles := congrArg (List.countP _) hEvents
  have hCuts : d.cuts = c.cuts := congrArg (List.countP _) hMoments
  exact
    { succeeded := by rw [hStats]; exact h.succeeded
      published := by rw [hStats, hPublished]; exact h.published
      failed := by rw [hStats, hReports]; exact h.failed
      cycles := by rw [hStats, hCycles]; exact h.cycles
      cuts := hCuts.trans h.cuts
      announcing := hEvents ▸ h.announcing
      owed := h.owed
      faithful := hMoments ▸ h.faithful }

/-- What is written down while books are kept is written down faithfully, a begin aside. -/
theorem faithfully (h : Books feed b c) {e : Event K V} (hOther : ∀ cycle, e ≠ .began cycle) :
    Core.Faithful feed c e := by
  refine ⟨fun hTold => ?_, fun cycle hBegan => (hOther cycle hBegan).elim⟩
  have hUntold : b.untold = true := h.announcing.symm.trans hTold
  have hSucceeded := h.succeeded
  have hPublished := h.published
  rw [h.owed hUntold] at hSucceeded
  rw [hUntold] at hPublished
  exact ⟨hSucceeded, hPublished⟩

theorem faithful_record {e : Event K V}
    (hOld : ∀ m earlier, m :: earlier <:+ c.moments → Core.Faithful feed ⟨m.view, earlier⟩ m.event)
    (hNew : Core.Faithful feed c e) :
    ∀ m earlier, m :: earlier <:+ (c.record e).moments →
      Core.Faithful feed ⟨m.view, earlier⟩ m.event := by
  intro m earlier hSuffix
  rcases List.suffix_cons_iff.1 hSuffix with hHere | hEarlier
  · cases hHere
    exact hNew
  · exact hOld m earlier hEarlier

/-- An event that no counter is about may still be the end of a cycle on its way. -/
theorem ignoring (h : Books feed b c) {e : Event K V} (hIgnores : c.Ignores feed e)
    (hFlying : (Moment.mk c.toView e).isCut.toNat ≤ b.flying) :
    Books feed { b with
      flying := b.flying - (Moment.mk c.toView e).isCut.toNat
      cuts := b.cuts + (Moment.mk c.toView e).isCut.toNat } (c.record e) where
  succeeded := h.succeeded
  published := by
    rw [Core.published_record_of_ne hIgnores.publishes]
    exact h.published
  failed := by
    rw [Core.reports_record, hIgnores.reports]
    exact (congrArg List.length (List.append_nil _)).trans h.failed
  cycles := by
    have hCycles : (c.record e).cycles = c.cycles := by
      rw [Core.cycles_record, hIgnores.begins]
      rfl
    rw [hCycles, h.cycles, Core.record]
    dsimp only
    omega
  cuts := by
    rw [Core.cuts_record, h.cuts]
    cases (Moment.mk c.toView e).isCut <;> rfl
  announcing := hIgnores.announcing.trans h.announcing
  owed := h.owed
  faithful := faithful_record h.faithful (h.faithfully hIgnores.ne_began)

theorem note (h : Books feed b c) {e : Event K V} (hPlain : (Moment.mk c.toView e).IsPlain) :
    Books feed b (c.record e) := by
  have hCut : (Moment.mk c.toView e).isCut = false := by
    cases e <;> first | exact hPlain | rfl
  have hNoted := h.ignoring (Core.ignores_plain feed hPlain) (by rw [hCut]; exact Nat.zero_le _)
  rw [hCut] at hNoted
  exact hNoted

theorem log (h : Books feed b c) {r : LogRecord} (hHead : r.message.toList.head? ≠ some 'E')
    (hOther : r.message ≠ "Published snapshot") : Books feed b (c.record (.log r)) :=
  h.note ⟨hHead, hOther⟩

/-- What callbacks do is of no account. -/
theorem comments (h : Books feed b c) (hComments : c.Comments d) : Books feed b d := by
  induction hComments with
  | refl => exact h
  | note _ e hComment ih => exact ih.note (Moment.isPlain_comment hComment)
  | stop _ ih => exact ih.of_eq rfl rfl

/-- A cycle begins while nothing is owed. -/
theorem began (h : Books feed .closed c) (cycle : Cycle) :
    Books feed .underway (c.record (.began cycle)) where
  succeeded := h.succeeded
  published := (congrArg List.length (Core.published_record_of_ne (by simp) c)).trans h.published
  failed := by
    rw [Core.reports_record]
    exact (congrArg List.length (List.append_nil _)).trans h.failed
  cycles := by
    rw [Core.cycles_record]
    exact congrArg (· + 1) h.cycles
  cuts := h.cuts
  announcing := h.announcing
  owed := nofun
  faithful := faithful_record h.faithful
    ⟨fun hTold => Bool.noConfusion (h.announcing.symm.trans hTold),
      fun _ _ => ⟨h.balances rfl rfl rfl, h.cuts⟩⟩

/-- A stop cuts the cycle off that is on its way. -/
theorem cut (h : Books feed .underway c) {e : Event K V}
    (hCut : (Moment.mk c.toView e).isCut = true) : Books feed .cutOff (c.record e) := by
  have hNoted := h.ignoring (Core.ignores_cut feed hCut) (by rw [hCut]; exact Nat.le_refl _)
  rw [hCut] at hNoted
  exact hNoted

end Books

namespace Cache

variable {feed : Feed K V} {b : Balance} {c d : Cache K V}

/-! ### What is counted -/

/-- A failure is counted and reported in one go. -/
theorem reported_books (h : Books feed .underway c.core) (fault : Fault) :
    Books feed .closed (c.reported feed fault).core := by
  let e : Event K V := .ofFailure feed.settings.errorLog (failureMessage feed) fault
  have hOther : e.isBegin = false ∧ (∀ v, (Moment.mk v e).isCut = false) ∧
      Event.announcing (e :: c.core.events) = Event.announcing c.core.events ∧
      (∀ s, e ≠ .published s) ∧ ∀ cycle, e ≠ .began cycle := by
    have hText : failureMessage feed ≠ "Published snapshot" :=
      (ne_failureMessage feed (by simp)).symm
    cases hTarget : feed.settings.errorLog <;>
      simp [e, hTarget, Event.ofFailure, Event.isBegin, Moment.isCut, Event.announcing, hText]
  obtain ⟨hBegin, hCut, hAnnouncing, hPublished, hBegan⟩ := hOther
  let counted : Core K V :=
    { c.core with stats := { c.core.stats with failed := c.core.stats.failed + 1 } }
  exact
    { succeeded := h.succeeded
      published := (congrArg List.length (Core.published_record_of_ne hPublished counted)).trans
        h.published
      failed := by
        have hReports : (c.reported feed fault).core.reports feed = c.core.reports feed ++ [e] := by
          refine (Core.reports_record feed e counted).trans ?_
          rw [Event.isReport_ofFailure]
          rfl
        rw [hReports, List.length_append, h.failed]
        rfl
      cycles := by
        refine (Core.cycles_record e counted).trans ?_
        rw [hBegin]
        exact h.cycles
      cuts := by
        refine (Core.cuts_record e counted).trans ?_
        rw [hCut]
        exact h.cuts
      announcing := hAnnouncing.trans h.announcing
      owed := nofun
      faithful := Books.faithful_record (c := counted) h.faithful
        ⟨fun hTold => Bool.noConfusion (h.announcing.symm.trans hTold),
          fun cycle hCycle => (hBegan cycle hCycle).elim⟩ }

theorem heeded_books (h : Books feed .underway c.core) (fault : Fault) :
    Books feed .closed (c.heeded feed fault).core :=
  (reported_books h fault).comments (heeded_comments feed fault c)

theorem noteContact_books (h : Books feed .underway c.core) :
    Books feed .taken c.noteContact.core where
  succeeded := congrArg (· + 1) h.succeeded
  published := h.published
  failed := h.failed
  cycles := by
    have hCycles : c.core.cycles = c.core.stats.succeeded + c.core.stats.failed + 1 := h.cycles
    change c.core.cycles = c.core.stats.succeeded + 1 + c.core.stats.failed
    omega
  cuts := h.cuts
  announcing := h.announcing
  owed := nofun
  faithful := h.faithful

theorem noteUnchanged_books (h : Books feed .taken c.core) :
    Books feed .closed c.noteUnchanged.core where
  succeeded := h.succeeded
  published := h.published
  failed := h.failed
  cycles := h.cycles
  cuts := h.cuts
  announcing := h.announcing
  owed := nofun
  faithful := h.faithful

theorem hold_books (h : Books feed b c.core) (next : Option Index) :
    Books feed b (c.hold next).core :=
  { h with }

theorem settle_books (h : Books feed b c.core) : Books feed b c.settle.1.core :=
  { h with }

theorem issue_books (h : Books feed .taken c.core) (candidate : Snapshot K V) :
    Books feed .issued (c.issue candidate).core where
  succeeded := h.succeeded
  published := by
    have hPublished : (c.issue candidate).core.published = c.core.published ++ [candidate] :=
      Event.collect_cons _ _
    rw [hPublished, List.length_append, h.published]
    rfl
  failed := (congrArg List.length (Core.reports_record feed (.published candidate) _)).trans
    ((congrArg List.length (List.append_nil _)).trans h.failed)
  cycles := h.cycles
  cuts := h.cuts
  announcing := rfl
  owed _ := rfl
  faithful := Books.faithful_record
    (c := { c.core with current := ⟨c.core.current.serial + 1, candidate⟩ }) h.faithful
    ⟨fun hTold => Bool.noConfusion (h.announcing.symm.trans hTold), nofun⟩

/-- When the listeners were told, the log hears of it and the publication is counted. -/
theorem announced_books (h : Books feed .issued c.core) {r : LogRecord}
    (hRecord : r.message = "Published snapshot") :
    Books feed .closed ((c.log r).count fun s => { s with published := s.published + 1 }).core where
  succeeded := by
    have hSucceeded : c.core.stats.succeeded =
        c.core.stats.published + c.core.stats.unchanged + 1 := h.succeeded
    change c.core.stats.succeeded = c.core.stats.published + 1 + c.core.stats.unchanged
    omega
  published := (congrArg List.length (Core.published_record_of_ne (by simp) c.core)).trans
    h.published
  failed := by
    have hReport : (Event.log r : Event K V).isReport feed = false :=
      beq_eq_false_iff_ne.2 (ne_failureMessage feed (by simp [hRecord]))
    refine (congrArg List.length (Core.reports_record feed (.log r) c.core)).trans ?_
    rw [hReport]
    exact (congrArg List.length (List.append_nil _)).trans h.failed
  cycles := h.cycles
  cuts := h.cuts
  announcing := by
    change (r.message != "Published snapshot" && Event.announcing c.core.events) = false
    simp [hRecord]
  owed := nofun
  faithful := Books.faithful_record h.faithful (h.faithfully nofun)

theorem announce_eq (feed : Feed K V) (candidate : Snapshot K V)
    (hSound : c.shared.audience.poisoned = false) :
    ∃ delivered, c.announce feed candidate =
      Cache.log (feed.record .debug "Published snapshot"
        [("entries", Text.writeNatural candidate.size), ("delivered", Text.writeNatural delivered)])
        { c with
          shared :=
            (c.shared.broadcast (Shared.setting feed) Shared.broadcastGate candidate).1 } := by
  obtain ⟨delivered, hDone, _⟩ := Shared.broadcast_cases feed candidate hSound
  exact ⟨delivered, by simp only [announce, hDone, broadcastRecord]⟩

theorem announce_books (h : Books feed .issued c.core) (candidate : Snapshot K V)
    (hSound : c.shared.audience.poisoned = false) :
    Books feed .closed
      ((c.announce feed candidate).count
        fun s => { s with published := s.published + 1 }).core := by
  obtain ⟨delivered, hAnnounce⟩ := announce_eq feed candidate hSound
  let told : Cache K V := { c with
    shared := (c.shared.broadcast (Shared.setting feed) Shared.broadcastGate candidate).1 }
  have hTold : Books feed .issued told.core :=
    h.comments (Shared.broadcast_comments feed candidate c.shared)
  rw [hAnnounce]
  exact announced_books hTold rfl

/-- However a publication goes on after it was issued, it is counted once. -/
theorem publish_books (h : Books feed .taken c.core) (candidate : Snapshot K V)
    (hSound : c.shared.audience.poisoned = false) :
    Books feed .closed (c.publish feed candidate).core := by
  have hReady : Books feed .issued (c.issue candidate).settle.1.core :=
    settle_books (issue_books h candidate)
  dsimp only [publish]
  split
  · exact announce_books (c := (c.issue candidate).settle.1.log _)
      (hReady.log (by simp [Feed.record]) (by simp [Feed.record])) candidate hSound
  · exact announce_books hReady candidate hSound

section

variable [DecidableEq K] [DecidableEq V]

omit [DecidableEq K] [DecidableEq V] in
theorem repeated_books (keys : List K) (h : Books feed b c.core) :
    Books feed b
      (keys.foldl (fun c k => c.log (Snapshot.repeatedRecord feed.showKey k)) c).core := by
  induction keys generalizing c with
  | nil => exact h
  | cons k rest ih =>
      exact ih (c := c.log (Snapshot.repeatedRecord feed.showKey k))
        (h.log (by simp [Snapshot.repeatedRecord]) (by simp [Snapshot.repeatedRecord]))

omit [DecidableEq K] [DecidableEq V] in
theorem repeated_same (feed : Feed K V) (keys : List K) (c : Cache K V) :
    (keys.foldl (fun c k => c.log (Snapshot.repeatedRecord feed.showKey k)) c).shared.audience =
        c.shared.audience ∧
      (keys.foldl (fun c k => c.log (Snapshot.repeatedRecord feed.showKey k)) c).core.cancelled =
        c.core.cancelled := by
  have hNotes := repeated_notes feed keys c
  exact ⟨hNotes.audience, hNotes.cancelled⟩

/-- A response that was taken is published or found to change nothing, unless a key panics. -/
theorem absorb_books (entries : List V) (next : Option Index) (h : Books feed .taken c.core)
    (hSound : c.shared.audience.poisoned = false) (hCancelled : c.core.cancelled = false) :
    (∃ p, (c.absorb feed entries next).2 = .error p ∧
        Books feed .taken (c.absorb feed entries next).1.core) ∨
      ∃ how, (c.absorb feed entries next).2 = .ok how ∧
        Books feed .closed (c.absorb feed entries next).1.core ∧
        (how = .unchanged → (c.absorb feed entries next).1.core.cancelled = false) := by
  obtain ⟨hAudience, hStill⟩ :=
    repeated_same feed (Snapshot.build feed.keyOf entries).repeated c
  have hBuilt := repeated_books (Snapshot.build feed.keyOf entries).repeated h
  dsimp only [absorb]
  split
  · next p _ => exact Or.inl ⟨p, rfl, hBuilt⟩
  · split
    · exact Or.inr ⟨.published, rfl,
        publish_books (hold_books hBuilt next) _ (hAudience.symm ▸ hSound),
        fun hUnchanged => by cases hUnchanged⟩
    · exact Or.inr ⟨.unchanged, rfl,
        noteUnchanged_books (settle_books (hold_books hBuilt next)),
        fun _ => hStill.trans hCancelled⟩

/-- Unless the worker was told to end, a response is counted once when it is taken and once when it
is clear what it comes to. -/
theorem apply_books (entries : List V) (returned : Index) (h : Books feed .underway c.core)
    (hSound : c.shared.audience.poisoned = false) (hCancelled : c.core.cancelled = false) :
    (∃ p, (c.apply feed entries returned).2 = .error p ∧
        Books feed .taken (c.apply feed entries returned).1.core) ∨
      ∃ how, (c.apply feed entries returned).2 = .ok how ∧
        Books feed .closed (c.apply feed entries returned).1.core ∧
        (how = .unchanged → (c.apply feed entries returned).1.core.cancelled = false) := by
  have hTaken := noteContact_books h
  have hGoesOn : c.isCancelled = false := hCancelled
  simp only [apply, hGoesOn, Bool.false_eq_true, if_false]
  split
  · split
    · exact Or.inr ⟨.unchanged, rfl, noteUnchanged_books hTaken, fun _ => hCancelled⟩
    · exact absorb_books entries _ hTaken hSound hCancelled
  · exact absorb_books entries none (c := c.noteContact.log _)
      (hTaken.log (by simp [backwardRecord, Feed.record]) (by simp [backwardRecord, Feed.record]))
      hSound hCancelled
  · exact absorb_books entries _ hTaken hSound hCancelled

end

/-! ### The worker -/

end Cache

/-- The log has heard that the worker was torn down. -/
def Core.IsBuried (c : Core K V) : Prop :=
  ∃ r, .log r ∈ c.events ∧ r.message = "Poll loop ended abnormally"

namespace Cache

variable {feed : Feed K V} {b : Balance} {c d : Cache K V} {torn : Prop}

/-- The worker is between two cycles, before the first or after the last: no query is on its way,
and no panic has torn it down. -/
def IsBetween (c : Cache K V) : Prop :=
  ¬ c.worker.IsWaiting ∧ (∀ p, c.worker ≠ .crashed p) ∧ ¬ c.core.IsBuried

/-- What the counters owe, by where the worker is. A response stays loose only if a key of it
panicked, which is what `torn` says. -/
inductive Balanced (feed : Feed K V) (torn : Prop) (c : Cache K V) : Prop where
  | between (hIdle : c.worker = .absent ∨ c.worker.IsReady) (books : Books feed .closed c.core) :
      Balanced feed torn c
  | waiting (hWaiting : c.worker.IsWaiting) (books : Books feed .underway c.core) :
      Balanced feed torn c
  | ended {cuts : Nat} (hEnded : c.worker = .ended) (hCancelled : c.core.cancelled = true)
      (hCuts : cuts ≤ 1) (books : Books feed ⟨0, 0, cuts, false⟩ c.core) : Balanced feed torn c
  | torn {flying loose : Nat}
      (hWorker : (∃ p, c.worker = .crashed p) ∨ c.worker = .ended ∧ c.core.IsBuried)
      (hLoose : loose ≠ 0 → torn) (books : Books feed ⟨flying, loose, 0, false⟩ c.core) :
      Balanced feed torn c

theorem IsBuried.mono {a b : Core K V} (h : a.IsBuried) (hSuffix : a.events <:+ b.events) :
    b.IsBuried := by
  obtain ⟨r, hMember, hText⟩ := h
  exact ⟨r, hSuffix.subset hMember, hText⟩

namespace Balanced

theorem books_of_waiting (h : Balanced feed torn c) (hWaiting : c.worker.IsWaiting) :
    Books feed .underway c.core := by
  cases h with
  | waiting _ books => exact books
  | between hIdle _ =>
      obtain ⟨cycle, limit, hWorker⟩ := Worker.isWaiting_iff.1 hWaiting
      simp [hWorker, Worker.IsReady] at hIdle
  | ended hEnded =>
      rw [hEnded] at hWaiting
      exact hWaiting.elim
  | torn hWorker _ _ =>
      rcases hWorker with ⟨p, hCrashed⟩ | ⟨hEnded, _⟩
      · rw [hCrashed] at hWaiting
        exact hWaiting.elim
      · rw [hEnded] at hWaiting
        exact hWaiting.elim

theorem books_of_absent (h : Balanced feed torn c) (hAbsent : c.worker = .absent) :
    Books feed .closed c.core := by
  cases h with
  | between _ books => exact books
  | waiting hWaiting _ => simp [hAbsent, Worker.IsWaiting] at hWaiting
  | ended hEnded => cases hAbsent.symm.trans hEnded
  | torn hWorker _ _ =>
      rcases hWorker with ⟨p, hCrashed⟩ | ⟨hEnded, _⟩
      · cases hAbsent.symm.trans hCrashed
      · cases hAbsent.symm.trans hEnded

/-- Between two cycles nothing is owed but a cycle that a stop cut off. -/
theorem books_of_between (h : Balanced feed torn c) (hBetween : c.IsBetween) :
    ∃ cuts ≤ 1, Books feed ⟨0, 0, cuts, false⟩ c.core ∧
      (cuts = 1 → c.worker = .ended ∧ c.core.cancelled = true) := by
  cases h with
  | between _ books => exact ⟨0, Nat.zero_le _, books, nofun⟩
  | waiting hWaiting _ => exact (hBetween.1 hWaiting).elim
  | @ended cuts hEnded hCancelled hCuts books =>
      exact ⟨cuts, hCuts, books, fun _ => ⟨hEnded, hCancelled⟩⟩
  | torn hWorker _ _ =>
      rcases hWorker with ⟨p, hCrashed⟩ | ⟨_, hBuried⟩
      · exact (hBetween.2.1 p hCrashed).elim
      · exact (hBetween.2.2 hBuried).elim

/-- No publication is ever owed, and no response unless a key panicked. -/
theorem books (h : Balanced feed torn c) :
    ∃ b : Balance, b.untold = false ∧ (¬ torn → b.loose = 0) ∧ Books feed b c.core := by
  cases h with
  | between _ books => exact ⟨_, rfl, fun _ => rfl, books⟩
  | waiting _ books => exact ⟨_, rfl, fun _ => rfl, books⟩
  | ended _ _ _ books => exact ⟨_, rfl, fun _ => rfl, books⟩
  | @torn flying loose _ hLoose books =>
      refine ⟨_, rfl, fun hWhole => ?_, books⟩
      by_contra hSome
      exact hWhole (hLoose hSome)

end Balanced

/-- What callbacks do leaves the accounts balanced. -/
theorem Balanced.comments (h : Balanced feed torn c) (hComments : c.core.Comments d.core)
    (hWorker : d.worker = c.worker) : Balanced feed torn d := by
  cases h with
  | between hIdle books => exact .between (hWorker ▸ hIdle) (books.comments hComments)
  | waiting hWaiting books => exact .waiting (hWorker ▸ hWaiting) (books.comments hComments)
  | ended hEnded hCancelled hCuts books =>
      exact .ended (hWorker.trans hEnded) (hComments.cancelled hCancelled) hCuts
        (books.comments hComments)
  | torn hTorn hLoose books =>
      refine .torn ?_ hLoose (books.comments hComments)
      rw [hWorker]
      exact hTorn.imp_right fun hBuried =>
        ⟨hBuried.1, IsBuried.mono hBuried.2 hComments.events_suffix⟩

theorem exit_balanced {cuts : Nat} (h : Books feed ⟨0, 0, cuts, false⟩ c.core) (hCuts : cuts ≤ 1)
    (hCancelled : c.core.cancelled = true) : Balanced feed torn (c.exit feed) :=
  .ended rfl hCancelled hCuts (h.log (by simp [Feed.record]) (by simp [Feed.record]))

theorem cycleRecord_plain {core : Core K V} (h : Books feed b core) (cycle : Cycle) (how : CycleEnd)
    (now : Nat) : Books feed b (core.record (.log (cycleRecord feed cycle how now))) :=
  h.log (by simp [cycleRecord, Feed.record]) (by simp [cycleRecord, Feed.record])

/-- The end of a cycle is of no account, unless a stop cut the cycle off. -/
theorem noteEnd_books (h : Books feed b c.core) (cycle : Cycle) {how : CycleEnd}
    (hWhole : how = .unchanged → c.core.cancelled = false) :
    Books feed b (c.noteEnd feed cycle how).core := by
  refine cycleRecord_plain (h.note (e := .ended cycle how) ?_) cycle how c.core.now
  cases how with
  | unchanged => exact hWhole rfl
  | _ => rfl

/-- A cycle that fails is counted once, whatever its callback does. -/
theorem fail_balanced (cycle : Cycle) (fault : Fault) (h : Books feed .underway c.core) :
    Balanced feed torn (c.fail feed cycle fault) := by
  have hHeeded := heeded_books h fault
  have hEnded : Books feed .closed ((c.heeded feed fault).noteEnd feed cycle .failed).core :=
    noteEnd_books hHeeded cycle nofun
  rcases fail_cases feed cycle fault c with
    ⟨p, _, hFail⟩ | ⟨hCancelled, hFail⟩ | ⟨_, hFail⟩
  · rw [hFail]
    exact .torn (Or.inl ⟨p, rfl⟩) (fun hLoose => (hLoose rfl).elim) hHeeded
  · rw [hFail]
    exact exit_balanced hEnded (Nat.zero_le _) hCancelled
  · rw [hFail]
    exact .between (Or.inr trivial) hEnded

theorem beginCycle_balanced (h : Books feed .closed c.core) :
    Balanced feed torn (c.beginCycle feed) := by
  have hBegan := h.began ⟨c.cursor.index, c.core.now⟩
  dsimp only [beginCycle]
  split
  · exact fail_balanced _ _ hBegan
  · split
    · exact .torn (Or.inl ⟨_, rfl⟩) (fun hLoose => (hLoose rfl).elim) hBegan
    · exact .waiting trivial (hBegan.note rfl)

theorem goOn_balanced (h : Books feed .closed c.core) : Balanced feed torn (c.goOn feed) := by
  unfold goOn
  split
  · next hCancelled => exact exit_balanced h (Nat.zero_le _) hCancelled
  · exact beginCycle_balanced h

theorem rest_balanced (cycle : Cycle) (h : Books feed .closed c.core) :
    Balanced feed torn (c.rest feed cycle) := by
  dsimp only [rest]
  split
  · split
    · next hCancelled => exact exit_balanced h (Nat.zero_le _) hCancelled
    · exact .between (Or.inr trivial) h
  · exact goOn_balanced h

theorem turn_waiting_balanced {cycle : Cycle} {limit : Option Duration}
    (hWorker : c.worker = .fetching cycle limit) (h : Books feed .underway c.core) :
    Balanced feed torn (c.turn feed) := by
  have hSame : Balanced feed torn c := .waiting (by rw [hWorker]; trivial) h
  simp only [turn, hWorker]
  split
  · next hCancelled =>
      have hCut : Books feed .cutOff c.abandon.core := h.cut (e := .abandoned _) hCancelled
      exact exit_balanced hCut (Nat.le_refl _) hCancelled
  · next hGoesOn =>
      split
      · exact hSame
      · split
        · exact fail_balanced _ _ (h.note (e := .abandoned _) (Bool.eq_false_iff.2 hGoesOn))
        · exact hSame

theorem turn_ready_balanced (hReady : c.worker.IsReady) (h : Books feed .closed c.core) :
    Balanced feed torn (c.turn feed) := by
  have hSame : Balanced feed torn c := .between (Or.inr hReady) h
  cases hWorker : c.worker with
  | spawned =>
      simp only [turn, hWorker]
      exact goOn_balanced (c := c.log _) (h.log (by simp [Feed.record]) (by simp [Feed.record]))
  | backingOff cycle due =>
      simp only [turn, hWorker]
      split
      · next hCancelled => exact exit_balanced h (Nat.zero_le _) hCancelled
      · split
        · exact rest_balanced cycle h
        · exact hSame
  | resting cycle due =>
      simp only [turn, hWorker]
      split
      · next hCancelled => exact exit_balanced h (Nat.zero_le _) hCancelled
      · split
        · exact goOn_balanced h
        · exact hSame
  | _ =>
      rw [hWorker] at hReady
      exact hReady.elim

theorem turn_balanced (h : Balanced feed torn c) : Balanced feed torn (c.turn feed) := by
  cases hCase : h with
  | between hIdle books =>
      rcases hIdle with hAbsent | hReady
      · rw [turn_of_absent feed hAbsent]
        exact h
      · exact turn_ready_balanced hReady books
  | waiting hWaiting books =>
      obtain ⟨cycle, limit, hWorker⟩ := Worker.isWaiting_iff.1 hWaiting
      exact turn_waiting_balanced hWorker books
  | ended hEnded _ _ _ =>
      simp only [turn, hEnded]
      exact h
  | torn hWorker _ _ =>
      rcases hWorker with ⟨p, hCrashed⟩ | ⟨hEnded, _⟩
      · simp only [turn, hCrashed]
        exact h
      · simp only [turn, hEnded]
        exact h

theorem reportCrash_balanced (h : Balanced feed torn c) :
    Balanced feed torn (c.reportCrash feed) := by
  unfold reportCrash
  split
  · next p hCrashed =>
      cases h with
      | between hIdle _ => simp [hCrashed, Worker.IsReady] at hIdle
      | waiting hWaiting _ => simp [hCrashed, Worker.IsWaiting] at hWaiting
      | ended hEnded => cases hCrashed.symm.trans hEnded
      | torn _ hLoose books =>
          refine .torn (Or.inr ⟨rfl, _, List.mem_cons_self .., rfl⟩) hLoose
            (books.log (by simp [Feed.record]) (by simp [Feed.record]))
  · exact h

/-! ### Happenings -/

variable [DecidableEq K] [DecidableEq V]

/-- A happening brings a response, and a key of one of its entries panics. -/
def Tears (feed : Feed K V) (happening : Happening V) (c : Cache K V) : Prop :=
  ∃ acts answer r p, happening = .answer acts answer ∧ c.response? happening = some r ∧
    ((c.acted feed acts).apply feed r.entries r.index).2 = .error p

theorem finish_entries_balanced (cycle : Cycle) (list : List V) (index : Index)
    (h : Books feed .underway c.core) (hSound : c.shared.audience.poisoned = false)
    (hTorn : ∀ p, (c.apply feed list index).2 = .error p → torn) :
    Balanced feed torn (c.finish feed cycle (.entries list index)) := by
  dsimp only [finish]
  cases hCancelled : c.core.cancelled with
  | true =>
      have hApply : c.apply feed list index = (c, .ok .unchanged) := by
        simp only [apply, isCancelled, hCancelled, if_true]
      have hCut : Books feed .cutOff (c.noteEnd feed cycle .unchanged).core :=
        cycleRecord_plain (h.cut (e := .ended cycle .unchanged) hCancelled) cycle .unchanged _
      rw [hApply]
      dsimp only
      rw [rest_of_cancelled feed cycle (by exact hCancelled)]
      exact exit_balanced hCut (Nat.le_refl _) hCancelled
  | false =>
      rcases apply_books list index h hSound hCancelled with
        ⟨p, hError, hTaken⟩ | ⟨how, hOk, hClosed, hWhole⟩
      · have hApply : c.apply feed list index = ((c.apply feed list index).1, .error p) :=
          Prod.ext rfl hError
        rw [hApply]
        exact .torn (Or.inl ⟨p, rfl⟩) (fun _ => hTorn p hError) hTaken
      · have hApply : c.apply feed list index = ((c.apply feed list index).1, .ok how) :=
          Prod.ext rfl hOk
        rw [hApply]
        exact rest_balanced cycle (noteEnd_books hClosed cycle hWhole)

theorem receive_balanced (acts : List Act) (answer : Answer V) (h : Balanced feed torn c)
    (hSound : c.shared.audience.poisoned = false)
    (hTorn : Tears feed (.answer acts answer) c → torn) :
    Balanced feed torn (c.receive feed acts answer) := by
  rcases answer_cases feed acts answer c with ⟨hAwaits, cycle, limit, hWorker, hReceive⟩ |
    ⟨_, ⟨_, hReceive⟩ | ⟨_, hReceive⟩⟩
  · rw [hReceive]
    have hWaiting : c.worker.IsWaiting := Worker.isWaiting_iff.2 ⟨cycle, limit, hWorker⟩
    have hActed := (h.books_of_waiting hWaiting).comments (acted_comments feed acts c)
    cases answer with
    | panicked p => exact .torn (Or.inl ⟨p, rfl⟩) (fun hLoose => (hLoose rfl).elim) hActed
    | failed fault => exact fail_balanced cycle _ hActed
    | entries list index =>
        refine finish_entries_balanced cycle list index hActed
          ((acted_passes feed acts c).stirs.audience.poisoned.trans hSound) fun p hError => ?_
        exact hTorn ⟨acts, _, ⟨list, index⟩, p, rfl,
          response?_of_awaits hAwaits acts list index, hError⟩
  · rw [hReceive]
    exact turn_balanced h
  · rw [hReceive]
    exact h

theorem happen_balanced (happening : Happening V) (h : Balanced feed torn c)
    (hCoherent : c.Coherent)
    (hTorn : Tears feed happening c → torn) : Balanced feed torn (c.happen feed happening) := by
  cases happening with
  | start runtime =>
      rcases start_cases feed runtime c with ⟨hLatent, hStart⟩ | ⟨hSame, _⟩
      · have hBegun : Books feed .closed c.begun.core :=
          (h.books_of_absent (hCoherent.latent hLatent)).of_eq rfl rfl
        rw [happen, hStart]
        exact .between (Or.inr trivial)
          (hBegun.log (by simp [Feed.record]) (by simp [Feed.record]))
      · rw [happen, hSame]
        exact h
  | stop => exact h.comments (Core.stop_comments feed c.core) rfl
  | shutdown =>
      exact reportCrash_balanced
        (turn_balanced (h.comments (d := c.stop feed) (Core.stop_comments feed c.core) rfl))
  | join name react => exact h.comments (join_comments feed name react c) rfl
  | leave name => exact h.comments (d := (c.leave name).1) .refl rfl
  | answer acts answer => exact receive_balanced acts answer h hCoherent.able hTorn
  | elapse nanos =>
      cases h with
      | between hIdle books => exact .between hIdle (books.of_eq rfl rfl)
      | waiting hWaiting books => exact .waiting hWaiting (books.of_eq rfl rfl)
      | ended hEnded hCancelled hCuts books =>
          exact .ended hEnded hCancelled hCuts (books.of_eq rfl rfl)
      | torn hWorker hLoose books => exact .torn hWorker hLoose (books.of_eq rfl rfl)
  | turn => exact turn_balanced h

/-- Somewhere along a run a key panics. -/
def KeyPanics (feed : Feed K V) (run : List (Happening V)) (c : Cache K V) : Prop :=
  ∃ first happening rest, run = first ++ happening :: rest ∧
    Tears feed happening (c.replay feed first)

theorem replay_balanced (run : List (Happening V)) (h : Balanced feed torn c)
    (hCoherent : c.Coherent)
    (hTorn : KeyPanics feed run c → torn) : Balanced feed torn (c.replay feed run) := by
  induction run generalizing c with
  | nil => exact h
  | cons happening rest ih =>
      refine ih (happen_balanced happening h hCoherent fun hTears => ?_)
        (hCoherent.happen feed happening).1 fun hLater => ?_
      · exact hTorn ⟨[], happening, rest, rfl, hTears⟩
      · obtain ⟨first, next, rest', hRest, hTears⟩ := hLater
        exact hTorn ⟨happening :: first, next, rest', by rw [hRest, List.cons_append], hTears⟩

/-- Along every run the counters are what the history says. Every publication and every report of a
failure is counted, also when a stop cuts it short. Between two cycles each response has published a
snapshot or changed nothing, and each cycle has brought a response or failed, those aside that a
stop cut off: at most one, and only in a cache that is stopped. While a query is on its way it is
the one cycle more. Unless a key panicked, the responses are accounted for in every state. At every
event of a publication, up to the record that says how many listeners were told, the response of
that publication is the one not booked yet; and whenever a cycle begins everything is. -/
theorem counters_balance (feed : Feed K V) (run : List (Happening V)) :
    let c := (initial : Cache K V).replay feed run
    c.core.stats.published = c.core.published.length ∧
      c.core.stats.failed = (c.core.reports feed).length ∧
      (c.IsBetween → c.core.Balances feed ∧ c.core.cuts ≤ 1 ∧
        (c.core.cuts = 1 → c.worker = .ended ∧ c.core.lifecycle.phase = .stopped)) ∧
      (c.worker.IsWaiting →
        c.core.cycles = c.core.stats.succeeded + c.core.stats.failed + 1) ∧
      (¬ KeyPanics feed run (initial : Cache K V) →
        c.core.stats.succeeded = c.core.stats.published + c.core.stats.unchanged) ∧
      ∀ m earlier, m :: earlier <:+ c.core.moments →
        let past : Core K V := ⟨m.view, earlier⟩
        (Event.announcing past.events = true →
            past.stats.succeeded = past.stats.published + past.stats.unchanged + 1 ∧
              past.published.length = past.stats.published + 1) ∧
          ∀ cycle, m.event = .began cycle → past.Balances feed ∧ past.cuts = 0 := by
  intro c
  have hCoherent : c.Coherent := (Coherent.initial.replay feed run).1
  have hBalanced : Balanced feed (KeyPanics feed run (initial : Cache K V)) c :=
    replay_balanced run (.between (Or.inl rfl) .initial) Coherent.initial id
  obtain ⟨b, hTold, hWhole, books⟩ := hBalanced.books
  refine ⟨?_, books.failed.symm, ?_, fun hWaiting => (hBalanced.books_of_waiting hWaiting).cycles,
    ?_, ?_⟩
  · rw [books.published, hTold]
    rfl
  · intro hBetween
    obtain ⟨cuts, hCuts, closed, hCut⟩ := hBalanced.books_of_between hBetween
    have hSame : c.core.cuts = cuts := closed.cuts
    rw [hSame]
    exact ⟨closed.balances rfl rfl rfl, hCuts,
      fun hOne => (hCut hOne).imp_right hCoherent.stopped_of_cancelled⟩
  · intro hKeys
    rw [books.succeeded, hWhole hKeys, Nat.add_zero]
  · intro m earlier hSuffix
    exact ⟨(books.faithful m earlier hSuffix).told, (books.faithful m earlier hSuffix).began⟩

/-- One cycle fails. In the publication of the next one a listener stops the cache: the publication
is counted, although another listener never hears of it. -/
example :
    let feed : Feed Nat Nat := ⟨"numbers", .ok, toString, .default, .blank, fun _ => .idle⟩
    let run : List (Happening Nat) :=
      [.join "a" fun _ => ⟨[.stop], .returned⟩, .join "b" fun _ => .idle, .start true, .turn,
        .answer [] (.failed .noIndex), .elapse 10000000000, .turn,
        .answer [] (.entries [7] ⟨5⟩)]
    let c := (initial : Cache Nat Nat).replay feed run
    c.core.stats = ⟨1, 1, 0, 1, some ⟨5⟩, some 10000000000⟩ ∧ c.core.cycles = 2 ∧
      c.core.cuts = 0 ∧ (c.core.heard 0).length = 1 ∧ (c.core.heard 1).length = 0 := by
  decide +kernel

end Cache

end LongPoll
