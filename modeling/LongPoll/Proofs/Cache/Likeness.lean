import LongPoll.Proofs.Cache.Coherence

/-!
Two caches side by side.

A likeness says in what respects two caches may differ: they may hold other snapshots that count as
the same, and they may have histories of their own as long as events that are alike keep the
histories in step. Where the likeness is not exact, the worker, the time and the failures are left
out. What the owner, the callbacks and the responses do to two caches that are alike leaves them
alike; where the likeness is exact, so does the worker, and with it whatever happens. So what such a
likeness compares does not depend on what it leaves out.
-/

namespace LongPoll

attribute [ext] Stats Issue View Audience

variable {K V : Type}

/-- The two events are the same, but for snapshots that count as the same. -/
inductive Event.Like (same : Snapshot K V → Snapshot K V → Prop) :
    Event K V → Event K V → Prop where
  | same (e : Event K V) : Like same e e
  | published {s t : Snapshot K V} (h : same s t) : Like same (.published s) (.published t)
  | notified (listener : Listener) (call : Nat) {s t : Snapshot K V} (h : same s t) :
      Like same (.notified listener call s) (.notified listener call t)
  | observed (phase : Phase) {s t : Snapshot K V} (h : same s t) :
      Like same (.observed phase s) (.observed phase t)

theorem Event.Like.eq {e e' : Event K V} (h : e.Like Eq e') : e' = e := by
  cases h <;> simp_all

namespace Snapshot

theorem rel_refl (s : Option (Snapshot K V)) : Option.Rel Eq s s := by
  cases s with
  | none => exact .none
  | some _ => exact .some rfl

theorem eq_of_rel {s t : Option (Snapshot K V)} (h : Option.Rel Eq s t) : t = s := by
  cases h with
  | none => rfl
  | some hSame => rw [hSame]

end Snapshot

/-- In what respects two caches may differ. -/
structure Likeness (K V : Type) [DecidableEq K] [DecidableEq V] where
  /-- The snapshots that count as the same. -/
  same : Snapshot K V → Snapshot K V → Prop
  /-- The worker, the time, failures and the time of the last response are compared too. -/
  exact : Prop
  /-- The histories, latest first, are in step. -/
  inStep : List (Event K V) → List (Event K V) → Prop
  refl : ∀ s, same s s
  size : ∀ {s t}, same s t → s.size = t.size
  agrees : ∀ {s t s' t'}, same s t → same s' t' → s.agrees s' = t.agrees t'
  note : ∀ {e e' past past'}, e.Like same e' → inStep past past' →
    inStep (e :: past) (e' :: past')

variable [DecidableEq K] [DecidableEq V] (L : Likeness K V) {feed : Feed K V}

/-- The two lists build snapshots that count as the same, or meet the same panic. -/
def Likeness.Builds (feed : Feed K V) (list list' : List V) : Prop :=
  (Snapshot.build feed.keyOf list').repeated = (Snapshot.build feed.keyOf list).repeated ∧
    match (Snapshot.build feed.keyOf list).outcome, (Snapshot.build feed.keyOf list').outcome with
    | .error p, .error q => q = p
    | .ok s, .ok t => L.same s t
    | _, _ => False

theorem Likeness.Builds.refl {L : Likeness K V} (list : List V) : L.Builds feed list list := by
  refine ⟨rfl, ?_⟩
  cases (Snapshot.build feed.keyOf list).outcome with
  | error p => rfl
  | ok s => exact L.refl s

structure Stats.Alike (exact : Prop) (a b : Stats) : Prop where
  succeeded : b.succeeded = a.succeeded
  unchanged : b.unchanged = a.unchanged
  published : b.published = a.published
  lastIndex : b.lastIndex = a.lastIndex
  failed : exact → b.failed = a.failed
  lastContact : exact → b.lastContact = a.lastContact

structure Core.Alike (a b : Core K V) : Prop where
  lifecycle : b.lifecycle = a.lifecycle
  cancelled : b.cancelled = a.cancelled
  serial : b.current.serial = a.current.serial
  current : L.same a.current.content b.current.content
  now : L.exact → b.now = a.now
  stats : Stats.Alike L.exact a.stats b.stats
  history : L.inStep a.events b.events

structure Audience.Alike (a b : Audience K V) : Prop where
  members : b.members = a.members
  latest : Option.Rel L.same a.latest b.latest
  poisoned : b.poisoned = a.poisoned
  nextId : b.nextId = a.nextId
  known : b.known = a.known

structure Shared.Alike (s t : Shared K V) : Prop where
  around : s.around.Alike L t.around
  audience : s.audience.Alike L t.audience

/-- The two answers are the same, but for the entries they list. -/
inductive Likeness.Answers (feed : Feed K V) : Answer V → Answer V → Prop where
  | panicked (p : Panic) : Likeness.Answers feed (.panicked p) (.panicked p)
  | failed (fault : FetchFault) : Likeness.Answers feed (.failed fault) (.failed fault)
  | entries {list list' : List V} (index : Index) (hBuilds : L.Builds feed list list') :
      Likeness.Answers feed (.entries list index) (.entries list' index)

/-- The two happenings are the same, but for the entries of answers. -/
inductive Likeness.Happenings (feed : Feed K V) : Happening V → Happening V → Prop where
  | same (happening : Happening V) : Likeness.Happenings feed happening happening
  | answer (acts : List Act) {answer answer' : Answer V} (hAnswer : L.Answers feed answer answer') :
      Likeness.Happenings feed (.answer acts answer) (.answer acts answer')

variable {L}

theorem Likeness.Answers.refl (answer : Answer V) : L.Answers feed answer answer := by
  cases answer with
  | panicked p => exact .panicked p
  | failed fault => exact .failed fault
  | entries list index => exact .entries index (.refl list)

namespace Core.Alike

variable {a b : Core K V}

theorem record (h : a.Alike L b) {e e' : Event K V} (hEvent : e.Like L.same e') :
    (a.record e).Alike L (b.record e') :=
  { h with history := L.note hEvent h.history }

theorem stop (h : a.Alike L b) : (a.stop feed).Alike L (b.stop feed) := by
  have hStopped : Core.Alike L { a with lifecycle := a.lifecycle.stop.1, cancelled := true }
      { b with lifecycle := a.lifecycle.stop.1, cancelled := true } :=
    { h with lifecycle := rfl, cancelled := rfl }
  unfold Core.stop
  rw [h.lifecycle]
  dsimp only
  split
  · exact hStopped.record (.same _)
  · exact hStopped

end Core.Alike

namespace Audience.Alike

variable {a b : Audience K V}

theorem leave (h : a.Alike L b) (name : Name) :
    (a.leave name).1.Alike L (b.leave name).1 ∧ (b.leave name).2 = (a.leave name).2 := by
  unfold Audience.leave
  rw [h.known]
  split
  · exact ⟨h, rfl⟩
  · rw [h.members]
    exact ⟨{ h with members := by rw [Audience.expel, Audience.expel, h.members] }, rfl⟩

theorem countCall (h : a.Alike L b) (id : Nat) : (a.countCall id).Alike L (b.countCall id) :=
  { h with members := congrArg (List.map _) h.members }

end Audience.Alike

namespace Shared.Alike

variable {s t : Shared K V} {x y : Snapshot K V}

theorem record (h : s.Alike L t) (feed : Feed K V) {e e' : Event K V}
    (hEvent : e.Like L.same e') :
    Shared.Alike L (s.record (setting feed) e) (t.record (setting feed) e') :=
  ⟨h.around.record hEvent, h.audience⟩

theorem perform (h : s.Alike L t) (act : Act) :
    (Shared.perform feed act s).Alike L (Shared.perform feed act t) := by
  cases act with
  | stop => exact ⟨h.around.stop, h.audience⟩
  | observe =>
      have hView : Event.Like L.same
          (.observed s.around.lifecycle.phase s.around.current.content)
          (.observed t.around.lifecycle.phase t.around.current.content) := by
        rw [h.around.lifecycle]
        exact .observed _ h.around.current
      exact ⟨h.around.record hView, h.audience⟩
  | remove target =>
      obtain ⟨hAudience, hFound⟩ := h.audience.leave target
      change Shared.Alike L (s.removeBy _ target) (t.removeBy _ target)
      unfold Scene.removeBy
      generalize s.audience.leave target = left at hAudience hFound
      generalize t.audience.leave target = left' at hAudience hFound
      obtain ⟨audience, found⟩ := left
      obtain ⟨audience', found'⟩ := left'
      dsimp only at hAudience hFound
      subst hFound
      cases found' with
      | none => exact h
      | some found => exact ⟨h.around.record (.same _), hAudience⟩

theorem performAll (h : s.Alike L t) (feed : Feed K V) (acts : List Act) :
    Shared.Alike L (s.performAll (setting feed) acts) (t.performAll (setting feed) acts) := by
  induction acts generalizing s t with
  | nil => exact h
  | cons act rest ih => exact ih (h.perform act)

theorem call (h : s.Alike L t) (m : Member) (hSame : L.same x y) :
    Shared.Alike L (s.call (setting feed) m x) (t.call (setting feed) m y) := by
  have hCounted : Shared.Alike L { s with audience := s.audience.countCall m.id }
      { t with audience := t.audience.countCall m.id } := ⟨h.around, h.audience.countCall m.id⟩
  have hTold := hCounted.record feed (.notified m.toListener (m.calls + 1) hSame)
  have hActed := hTold.performAll feed (m.react (m.calls + 1)).acts
  dsimp only [Scene.call]
  split
  · exact hActed
  · exact hActed.record feed (.same _)

theorem broadcastGate_eq (h : s.Alike L t) (n : Nat) : broadcastGate n t = broadcastGate n s := by
  rw [broadcastGate, broadcastGate, h.around.cancelled]

theorem poison (h : s.Alike L t) : Shared.Alike L s.poison t.poison :=
  ⟨h.around, { h.audience with poisoned := rfl }⟩

theorem deliver (h : s.Alike L t) (hSame : L.same x y) (targets : List Member) (delivered : Nat) :
    Shared.Alike L (Scene.deliver (setting feed) broadcastGate x targets delivered s).1
        (Scene.deliver (setting feed) broadcastGate y targets delivered t).1 ∧
      (Scene.deliver (setting feed) broadcastGate y targets delivered t).2 =
        (Scene.deliver (setting feed) broadcastGate x targets delivered s).2 := by
  induction targets generalizing delivered s t with
  | nil => exact ⟨h, rfl⟩
  | cons m rest ih =>
      simp only [Scene.deliver, h.broadcastGate_eq]
      cases broadcastGate delivered s with
      | panicked p => exact ⟨h.poison, rfl⟩
      | closed => exact ⟨h.record feed (.same _), rfl⟩
      | «open» => exact ih (h.call m hSame) (delivered + 1)

theorem broadcast (h : s.Alike L t) (feed : Feed K V) (hSame : L.same x y) :
    Shared.Alike L (s.broadcast (setting feed) broadcastGate x).1
        (t.broadcast (setting feed) broadcastGate y).1 ∧
      (t.broadcast (setting feed) broadcastGate y).2 =
        (s.broadcast (setting feed) broadcastGate x).2 := by
  have hNoting : Shared.Alike L { s with audience := { s.audience with latest := some x } }
      { t with audience := { t.audience with latest := some y } } :=
    ⟨h.around, { h.audience with latest := .some hSame }⟩
  unfold Scene.broadcast
  rw [h.audience.poisoned, h.audience.members]
  split
  · exact ⟨h, rfl⟩
  · exact hNoting.deliver hSame _ _

theorem enrolled (h : s.Alike L t) (name : Name) (react : Nat → Reaction) :
    Shared.Alike L (s.enrolled name react) (t.enrolled name react) := by
  refine ⟨h.around, { h.audience with members := ?_, nextId := ?_ }⟩
  · simp only [Scene.enrolled, Audience.enrol, h.audience.members, h.audience.nextId]
  · simp only [Scene.enrolled, Audience.enrol, h.audience.nextId]

theorem introduce (h : s.Alike L t) (name : Name) (id : Nat) :
    Shared.Alike L (s.introduce name id) (t.introduce name id) :=
  ⟨h.around, { h.audience with known := congrArg ((name, id) :: ·) h.audience.known }⟩

theorem greeted (h : s.Alike L t) (name : Name) (react : Nat → Reaction) (hSame : L.same x y) :
    Shared.Alike L (s.greeted (setting feed) name react x)
      (t.greeted (setting feed) name react y) := by
  have hWelcome : Scene.welcome y = Scene.welcome x := by
    rw [Scene.welcome, Scene.welcome, L.size hSame]
  have hLogged := (h.enrolled name react).record feed (.same (.log (Scene.welcome x)))
  unfold Scene.greeted
  rw [hWelcome, h.audience.nextId]
  exact hLogged.call _ hSame

theorem join (h : s.Alike L t) (name : Name) (react : Nat → Reaction) :
    Shared.Alike L (s.join (setting feed) joinGate name react).1
      (t.join (setting feed) joinGate name react).1 := by
  have hEnrolled := h.enrolled name react
  cases hPoisoned : s.audience.poisoned with
  | true =>
      have hPoisoned' : t.audience.poisoned = true := h.audience.poisoned.trans hPoisoned
      rw [Scene.join, Scene.join, if_pos hPoisoned, if_pos hPoisoned']
      exact h
  | false =>
      have hPoisoned' : t.audience.poisoned = false := h.audience.poisoned.trans hPoisoned
      have hGate : joinGate 0 (t.enrolled name react) = joinGate 0 (s.enrolled name react) := by
        rw [joinGate, joinGate, hEnrolled.around.lifecycle]
      rw [Scene.join_eq joinGate name react hPoisoned, Scene.join_eq joinGate name react hPoisoned',
        hGate, h.audience.nextId]
      have hLatest := h.audience.latest
      generalize s.audience.latest = latest at hLatest
      generalize t.audience.latest = latest' at hLatest
      cases hLatest with
      | none => exact hEnrolled.introduce name _
      | some hSame =>
          cases joinGate 0 (s.enrolled name react) with
          | panicked p => exact hEnrolled.poison
          | closed => exact hEnrolled.introduce name _
          | «open» => exact (h.greeted name react hSame).introduce name _

end Shared.Alike

namespace Cache

/-- Carry a cycle on after a response was taken. -/
def conclude (feed : Feed K V) (cycle : Cycle) : Cache K V × Except Panic CycleEnd → Cache K V
  | (c, .error p) => c.crash p
  | (c, .ok how) => (c.noteEnd feed cycle how).rest feed cycle

variable (L) in
/-- The two caches are alike. -/
structure Alike (c d : Cache K V) : Prop where
  shared : c.shared.Alike L d.shared
  index : d.cursor.index = c.cursor.index
  published : Option.Rel L.same c.cursor.published d.cursor.published
  worker : L.exact → d.worker = c.worker

namespace Alike

variable {c d : Cache K V}

theorem core (h : c.Alike L d) : c.core.Alike L d.core := h.shared.around

theorem isCancelled (h : c.Alike L d) : d.isCancelled = c.isCancelled := h.core.cancelled

theorem record (h : c.Alike L d) {e e' : Event K V} (hEvent : e.Like L.same e') :
    (c.record e).Alike L (d.record e') :=
  { h with shared := ⟨h.core.record hEvent, h.shared.audience⟩ }

theorem log (h : c.Alike L d) (r : LogRecord) : (c.log r).Alike L (d.log r) := h.record (.same _)

theorem becomes (h : c.Alike L d) (worker : Worker) :
    (c.becomes worker).Alike L (d.becomes worker) :=
  { h with worker := fun _ => rfl }

theorem count (h : c.Alike L d) {f g : Stats → Stats}
    (hStats : Stats.Alike L.exact (f c.core.stats) (g d.core.stats)) :
    (c.count f).Alike L (d.count g) :=
  { h with shared := ⟨{ h.core with stats := hStats }, h.shared.audience⟩ }

theorem acted (h : c.Alike L d) (feed : Feed K V) (acts : List Act) :
    (c.acted feed acts).Alike L (d.acted feed acts) :=
  { h with shared := h.shared.performAll feed acts }

/-! ### Responses -/

variable {x y : Snapshot K V}

theorem noteContact (h : c.Alike L d) : c.noteContact.Alike L d.noteContact :=
  h.count { h.core.stats with
    succeeded := congrArg (· + 1) h.core.stats.succeeded
    lastContact := fun hExact => congrArg some (h.core.now hExact) }

theorem noteUnchanged (h : c.Alike L d) : c.noteUnchanged.Alike L d.noteUnchanged :=
  h.count { h.core.stats with unchanged := congrArg (· + 1) h.core.stats.unchanged }

theorem hold (h : c.Alike L d) (next : Option Index) : (c.hold next).Alike L (d.hold next) := by
  have hCounted := h.count (f := fun s => { s with lastIndex := next })
    (g := fun s => { s with lastIndex := next }) { h.core.stats with lastIndex := rfl }
  exact { hCounted with index := rfl }

theorem settle (h : c.Alike L d) :
    c.settle.1.Alike L d.settle.1 ∧ d.settle.2 = c.settle.2 := by
  have hLifecycle : d.core.lifecycle.settle = c.core.lifecycle.settle :=
    congrArg Lifecycle.settle h.core.lifecycle
  exact ⟨{ h with shared := ⟨{ h.core with lifecycle := congrArg Prod.fst hLifecycle },
    h.shared.audience⟩ }, (congrArg Prod.snd hLifecycle :)⟩

theorem issue (h : c.Alike L d) (hSame : L.same x y) : (c.issue x).Alike L (d.issue y) := by
  have hIssued : Alike L
      (c.modify fun core => { core with current := ⟨core.current.serial + 1, x⟩ })
      (d.modify fun core => { core with current := ⟨core.current.serial + 1, y⟩ }) :=
    { h with shared := ⟨{ h.core with
        serial := congrArg (· + 1) h.core.serial
        current := hSame }, h.shared.audience⟩ }
  exact hIssued.record (.published hSame)

theorem announce (h : c.Alike L d) (feed : Feed K V) (hSame : L.same x y) :
    (c.announce feed x).Alike L (d.announce feed y) := by
  obtain ⟨hTold, hOutcome⟩ := h.shared.broadcast feed hSame
  have hAll : Alike L
      { c with shared := (c.shared.broadcast (Shared.setting feed) Shared.broadcastGate x).1 }
      { d with shared := (d.shared.broadcast (Shared.setting feed) Shared.broadcastGate y).1 } :=
    { h with shared := hTold }
  dsimp only [Cache.announce]
  rw [hOutcome, ← L.size hSame]
  split
  · exact hAll.log _
  · exact hAll

theorem publish (h : c.Alike L d) (hSame : L.same x y) :
    (c.publish feed x).Alike L (d.publish feed y) := by
  obtain ⟨hSettled, hFirst⟩ := (h.issue hSame).settle
  have hFinished {c' d' : Cache K V} (h' : c'.Alike L d') : Alike L
      { (c'.announce feed x).count (fun s => { s with published := s.published + 1 }) with
        cursor := { (c'.announce feed x).cursor with published := some x } }
      { (d'.announce feed y).count (fun s => { s with published := s.published + 1 }) with
        cursor := { (d'.announce feed y).cursor with published := some y } } := by
    have hAnnounced := h'.announce feed hSame
    have hCounted := hAnnounced.count (f := fun s => { s with published := s.published + 1 })
      (g := fun s => { s with published := s.published + 1 })
      { hAnnounced.core.stats with
        published := congrArg (· + 1) hAnnounced.core.stats.published }
    exact { hCounted with published := .some hSame }
  dsimp only [Cache.publish]
  rw [hFirst, ← L.size hSame]
  split
  · exact hFinished (hSettled.log _)
  · exact hFinished hSettled

theorem repeated (h : c.Alike L d) (feed : Feed K V) (keys : List K) :
    Alike L (keys.foldl (fun c k => c.log (Snapshot.repeatedRecord feed.showKey k)) c)
      (keys.foldl (fun c k => c.log (Snapshot.repeatedRecord feed.showKey k)) d) := by
  induction keys generalizing c d with
  | nil => exact h
  | cons k rest ih => exact ih (h.log _)

theorem isNews (h : c.Alike L d) (hSame : L.same x y) : d.isNews y = c.isNews x := by
  have hPublished := h.published
  unfold Cache.isNews
  generalize c.cursor.published = published at hPublished
  generalize d.cursor.published = published' at hPublished
  cases hPublished with
  | none => rfl
  | some hHeld => exact congrArg not (L.agrees hHeld hSame).symm

variable {list list' : List V}

theorem absorb (h : c.Alike L d) (hBuilds : L.Builds feed list list') (next : Option Index) :
    (c.absorb feed list next).1.Alike L (d.absorb feed list' next).1 ∧
      (d.absorb feed list' next).2 = (c.absorb feed list next).2 := by
  obtain ⟨hRepeated, hOutcome⟩ := hBuilds
  have hSaid := h.repeated feed (Snapshot.build feed.keyOf list).repeated
  dsimp only [Cache.absorb]
  rw [hRepeated]
  generalize (Snapshot.build feed.keyOf list).outcome = outcome at hOutcome
  generalize (Snapshot.build feed.keyOf list').outcome = outcome' at hOutcome
  cases outcome with
  | error p =>
      cases outcome' with
      | error q =>
          obtain rfl : q = p := hOutcome
          exact ⟨hSaid, rfl⟩
      | ok y => exact hOutcome.elim
  | ok x =>
      cases outcome' with
      | error q => exact hOutcome.elim
      | ok y =>
          have hSame : L.same x y := hOutcome
          have hHeld := hSaid.hold next
          dsimp only
          rw [hHeld.isNews hSame]
          split
          · exact ⟨hHeld.publish hSame, rfl⟩
          · exact ⟨hHeld.settle.1.noteUnchanged, rfl⟩

theorem apply (h : c.Alike L d) (hBuilds : L.Builds feed list list') (returned : Index) :
    (c.apply feed list returned).1.Alike L (d.apply feed list' returned).1 ∧
      (d.apply feed list' returned).2 = (c.apply feed list returned).2 := by
  have hContact := h.noteContact
  have hPublished := hContact.published
  unfold Cache.apply
  rw [h.isCancelled]
  split
  · exact ⟨h, rfl⟩
  · dsimp only
    rw [hContact.index]
    cases Index.movement c.noteContact.cursor.index returned with
    | still =>
        have hAbsorbed := hContact.absorb hBuilds (some returned)
        generalize c.noteContact.cursor.published = published at hPublished
        generalize d.noteContact.cursor.published = published' at hPublished
        cases hPublished with
        | none => exact hAbsorbed
        | some _ => exact ⟨hContact.noteUnchanged, rfl⟩
    | backward => exact (hContact.log _).absorb hBuilds _
    | forward next => exact hContact.absorb hBuilds _

/-! ### Calls of the owner -/

theorem start (h : c.Alike L d) (runtime : Bool) :
    (c.start feed runtime).1.Alike L (d.start feed runtime).1 := by
  unfold Cache.start
  rw [h.core.lifecycle]
  split
  · exact h
  · split
    · exact h
    · next lifecycle _ =>
        have hBegun : Alike L
            ((c.modify fun core => { core with lifecycle }).becomes .spawned)
            ((d.modify fun core => { core with lifecycle }).becomes .spawned) :=
          { h with
            shared := ⟨{ h.core with lifecycle := rfl }, h.shared.audience⟩
            worker := fun _ => rfl }
        exact hBegun.log _

theorem join (h : c.Alike L d) (name : Name) (react : Nat → Reaction) :
    (c.join feed name react).1.Alike L (d.join feed name react).1 :=
  { h with shared := h.shared.join name react }

theorem leave (h : c.Alike L d) (name : Name) : (c.leave name).1.Alike L (d.leave name).1 :=
  { h with shared := ⟨h.core, (h.shared.audience.leave name).1⟩ }

/-! ### The worker -/

theorem exit (h : c.Alike L d) : (c.exit feed).Alike L (d.exit feed) :=
  (h.log _).becomes .ended

theorem crash (h : c.Alike L d) (p : Panic) : (c.crash p).Alike L (d.crash p) :=
  h.becomes (.crashed p)

theorem abandon (h : c.Alike L d) : c.abandon.Alike L d.abandon := by
  unfold Cache.abandon
  rw [h.isCancelled]
  exact h.record (.same _)

variable (hExact : L.exact)
include hExact

theorem noteEnd (h : c.Alike L d) (feed : Feed K V) (cycle : Cycle) (how : CycleEnd) :
    (c.noteEnd feed cycle how).Alike L (d.noteEnd feed cycle how) := by
  unfold Cache.noteEnd
  rw [h.core.now hExact]
  exact (h.record (.same _)).log _

theorem report (h : c.Alike L d) (fault : Fault) :
    (c.report feed fault).1.Alike L (d.report feed fault).1 ∧
      (d.report feed fault).2 = (c.report feed fault).2 := by
  let e : Event K V := .ofFailure feed.settings.errorLog (failureMessage feed) fault
  have hReaction : (d.record e).reactionToFailure feed = (c.record e).reactionToFailure feed := by
    have hFailed : (d.record e).core.stats.failed = (c.record e).core.stats.failed :=
      h.core.stats.failed hExact
    unfold reactionToFailure
    rw [hFailed]
  have hActed := (h.record (.same e)).acted feed
    ((c.record e).reactionToFailure feed).acts
  dsimp only [Cache.report]
  rw [hReaction]
  cases ((c.record e).reactionToFailure feed).ending <;> exact ⟨hActed, rfl⟩

theorem fail (h : c.Alike L d) (cycle : Cycle) (fault : Fault) :
    (c.fail feed cycle fault).Alike L (d.fail feed cycle fault) := by
  have hCounted : Alike L (c.count fun s => { s with failed := s.failed + 1 })
      (d.count fun s => { s with failed := s.failed + 1 }) :=
    h.count { h.core.stats with
      failed := fun _ => congrArg (· + 1) (h.core.stats.failed hExact) }
  obtain ⟨hReported, hPanic⟩ := hCounted.report hExact fault
  dsimp only [Cache.fail]
  rw [hPanic]
  split
  · exact hReported.crash _
  · have hEnded := hReported.noteEnd hExact feed cycle .failed
    rw [hEnded.isCancelled, hEnded.core.now hExact]
    split
    · exact hEnded.exit
    · exact hEnded.becomes _

theorem beginCycle (h : c.Alike L d) : (c.beginCycle feed).Alike L (d.beginCycle feed) := by
  have hBegan := h.record (.same (.began ⟨c.cursor.index, c.core.now⟩))
  dsimp only [Cache.beginCycle]
  rw [h.index, h.core.now hExact]
  split
  · exact hBegan.fail hExact _ _
  · split
    · exact hBegan.crash _
    · exact (hBegan.record (.same _)).becomes _

theorem goOn (h : c.Alike L d) : (c.goOn feed).Alike L (d.goOn feed) := by
  unfold Cache.goOn
  rw [h.isCancelled]
  split
  · exact h.exit
  · exact h.beginCycle hExact

theorem rest (h : c.Alike L d) (cycle : Cycle) :
    (c.rest feed cycle).Alike L (d.rest feed cycle) := by
  dsimp only [Cache.rest]
  rw [h.core.now hExact, h.isCancelled]
  split
  · split
    · exact h.exit
    · exact h.becomes _
  · exact h.goOn hExact

theorem turn (h : c.Alike L d) : (c.turn feed).Alike L (d.turn feed) := by
  unfold Cache.turn
  rw [h.worker hExact, h.isCancelled, h.core.now hExact]
  split
  · exact h
  · exact h
  · exact h
  · exact (h.log _).goOn hExact
  · split
    · exact h.abandon.exit
    · split
      · exact h
      · split
        · exact h.abandon.fail hExact _ _
        · exact h
  · split
    · exact h.exit
    · split
      · exact h.rest hExact _
      · exact h
  · split
    · exact h.exit
    · split
      · exact h.goOn hExact
      · exact h

/-! ### Happenings -/

theorem conclude (cycle : Cycle) {taken taken' : Cache K V × Except Panic CycleEnd}
    (h : taken.1.Alike L taken'.1) (hEnd : taken'.2 = taken.2) :
    (Cache.conclude feed cycle taken).Alike L (Cache.conclude feed cycle taken') := by
  obtain ⟨c, outcome⟩ := taken
  obtain ⟨d, outcome'⟩ := taken'
  obtain rfl : outcome' = outcome := hEnd
  cases outcome' with
  | error p => exact h.crash p
  | ok how => exact (h.noteEnd hExact feed cycle how).rest hExact cycle

theorem finish (h : c.Alike L d) (cycle : Cycle) {answer answer' : Answer V}
    (hAnswer : L.Answers feed answer answer') :
    (c.finish feed cycle answer).Alike L (d.finish feed cycle answer') := by
  cases hAnswer with
  | panicked p => exact h.crash p
  | failed fault => exact h.fail hExact cycle _
  | entries index hBuilds =>
      obtain ⟨hApplied, hEnd⟩ := h.apply hBuilds index
      exact conclude hExact cycle hApplied hEnd

theorem receive (h : c.Alike L d) (acts : List Act) {answer answer' : Answer V}
    (hAnswer : L.Answers feed answer answer') :
    (c.receive feed acts answer).Alike L (d.receive feed acts answer') := by
  have hActed := h.acted feed acts
  unfold Cache.acted at hActed
  unfold Cache.receive
  rw [h.worker hExact] at hActed ⊢
  rw [h.core.now hExact]
  split
  · split
    · exact h.turn hExact
    · exact hActed.finish hExact _ hAnswer
  · exact h

theorem reportCrash (h : c.Alike L d) : (c.reportCrash feed).Alike L (d.reportCrash feed) := by
  unfold Cache.reportCrash
  rw [h.worker hExact]
  split
  · exact (h.log _).becomes .ended
  · exact h

theorem shutdown (h : c.Alike L d) : (c.shutdown feed).Alike L (d.shutdown feed) :=
  ((h.acted feed [.stop]).turn hExact).reportCrash hExact

/-- The same happening, or answers that are alike, leave the two caches alike. -/
theorem happen (h : c.Alike L d) {happening happening' : Happening V}
    (hHappening : L.Happenings feed happening happening') :
    (c.happen feed happening).Alike L (d.happen feed happening') := by
  cases hHappening with
  | answer acts hAnswer => exact h.receive hExact acts hAnswer
  | same =>
      cases happening with
      | start runtime => exact h.start runtime
      | stop => exact h.acted feed [.stop]
      | shutdown => exact h.shutdown hExact
      | join name react => exact h.join name react
      | leave name => exact h.leave name
      | answer acts answer => exact h.receive hExact acts (.refl answer)
      | elapse nanos =>
          have hNow (hExact : L.exact) : d.core.now + nanos = c.core.now + nanos :=
            congrArg (· + nanos) (h.core.now hExact)
          exact { h with shared := ⟨{ h.core with now := hNow }, h.shared.audience⟩ }
      | turn => exact h.turn hExact

end Alike

/-! ### The same snapshots, and the same events of some kinds -/

/-- The two caches hold the same snapshots, and their histories are the same as far as events are
kept. -/
def keeping (exact : Prop) (keep : Event K V → Bool) : Likeness K V where
  same := Eq
  exact := exact
  inStep past past' := past'.filter keep = past.filter keep
  refl _ := rfl
  size h := congrArg Snapshot.size h
  agrees h h' := by rw [h, h']
  note hEvent h := by rw [hEvent.eq, List.filter_cons, List.filter_cons, h]

namespace Alike

variable {c d : Cache K V} {exact : Prop} {keep : Event K V → Bool}

theorem keeping_refl (c : Cache K V) : Alike (keeping exact keep) c c where
  shared := ⟨⟨rfl, rfl, rfl, rfl, fun _ => rfl, ⟨rfl, rfl, rfl, rfl, fun _ => rfl, fun _ => rfl⟩,
    rfl⟩, ⟨rfl, Snapshot.rel_refl _, rfl, rfl, rfl⟩⟩
  index := rfl
  published := Snapshot.rel_refl _
  worker _ := rfl

theorem cursor_eq (h : Alike (keeping exact keep) c d) : d.cursor = c.cursor :=
  congrArg₂ Cursor.mk h.index (Snapshot.eq_of_rel h.published)

theorem toView_eq (h : Alike (keeping exact keep) c d) (hExact : exact) :
    d.core.toView = c.core.toView := by
  obtain ⟨hLifecycle, hCancelled, hSerial, hContent, hNow, hStats, _⟩ := h.core
  have hFailed := hStats.failed hExact
  have hContact := hStats.lastContact hExact
  obtain ⟨hSucceeded, hUnchanged, hPublished, hLast, _, _⟩ := hStats
  exact View.ext hLifecycle hCancelled (Issue.ext hSerial hContent.symm)
    (Stats.ext hSucceeded hFailed hUnchanged hPublished hLast hContact) (hNow hExact)

theorem audience_eq (h : Alike (keeping exact keep) c d) :
    d.shared.audience = c.shared.audience := by
  obtain ⟨hMembers, hLatest, hPoisoned, hNext, hKnown⟩ := h.shared.audience
  exact Audience.ext hMembers (Snapshot.eq_of_rel hLatest) hPoisoned hNext hKnown

theorem collect_eq (h : Alike (keeping exact keep) c d) {β : Type} {f : Event K V → Option β}
    (hLeft : ∀ e, keep e = false → f e = none) :
    Event.collect f d.core.events = Event.collect f c.core.events := by
  have hEvents : d.core.events.filter keep = c.core.events.filter keep := h.core.history
  rw [← Event.collect_filter hLeft, hEvents, Event.collect_filter hLeft]

end Alike

end Cache

end LongPoll
