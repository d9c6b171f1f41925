import LongPoll.Proofs.Cache.Comments
import LongPoll.Proofs.Cache.Impacts

/-!
What the callback for failed cycles does by itself.

The callback may act on the cache, and it may panic. That is all that readers and listeners can see
of a failed cycle: what they have after it is what they had before, after the acts of the callback.
-/

namespace LongPoll

/-- Time that passes, a turn of the worker, or an error of the source. -/
inductive Happening.IsSetback {V : Type} : Happening V → Prop where
  | elapse (nanos : Nat) : (Happening.elapse nanos).IsSetback
  | turn : Happening.turn.IsSetback
  | failed (fault : FetchFault) : (Happening.answer [] (.failed fault)).IsSetback

namespace Cache

variable {K V : Type} {c d e : Cache K V} {feed : Feed K V}

/-- An act of the callback for failed cycles. -/
def IsComplaint (feed : Feed K V) (act : Act) : Prop :=
  feed.settings.errorLog = .custom ∧ ∃ n, act ∈ (feed.consumer n).acts

theorem isComplaint_of_reaction {fault : Fault} {act : Act}
    (h : act ∈ (c.reactionTo feed fault).acts) : IsComplaint feed act := by
  unfold reactionTo reactionToFailure at h
  split at h
  · next hTarget => exact ⟨hTarget, _, h⟩
  · cases h

theorem acted_append (first second : List Act) (c : Cache K V) :
    c.acted feed (first ++ second) = (c.acted feed first).acted feed second := by
  unfold acted
  rw [Scene.performAll, List.foldl_append]
  rfl

variable [DecidableEq K] [DecidableEq V]

/-- Readers and listeners cannot tell the second cache from the first after some acts of the
callback for failed cycles. -/
def Complains (feed : Feed K V) (c d : Cache K V) : Prop :=
  ∃ acts : List Act, (∀ act ∈ acts, IsComplaint feed act) ∧ Alike outward (c.acted feed acts) d

namespace Complains

theorem refl (c : Cache K V) : Complains feed c c := ⟨[], nofun, .keeping_refl c⟩

theorem heeded (h : Complains feed e c) (fault : Fault) :
    Complains feed e (c.heeded feed fault) := by
  obtain ⟨acts, hActs, hAlike⟩ := h
  have hReported : Alike outward (e.acted feed acts) (c.reported feed fault) :=
    hAlike.weathers (reported_weathers feed fault c)
  refine ⟨acts ++ (c.reactionTo feed fault).acts, fun act hAct => ?_, ?_⟩
  · rcases List.mem_append.1 hAct with hEarlier | hReaction
    · exact hActs act hEarlier
    · exact isComplaint_of_reaction hReaction
  · rw [acted_append]
    exact hReported.acted feed _

/-- What the worker does by itself is no concern of readers and listeners. -/
theorem persists (feed : Feed K V) (e : Cache K V) : Persists feed (Complains feed e) where
  record := by
    rintro c _ ⟨acts, hActs, hAlike⟩ hRoutine
    have hHistory := (c.core.outward_record hRoutine.isInternal).trans hAlike.core.history
    exact ⟨acts, hActs,
      { hAlike with
        shared := ⟨{ hAlike.core with history := hHistory }, hAlike.shared.audience⟩ }⟩
  heeded h fault := h.heeded fault
  becomes := by
    rintro c ⟨acts, hActs, hAlike⟩ worker
    exact ⟨acts, hActs, hAlike.weathers (Weathers.becomes (.refl c : Weathers feed [] c c) worker)⟩

/-- An error of the source is the end of a cycle, or it comes when it is too late. -/
theorem failed (h : Complains feed e c) (fault : FetchFault) :
    Complains feed e (c.receive feed [] (.failed fault)) := by
  rcases answer_cases feed [] (.failed fault) c with ⟨_, cycle, limit, _, hReceive⟩ |
    ⟨_, ⟨_, hReceive⟩ | ⟨_, hReceive⟩⟩
  · rw [hReceive]
    exact (persists feed e).fail h cycle (.fetch fault)
  · rw [hReceive]
    exact (persists feed e).turn h
  · rw [hReceive]
    exact h

theorem happen (h : Complains feed e c) {happening : Happening V}
    (hSetback : happening.IsSetback) : Complains feed e (c.happen feed happening) := by
  cases hSetback with
  | elapse nanos =>
      obtain ⟨acts, hActs, hAlike⟩ := h
      exact ⟨acts, hActs,
        { hAlike with shared := ⟨{ hAlike.core with now := nofun }, hAlike.shared.audience⟩ }⟩
  | turn => exact (persists feed e).turn h
  | failed fault => exact h.failed fault

/-- However many setbacks follow each other, nothing but the callback acts. -/
theorem replay (run : List (Happening V)) (h : Complains feed e c)
    (hRun : ∀ happening ∈ run, happening.IsSetback) : Complains feed e (c.replay feed run) := by
  induction run generalizing c with
  | nil => exact h
  | cons happening rest ih =>
      exact ih (h.happen (hRun happening (List.mem_cons_self ..)))
        fun later hLater => hRun later (List.mem_cons_of_mem _ hLater)

/-- The snapshots stay as they are. The life of the cache and its audience are left to the
callback. -/
theorem spares (h : Complains feed c d) :
    d.core.current = c.core.current ∧ d.cursor = c.cursor ∧
      d.core.published = c.core.published ∧ (∀ id, d.core.heard id = c.core.heard id) ∧
      ∃ acts : List Act, (∀ act ∈ acts, IsComplaint feed act) ∧
        d.core.lifecycle = (c.acted feed acts).core.lifecycle ∧
        d.shared.audience = (c.acted feed acts).shared.audience := by
  obtain ⟨acts, hActs, hAlike⟩ := h
  have hActed := acted_passes feed acts c
  have hCurrent : d.core.current = (c.acted feed acts).core.current :=
    Issue.ext hAlike.core.serial hAlike.core.current.symm
  exact ⟨hCurrent.trans hActed.stirs.current, hAlike.cursor_eq.trans hActed.cursor,
    (Core.published_of_outward hAlike.core.history).trans hActed.published,
    fun id => (Core.heard_of_outward hAlike.core.history id).trans (hActed.heard id),
    acts, hActs, hAlike.core.lifecycle, hAlike.audience_eq⟩

end Complains

end Cache

end LongPoll
