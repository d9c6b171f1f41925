import LongPoll.Cache
import LongPoll.Proofs.Audience.Delivery

/-!
The history of a cache as a path of views.

Between two events the view of a cache changes by certain rules only, and an event happens only in
views that admit it. Whatever is done to a cache, from outside or by a callback in the middle of a
delivery, is a path of such changes and events. What is read off a whole history here needs nothing
but the path.
-/

namespace LongPoll

namespace View

variable {K V : Type} {v w x : View K V}

/-- Being stopped and being cancelled are one thing, except in the middle of a stop. -/
def Tied (v : View K V) : Prop := v.cancelled = v.lifecycle.isStopped

/-- How one view can follow another. The phase never goes back, and what readers get is settled
once the worker is told to end. -/
structure LeadsTo (v w : View K V) : Prop where
  phase : v.lifecycle.phase.rank ≤ w.lifecycle.phase.rank
  cancelled : v.cancelled = true → w.cancelled = true ∧ w.current = v.current
  tied : v.Tied → w.Tied

theorem LeadsTo.refl (v : View K V) : v.LeadsTo v := ⟨Nat.le_refl _, fun h => ⟨h, rfl⟩, id⟩

theorem LeadsTo.trans (h : v.LeadsTo w) (h' : w.LeadsTo x) : v.LeadsTo x where
  phase := Nat.le_trans h.phase h'.phase
  cancelled := by
    intro hCancelled
    obtain ⟨hMiddle, hSame⟩ := h.cancelled hCancelled
    obtain ⟨hEnd, hSame'⟩ := h'.cancelled hMiddle
    exact ⟨hEnd, hSame'.trans hSame⟩
  tied := h'.tied ∘ h.tied

theorem LeadsTo.not_latent (h : v.LeadsTo w) (hPhase : v.lifecycle.phase ≠ .latent) :
    w.lifecycle.phase ≠ .latent := by
  intro hLatent
  have hRank := h.phase
  rw [hLatent] at hRank
  cases hCase : v.lifecycle.phase with
  | latent => exact hPhase hCase
  | _ => simp [hCase, Phase.rank] at hRank

/-- The text that the log has for a publication that the audience refused. -/
def refusal : String := "Failed to publish snapshot"

/-- Which events can happen in a view. Nothing is asked, published or told once the worker is told
to end; a snapshot is told while it is the current one; and no publication is refused. -/
def Admits (v : View K V) : Event K V → Prop
  | .began _ | .asked _ _ => v.cancelled = false
  | .published s | .notified _ _ s => v.cancelled = false ∧ v.current.content = s
  | .log r => r.message ≠ refusal
  | _ => True

end View

namespace Core

variable {K V : Type} {a b c : Core K V}

/-- What can become of a core, step by step: an event that its view admits is written down, or the
view changes by the rules. -/
inductive Path : Core K V → Core K V → Prop where
  | refl (a : Core K V) : Path a a
  | note {a b : Core K V} (path : Path a b) (e : Event K V) (h : b.toView.Admits e) :
      Path a (b.record e)
  | change {a b : Core K V} (path : Path a b) (v : View K V) (h : b.toView.LeadsTo v) :
      Path a { b with toView := v }

theorem Path.trans (path : Path a b) (path' : Path b c) : Path a c := by
  induction path' with
  | refl => exact path
  | note _ e h ih => exact ih.note e h
  | change _ v h ih => exact ih.change v h

theorem Path.leadsTo (path : Path a b) : a.toView.LeadsTo b.toView := by
  induction path with
  | refl => exact .refl _
  | note _ _ _ ih => exact ih
  | change _ _ h ih => exact ih.trans h

/-- Where the worker is not told to end, it was not told before. -/
theorem Path.not_cancelled (path : Path a b) (h : b.cancelled = false) : a.cancelled = false := by
  cases hCancelled : a.cancelled with
  | false => rfl
  | true => cases h.symm.trans (path.leadsTo.cancelled hCancelled).1

/-- A path only adds to the history. What it adds was admitted when it happened, and each view on
the way leads to all later ones. -/
theorem Path.moments (path : Path a b) :
    ∃ added : List (Moment K V), b.moments = added ++ a.moments ∧
      (∀ m ∈ added, m.view.Admits m.event ∧ a.toView.LeadsTo m.view ∧ m.view.LeadsTo b.toView) ∧
      added.Pairwise fun later earlier => earlier.view.LeadsTo later.view := by
  induction path with
  | refl => exact ⟨[], rfl, by simp, .nil⟩
  | @note b path e h ih =>
      obtain ⟨added, hMoments, hAdded, hOrder⟩ := ih
      refine ⟨⟨b.toView, e⟩ :: added, by rw [Core.record, hMoments, List.cons_append], ?_, ?_⟩
      · intro m hm
        rcases List.mem_cons.1 hm with rfl | hm
        · exact ⟨h, path.leadsTo, .refl _⟩
        · exact hAdded m hm
      · exact List.pairwise_cons.2 ⟨fun m hm => (hAdded m hm).2.2, hOrder⟩
  | change _ v h ih =>
      obtain ⟨added, hMoments, hAdded, hOrder⟩ := ih
      refine ⟨added, hMoments, fun m hm => ?_, hOrder⟩
      obtain ⟨hAdmitted, hFrom, hTo⟩ := hAdded m hm
      exact ⟨hAdmitted, hFrom, hTo.trans h⟩

/-- The events without their views, latest first. -/
def events (c : Core K V) : List (Event K V) := c.moments.map Moment.event

@[simp] theorem events_record (e : Event K V) (c : Core K V) :
    (c.record e).events = e :: c.events := rfl

/-- The snapshots published so far, in order. -/
def published (c : Core K V) : List (Snapshot K V) :=
  Event.collect (fun | .published s => some s | _ => none) c.events

/-- What a listener has heard so far. -/
def heard (id : Nat) (c : Core K V) : List (Snapshot K V) := Event.heard id c.events

end Core

end LongPoll
