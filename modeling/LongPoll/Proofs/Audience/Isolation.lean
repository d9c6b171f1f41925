import LongPoll.Proofs.Audience.Answers

/-!
Listeners do not get in each other's way.

How a callback ends is written to the log, and nothing else comes of it. To say so, a run is
compared with the run in which every callback returns: what is left of the one without its endings
is the other, deed by deed, as long as no gate looks at endings. So two runs in which the same
callbacks do the same acts agree on who is called, with what and how often, and on all results,
whether their callbacks return, fail or panic. A gate that does look at endings may just as well be
one that is given its answers beforehand.
-/

namespace LongPoll

namespace Event

variable {K V : Type}

/-- The event tells how a callback ended. -/
def tellsEnding : Event K V → Bool
  | .log r =>
    r.message = "Listener failed to handle snapshot" ∨
      r.message = "Listener panicked while handling snapshot"
  | _ => false

theorem tellsEnding_endingRecord {ending : Ending} {r : LogRecord}
    (h : Scene.endingRecord ending = some r) : (Event.log r : Event K V).tellsEnding = true := by
  cases ending with
  | returned => cases h
  | failed text =>
      cases h
      rfl
  | panicked p =>
      cases h
      rfl

end Event

/-! ### Without endings -/

/-- The same acts, and then the callback returns. -/
def Reaction.hushed (r : Reaction) : Reaction := { r with ending := .returned }

/-- The same member, whose callback always returns. -/
def Member.hushed (m : Member) : Member := { m with react := fun n => (m.react n).hushed }

namespace Audience

variable {K V : Type}

/-- The same audience, in which callbacks always return. -/
def hushed (a : Audience K V) : Audience K V := { a with members := a.members.map Member.hushed }

theorem hushed_countCall (a : Audience K V) (id : Nat) :
    (a.countCall id).hushed = a.hushed.countCall id := by
  simp only [hushed, countCall, List.map_map]
  congr 1
  refine List.map_congr_left fun m _ => ?_
  by_cases hId : m.id = id
  · simp [Member.hushed, hId]
  · simp [Member.hushed, hId]

theorem hushed_leave (a : Audience K V) (name : Name) :
    a.hushed.leave name = ((a.leave name).1.hushed, (a.leave name).2) := by
  unfold leave
  cases hKnown : a.known.lookup name with
  | none => simp [hushed, hKnown]
  | some id => simp [hushed, hKnown, expel, List.filter_map, Function.comp_def, Member.hushed]

theorem size_hushed (a : Audience K V) : a.hushed.size = a.size := List.length_map ..

end Audience

namespace Recital

variable {K V : Type}

/-- What is left without the endings of callbacks: no member fails or panics, and the history does
not tell of any that did. -/
def hushed (s : Recital K V) : Recital K V :=
  ⟨s.audience.hushed, s.around.filter fun e => !e.tellsEnding⟩

theorem hushed_record {e : Event K V} (hEnding : e.tellsEnding = false) (s : Recital K V) :
    Recital.hushed (s.record setting e) = Scene.record setting e s.hushed := by
  simp [hushed, Scene.record, setting, hEnding]

/-- Records of endings leave no trace. -/
theorem hushed_log_ending {ending : Ending} {r : LogRecord}
    (h : Scene.endingRecord ending = some r) (s : Recital K V) :
    Recital.hushed (s.log setting r) = s.hushed := by
  simp [hushed, Scene.log, Scene.record, setting, Event.tellsEnding_endingRecord h]

theorem hushed_perform (act : Act) (s : Recital K V) :
    Recital.hushed (setting.perform act s) = setting.perform act s.hushed := by
  cases act with
  | stop => rfl
  | observe => rfl
  | remove target =>
      have hLeave : s.hushed.audience.leave target = _ := Audience.hushed_leave s.audience target
      simp only [setting, perform, Scene.removeBy, hLeave]
      rcases s.audience.leave target with ⟨audience, _ | found⟩
      · rfl
      · exact hushed_record (e := .removed target found) rfl { s with audience }

theorem hushed_performAll (acts : List Act) (s : Recital K V) :
    Recital.hushed (s.performAll setting acts) = Scene.performAll setting acts s.hushed := by
  induction acts generalizing s with
  | nil => rfl
  | cons act rest ih =>
      have hRest := ih (setting.perform act s)
      rw [hushed_perform] at hRest
      exact hRest

/-- A call without its ending is the call of a member that returns. -/
theorem hushed_call (m : Member) (snapshot : Snapshot K V) (s : Recital K V) :
    Recital.hushed (s.call setting m snapshot) =
      Scene.call setting m.hushed snapshot s.hushed := by
  have hTold : Recital.hushed (s.told setting m snapshot) =
      Scene.told setting m.hushed snapshot s.hushed := by
    rw [Scene.told, hushed_record rfl]
    simp only [hushed, Audience.hushed_countCall]
    rfl
  have hActed : Recital.hushed
      ((s.told setting m snapshot).performAll setting (m.react (m.calls + 1)).acts) =
      Scene.call setting m.hushed snapshot s.hushed := by
    rw [hushed_performAll, hTold]
    rfl
  rcases Scene.call_cases setting m snapshot s with hCall | ⟨r, hEnding, hCall⟩
  · rw [hCall, hActed]
  · rw [hCall, hushed_log_ending hEnding, hActed]

/-- The gate does not look at how callbacks end. -/
def Deaf (gate : Gate (List (Event K V)) K V) : Prop := ∀ n s, gate n s = gate n (hushed s)

theorem hushed_deliver {gate : Gate (List (Event K V)) K V} (hDeaf : Deaf gate)
    (snapshot : Snapshot K V) (targets : List Member) (delivered : Nat) (s : Recital K V) :
    Scene.deliver setting gate snapshot (targets.map Member.hushed) delivered s.hushed =
      (hushed (Scene.deliver setting gate snapshot targets delivered s).1,
        (Scene.deliver setting gate snapshot targets delivered s).2) := by
  induction targets generalizing delivered s with
  | nil => rfl
  | cons m rest ih =>
      rw [List.map_cons, Scene.deliver, Scene.deliver, ← hDeaf, ← hushed_call]
      cases gate delivered s with
      | panicked p => rfl
      | closed => rfl
      | «open» => exact ih _ _

theorem hushed_broadcast {gate : Gate (List (Event K V)) K V} (hDeaf : Deaf gate)
    (snapshot : Snapshot K V) (s : Recital K V) :
    Scene.broadcast setting gate snapshot s.hushed =
      (hushed (s.broadcast setting gate snapshot).1, (s.broadcast setting gate snapshot).2) := by
  cases hPoisoned : s.audience.poisoned with
  | true => simp [Scene.broadcast, hPoisoned, hushed, Audience.hushed]
  | false =>
      have hHushed : s.hushed.audience.poisoned = false := hPoisoned
      rw [Scene.broadcast_eq gate snapshot hPoisoned, Scene.broadcast_eq gate snapshot hHushed]
      exact hushed_deliver hDeaf snapshot s.audience.members 0 (s.noting snapshot)

theorem hushed_enrolled (name : Name) (react : Nat → Reaction) (s : Recital K V) :
    hushed (s.enrolled name react) =
      Scene.enrolled name (fun n => (react n).hushed) s.hushed := by
  simp [hushed, Scene.enrolled, Audience.hushed, Audience.enrol, Member.hushed]

theorem hushed_greeted (name : Name) (react : Nat → Reaction) (snapshot : Snapshot K V)
    (s : Recital K V) :
    hushed (s.greeted setting name react snapshot) =
      Scene.greeted setting name (fun n => (react n).hushed) snapshot s.hushed := by
  rw [Scene.greeted, Scene.greeted, hushed_call, Scene.log, hushed_record rfl, hushed_enrolled]
  rfl

theorem hushed_join {gate : Gate (List (Event K V)) K V} (hDeaf : Deaf gate) (name : Name)
    (react : Nat → Reaction) (s : Recital K V) :
    Scene.join setting gate name (fun n => (react n).hushed) s.hushed =
      (hushed (s.join setting gate name react).1, (s.join setting gate name react).2) := by
  cases hPoisoned : s.audience.poisoned with
  | true => simp [Scene.join, hPoisoned, hushed, Audience.hushed]
  | false =>
      have hHushed : s.hushed.audience.poisoned = false := hPoisoned
      have hLatest : s.hushed.audience.latest = s.audience.latest := rfl
      rw [Scene.join_eq gate name react hPoisoned, Scene.join_eq gate name _ hHushed, hLatest,
        ← hushed_enrolled, ← hDeaf]
      cases s.audience.latest with
      | none => rfl
      | some snapshot =>
          cases gate 0 (s.enrolled name react) with
          | panicked p => rfl
          | closed => rfl
          | «open» =>
              simp only [← hushed_greeted]
              rfl

/-- The same deed, of a listener that always returns. -/
def Deed.hushed : Deed K V → Deed K V
  | .join gate name react => .join gate name fun n => (react n).hushed
  | .leave name => .leave name
  | .publish gate snapshot => .publish gate snapshot

/-- The gate of the deed does not look at how callbacks end. -/
def Deed.IsDeaf : Deed K V → Prop
  | .join gate _ _ | .publish gate _ => Deaf gate
  | .leave _ => True

/-- A deed does without endings what it does with them. -/
theorem after_hushed {deed : Deed K V} (hDeaf : deed.IsDeaf) (s : Recital K V) :
    s.hushed.after deed.hushed = (s.after deed).hushed ∧
      s.hushed.result deed.hushed = s.result deed := by
  cases deed with
  | leave name =>
      have hLeave : s.hushed.audience.leave name = _ := Audience.hushed_leave s.audience name
      rw [Deed.hushed, after, result, hLeave]
      exact ⟨rfl, rfl⟩
  | join gate name react =>
      rw [Deed.hushed, after, result, hushed_join hDeaf]
      exact ⟨rfl, rfl⟩
  | publish gate snapshot =>
      rw [Deed.hushed, after, result, hushed_broadcast hDeaf]
      exact ⟨rfl, rfl⟩

/-- What comes of deeds, and how large the audience is after each. -/
def results : List (Deed K V) → Recital K V → List (Outcome Yield × Nat)
  | [], _ => []
  | deed :: rest, s => (s.result deed, (s.after deed).audience.size) :: results rest (s.after deed)

theorem play_hushed {deeds : List (Deed K V)} (hDeaf : ∀ d ∈ deeds, d.IsDeaf) (s : Recital K V) :
    play (deeds.map Deed.hushed) s.hushed = (play deeds s).hushed ∧
      results (deeds.map Deed.hushed) s.hushed = results deeds s := by
  induction deeds generalizing s with
  | nil => exact ⟨rfl, rfl⟩
  | cons deed rest ih =>
      obtain ⟨hAfter, hResult⟩ := after_hushed (hDeaf deed (List.mem_cons_self ..)) s
      obtain ⟨hPlay, hResults⟩ :=
        ih (fun d hd => hDeaf d (List.mem_cons_of_mem _ hd)) (s.after deed)
      have hSize : (hushed (s.after deed)).audience.size = (s.after deed).audience.size :=
        Audience.size_hushed _
      rw [← hAfter] at hPlay hResults hSize
      refine ⟨hPlay, ?_⟩
      rw [List.map_cons, results, results, hResult, hSize, hResults]

theorem isDeaf_hushed (deed : Deed K V) : deed.hushed.IsDeaf ↔ deed.IsDeaf := by
  cases deed <;> exact Iff.rfl

/-- Two runs of the same deeds agree, however callbacks end in the one and in the other. -/
theorem play_eq_of_isDeaf {deeds deeds' : List (Deed K V)}
    (hSame : deeds.map Deed.hushed = deeds'.map Deed.hushed) (hDeaf : ∀ d ∈ deeds, d.IsDeaf)
    (s : Recital K V) :
    hushed (play deeds s) = hushed (play deeds' s) ∧ results deeds s = results deeds' s := by
  have hDeaf' : ∀ d ∈ deeds', d.IsDeaf := by
    intro d hd
    have hMem : d.hushed ∈ deeds.map Deed.hushed := hSame ▸ List.mem_map_of_mem hd
    obtain ⟨other, hOther, hEq⟩ := List.mem_map.1 hMem
    rw [← isDeaf_hushed, ← hEq, isDeaf_hushed]
    exact hDeaf other hOther
  obtain ⟨hPlay, hResults⟩ := play_hushed hDeaf s
  obtain ⟨hPlay', hResults'⟩ := play_hushed hDeaf' s
  rw [← hPlay, ← hResults, hSame]
  exact ⟨hPlay', hResults'⟩

/-! ### Gates that look at endings -/

/-- What all gates of a run answer. -/
def said : List (Deed K V) → Recital K V → List (List Verdict)
  | [], _ => []
  | deed :: rest, s => deed.answers s :: said rest (s.after deed)

/-- A gate that gives certain answers. -/
def scripted (answers : List Verdict) : Gate (List (Event K V)) K V :=
  fun n _ => answers[n]?.getD .closed

/-- The same deeds, with gates that give certain answers. -/
def dictated (deeds : List (Deed K V)) (answers : List (List Verdict)) : List (Deed K V) :=
  List.zipWith (fun deed given => deed.withGate (scripted given)) deeds answers

theorem isDeaf_scripted (deed : Deed K V) (answers : List Verdict) :
    (deed.withGate (scripted answers)).IsDeaf := by
  cases deed with
  | leave name => trivial
  | join gate name react => exact fun _ _ => rfl
  | publish gate snapshot => exact fun _ _ => rfl

/-- Gates that give the answers of a run lead to the same run. -/
theorem dictated_said (deeds : List (Deed K V)) (s : Recital K V) :
    play (dictated deeds (said deeds s)) s = play deeds s ∧
      results (dictated deeds (said deeds s)) s = results deeds s ∧
      ∀ d ∈ dictated deeds (said deeds s), d.IsDeaf := by
  induction deeds generalizing s with
  | nil => exact ⟨rfl, rfl, by simp [dictated]⟩
  | cons deed rest ih =>
      obtain ⟨hAfter, hResult⟩ :
          s.after (deed.withGate (scripted (deed.answers s))) = s.after deed ∧
            s.result (deed.withGate (scripted (deed.answers s))) = s.result deed :=
        after_withGate fun k v hAnswer _ => by simp [scripted, hAnswer]
      obtain ⟨hPlay, hResults, hDeaf⟩ := ih (s.after deed)
      have hDictated : dictated (deed :: rest) (said (deed :: rest) s) =
          deed.withGate (scripted (deed.answers s)) :: dictated rest (said rest (s.after deed)) :=
        rfl
      rw [hDictated]
      refine ⟨?_, ?_, List.forall_mem_cons.2 ⟨isDeaf_scripted deed _, hDeaf⟩⟩
      · rw [play, List.foldl_cons, hAfter]
        exact hPlay
      · rw [results, results, hAfter, hResult, hResults]

theorem hushed_dictated (deeds : List (Deed K V)) (answers : List (List Verdict)) :
    (dictated deeds answers).map Deed.hushed = dictated (deeds.map Deed.hushed) answers := by
  have hEach (deed : Deed K V) (gate : Gate (List (Event K V)) K V) :
      (deed.withGate gate).hushed = deed.hushed.withGate gate := by cases deed <;> rfl
  simp only [dictated, List.map_zipWith, List.zipWith_map_left, hEach]

/-- Two runs of the same deeds, the gates of which give the same answers, agree however callbacks
end in the one and in the other. -/
theorem play_eq_of_said {deeds deeds' : List (Deed K V)}
    (hSame : deeds.map Deed.hushed = deeds'.map Deed.hushed) {s : Recital K V}
    (hSaid : said deeds s = said deeds' s) :
    hushed (play deeds s) = hushed (play deeds' s) ∧ results deeds s = results deeds' s := by
  obtain ⟨hPlay, hResults, hDeaf⟩ := dictated_said deeds s
  obtain ⟨hPlay', hResults', _⟩ := dictated_said deeds' s
  rw [← hPlay, ← hPlay', ← hResults, ← hResults']
  refine play_eq_of_isDeaf ?_ hDeaf s
  rw [hushed_dictated, hushed_dictated, hSame, hSaid]

theorem calls_hushed (s : Recital K V) : Event.calls (hushed s).around = Event.calls s.around :=
  Event.collect_filter (fun e hEnding => by cases e <;> simp_all [Event.tellsEnding, Event.call?])
    s.around

/-- In any audience that can deliver, a publication with a gate that does not panic calls those who
joined first, as many as the gate says yes before it says no, each once and in order. It says how
many, its snapshot is the latest, and only those are gone whom a callback removed. An audience that
cannot deliver refuses and stays as it is. How callbacks end is of no consequence for who is called,
with what, for any result, or for the number of members, unless a gate makes something of it. -/
theorem publish_calls_first_members :
    (∀ past : List (Deed K V),
      let s := play past initial
      (s.audience.poisoned = false → ∀ gate snapshot,
        let deed := Deed.publish gate snapshot
        let n := Verdict.yeses (deed.answers s)
        let called := s.audience.members.take n
        (∀ k v, (deed.answers s)[k]? = some v →
          v = gate k ((s.noting snapshot).callAll setting snapshot (s.audience.members.take k))) ∧
        ((∀ p, .panicked p ∉ deed.answers s) →
          (n = s.audience.members.length ∧ deed.answers s = List.replicate n .open ∨
            n < s.audience.members.length ∧
              deed.answers s = List.replicate n .open ++ [.closed]) ∧
          s.result deed = .done (.published n) ∧
          (called.map fun m => m.id).Nodup ∧
          Addressed snapshot called s (s.after deed) ∧
          (s.after deed).audience.poisoned = false)) ∧
      (s.audience.poisoned = true → ∀ deed, deed.Delivers →
        s.after deed = s ∧ s.result deed = .refused Scene.poisonedFault)) ∧
    ∀ deeds deeds' : List (Deed K V), deeds.map Deed.hushed = deeds'.map Deed.hushed →
      ((∀ d ∈ deeds, d.IsDeaf) ∨ said deeds initial = said deeds' initial) →
        Event.calls (play deeds initial).around = Event.calls (play deeds' initial).around ∧
        results deeds initial = results deeds' initial ∧
        hushed (play deeds initial) = hushed (play deeds' initial) := by
  refine ⟨fun past => ?_, fun deeds deeds' hSame hGates => ?_⟩
  · intro s
    have hNumbered : s.audience.Numbered := play_numbered .empty past
    refine ⟨fun hAble gate snapshot => ?_, fun hPoisoned => after_of_poisoned hPoisoned⟩
    intro deed n called
    refine ⟨fun k v hAnswer => ?_, fun hCalm => ?_⟩
    · simp only [deed, Deed.answers, hAble, Bool.false_eq_true, if_false] at hAnswer
      have hGate := Scene.eq_gate_of_getElem?_answers _ _ _ hAnswer
      rwa [Nat.zero_add] at hGate
    · have hNodup : (called.map fun m => m.id).Nodup :=
        ((List.take_sublist n s.audience.members).map _).nodup hNumbered.nodup
      obtain ⟨hAddressed, ⟨hAll, hAnswers, hResult, hStill⟩ | ⟨hSome, hAnswers, hResult, hStill⟩ |
        ⟨p, _, hAnswers, _⟩⟩ := publish_answers gate snapshot hAble hNumbered.nodup
      · exact ⟨Or.inl ⟨hAll, hAnswers⟩, hResult, hNodup, hAddressed, hStill⟩
      · exact ⟨Or.inr ⟨hSome, hAnswers⟩, hResult, hNodup, hAddressed, hStill⟩
      · refine absurd ?_ (hCalm p)
        rw [hAnswers]
        simp
  · obtain ⟨hPlay, hResults⟩ : hushed (play deeds initial) = hushed (play deeds' initial) ∧
        results deeds initial = results deeds' initial := by
      rcases hGates with hDeaf | hSaid
      · exact play_eq_of_isDeaf hSame hDeaf initial
      · exact play_eq_of_said hSame hSaid
    refine ⟨?_, hResults, hPlay⟩
    rw [← calls_hushed, hPlay, calls_hushed]

/-- The first of two listeners removes the second and panics, and then the gate closes. -/
theorem publish_calls_first_members_of_two :
    let past : List (Deed Nat Nat) :=
      [.join alwaysOpen "a" fun _ => ⟨[.remove "b"], .panicked .other⟩,
        .join alwaysOpen "b" fun _ => .idle]
    let snapshot : Snapshot Nat Nat := ⟨[(1, 1)], by decide⟩
    let s := play past initial
    let t := s.after (.publish (openFor 1) snapshot)
    s.result (.publish (openFor 1) snapshot) = .done (.published 1) ∧
      Event.calls t.around = [(⟨0, "a"⟩, snapshot)] ∧ t.audience.ids = [0] := by
  intro past snapshot s t
  obtain ⟨hAll, _⟩ := publish_calls_first_members (K := Nat) (V := Nat)
  obtain ⟨_, hServed⟩ := (hAll past).1 rfl (openFor 1) snapshot
  obtain ⟨_, hResult, _, hAddressed, _⟩ := hServed fun p h => by
    have hAnswers : (Deed.publish (openFor 1) snapshot).answers s = [.open, .closed] := rfl
    rw [hAnswers] at h
    simp at h
  refine ⟨hResult, hAddressed.calls, ?_⟩
  rw [Audience.ids, hAddressed.members]
  rfl

/-- After a gate has panicked, a publication whose gate is open calls nobody. -/
theorem open_gate_calls_nobody :
    let first : Snapshot Nat Nat := ⟨[(1, 1)], by decide⟩
    let second : Snapshot Nat Nat := ⟨[(2, 2)], by decide⟩
    let past : List (Deed Nat Nat) :=
      [.join alwaysOpen "a" fun _ => .idle, .publish (panicking (.text "gate")) first]
    let s := play past initial
    (∀ n t, (alwaysOpen : Gate (List (Event Nat Nat)) Nat Nat) n t = .open) ∧
      s.audience.ids = [0] ∧
      s.result (.publish alwaysOpen second) ≠ .done (.published 1) ∧
      Event.calls (s.after (.publish alwaysOpen second)).around = [] ∧
      (s.after (.publish alwaysOpen second)).audience.latest = some first := by
  intro first second past s
  exact ⟨fun _ _ => rfl, rfl, by decide, rfl, rfl⟩

end Recital

end LongPoll
