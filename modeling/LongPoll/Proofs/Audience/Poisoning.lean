import LongPoll.Proofs.Audience.Answers

/-!
What a panic of a gate leaves behind.

Deeds are done to a fresh audience one after the other, with any gates and any callbacks. An
audience refuses to deliver exactly from the first panic of a gate on. A panic of a callback does
not count. What is refused changes nothing; the deed whose gate panicked keeps what it had done
before. Whoever is a member then can still leave.
-/

namespace LongPoll

namespace Recital

variable {K V : Type}

namespace Deed

/-- The gate of the deed is asked, and panics. -/
def GatePanics (s : Recital K V) (deed : Deed K V) : Prop := ∃ p, .panicked p ∈ deed.answers s

/-- The deed publishes a snapshot, and is not refused. -/
def Publishes (s : Recital K V) (deed : Deed K V) : Prop :=
  s.audience.poisoned = false ∧ deed.snapshot?.isSome

end Deed

/-! ### What happens at some moment -/

/-- Among some deeds there is one that has a property when its turn comes. -/
def Sometime (P : Recital K V → Deed K V → Prop) (deeds : List (Deed K V)) (s : Recital K V) :
    Prop :=
  ∃ earlier deed later, deeds = earlier ++ deed :: later ∧ P (play earlier s) deed

theorem sometime_cons {P : Recital K V → Deed K V → Prop} {deed : Deed K V}
    {rest : List (Deed K V)} {s : Recital K V} :
    Sometime P (deed :: rest) s ↔ P s deed ∨ Sometime P rest (s.after deed) := by
  constructor
  · rintro ⟨earlier, other, later, hSplit, hHolds⟩
    cases earlier with
    | nil =>
        obtain ⟨rfl, _⟩ := List.cons.inj hSplit
        exact Or.inl hHolds
    | cons first earlier =>
        obtain ⟨rfl, hRest⟩ := List.cons.inj hSplit
        exact Or.inr ⟨earlier, other, later, hRest, hHolds⟩
  · rintro (hFirst | ⟨earlier, other, later, rfl, hHolds⟩)
    · exact ⟨[], deed, rest, rfl, hFirst⟩
    · exact ⟨deed :: earlier, other, later, rfl, hHolds⟩

/-- What holds once a deed of some kind was done, and never ceases to hold, holds after a run
exactly if it held before or such a deed was among those done. -/
theorem play_iff {Q : Recital K V → Prop} {P : Recital K V → Deed K V → Prop}
    (hAfter : ∀ s deed, s.audience.Numbered → (Q (s.after deed) ↔ Q s ∨ P s deed))
    (deeds : List (Deed K V)) {s : Recital K V} (hNumbered : s.audience.Numbered) :
    Q (play deeds s) ↔ Q s ∨ Sometime P deeds s := by
  induction deeds generalizing s with
  | nil => simp [play, Sometime]
  | cons deed rest ih =>
      have hRest := ih (after_numbered hNumbered deed)
      rw [hAfter s deed hNumbered, or_assoc, ← sometime_cons] at hRest
      exact hRest

/-! ### One deed -/

/-- All that can come of a deed. -/
inductive Course (s : Recital K V) : Deed K V → Prop where
  /-- Members can leave, whatever has happened. -/
  | left (name : Name) : Course s (.leave name)
  | refused {deed : Deed K V} (hDelivers : deed.Delivers) (hPoisoned : s.audience.poisoned = true)
      (hResult : s.result deed = .refused Scene.poisonedFault) (hAfter : s.after deed = s)
      (hAnswers : deed.answers s = []) : Course s deed
  | done {deed : Deed K V} (hAble : s.audience.poisoned = false) {y : Yield}
      (hResult : s.result deed = .done y) (hAnswers : ∀ p, .panicked p ∉ deed.answers s)
      (hPoisoned : (s.after deed).audience.poisoned = false)
      (hLatest : (s.after deed).audience.latest = (deed.snapshot? <|> s.audience.latest)) :
      Course s deed
  | panicked {deed : Deed K V} (hAble : s.audience.poisoned = false) {p : Panic}
      (hResult : s.result deed = .panicked p)
      (hAnswers : ∀ q, .panicked q ∈ deed.answers s ↔ q = p)
      (hPoisoned : (s.after deed).audience.poisoned = true)
      (hLatest : (s.after deed).audience.latest = (deed.snapshot? <|> s.audience.latest)) :
      Course s deed

theorem Course.of {s : Recital K V} (hNumbered : s.audience.Numbered) (deed : Deed K V) :
    Course s deed := by
  cases hPoisoned : s.audience.poisoned with
  | true =>
      cases deed with
      | leave name => exact .left name
      | join gate name react =>
          obtain ⟨hAfter, hResult⟩ := after_of_poisoned hPoisoned (.join gate name react) trivial
          exact .refused trivial hPoisoned hResult hAfter (by simp [Deed.answers, hPoisoned])
      | publish gate snapshot =>
          obtain ⟨hAfter, hResult⟩ := after_of_poisoned hPoisoned (.publish gate snapshot) trivial
          exact .refused trivial hPoisoned hResult hAfter (by simp [Deed.answers, hPoisoned])
  | false =>
      cases deed with
      | leave name => exact .left name
      | join gate name react =>
          rcases join_answers gate name react hPoisoned with
            ⟨hAnswers, hResult, hAble, hLatest⟩ | ⟨p, hAnswers, hResult, hAfter⟩
          · exact .done hPoisoned hResult hAnswers hAble hLatest
          · refine .panicked hPoisoned hResult (by simp [hAnswers]) ?_ ?_
            · rw [hAfter]; rfl
            · rw [hAfter]; rfl
      | publish gate snapshot =>
          obtain ⟨hAddressed, ⟨_, hAnswers, hResult, hAble⟩ | ⟨_, hAnswers, hResult, hAble⟩ |
            ⟨p, _, hAnswers, hResult, hBroken⟩⟩ :=
              publish_answers gate snapshot hPoisoned hNumbered.nodup
          · refine .done hPoisoned hResult ?_ hAble hAddressed.latest
            rw [hAnswers]
            simp
          · refine .done hPoisoned hResult ?_ hAble hAddressed.latest
            rw [hAnswers]
            simp
          · refine .panicked hPoisoned hResult ?_ hBroken hAddressed.latest
            rw [hAnswers]
            simp

/-- A deed ends with a panic exactly if its gate panics. Callbacks do not count. -/
theorem result_eq_panicked_iff {s : Recital K V} (hNumbered : s.audience.Numbered)
    (deed : Deed K V) (p : Panic) : s.result deed = .panicked p ↔ .panicked p ∈ deed.answers s := by
  cases Course.of hNumbered deed with
  | left name => simp [result, Deed.answers]
  | refused _ _ hResult _ hAnswers => simp [hResult, hAnswers]
  | done _ hResult hAnswers => simp [hResult, hAnswers]
  | panicked _ hResult hAnswers => simp [hResult, hAnswers, eq_comm]

theorem result_eq_refused_iff {s : Recital K V} (hNumbered : s.audience.Numbered)
    (deed : Deed K V) (fault : Fault) :
    s.result deed = .refused fault ↔
      deed.Delivers ∧ s.audience.poisoned = true ∧ fault = Scene.poisonedFault := by
  cases Course.of hNumbered deed with
  | left name => simp [result, Deed.Delivers]
  | refused hDelivers hPoisoned hResult => simp [hResult, hDelivers, hPoisoned, eq_comm]
  | done hAble hResult => simp [hResult, hAble]
  | panicked hAble hResult => simp [hResult, hAble]

theorem poisoned_after_iff {s : Recital K V} (hNumbered : s.audience.Numbered) (deed : Deed K V) :
    (s.after deed).audience.poisoned = true ↔ s.audience.poisoned = true ∨ deed.GatePanics s := by
  unfold Deed.GatePanics
  cases Course.of hNumbered deed with
  | left name => simp [after, (s.audience.leave_dwindles name).poisoned, Deed.answers]
  | refused _ hPoisoned _ hAfter => simp [hPoisoned, hAfter]
  | done hAble _ hAnswers hPoisoned => simp [hAble, hAnswers, hPoisoned]
  | panicked _ _ hAnswers hPoisoned => simp [hAnswers, hPoisoned]

/-- The gate that panics is asked by an audience that can deliver. -/
theorem able_of_panicked {s : Recital K V} (hNumbered : s.audience.Numbered) {deed : Deed K V}
    {p : Panic} (hPanicked : s.result deed = .panicked p) : s.audience.poisoned = false := by
  cases Course.of hNumbered deed with
  | left name => cases hPanicked
  | refused _ _ hResult =>
      rw [hPanicked] at hResult
      cases hResult
  | done hAble => exact hAble
  | panicked hAble => exact hAble

/-- There is a latest snapshot once a publication was not refused. -/
theorem latest_after_iff {s : Recital K V} (hNumbered : s.audience.Numbered) (deed : Deed K V) :
    (s.after deed).audience.latest.isSome ↔ s.audience.latest.isSome ∨ deed.Publishes s := by
  unfold Deed.Publishes
  cases Course.of hNumbered deed with
  | left name => simp [after, (s.audience.leave_dwindles name).latest, Deed.snapshot?]
  | refused _ hPoisoned _ hAfter => simp [hPoisoned, hAfter]
  | done hAble _ _ _ hLatest => simp [hAble, hLatest, or_comm]
  | panicked hAble _ _ _ hLatest => simp [hAble, hLatest, or_comm]

/-- The newcomer whose gate panics is on the list, and nothing else has come of its joining. -/
theorem join_of_panicked {s : Recital K V} (hNumbered : s.audience.Numbered)
    {gate : Gate (List (Event K V)) K V} {name : Name} {react : Nat → Reaction} {p : Panic}
    (hPanicked : s.result (.join gate name react) = .panicked p) :
    s.after (.join gate name react) = (s.enrolled name react).poison := by
  have hAble := able_of_panicked hNumbered hPanicked
  rcases join_answers gate name react hAble with ⟨_, hDone, _⟩ | ⟨q, _, _, hAfter⟩
  · rw [hPanicked] at hDone
    cases hDone
  · exact hAfter

/-- Before its gate panics, a publication has reached the first members, and not all of them. -/
theorem publish_of_panicked {s : Recital K V} (hNumbered : s.audience.Numbered)
    {gate : Gate (List (Event K V)) K V} {snapshot : Snapshot K V} {p : Panic}
    (hPanicked : s.result (.publish gate snapshot) = .panicked p) :
    ∃ n < s.audience.members.length,
      Addressed snapshot (s.audience.members.take n) s (s.after (.publish gate snapshot)) := by
  have hAble := able_of_panicked hNumbered hPanicked
  obtain ⟨hAddressed, ⟨_, _, hDone, _⟩ | ⟨_, _, hDone, _⟩ | ⟨q, hSome, _⟩⟩ :=
    publish_answers gate snapshot hAble hNumbered.nodup
  · rw [hPanicked] at hDone
    cases hDone
  · rw [hPanicked] at hDone
    cases hDone
  · exact ⟨_, hSome, hAddressed⟩

/-- When a gate is asked at all. -/
theorem answers_ne_nil_iff (s : Recital K V) (deed : Deed K V) :
    deed.answers s ≠ [] ↔ s.audience.poisoned = false ∧
      match deed with
      | .join _ _ _ => s.audience.latest.isSome
      | .leave _ => False
      | .publish _ _ => s.audience.members ≠ [] := by
  cases deed with
  | join gate name react => cases hLatest : s.audience.latest <;> simp [Deed.answers, hLatest]
  | leave name => simp [Deed.answers]
  | publish gate snapshot =>
      cases hMembers : s.audience.members with
      | nil => simp [Deed.answers, hMembers, Scene.answers]
      | cons m rest => simp [Deed.answers, hMembers, Scene.answers]

/-! ### Runs -/

theorem poisoned_play_iff (deeds : List (Deed K V)) :
    (play deeds initial).audience.poisoned = true ↔
      Sometime (fun t deed => deed.GatePanics t) deeds initial :=
  (play_iff (Q := fun t => t.audience.poisoned = true)
    (fun t deed h => poisoned_after_iff h deed) deeds .empty).trans
      (or_iff_right (by simp [initial, Audience.empty]))

theorem latest_play_iff (deeds : List (Deed K V)) :
    (play deeds initial).audience.latest.isSome ↔
      Sometime (fun t deed => deed.Publishes t) deeds initial :=
  (play_iff (Q := fun t => t.audience.latest.isSome)
    (fun t deed h => latest_after_iff h deed) deeds .empty).trans
      (or_iff_right (by simp [initial, Audience.empty]))

/-! ### Audiences that cannot deliver -/

/-- The numbers of those whom the owner removes by some deeds. -/
def dismissed (known : List (Name × Nat)) (deeds : List (Deed K V)) : List Nat :=
  deeds.filterMap fun
    | .leave name => known.lookup name
    | _ => none

/-- In an audience that cannot deliver, only those change anything who leave. -/
theorem play_of_poisoned {s : Recital K V} (hPoisoned : s.audience.poisoned = true)
    (deeds : List (Deed K V)) :
    play deeds s =
      { s with
        audience :=
          { s.audience with
            members := without (dismissed s.audience.known deeds) s.audience.members } } := by
  induction deeds generalizing s with
  | nil => simp [play, dismissed, without]
  | cons deed rest ih =>
      have hPlay : play (deed :: rest) s = play rest (s.after deed) := rfl
      cases deed with
      | leave name =>
          have hAfter : s.after (.leave name) = { s with audience := { s.audience with
              members := without (s.audience.known.lookup name).toList s.audience.members } } := by
            rw [after, leave_eq]
          have hNumbers : dismissed s.audience.known (.leave name :: rest) =
              (s.audience.known.lookup name).toList ++ dismissed s.audience.known rest := by
            cases hKnown : s.audience.known.lookup name <;> simp [dismissed, hKnown]
          have hRest := ih (s := s.after (.leave name)) (by rw [hAfter]; exact hPoisoned)
          rw [hPlay, hRest, hAfter, hNumbers, ← without_without]
      | join gate name react =>
          rw [hPlay, (after_of_poisoned hPoisoned (.join gate name react) trivial).1]
          exact ih hPoisoned
      | publish gate snapshot =>
          rw [hPlay, (after_of_poisoned hPoisoned (.publish gate snapshot) trivial).1]
          exact ih hPoisoned

/-- Joining and publishing are refused exactly if a gate has panicked, and a refusal changes
nothing. A gate is asked about a newcomer only if there was a publication, and about a publication
only if there is a member. The newcomer whose gate panics is on the list and has heard nothing; the
publication whose gate panics is the latest, and the first members have heard it. Ever after,
members leave and are counted as before. -/
theorem refused_iff_gate_panicked (past : List (Deed K V)) :
    let s := play past initial
    let broken := Sometime (fun t deed => deed.GatePanics t) past initial
    (∀ deed fault, deed.Delivers →
      (s.result deed = .refused fault ↔ fault = Scene.poisonedFault ∧ broken)) ∧
    (∀ deed fault, s.result deed = .refused fault → s.after deed = s) ∧
    (∀ deed p, s.result deed = .panicked p ↔ .panicked p ∈ deed.answers s) ∧
    (∀ m snapshot, (s.call setting m snapshot).audience.poisoned = s.audience.poisoned) ∧
    -- the gates that are asked
    (∀ gate name react, (Deed.join gate name react).answers s ≠ [] →
      Sometime (fun t deed => deed.Publishes t) past initial) ∧
    (∀ gate snapshot, (Deed.publish gate snapshot).answers s ≠ [] → s.audience.members ≠ []) ∧
    (∀ deed gate, deed.answers s = [] →
      s.after (deed.withGate gate) = s.after deed ∧
        s.result (deed.withGate gate) = s.result deed) ∧
    -- the deeds whose gates panic
    (∀ gate name react p, s.result (.join gate name react) = .panicked p →
      s.after (.join gate name react) = (s.enrolled name react).poison) ∧
    (∀ gate snapshot p, s.result (.publish gate snapshot) = .panicked p →
      ∃ n < s.audience.members.length,
        Addressed snapshot (s.audience.members.take n) s (s.after (.publish gate snapshot))) ∧
    -- what comes later
    (broken → ∀ future,
      let left := without (dismissed s.audience.known future) s.audience.members
      play future s = { s with audience := { s.audience with members := left } } ∧
        (play future s).audience.size = left.length ∧
        ∀ name, (play future s).result (.leave name) = .done (.left
          ((s.audience.known.lookup name).map fun id =>
            decide (id ∈ left.map fun m => m.id)))) := by
  intro s broken
  have hNumbered : s.audience.Numbered := play_numbered .empty past
  have hBroken : s.audience.poisoned = true ↔ broken := poisoned_play_iff past
  refine ⟨?_, ?_, result_eq_panicked_iff hNumbered, ?_, ?_, ?_, ?_, ?_, ?_, ?_⟩
  · intro deed fault hDelivers
    rw [result_eq_refused_iff hNumbered, hBroken]
    exact ⟨fun h => ⟨h.2.2, h.2.1⟩, fun h => ⟨hDelivers, h.2, h.1⟩⟩
  · intro deed fault hRefused
    obtain ⟨hDelivers, hPoisoned, _⟩ := (result_eq_refused_iff hNumbered deed fault).1 hRefused
    exact (after_of_poisoned hPoisoned deed hDelivers).1
  · exact fun m snapshot => (Scene.call_dwindles setting_keeps m snapshot s).poisoned
  · intro gate name react hAsked
    exact (latest_play_iff past).1 ((answers_ne_nil_iff s _).1 hAsked).2
  · intro gate snapshot hAsked
    exact ((answers_ne_nil_iff s _).1 hAsked).2
  · exact fun deed gate hUnasked => after_withGate (by simp [hUnasked])
  · exact fun gate name react p hPanicked => join_of_panicked hNumbered hPanicked
  · exact fun gate snapshot p hPanicked => publish_of_panicked hNumbered hPanicked
  · intro hPanicked future left
    have hPlay := play_of_poisoned (hBroken.2 hPanicked) future
    rw [hPlay]
    refine ⟨rfl, rfl, fun name => ?_⟩
    rw [result, leave_eq]
    rfl

/-- One member, and a publication whose gate panics: the next publication is refused, and the member
can still leave. -/
theorem refused_after_gate_panicked :
    let snapshot : Snapshot Nat Nat := ⟨[(1, 1)], by decide⟩
    let past : List (Deed Nat Nat) :=
      [.join alwaysOpen "a" fun _ => .idle, .publish (panicking (.text "gate")) snapshot]
    (play past initial).result (.publish alwaysOpen snapshot) = .refused Scene.poisonedFault ∧
      (play past initial).result (.leave "a") = .done (.left (some true)) := by
  intro snapshot past
  obtain ⟨hRefused, _, _, _, _, _, _, _, _, hLater⟩ := refused_iff_gate_panicked past
  have hBroken : Sometime (fun t deed => deed.GatePanics t) past initial :=
    ⟨[.join alwaysOpen "a" fun _ => .idle], .publish (panicking (.text "gate")) snapshot, [], rfl,
      .text "gate", by decide⟩
  refine ⟨(hRefused (.publish alwaysOpen snapshot) _ trivial).2 ⟨rfl, hBroken⟩, ?_⟩
  obtain ⟨_, _, hLeft⟩ := hLater hBroken []
  exact hLeft "a"

end Recital

end LongPoll
