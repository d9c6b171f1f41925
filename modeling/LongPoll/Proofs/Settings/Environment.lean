import LongPoll.Settings.Environment
import LongPoll.Proofs.Text.Number

/-!
The settings for which an environment asks.

Each variable has texts that it accepts and a complaint about all others. Main statement: the
settings are what the accepted texts say, with the defaults for the variables that are not set.
Where some variable is not accepted, the first such is complained of, and only where all are
accepted is it asked whether the settings are valid. So the wait of settings from an environment is
bounded, and a query under them has a time limit even with the longest margin that can be written.
-/

namespace LongPoll.Settings

open LongPoll.Text

/-! ### The variables -/

inductive Variable where
  | watchSeconds
  | backoffMillis
  | minDelayMillis
  | timeoutAdjust
  | timeoutMarginMillis
  deriving DecidableEq, Repr

namespace Variable

def name : Variable → String
  | watchSeconds => "WATCH_SECONDS"
  | backoffMillis => "BACKOFF_MS"
  | minDelayMillis => "MIN_DELAY_MS"
  | timeoutAdjust => "TIMEOUT_ADJUST"
  | timeoutMarginMillis => "TIMEOUT_MARGIN_MS"

/-- The variables in the order in which they are read. -/
def all : List Variable :=
  [watchSeconds, backoffMillis, minDelayMillis, timeoutAdjust, timeoutMarginMillis]

example : all.map (variablePrefix ++ ·.name) = variableNames := rfl

def text? (v : Variable) (env : Environment) : Option String := env (variablePrefix ++ v.name)

/-- The texts that say something: a written number of 64 bits, or a truth value, either with white
space around it. -/
def Accepts : Variable → String → Prop
  | timeoutAdjust, raw => Pads raw.toList "true".toList ∨ Pads raw.toList "false".toList
  | _, raw => ∃ n < 2 ^ 64, PaddedNumeral raw.toList n

/-- What is reported of any other text. -/
def complaint : Variable → String → Fault
  | timeoutAdjust, _ => .ofSetting timeoutAdjust.name "expected true or false"
  | v, raw => .ofSetting v.name ("expected an unsigned integer, got " ++ Quoted.encode raw)

/-- The variable is set to a text that says nothing. -/
def Offends (v : Variable) (env : Environment) : Prop :=
  ∃ raw, v.text? env = some raw ∧ ¬v.Accepts raw

/-- The value is what the text of the variable says, or the default if the variable is not set. -/
def Gives {α : Type} (v : Variable) (env : Environment) (default : α) (Says : String → α → Prop)
    (a : α) : Prop :=
  (v.text? env = none → a = default) ∧ ∀ raw, v.text? env = some raw → Says raw a

end Variable

def SaysSeconds (raw : String) (d : Duration) : Prop :=
  ∃ n : UInt64, PaddedNumeral raw.toList n.toNat ∧ d = .ofSeconds n

def SaysMillis (raw : String) (d : Duration) : Prop :=
  ∃ n : UInt64, PaddedNumeral raw.toList n.toNat ∧ d = .ofMillis n

def SaysTruth (raw : String) (b : Bool) : Prop :=
  Pads raw.toList (if b then "true" else "false").toList

/-- The environment asks for the settings. -/
structure AskedBy (env : Environment) (s : Settings) : Prop where
  watch : Variable.watchSeconds.Gives env default.watch SaysSeconds s.watch
  backoff : Variable.backoffMillis.Gives env default.backoff SaysMillis s.backoff
  minDelay : Variable.minDelayMillis.Gives env default.minDelay SaysMillis s.minDelay
  adjust : Variable.timeoutAdjust.Gives env default.adjust SaysTruth s.adjust
  margin : Variable.timeoutMarginMillis.Gives env default.margin SaysMillis s.margin
  /-- No variable says where failed cycles are reported. -/
  errorLog : s.errorLog = default.errorLog

/-- The fault is the complaint about the first of the variables that offends. -/
inductive FirstComplaint (env : Environment) : List Variable → Fault → Prop where
  | here {v : Variable} {vs : List Variable} {raw : String} (hText : v.text? env = some raw)
      (hRefused : ¬v.Accepts raw) : FirstComplaint env (v :: vs) (v.complaint raw)
  | later {v : Variable} {vs : List Variable} {fault : Fault} (hFine : ¬v.Offends env)
      (h : FirstComplaint env vs fault) : FirstComplaint env (v :: vs) fault

/-- The first check that fails of settings whose wait is whole seconds, and what is reported. -/
inductive FirstFlaw (s : Settings) : Fault → Prop where
  | watch (hWatch : s.watchSeconds = 0 ∨ maxWatchSeconds < s.watchSeconds) :
      FirstFlaw s (.ofSetting "watch_duration"
        ("must be between 1 and 600 seconds, got " ++ writeNatural s.watchSeconds))
  | backoff (hWatch : 1 ≤ s.watchSeconds ∧ s.watchSeconds ≤ maxWatchSeconds)
      (hBackoff : s.backoff = .zero) :
      FirstFlaw s (.ofSetting "backoff_delay" "must be greater than zero")

/-! ### Reading one variable -/

theorem readCount_of_numeral {field raw : String} {n : UInt64}
    (hNumeral : PaddedNumeral raw.toList n.toNat) : readCount field raw = .ok n := by
  have hRead : readNatural UInt64.size (trim raw.toList) = .ok n.toNat :=
    (readNatural_eq_ok_iff (by decide)).mpr ⟨paddedNumeral_iff.mp hNumeral, n.toNat_lt_size⟩
  simp [readCount, hRead]

theorem readCount_of_not_numeral {field raw : String}
    (hNone : ¬∃ n < 2 ^ 64, PaddedNumeral raw.toList n) :
    readCount field raw =
      .error (.ofSetting field ("expected an unsigned integer, got " ++ Quoted.encode raw)) := by
  cases hRead : readNatural UInt64.size (trim raw.toList) with
  | ok n =>
    obtain ⟨hNumeral, hn⟩ := (readNatural_eq_ok_iff (by decide)).mp hRead
    exact absurd ⟨n, hn, paddedNumeral_iff.mpr hNumeral⟩ hNone
  | error e => simp [readCount, hRead]

theorem pads_toList_iff {raw core : String} (h : IsTrimmed isBlank core.toList) :
    Pads raw.toList core.toList ↔ trimString raw = core := by
  rw [pads_iff h, trimString, ← String.toList_inj, String.toList_ofList]

theorem pads_true_iff {raw : String} : Pads raw.toList "true".toList ↔ trimString raw = "true" :=
  pads_toList_iff (isTrimmed_of_forall (by simp [isBlank]))

theorem pads_false_iff {raw : String} : Pads raw.toList "false".toList ↔ trimString raw = "false" :=
  pads_toList_iff (isTrimmed_of_forall (by simp [isBlank]))

namespace Variable

variable {α : Type} {v : Variable} {env : Environment} {default : α}
  {Says : String → α → Prop} {read : String → String → Except Fault α}

/-- What the texts of the variable say is read from them, and the others are complained of. -/
structure ReadBy (v : Variable) (Says : String → α → Prop)
    (read : String → String → Except Fault α) : Prop where
  said : ∀ {raw a}, Says raw a → read v.name raw = .ok a
  accepted : ∀ {raw}, v.Accepts raw → ∃ a, Says raw a
  refused : ∀ {raw}, ¬v.Accepts raw → read v.name raw = .error (v.complaint raw)

theorem readBy_readSeconds : watchSeconds.ReadBy SaysSeconds readSeconds where
  said := by
    rintro raw _ ⟨n, hNumeral, rfl⟩
    simp [readSeconds, readCount_of_numeral hNumeral, Except.map]
  accepted := by
    rintro raw ⟨n, hn, hNumeral⟩
    exact ⟨_, .ofNat n, by rwa [UInt64.toNat_ofNat_of_lt' hn], rfl⟩
  refused := by
    intro raw hNone
    simp [readSeconds, readCount_of_not_numeral hNone, Except.map, complaint]

theorem readBy_readMillis (hSeconds : v ≠ watchSeconds) (hTruth : v ≠ timeoutAdjust) :
    v.ReadBy SaysMillis readMillis where
  said := by
    rintro raw _ ⟨n, hNumeral, rfl⟩
    simp [readMillis, readCount_of_numeral hNumeral, Except.map]
  accepted := by
    intro raw h
    obtain ⟨n, hn, hNumeral⟩ : ∃ n < 2 ^ 64, PaddedNumeral raw.toList n := by
      cases v <;> first | exact h | contradiction
    exact ⟨_, .ofNat n, by rwa [UInt64.toNat_ofNat_of_lt' hn], rfl⟩
  refused := by
    intro raw h
    have hNone : ¬∃ n < 2 ^ 64, PaddedNumeral raw.toList n := by
      cases v <;> first | exact h | contradiction
    rw [readMillis, readCount_of_not_numeral hNone]
    cases v <;> first | rfl | contradiction

theorem readBy_readTruth : timeoutAdjust.ReadBy SaysTruth readTruth where
  said := by
    intro raw b hSays
    cases b with
    | true => simp [readTruth, pads_true_iff.mp hSays]
    | false => simp [readTruth, pads_false_iff.mp hSays]
  accepted := by
    rintro raw (hTrue | hFalse)
    · exact ⟨true, hTrue⟩
    · exact ⟨false, hFalse⟩
  refused := by
    intro raw h
    obtain ⟨hTrue, hFalse⟩ := not_or.mp h
    rw [pads_true_iff] at hTrue
    rw [pads_false_iff] at hFalse
    simp [readTruth, hTrue, hFalse, complaint, name]

theorem ReadBy.overlay_of_gives (hRead : v.ReadBy Says read) {a : α}
    (hGives : v.Gives env default Says a) : overlay env v.name default read = .ok a := by
  rw [overlay]
  split
  · next hText => rw [hGives.1 hText]
  · next raw hText => exact hRead.said (hGives.2 raw hText)

theorem ReadBy.exists_gives (hRead : v.ReadBy Says read) (default : α) (hFine : ¬v.Offends env) :
    ∃ a, v.Gives env default Says a := by
  cases hText : v.text? env with
  | none => exact ⟨default, by simp [Gives, hText]⟩
  | some raw =>
    have hAccepted : v.Accepts raw := by
      by_contra h
      exact hFine ⟨raw, hText, h⟩
    obtain ⟨a, hSays⟩ := hRead.accepted hAccepted
    exact ⟨a, by simpa [Gives, hText] using hSays⟩

/-- A complaint ends the reading, whatever the variables after it say. -/
theorem ReadBy.bind_eq_error {β : Type} (hRead : v.ReadBy Says read) (default : α)
    {vs : List Variable} {fault : Fault} {next : α → Except Fault β}
    (h : FirstComplaint env (v :: vs) fault)
    (hNext : ∀ a, FirstComplaint env vs fault → next a = .error fault) :
    overlay env v.name default read >>= next = .error fault := by
  cases h with
  | @here _ _ raw hText hRefused =>
    have hSet : env (variablePrefix ++ v.name) = some raw := hText
    simp only [overlay, hSet, hRead.refused hRefused]
    rfl
  | later hFine h =>
    obtain ⟨a, hGives⟩ := hRead.exists_gives default hFine
    rw [hRead.overlay_of_gives hGives]
    exact hNext a h

theorem readBy_backoff : backoffMillis.ReadBy SaysMillis readMillis :=
  readBy_readMillis (by decide) (by decide)

theorem readBy_minDelay : minDelayMillis.ReadBy SaysMillis readMillis :=
  readBy_readMillis (by decide) (by decide)

theorem readBy_margin : timeoutMarginMillis.ReadBy SaysMillis readMillis :=
  readBy_readMillis (by decide) (by decide)

end Variable

/-! ### Reading the environment -/

section

variable {env : Environment} {s : Settings} {fault : Fault}

open Variable

/-- The settings for which the environment asks are what it gives, if they are valid. -/
theorem AskedBy.ofEnvironment_eq (h : AskedBy env s) :
    ofEnvironment env = s.validate.map (fun _ => s) := by
  have hWatch := readBy_readSeconds.overlay_of_gives h.watch
  have hBackoff := readBy_backoff.overlay_of_gives h.backoff
  have hMinDelay := readBy_minDelay.overlay_of_gives h.minDelay
  have hAdjust := readBy_readTruth.overlay_of_gives h.adjust
  have hMargin := readBy_margin.overlay_of_gives h.margin
  simp only [name] at hWatch hBackoff hMinDelay hAdjust hMargin
  have hSettings : { s with errorLog := default.errorLog } = s := by rw [← h.errorLog]
  simp only [ofEnvironment, hWatch, hBackoff, hMinDelay, hAdjust, hMargin, bind, Except.bind,
    hSettings]
  cases s.validate <;> rfl

theorem exists_askedBy (hFine : ∀ v : Variable, ¬v.Offends env) : ∃ s, AskedBy env s := by
  obtain ⟨watch, hWatch⟩ := readBy_readSeconds.exists_gives default.watch (hFine _)
  obtain ⟨backoff, hBackoff⟩ := readBy_backoff.exists_gives default.backoff (hFine _)
  obtain ⟨minDelay, hMinDelay⟩ := readBy_minDelay.exists_gives default.minDelay (hFine _)
  obtain ⟨adjust, hAdjust⟩ := readBy_readTruth.exists_gives default.adjust (hFine _)
  obtain ⟨margin, hMargin⟩ := readBy_margin.exists_gives default.margin (hFine _)
  exact ⟨⟨watch, backoff, minDelay, adjust, margin, default.errorLog⟩,
    hWatch, hBackoff, hMinDelay, hAdjust, hMargin, rfl⟩

theorem FirstComplaint.ofEnvironment_eq (h : FirstComplaint env Variable.all fault) :
    ofEnvironment env = .error fault := by
  refine readBy_readSeconds.bind_eq_error _ h fun watch h => ?_
  refine readBy_backoff.bind_eq_error _ h fun backoff h => ?_
  refine readBy_minDelay.bind_eq_error _ h fun minDelay h => ?_
  refine readBy_readTruth.bind_eq_error _ h fun adjust h => ?_
  refine readBy_margin.bind_eq_error _ h fun margin h => ?_
  cases h

/-- Some variable is complained of, unless none offends. -/
theorem exists_firstComplaint {vs : List Variable} (h : ∃ v ∈ vs, v.Offends env) :
    ∃ fault, FirstComplaint env vs fault := by
  induction vs with
  | nil => obtain ⟨v, hv, -⟩ := h; cases hv
  | cons v vs ih =>
    by_cases hThis : v.Offends env
    · obtain ⟨raw, hText, hRefused⟩ := hThis
      exact ⟨_, .here hText hRefused⟩
    · obtain ⟨u, hu, hOffends⟩ := h
      rcases List.mem_cons.mp hu with rfl | hu
      · exact absurd hOffends hThis
      · obtain ⟨fault, hFault⟩ := ih ⟨u, hu, hOffends⟩
        exact ⟨fault, .later hThis hFault⟩

theorem fine_or_firstComplaint (env : Environment) :
    (∀ v : Variable, ¬v.Offends env) ∨ ∃ fault, FirstComplaint env Variable.all fault := by
  by_cases h : ∃ v ∈ Variable.all, v.Offends env
  · exact .inr (exists_firstComplaint h)
  · refine .inl fun v hv => h ⟨v, ?_, hv⟩
    cases v <;> decide

/-! ### The checks -/

theorem validate_eq_error_iff (hWhole : s.watch.subsecNanos = 0) :
    s.validate = .error fault ↔ s.FirstFlaw fault := by
  constructor
  · intro h
    simp only [validate, hWhole, ne_eq, not_true_eq_false, if_false] at h
    split at h
    · next hWatch => cases h; exact .watch hWatch
    · next hWatch =>
      split at h
      · next hBackoff =>
        cases h
        exact .backoff (by unfold watchSeconds; omega) (Duration.ext hBackoff)
      · cases h
  · rintro (hWatch | ⟨hWatch, hBackoff⟩)
    · have hWatch : s.watch.seconds = 0 ∨ maxWatchSeconds < s.watch.seconds := hWatch
      simp only [validate, hWhole, ne_eq, not_true_eq_false, if_false, if_pos hWatch]
      rfl
    · have hWatch : ¬(s.watch.seconds = 0 ∨ maxWatchSeconds < s.watch.seconds) := by
        unfold watchSeconds at hWatch; omega
      simp [validate, hWhole, hWatch, hBackoff, Duration.zero]

theorem validate_eq_ok_iff (hWhole : s.watch.subsecNanos = 0) :
    s.validate = .ok () ↔
      (1 ≤ s.watchSeconds ∧ s.watchSeconds ≤ maxWatchSeconds) ∧ s.backoff ≠ .zero := by
  constructor
  · intro h
    have hFlawless (fault : Fault) : ¬s.FirstFlaw fault := by
      rw [← validate_eq_error_iff hWhole, h]
      simp
    have hWatch : 1 ≤ s.watchSeconds ∧ s.watchSeconds ≤ maxWatchSeconds := by
      by_contra hWatch
      exact hFlawless _ (.watch (by omega))
    exact ⟨hWatch, fun hBackoff => hFlawless _ (.backoff hWatch hBackoff)⟩
  · rintro ⟨hWatch, hBackoff⟩
    cases h : s.validate with
    | ok => rfl
    | error fault =>
      cases (validate_eq_error_iff hWhole).mp h with
      | watch hBad => omega
      | backoff _ hZero => exact absurd hZero hBackoff

theorem AskedBy.wholeSeconds (h : AskedBy env s) : s.watch.subsecNanos = 0 := by
  cases hText : Variable.watchSeconds.text? env with
  | none => rw [h.watch.1 hText]; decide
  | some raw =>
    obtain ⟨n, -, hWatch⟩ := h.watch.2 raw hText
    simp [hWatch, Duration.ofSeconds, Duration.subsecNanos]

/-- The longest margin that can be written. -/
theorem AskedBy.margin_le (h : AskedBy env s) : s.margin.nanos ≤ (2 ^ 64 - 1) * 1000000 := by
  cases hText : timeoutMarginMillis.text? env with
  | none => rw [h.margin.1 hText]; decide
  | some raw =>
    obtain ⟨n, -, hMargin⟩ := h.margin.2 raw hText
    have hn : n.toNat < 2 ^ 64 := n.toNat_lt_size
    simp only [hMargin, Duration.ofMillis]
    omega

/-- A bounded wait and a written margin have a sum. -/
theorem AskedBy.exists_readLimit (h : AskedBy env s) (hWatch : s.watchSeconds ≤ maxWatchSeconds) :
    ∃ limit, s.readLimit = .ok limit := by
  have hSum : s.watch.add? s.margin ≠ none := by
    rw [Ne, Duration.add?_eq_none_iff]
    have hMargin := h.margin_le
    simp only [watchSeconds, Duration.seconds, maxWatchSeconds] at hWatch
    have hSize : UInt64.size = 2 ^ 64 := rfl
    omega
  obtain ⟨d, hd⟩ := Option.ne_none_iff_exists'.mp hSum
  cases hAdjust : s.adjust <;> simp [readLimit, hAdjust, hd]

end

/-- The settings of an environment are what the texts of its variables say, with the defaults for
those that are not set, exactly if no variable offends, the wait is from 1 to 600 seconds and the
backoff is some time. Otherwise the fault is the complaint about the first variable that offends,
and only if none does, the first flaw of the settings. All settings of an environment are valid, and
the queries under them have a time limit. -/
theorem environment_is_read_exactly (env : Environment) :
    (∀ s, ofEnvironment env = .ok s ↔
      AskedBy env s ∧ (1 ≤ s.watchSeconds ∧ s.watchSeconds ≤ 600) ∧ s.backoff ≠ .zero) ∧
    (∀ fault, ofEnvironment env = .error fault ↔
      FirstComplaint env Variable.all fault ∨
        (∀ v : Variable, ¬v.Offends env) ∧
          ∃ s, AskedBy env s ∧ s.validate = .error fault ∧ s.FirstFlaw fault) ∧
    ∀ s, ofEnvironment env = .ok s → s.validate = .ok () ∧ ∃ limit, s.readLimit = .ok limit := by
  have hOk (s : Settings) (h : ofEnvironment env = .ok s) :
      AskedBy env s ∧ s.validate = .ok () := by
    rcases fine_or_firstComplaint env with hFine | ⟨fault, hFault⟩
    · obtain ⟨s', hAsked⟩ := exists_askedBy hFine
      rw [hAsked.ofEnvironment_eq] at h
      cases hCheck : s'.validate with
      | ok => rw [hCheck] at h; cases h; exact ⟨hAsked, hCheck⟩
      | error fault => rw [hCheck] at h; cases h
    · rw [hFault.ofEnvironment_eq] at h
      cases h
  refine ⟨fun s => ⟨fun h => ?_, ?_⟩, fun fault => ⟨fun h => ?_, ?_⟩, fun s h => ?_⟩
  · obtain ⟨hAsked, hValid⟩ := hOk s h
    exact ⟨hAsked, (validate_eq_ok_iff hAsked.wholeSeconds).mp hValid⟩
  · rintro ⟨hAsked, hGood⟩
    rw [hAsked.ofEnvironment_eq, (validate_eq_ok_iff hAsked.wholeSeconds).mpr hGood]
    rfl
  · rcases fine_or_firstComplaint env with hFine | ⟨fault', hFault⟩
    · obtain ⟨s, hAsked⟩ := exists_askedBy hFine
      rw [hAsked.ofEnvironment_eq] at h
      have hInvalid : s.validate = .error fault := by
        cases hCheck : s.validate with
        | ok => rw [hCheck] at h; cases h
        | error fault' => rw [hCheck] at h; cases h; rfl
      exact .inr ⟨hFine, s, hAsked, hInvalid,
        (validate_eq_error_iff hAsked.wholeSeconds).mp hInvalid⟩
    · rw [hFault.ofEnvironment_eq] at h
      cases h
      exact .inl hFault
  · rintro (hFault | ⟨-, s, hAsked, hInvalid, -⟩)
    · exact hFault.ofEnvironment_eq
    · rw [hAsked.ofEnvironment_eq, hInvalid]
      rfl
  · obtain ⟨hAsked, hValid⟩ := hOk s h
    have hWatch := ((validate_eq_ok_iff hAsked.wholeSeconds).mp hValid).1.2
    exact ⟨hValid, hAsked.exists_readLimit hWatch⟩

/-- An environment that sets nothing asks for the defaults, and they are valid. -/
example : ofEnvironment (fun _ => none) = .ok default := rfl

end LongPoll.Settings
