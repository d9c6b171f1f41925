import LongPoll.Fault

/-!
The settings of a cache.

`validate` is what a cache asks of its settings before it exists. It bounds the wait, which the
agent limits, and forbids a backoff of no time, which would make a failing cache spin. It does not
bound the margin, so the time limit of a query may fail to exist; `readLimit` says so.
-/

namespace LongPoll

/-- Where failed cycles are reported. -/
inductive ErrorLog where
  /-- The log, as errors. -/
  | error
  /-- The log, as warnings. -/
  | warn
  /-- A callback of the owner. -/
  | custom
  deriving DecidableEq, Repr

namespace ErrorLog

def shown : ErrorLog → String
  | error => "Error"
  | warn => "Warn"
  | custom => "Custom(..)"

end ErrorLog

/-- The settings of a cache. -/
structure Settings where
  /-- How long the agent may hold a query back. -/
  watch : Duration
  /-- The pause after a failed cycle. -/
  backoff : Duration
  /-- The least time from the start of one cycle to the start of the next. -/
  minDelay : Duration
  /-- Limit the time of a query to the wait and the margin. -/
  adjust : Bool
  /-- What a query may take longer than the wait. -/
  margin : Duration
  errorLog : ErrorLog
  deriving DecidableEq

/-- The sum of two spans that is none. -/
inductive DurationOverflow where
  | mk
  deriving DecidableEq, Repr

namespace DurationOverflow

def message (_ : DurationOverflow) : String := "overflow when adding durations"

end DurationOverflow

namespace Settings

/-- The longest wait that the agent accepts, in seconds. -/
def maxWatchSeconds : Nat := 600

/-- What holds where nothing else is said. -/
def default : Settings where
  watch := .ofSeconds 10
  backoff := .ofMillis 10000
  minDelay := .ofMillis 0
  adjust := true
  margin := .ofMillis 2000
  errorLog := .error

def watchSeconds (s : Settings) : Nat := s.watch.seconds

/-- The first fault of the settings. -/
def validate (s : Settings) : Except Fault Unit :=
  if s.watch.subsecNanos ≠ 0 then
    .error (.ofSetting "watch_duration" "must be a whole number of seconds")
  else if s.watch.seconds = 0 ∨ maxWatchSeconds < s.watch.seconds then
    .error (.ofSetting "watch_duration"
      ("must be between 1 and " ++ Text.writeNatural maxWatchSeconds ++ " seconds, got " ++
        Text.writeNatural s.watch.seconds))
  else if s.backoff.nanos = 0 then
    .error (.ofSetting "backoff_delay" "must be greater than zero")
  else .ok ()

/-- The time limit of a query, if there is one: the wait and the margin together. -/
def readLimit (s : Settings) : Except DurationOverflow (Option Duration) :=
  if s.adjust then
    match s.watch.add? s.margin with
    | some d => .ok (some d)
    | none => .error .mk
  else .ok none

end Settings

end LongPoll
