import LongPoll.Settings
import LongPoll.Text.Quoted

/-!
Settings from the environment.

Each setting has a variable of its own; where it is not set, the default holds. The variables are
read in a fixed order, so of several malformed ones the first is the error, and what they say
together is validated last.
-/

namespace LongPoll.Settings

open LongPoll.Text

abbrev Environment := String → Option String

/-- What all variable names begin with. -/
def variablePrefix : String := "CONSULWATCH_"

def variableNames : List String :=
  ["WATCH_SECONDS", "BACKOFF_MS", "MIN_DELAY_MS", "TIMEOUT_ADJUST", "TIMEOUT_MARGIN_MS"].map
    (variablePrefix ++ ·)

/-- Read a count, white space around it aside. -/
def readCount (field raw : String) : Except Fault UInt64 :=
  match readNatural UInt64.size (trim raw.toList) with
  | .ok n => .ok (.ofNat n)
  | .error _ =>
    .error (.ofSetting field ("expected an unsigned integer, got " ++ Quoted.encode raw))

/-- Read a truth value, white space around it aside. -/
def readTruth (field raw : String) : Except Fault Bool :=
  let text := trimString raw
  if text = "true" then .ok true
  else if text = "false" then .ok false
  else .error (.ofSetting field "expected true or false")

/-- The value of a variable, or the default where it is not set. -/
def overlay {α : Type} (env : Environment) (field : String) (default : α)
    (read : String → String → Except Fault α) : Except Fault α :=
  match env (variablePrefix ++ field) with
  | none => .ok default
  | some raw => read field raw

def readSeconds (field raw : String) : Except Fault Duration :=
  (readCount field raw).map .ofSeconds

def readMillis (field raw : String) : Except Fault Duration :=
  (readCount field raw).map .ofMillis

/-- The settings that an environment asks for. -/
def ofEnvironment (env : Environment) : Except Fault Settings := do
  let watch ← overlay env "WATCH_SECONDS" default.watch readSeconds
  let backoff ← overlay env "BACKOFF_MS" default.backoff readMillis
  let minDelay ← overlay env "MIN_DELAY_MS" default.minDelay readMillis
  let adjust ← overlay env "TIMEOUT_ADJUST" default.adjust readTruth
  let margin ← overlay env "TIMEOUT_MARGIN_MS" default.margin readMillis
  let settings : Settings :=
    { watch, backoff, minDelay, adjust, margin, errorLog := default.errorLog }
  settings.validate
  return settings

end LongPoll.Settings
