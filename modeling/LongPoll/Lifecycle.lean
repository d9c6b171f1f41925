/-!
The life of a cache.

A cache is latent until it is started, starting until the first response is applied, and started
until it is stopped. It can be stopped at any time, for good. Whether a response was ever applied is
a fact of its own: it stays true when the cache is stopped.
-/

namespace LongPoll

/-- The phases, in the order in which they can follow each other. -/
inductive Phase where
  | latent
  | starting
  | started
  | stopped
  deriving DecidableEq, Repr

namespace Phase

def name : Phase → String
  | latent => "latent"
  | starting => "starting"
  | started => "started"
  | stopped => "stopped"

def title : Phase → String
  | latent => "Latent"
  | starting => "Starting"
  | started => "Started"
  | stopped => "Stopped"

/-- The place of a phase in the order. -/
def rank : Phase → Nat
  | latent => 0
  | starting => 1
  | started => 2
  | stopped => 3

end Phase

/-- Where a cache is in its life. -/
structure Lifecycle where
  phase : Phase
  /-- A response was applied while the cache was starting. -/
  initialized : Bool
  deriving DecidableEq, Repr

namespace Lifecycle

def initial : Lifecycle := ⟨.latent, false⟩

/-- Start. Only a latent cache can be started; the phase found instead is the error. -/
def start (l : Lifecycle) : Except Phase Lifecycle :=
  if l.phase = .latent then .ok { l with phase := .starting } else .error l.phase

/-- The first response is applied. Says whether it was the one that a starting cache waited for. -/
def settle (l : Lifecycle) : Lifecycle × Bool :=
  if l.phase = .starting then (⟨.started, true⟩, true) else (l, false)

/-- Stop. Says whether the cache was not stopped yet. -/
def stop (l : Lifecycle) : Lifecycle × Bool :=
  ({ l with phase := .stopped }, l.phase != .stopped)

def isStopped (l : Lifecycle) : Bool := l.phase == .stopped

end Lifecycle

end LongPoll
