import LongPoll.Text.Number

/-!
Spans of time, counted in nanoseconds.

A span holds fewer than 2⁶⁴ seconds, so the sum of two spans can fail to exist. That is the only
arithmetic that can fail here, and `add?` says so in its type.
-/

namespace LongPoll

/-- A span of time. -/
@[ext] structure Duration where
  /-- The whole span in nanoseconds. -/
  nanos : Nat
  /-- It stays below 2⁶⁴ seconds. -/
  bounded : nanos < UInt64.size * 1000000000 := by decide
  deriving DecidableEq

namespace Duration

def zero : Duration := ⟨0, by decide⟩

def ofSeconds (s : UInt64) : Duration :=
  ⟨s.toNat * 1000000000, by have := s.toNat_lt_size; omega⟩

def ofMillis (ms : UInt64) : Duration :=
  ⟨ms.toNat * 1000000, by have := ms.toNat_lt_size; omega⟩

/-- Seconds and the nanoseconds above them, if the two together are a span. -/
def ofParts? (seconds nanos : Nat) : Option Duration :=
  if h : seconds * 1000000000 + nanos < UInt64.size * 1000000000 then
    some ⟨seconds * 1000000000 + nanos, h⟩
  else none

def seconds (d : Duration) : Nat := d.nanos / 1000000000

/-- The nanoseconds above the whole seconds. -/
def subsecNanos (d : Duration) : Nat := d.nanos % 1000000000

/-- The sum, if it is a span. -/
def add? (a b : Duration) : Option Duration :=
  if h : a.nanos + b.nanos < UInt64.size * 1000000000 then some ⟨a.nanos + b.nanos, h⟩ else none

/-- A decimal fraction of `places` digits without its trailing zeros, with the point in front. -/
def fraction (places n : Nat) : List Char :=
  if n = 0 then []
  else
    let digits := Text.decimalDigits n
    let padded := List.replicate (places - digits.length) '0' ++ digits
    '.' :: (padded.reverse.dropWhile (· == '0')).reverse

/-- The span in the largest unit of which it holds at least one, exactly. -/
def text (d : Duration) : String :=
  let written (whole places rest : Nat) (unit : String) : String :=
    String.ofList (Text.decimalDigits whole ++ fraction places rest) ++ unit
  if 1000000000 ≤ d.nanos then written (d.nanos / 1000000000) 9 (d.nanos % 1000000000) "s"
  else if 1000000 ≤ d.nanos then written (d.nanos / 1000000) 6 (d.nanos % 1000000) "ms"
  else if 1000 ≤ d.nanos then written (d.nanos / 1000) 3 (d.nanos % 1000) "µs"
  else written d.nanos 0 0 "ns"

theorem add?_eq_some_iff {a b c : Duration} :
    a.add? b = some c ↔ c.nanos = a.nanos + b.nanos := by
  unfold add?
  constructor
  · intro h; split at h
    · cases h; rfl
    · cases h
  · intro h
    have := c.bounded
    rw [dif_pos (by omega)]
    exact congrArg some (Duration.ext h.symm)

theorem add?_eq_none_iff {a b : Duration} :
    a.add? b = none ↔ UInt64.size * 1000000000 ≤ a.nanos + b.nanos := by
  unfold add?
  split <;> simp <;> omega

end Duration

end LongPoll
