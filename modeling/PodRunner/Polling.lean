/-!
# Polling budget

How often a pod is looked at before it counts as stuck (`PollSettings.attempts`): as many intervals
as fit into the timeout, at least one and at most what 32 bits hold.
-/

namespace PodRunner

/-- A span of time. -/
structure Duration where
  nanos : Nat
  deriving DecidableEq, Repr

namespace Duration

def ofSeconds (s : Nat) : Duration := ⟨s * 1000000000⟩

def ofMillis (ms : Nat) : Duration := ⟨ms * 1000000⟩

/-- Whole milliseconds. -/
def millis (d : Duration) : Nat := d.nanos / 1000000

/-- Whole seconds. -/
def seconds (d : Duration) : Nat := d.nanos / 1000000000

/-- The milliseconds that a clock has to count until the span is over. -/
def ticks (d : Duration) : Nat := (d.nanos + 999999) / 1000000

end Duration

structure PollSettings where
  interval : Duration
  timeout : Duration
  deriving DecidableEq, Repr

namespace PollSettings

/-- The largest number of attempts. -/
def maxAttempts : Nat := Nat.pow 2 32 - 1

/-- How often to look. -/
def attempts (p : PollSettings) : Nat :=
  if p.interval.nanos = 0 then 1
  else max (min (p.timeout.millis / max p.interval.millis 1) maxAttempts) 1

end PollSettings

end PodRunner
