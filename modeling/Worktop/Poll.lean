import Worktop.Text.Lines

/-!
# Polling

Checking at the start, then at every interval, and for the last time at the deadline.  Time is in
microseconds, and is what the pauses add up to.
-/

namespace Worktop

/-- How often to check, and for how long. -/
structure Poller where
  interval : Nat := 50000
  timeout : Nat := 5000000
  deriving DecidableEq, Repr

/-- What was waited for did not come. -/
structure PollTimeout where
  what : String
  waited : Nat
  deriving DecidableEq, Repr

namespace Poller

/-- A poller with times in milliseconds. -/
def ofMillis (interval timeout : Nat) : Poller where
  interval := interval * 1000
  timeout := timeout * 1000

/-- The time between two checks.  A check takes time too, so it is never nothing. -/
def step (p : Poller) : Nat :=
  max p.interval 1

/-- Checks, and again after pauses, for as long as `remaining` allows. -/
def pollFrom {m : Type → Type} [Monad m] (p : Poller) (pause : Nat → m Unit) (check : m Bool)
    (remaining : Nat) : m Bool := do
  if ← check then
    pure true
  else if remaining = 0 then
    pure false
  else
    let duration := min p.step remaining
    pause duration
    p.pollFrom pause check (remaining - duration)
termination_by remaining
decreasing_by
  have : 1 ≤ p.step := Nat.le_max_right ..
  omega

/-- Checks until a check succeeds or the time is up. -/
def poll {m : Type → Type} [Monad m] (p : Poller) (what : String) (pause : Nat → m Unit)
    (check : m Bool) : m (Except PollTimeout Unit) := do
  if ← p.pollFrom pause check p.timeout then
    pure (.ok ())
  else
    pure (.error { what, waited := p.timeout })

end Poller

namespace PollTimeout

/-- A number of microseconds in the largest unit that leaves a whole part, with as many decimals as
it needs. -/
def duration (micros : Nat) : String :=
  if micros = 0 then "0ns"
  else if micros < 1000 then s!"{micros}µs"
  else if micros < 1000000 then decimal micros 1000 3 ++ "ms"
  else decimal micros 1000000 6 ++ "s"
where
  /-- A quotient by a power of ten with at most `places` decimals. -/
  decimal (n unit places : Nat) : String :=
    let digits := (toString (n % unit)).toList
    let padded := List.replicate (places - digits.length) '0' ++ digits
    match (padded.reverse.dropWhile (· = '0')).reverse with
    | [] => toString (n / unit)
    | decimals => toString (n / unit) ++ "." ++ String.ofList decimals

/-- The text of the error. -/
def message (e : PollTimeout) : String :=
  s!"Timed out after {duration e.waited} waiting for {e.what}"

end PollTimeout

end Worktop
