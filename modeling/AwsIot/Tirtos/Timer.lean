/-
  Tirtos/Timer.lean --- `platform/tirtos/timer.c`.

  The port counts ticks of the system clock in 32 bits.  A timer holds the count at which
  it was started and a number of ticks, and the two questions of the interface may write to
  it: a timer that is found to have run out loses its length.
-/

set_option autoImplicit false

namespace AwsIot.Tirtos

/-- The timer of `timer_platform.h`. -/
structure Timer where
  /-- The count of the clock when the timer was started. -/
  start : UInt32
  /-- How many ticks it runs. -/
  length : UInt32
  deriving DecidableEq

/-- `TIRTOS_MAX_TIMEOUT_MS`. -/
def maxTimeoutMs : UInt32 := 4000000

/-- `TIRTOS_MAX_TIMEOUT_SEC`. -/
def maxTimeoutSec : UInt32 := 4000

section
-- `Clock_tickPeriod`, in microseconds.
variable (tickPeriod : UInt32)

/-- `ticksToMs`. -/
def ticksToMs (ticks : UInt32) : UInt32 :=
  if tickPeriod = 1000 then ticks else (ticks * tickPeriod) / 1000

/-- `msToTicks`. -/
def msToTicks (ms : UInt32) : UInt32 :=
  if tickPeriod = 1000 then ms else (ms * 1000) / tickPeriod

/-- `left_ms` when `Clock_getTicks` returns `ticks`: the answer, and the timer it leaves. -/
def Timer.leftMs (timer : Timer) (ticks : UInt32) : UInt32 × Timer :=
  let diff := ticks - timer.start
  if diff ≥ timer.length then
    (0, { timer with length := 0 })
  else
    (ticksToMs tickPeriod (timer.length - diff), timer)

/-- `has_timer_expired`. -/
def Timer.hasExpired (timer : Timer) (ticks : UInt32) : Bool × Timer :=
  let (left, timer) := timer.leftMs tickPeriod ticks
  (left == 0, timer)

/-- `countdown_ms`; `none` where `Assert_isTrue` stops the program. -/
def countdownMs (tms : UInt32) (ticks : UInt32) : Option Timer :=
  if tms < maxTimeoutMs then some ⟨ticks, msToTicks tickPeriod tms⟩ else none

/-- `countdown_sec`; `none` where `Assert_isTrue` stops the program. -/
def countdownSec (tsec : UInt32) (ticks : UInt32) : Option Timer :=
  if tsec < maxTimeoutSec then countdownMs tickPeriod (tsec * 1000) ticks else none

end

end AwsIot.Tirtos
