/-
  Platform/TimerInterface.lean --- `timer_interface.h`.

  A port answers two questions about a timer: has it expired, and how many milliseconds
  are left.  Whoever waits on a timer asks the one or the other again and again, and the
  answers are honest if at every such time the first is yes exactly from the end on and
  the second is zero exactly then.
-/
import Mathlib.Data.List.Basic

set_option autoImplicit false

namespace AwsIot.Platform

/-- What a port implements. -/
structure TimerInterface where
  /-- `struct Timer`. -/
  Timer : Type
  /-- What there is to say about the moment of a call. -/
  Instant : Type
  /-- That moment in microseconds. -/
  micros : Instant → Int
  /-- `has_timer_expired`: the answer, and what becomes of the timer. -/
  hasTimerExpired : Timer → Instant → Bool × Timer
  /-- `left_ms`: the answer, and what becomes of the timer. -/
  leftMs : Timer → Instant → UInt32 × Timer
  /-- `countdown_ms`, if it admits the timeout. -/
  countdownMs : UInt32 → Instant → Option Timer
  /-- `countdown_sec`, if it admits the timeout. -/
  countdownSec : UInt32 → Instant → Option Timer

/-- A call that starts a timer. -/
inductive Countdown where
  /-- `countdown_ms`. -/
  | ms (timeout : UInt32)
  /-- `countdown_sec`. -/
  | sec (timeout : UInt32)

/-- The time the call asks for, in microseconds. -/
def Countdown.micros : Countdown → Nat
  | .ms timeout => timeout.toNat * 1000
  | .sec timeout => timeout.toNat * 1000000

namespace TimerInterface

variable (port : TimerInterface)

/-- The timer a call starts. -/
def started : Countdown → port.Instant → Option port.Timer
  | .ms timeout, now => port.countdownMs timeout now
  | .sec timeout, now => port.countdownSec timeout now

/-- One question to a running timer. -/
inductive Poll where
  /-- `has_timer_expired`. -/
  | hasTimerExpired (now : port.Instant)
  /-- `left_ms`. -/
  | leftMs (now : port.Instant)

variable {port}

/-- When the question is asked. -/
def Poll.now : port.Poll → port.Instant
  | .hasTimerExpired now => now
  | .leftMs now => now

/-- What the question makes of the timer. -/
def Poll.after : port.Poll → port.Timer → port.Timer
  | .hasTimerExpired now, timer => (port.hasTimerExpired timer now).2
  | .leftMs now, timer => (port.leftMs timer now).2

variable (port)

/-- At the instant `now` a timer that ends at `due` is told to have expired if and only if it
is `due` or later, and nothing is left of it if and only if it is told to have expired. -/
def Right (due : Int) (timer : port.Timer) (now : port.Instant) : Prop :=
  ((port.hasTimerExpired timer now).1 = true ↔ due ≤ port.micros now) ∧
    ((port.leftMs timer now).1 = 0 ↔ (port.hasTimerExpired timer now).1 = true)

/-- Whenever the timer is asked, both its answers are right. -/
def Honest (due : Int) : port.Timer → List port.Poll → Prop
  | _, [] => True
  | timer, poll :: polls => port.Right due timer poll.now ∧ Honest due (poll.after timer) polls

/-- The clock never runs backwards, from the start of the timer on. -/
def NeverBackwards (t₀ : port.Instant) (polls : List port.Poll) : Prop :=
  (t₀ :: polls.map Poll.now).Pairwise fun earlier later => port.micros earlier ≤ port.micros later

variable {port}

/-- A timer that no question changes is honest if it is right at each. -/
theorem honest_iff_forall_right {due : Int} {timer : port.Timer}
    (hkeeps : ∀ poll : port.Poll, poll.after timer = timer) (polls : List port.Poll) :
    port.Honest due timer polls ↔ ∀ poll ∈ polls, port.Right due timer poll.now := by
  induction polls with
  | nil => simp [Honest]
  | cons poll polls ih => rw [Honest, hkeeps, ih, List.forall_mem_cons]

end TimerInterface

end AwsIot.Platform
