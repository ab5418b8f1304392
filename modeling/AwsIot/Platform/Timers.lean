/-
  Platform/Timers.lean --- the two ports of the timer.

  What the waiting loops of the SDK rely on is said once, for any port; what it takes for
  it to hold differs.
-/
import AwsIot.Linux.Countdown
import AwsIot.Tirtos.Countdown

set_option autoImplicit false

namespace AwsIot.Platform

/-- The ports of `platform/`. -/
inductive Port where
  /-- `platform/linux/common/timer.c`. -/
  | linux
  /-- `platform/tirtos/timer.c`, on a clock that ticks every `tickPeriod` microseconds. -/
  | tirtos (tickPeriod : UInt32) (pos : 0 < tickPeriod.toNat)

/-- What the port implements. -/
abbrev Port.timer : Port → TimerInterface
  | .linux => Linux.timerPort
  | .tirtos tickPeriod _ => Tirtos.timerPort tickPeriod

/-- What the port needs of the polls to answer them rightly. -/
def Port.CanTell : (port : Port) → Countdown → port.timer.Instant → List port.timer.Poll → Prop
  | .linux, countdown, t₀, polls =>
      ∀ poll ∈ polls, Linux.WholeMsLeft (t₀.micros + countdown.micros) poll.now
  | .tirtos _ _, countdown, n₀, polls => Tirtos.AllInTime countdown n₀ [] polls

/-- On either port a timer that was started at `t₀` is honest in a run of polls on a clock that
never runs backwards if and only if the port can tell at each of them. -/
theorem timer_honest_iff (port : Port) (countdown : Countdown) (t₀ : port.timer.Instant)
    (timer : port.timer.Timer) (hstart : port.timer.started countdown t₀ = some timer)
    (polls : List port.timer.Poll) (hclock : port.timer.NeverBackwards t₀ polls) :
    port.timer.Honest (port.timer.micros t₀ + countdown.micros) timer polls ↔
      port.CanTell countdown t₀ polls := by
  cases port with
  | linux => exact Linux.honest_iff_wholeMsLeft hstart polls
  | tirtos tickPeriod hpos => exact Tirtos.honest_iff_allInTime hpos hstart hclock

/-- A countdown of 100 ms on a clock that ticks every 10 ms, asked in the middle and at the
end. -/
theorem timer_honest_iff_hundred :
    (Tirtos.timerPort 10000).Honest (7 * 10000 + 100000) (⟨7, 10⟩ : Tirtos.Timer)
        [.leftMs (12 : Nat), .hasTimerExpired (17 : Nat)] ↔
      (Port.tirtos 10000 (by decide)).CanTell (.ms 100) (7 : Nat)
        [.leftMs (12 : Nat), .hasTimerExpired (17 : Nat)] :=
  timer_honest_iff (.tirtos 10000 (by decide)) (.ms 100) (7 : Nat) ⟨7, 10⟩ rfl
    [.leftMs (12 : Nat), .hasTimerExpired (17 : Nat)]
    (by simp [TimerInterface.NeverBackwards, TimerInterface.Poll.now])

/-- With half a millisecond to go, the Linux timer has not expired and has nothing left.  A
countdown of 10 ms on a clock that ticks every 3 ms has expired after 9 ms. -/
theorem not_every_timer_honest :
    (Linux.timerPort.started (.ms 1) ⟨0, 0, by decide, by decide⟩ =
        some ⟨0, 1000, by decide, by decide⟩ ∧
      Linux.timerPort.NeverBackwards ⟨0, 0, by decide, by decide⟩
        [.leftMs ⟨0, 500, by decide, by decide⟩] ∧
      ¬ Linux.timerPort.Honest 1000 ⟨0, 1000, by decide, by decide⟩
        [.leftMs ⟨0, 500, by decide, by decide⟩]) ∧
    ((Tirtos.timerPort 3000).started (.ms 10) (0 : Nat) = some (⟨0, 3⟩ : Tirtos.Timer) ∧
      (Tirtos.timerPort 3000).NeverBackwards (0 : Nat) [.hasTimerExpired (3 : Nat)] ∧
      ¬ (Tirtos.timerPort 3000).Honest 10000 (⟨0, 3⟩ : Tirtos.Timer)
        [.hasTimerExpired (3 : Nat)]) := by
  refine ⟨⟨rfl, ?_, ?_⟩, rfl, ?_, ?_⟩
  · simp [TimerInterface.NeverBackwards, TimerInterface.Poll.now, Linux.TimeVal.micros]
  · exact fun honest => absurd (honest.1.2.mp rfl) (by decide)
  · simp [TimerInterface.NeverBackwards, TimerInterface.Poll.now]
  · exact fun honest => absurd (honest.1.1.mp rfl) (by decide)

end AwsIot.Platform
