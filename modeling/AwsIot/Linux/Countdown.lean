/-
  Linux/Countdown.lean --- what the Linux timer answers while it runs.

  The timer keeps the time at which it ends, and `has_timer_expired` compares it with the
  clock to the microsecond.  `left_ms` cuts the rest down to whole milliseconds and to 32
  bits.
-/
import AwsIot.Linux.Timer
import AwsIot.Platform.TimerInterface

set_option autoImplicit false

namespace AwsIot.Linux

open AwsIot.Platform

/-- The time in microseconds. -/
def TimeVal.micros (t : TimeVal) : Int := t.sec * 1000000 + t.usec

/-- The Linux port. -/
abbrev timerPort : TimerInterface where
  Timer := Timer
  Instant := TimeVal
  micros := TimeVal.micros
  hasTimerExpired timer now := (timer.hasExpired now, timer)
  leftMs timer now := (timer.leftMs now, timer)
  countdownMs timeout now := some (countdownMs timeout now)
  countdownSec timeout now := some (countdownSec timeout now)

theorem micros_timersub (a b : TimeVal) : (timersub a b).micros = a.micros - b.micros := by
  unfold timersub
  split <;> simp only [TimeVal.micros] <;> omega

theorem micros_timeradd (a b : TimeVal) : (timeradd a b).micros = a.micros + b.micros := by
  unfold timeradd
  split <;> simp only [TimeVal.micros] <;> omega

theorem micros_msInterval (timeout : UInt32) :
    (msInterval timeout).micros = (timeout.toNat * 1000 : Nat) := by
  have hsmall : timeout.toNat % 1000 * 1000 < 4294967296 := by
    have := Nat.mod_lt timeout.toNat (show 0 < 1000 by decide)
    omega
  change ((timeout.toNat / 1000 : Nat) : Int) * 1000000 +
    ((timeout.toNat % 1000 * 1000 % 4294967296 : Nat) : Int) = _
  rw [Nat.mod_eq_of_lt hsmall]
  omega

theorem micros_secInterval (timeout : UInt32) :
    (secInterval timeout).micros = (timeout.toNat * 1000000 : Nat) := by
  simp only [TimeVal.micros, secInterval]
  omega

/-- A countdown ends as much later as it was asked to. -/
theorem micros_endTime {countdown : Countdown} {t₀ : TimeVal} {timer : Timer}
    (hstart : timerPort.started countdown t₀ = some timer) :
    timer.endTime.micros = t₀.micros + countdown.micros := by
  cases countdown with
  | ms timeout =>
    cases hstart
    exact (micros_timeradd _ _).trans (by rw [micros_msInterval]; rfl)
  | sec timeout =>
    cases hstart
    exact (micros_timeradd _ _).trans (by rw [micros_secInterval]; rfl)

/-- `has_timer_expired` is exact. -/
theorem hasExpired_iff (timer : Timer) (now : TimeVal) :
    timer.hasExpired now = true ↔ timer.endTime.micros ≤ now.micros := by
  have hres := micros_timersub timer.endTime now
  have hnonneg := (timersub timer.endTime now).usec_nonneg
  have hlt := (timersub timer.endTime now).usec_lt
  simp only [Timer.hasExpired, Bool.or_eq_true, Bool.and_eq_true, decide_eq_true_eq, beq_iff_eq]
  simp only [TimeVal.micros] at hres ⊢
  omega

theorem ofInt_eq_zero_iff (x : Int) : UInt32.ofInt x = 0 ↔ x % 4294967296 = 0 := by
  have hmod : x % 4294967296 < 4294967296 := Int.emod_lt_of_pos _ (by decide)
  have hnonneg : 0 ≤ x % 4294967296 := Int.emod_nonneg _ (by decide)
  rw [← UInt32.toNat_inj]
  change (x % 4294967296).toNat % 4294967296 = 0 ↔ _
  omega

/-- `left_ms` is zero from the end on, and before it when the whole milliseconds that are left
are a multiple of 2 ^ 32. -/
theorem leftMs_eq_zero_iff (timer : Timer) (now : TimeVal) :
    timer.leftMs now = 0 ↔ timer.endTime.micros ≤ now.micros ∨
      (timer.endTime.micros - now.micros) / 1000 % 4294967296 = 0 := by
  have hres := micros_timersub timer.endTime now
  have hnonneg := (timersub timer.endTime now).usec_nonneg
  have hlt := (timersub timer.endTime now).usec_lt
  unfold Timer.leftMs
  simp only [TimeVal.micros] at hres ⊢
  split
  case isTrue hsec =>
    rw [ofInt_eq_zero_iff]
    have hwhole : (timersub timer.endTime now).sec * 1000 +
        (timersub timer.endTime now).usec / 1000 =
        (timer.endTime.sec * 1000000 + timer.endTime.usec -
          (now.sec * 1000000 + now.usec)) / 1000 := by
      omega
    rw [hwhole]
    omega
  case isFalse hsec =>
    refine iff_of_true rfl (Or.inl ?_)
    omega

/-- Before its end a timer has, in whole milliseconds and in 32 bits, something left. -/
def WholeMsLeft (due : Int) (now : TimeVal) : Prop :=
  now.micros < due → (due - now.micros) / 1000 % 4294967296 ≠ 0

theorem right_iff_wholeMsLeft (timer : Timer) (now : TimeVal) :
    timerPort.Right timer.endTime.micros timer now ↔ WholeMsLeft timer.endTime.micros now := by
  have hexpired := hasExpired_iff timer now
  have hleft := leftMs_eq_zero_iff timer now
  change ((timer.hasExpired now = true ↔ timer.endTime.micros ≤ now.micros) ∧
    (timer.leftMs now = 0 ↔ timer.hasExpired now = true)) ↔ _
  rw [hexpired, hleft, WholeMsLeft]
  omega

/-- The Linux timer is honest in a run exactly if at each poll before the end there is a whole
millisecond left, in 32 bits. -/
theorem honest_iff_wholeMsLeft {countdown : Countdown} {t₀ : TimeVal} {timer : Timer}
    (hstart : timerPort.started countdown t₀ = some timer) (polls : List timerPort.Poll) :
    timerPort.Honest (t₀.micros + countdown.micros) timer polls ↔
      ∀ poll ∈ polls, WholeMsLeft (t₀.micros + countdown.micros) poll.now := by
  have hkeeps : ∀ poll : timerPort.Poll, poll.after timer = timer := by
    rintro (now | now)
    · rfl
    · rfl
  rw [TimerInterface.honest_iff_forall_right hkeeps, ← micros_endTime hstart]
  exact forall₂_congr fun poll _ => right_iff_wholeMsLeft timer poll.now

end AwsIot.Linux
