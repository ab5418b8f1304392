/-
  Linux/Timer.lean --- `platform/linux/common/timer.c`.

  A timer holds the time at which it ends.  Both questions a caller can ask of it
  read the clock themselves, so here they are functions of what `gettimeofday`
  answered: nothing is assumed about how two answers relate.
-/

set_option autoImplicit false

namespace AwsIot.Linux

/-- `struct timeval`: a number of seconds and the microseconds beyond it. -/
structure TimeVal where
  /-- `tv_sec`. -/
  sec : Int
  /-- `tv_usec`. -/
  usec : Int
  /-- Microseconds are not negative. -/
  usec_nonneg : 0 ≤ usec
  /-- A second is never spelled in microseconds. -/
  usec_lt : usec < 1000000

/-- `timersub`. -/
def timersub (a b : TimeVal) : TimeVal :=
  if h : a.usec - b.usec < 0 then
    ⟨a.sec - b.sec - 1, a.usec - b.usec + 1000000,
      by have := a.usec_nonneg; have := b.usec_lt; omega, by omega⟩
  else
    ⟨a.sec - b.sec, a.usec - b.usec, by omega,
      by have := a.usec_lt; have := b.usec_nonneg; omega⟩

/-- `timeradd`. -/
def timeradd (a b : TimeVal) : TimeVal :=
  if h : a.usec + b.usec ≥ 1000000 then
    ⟨a.sec + b.sec + 1, a.usec + b.usec - 1000000, by omega,
      by have := a.usec_lt; have := b.usec_lt; omega⟩
  else
    ⟨a.sec + b.sec, a.usec + b.usec, by have := a.usec_nonneg; have := b.usec_nonneg; omega,
      by omega⟩

/-- The timer of `timer_platform.h`. -/
structure Timer where
  /-- When the timer ends. -/
  endTime : TimeVal

/-- `has_timer_expired` at the time `now`. -/
def Timer.hasExpired (timer : Timer) (now : TimeVal) : Bool :=
  let res := timersub timer.endTime now
  res.sec < 0 || (res.sec == 0 && res.usec ≤ 0)

/-- `left_ms` at the time `now`, a `uint32_t`. -/
def Timer.leftMs (timer : Timer) (now : TimeVal) : UInt32 :=
  let res := timersub timer.endTime now
  if res.sec ≥ 0 then UInt32.ofInt (res.sec * 1000 + res.usec / 1000) else 0

/-- The interval `countdown_ms` adds. -/
def msInterval (timeout : UInt32) : TimeVal :=
  ⟨(timeout / 1000).toNat, ((timeout % 1000) * 1000).toNat, Int.natCast_nonneg _, by
    have hlt : timeout.toNat % 1000 < 1000 := Nat.mod_lt _ (by decide)
    rw [UInt32.toNat_mul, UInt32.toNat_mod]
    exact Int.ofNat_lt.mpr (Nat.lt_of_le_of_lt (Nat.mod_le _ _)
      (Nat.mul_lt_mul_of_pos_right hlt (by decide)))⟩

/-- The interval `countdown_sec` adds. -/
def secInterval (timeout : UInt32) : TimeVal :=
  ⟨timeout.toNat, 0, Int.le_refl 0, by decide⟩

/-- `countdown_ms` at the time `now`. -/
def countdownMs (timeout : UInt32) (now : TimeVal) : Timer :=
  ⟨timeradd now (msInterval timeout)⟩

/-- `countdown_sec` at the time `now`. -/
def countdownSec (timeout : UInt32) (now : TimeVal) : Timer :=
  ⟨timeradd now (secInterval timeout)⟩

end AwsIot.Linux
