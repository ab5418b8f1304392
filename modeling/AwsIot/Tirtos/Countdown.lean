/-
  Tirtos/Countdown.lean --- what the TI-RTOS timer answers while it runs.

  The port turns the timeout into whole ticks, and what is left of them into whole
  milliseconds, so a timer can end before its time.  It measures by the difference of two
  32 bit counts: a timer that nobody asks while its ticks are over is running again after
  the counter has turned.
-/
import AwsIot.Platform.TimerInterface
import AwsIot.Tirtos.Timer

set_option autoImplicit false

namespace AwsIot.Tirtos

open AwsIot.Platform

/-- `Clock_getTicks` after `n` ticks. -/
def clockGetTicks (n : Nat) : UInt32 := UInt32.ofNat n

/-- The TI-RTOS port on a clock of `tickPeriod` microseconds; an instant is the number of
ticks since the clock was started. -/
abbrev timerPort (tickPeriod : UInt32) : TimerInterface where
  Timer := Timer
  Instant := Nat
  micros n := (n * tickPeriod.toNat : Nat)
  hasTimerExpired timer n := timer.hasExpired tickPeriod (clockGetTicks n)
  leftMs timer n := timer.leftMs tickPeriod (clockGetTicks n)
  countdownMs timeout n := countdownMs tickPeriod timeout (clockGetTicks n)
  countdownSec timeout n := countdownSec tickPeriod timeout (clockGetTicks n)

variable {tickPeriod : UInt32}

/-! ## Conversions -/

/-- Ticks are converted exactly, rounded down, as long as their microseconds fit 32 bits. -/
theorem toNat_ticksToMs {ticks : UInt32} (hfit : ticks.toNat * tickPeriod.toNat < 4294967296) :
    (ticksToMs tickPeriod ticks).toNat = ticks.toNat * tickPeriod.toNat / 1000 := by
  unfold ticksToMs
  split
  case isTrue hms =>
    rw [hms]
    exact (Nat.mul_div_cancel _ (by decide)).symm
  case isFalse hms =>
    rw [UInt32.toNat_div, UInt32.toNat_mul, Nat.mod_eq_of_lt hfit]
    rfl

/-- Milliseconds are converted exactly, rounded down, as long as their microseconds fit 32
bits. -/
theorem toNat_msToTicks {ms : UInt32} (hfit : ms.toNat * 1000 < 4294967296) :
    (msToTicks tickPeriod ms).toNat = ms.toNat * 1000 / tickPeriod.toNat := by
  unfold msToTicks
  split
  case isTrue hms =>
    rw [hms]
    exact (Nat.mul_div_cancel _ (by decide)).symm
  case isFalse hms =>
    rw [UInt32.toNat_div, UInt32.toNat_mul]
    exact congrArg (· / tickPeriod.toNat) (Nat.mod_eq_of_lt hfit)

/-- The ticks since a timer was started, in 32 bits. -/
theorem toNat_elapsed {n₀ n : Nat} (hle : n₀ ≤ n) :
    (clockGetTicks n - clockGetTicks n₀).toNat = (n - n₀) % 4294967296 := by
  rw [UInt32.toNat_sub]
  change (4294967296 - n₀ % 4294967296 + n % 4294967296) % 4294967296 = _
  omega

/-! ## Starting -/

/-- A countdown that is admitted fits 32 bits in microseconds, and runs for its whole ticks. -/
theorem started_eq {countdown : Countdown} {n₀ : Nat} {timer : Timer}
    (hstart : (timerPort tickPeriod).started countdown n₀ = some timer) :
    countdown.micros < 4294967296 ∧ timer.start = clockGetTicks n₀ ∧
      timer.length.toNat = countdown.micros / tickPeriod.toNat := by
  have hms : ∀ tms : UInt32, countdownMs tickPeriod tms (clockGetTicks n₀) = some timer →
      tms.toNat * 1000 < 4294967296 ∧ timer.start = clockGetTicks n₀ ∧
        timer.length.toNat = tms.toNat * 1000 / tickPeriod.toNat := by
    intro tms h
    unfold countdownMs at h
    split at h
    case isFalse => cases h
    case isTrue hlt =>
      have hbound : tms.toNat < 4000000 := hlt
      cases h
      have hfit : tms.toNat * 1000 < 4294967296 := by omega
      exact ⟨hfit, rfl, toNat_msToTicks hfit⟩
  cases countdown with
  | ms timeout => exact hms timeout hstart
  | sec timeout =>
    change countdownSec tickPeriod timeout (clockGetTicks n₀) = some timer at hstart
    unfold countdownSec at hstart
    split at hstart
    case isFalse => cases hstart
    case isTrue hlt =>
      have hbound : timeout.toNat < 4000 := hlt
      have hmul : (timeout * 1000).toNat = timeout.toNat * 1000 := by
        rw [UInt32.toNat_mul]
        exact Nat.mod_eq_of_lt (show timeout.toNat * 1000 < 4294967296 by omega)
      have hstarted := hms (timeout * 1000) hstart
      rw [hmul, Nat.mul_assoc] at hstarted
      exact hstarted

/-! ## One poll -/

/-- The answers of the two questions agree, so there is one answer to judge. -/
theorem right_iff {due : Int} {timer : Timer} {n : Nat} :
    (timerPort tickPeriod).Right due timer n ↔
      ((timer.leftMs tickPeriod (clockGetTicks n)).1 = 0 ↔
        due ≤ (n * tickPeriod.toNat : Nat)) := by
  have hexpired : (timer.hasExpired tickPeriod (clockGetTicks n)).1 = true ↔
      (timer.leftMs tickPeriod (clockGetTicks n)).1 = 0 := beq_iff_eq
  change ((timer.hasExpired tickPeriod (clockGetTicks n)).1 = true ↔ _) ∧
    (_ ↔ (timer.hasExpired tickPeriod (clockGetTicks n)).1 = true) ↔ _
  rw [hexpired]
  exact and_iff_left Iff.rfl

/-- Either question does the same to the timer. -/
theorem after_eq (poll : (timerPort tickPeriod).Poll) (timer : Timer) :
    poll.after timer = (timer.leftMs tickPeriod (clockGetTicks poll.now)).2 := by
  cases poll with
  | hasTimerExpired n => rfl
  | leftMs n => rfl

/-- The ticks from `n₀` to `n` as two 32 bit counts show them. -/
def shownTicks (n₀ n : Nat) : Nat := (n - n₀) % 4294967296

/-- A timer that runs `length` ticks from `n₀` on is said to be over when less than a
millisecond of them is left. -/
theorem leftMs_running {length : UInt32} {n₀ n : Nat}
    (hfit : length.toNat * tickPeriod.toNat < 4294967296) (hle : n₀ ≤ n) :
    ((⟨clockGetTicks n₀, length⟩ : Timer).leftMs tickPeriod (clockGetTicks n)).1 = 0 ↔
      (length.toNat - shownTicks n₀ n) * tickPeriod.toNat < 1000 := by
  have hdiff : (clockGetTicks n - clockGetTicks n₀).toNat = shownTicks n₀ n := toNat_elapsed hle
  unfold Timer.leftMs
  simp only [ge_iff_le, UInt32.le_iff_toNat_le, hdiff]
  split
  case isTrue hover =>
    rw [Nat.sub_eq_zero_of_le hover, Nat.zero_mul]
    exact iff_of_true rfl (by decide)
  case isFalse hover =>
    have hsub : (length - (clockGetTicks n - clockGetTicks n₀)).toNat =
        length.toNat - shownTicks n₀ n := by
      rw [UInt32.toNat_sub_of_le _ _ (UInt32.le_iff_toNat_le.mpr (by omega)), hdiff]
    have hleft : (length.toNat - shownTicks n₀ n) * tickPeriod.toNat < 4294967296 :=
      Nat.lt_of_le_of_lt (Nat.mul_le_mul_right _ (Nat.sub_le _ _)) hfit
    rw [← UInt32.toNat_inj, toNat_ticksToMs (by rw [hsub]; exact hleft), hsub]
    exact Nat.div_eq_zero_iff_lt (by decide)

/-- Such a timer loses its length when all its ticks are shown to be over. -/
theorem leftMs_running_timer (length : UInt32) {n₀ n : Nat} (hle : n₀ ≤ n) :
    ((⟨clockGetTicks n₀, length⟩ : Timer).leftMs tickPeriod (clockGetTicks n)).2 =
      if length.toNat ≤ shownTicks n₀ n then ⟨clockGetTicks n₀, 0⟩
      else ⟨clockGetTicks n₀, length⟩ := by
  have hdiff : (clockGetTicks n - clockGetTicks n₀).toNat = shownTicks n₀ n := toNat_elapsed hle
  unfold Timer.leftMs
  simp only [ge_iff_le, UInt32.le_iff_toNat_le, hdiff]
  split
  · rfl
  · rfl

/-- A timer without a length is over, and stays as it is. -/
theorem leftMs_of_length_zero (start ticks : UInt32) :
    (⟨start, 0⟩ : Timer).leftMs tickPeriod ticks = (0, ⟨start, 0⟩) := by
  have hover : ticks - start ≥ 0 := UInt32.le_iff_toNat_le.mpr (Nat.zero_le _)
  unfold Timer.leftMs
  exact if_pos hover

/-! ## Runs -/

/-- What the poll at `n` needs, after polls at the instants `before`, of a timer that was
started at `n₀`. -/
structure InTime (tickPeriod : UInt32) (countdown : Countdown) (n₀ : Nat) (before : List Nat)
    (n : Nat) : Prop where
  /-- Before the end a millisecond is left of the whole ticks. -/
  before_end : n * tickPeriod.toNat < n₀ * tickPeriod.toNat + countdown.micros →
    1000 ≤ (countdown.micros / tickPeriod.toNat - (n - n₀)) * tickPeriod.toNat
  /-- From the end on the counter shows it, or some earlier poll has seen it show the end. -/
  from_end : n₀ * tickPeriod.toNat + countdown.micros ≤ n * tickPeriod.toNat →
    (countdown.micros / tickPeriod.toNat - shownTicks n₀ n) * tickPeriod.toNat < 1000 ∨
      ∃ earlier ∈ before, countdown.micros / tickPeriod.toNat ≤ shownTicks n₀ earlier

/-- Every poll has what it needs. -/
def AllInTime (countdown : Countdown) (n₀ : Nat) :
    List Nat → List (timerPort tickPeriod).Poll → Prop
  | _, [] => True
  | before, poll :: polls =>
      InTime tickPeriod countdown n₀ before poll.now ∧
        AllInTime countdown n₀ (before ++ [poll.now]) polls

section
variable {countdown : Countdown} {n₀ : Nat} {length : UInt32}
  (hlength : length.toNat = countdown.micros / tickPeriod.toNat)
include hlength

/-- Once a poll has seen the end, the timer answers every poll rightly and for good. -/
theorem honest_iff_of_seen {before : List Nat}
    (hseen : ∃ earlier ∈ before, length.toNat ≤ shownTicks n₀ earlier)
    {polls : List (timerPort tickPeriod).Poll}
    (hlate : ∀ poll ∈ polls,
      n₀ * tickPeriod.toNat + countdown.micros ≤ poll.now * tickPeriod.toNat) :
    (timerPort tickPeriod).Honest ((n₀ * tickPeriod.toNat + countdown.micros : Nat) : Int)
      (⟨clockGetTicks n₀, 0⟩ : Timer) polls ↔ AllInTime countdown n₀ before polls := by
  induction polls generalizing before with
  | nil => exact Iff.rfl
  | cons poll polls ih =>
    have hpoll := hlate poll List.mem_cons_self
    have hright : (timerPort tickPeriod).Right
        ((n₀ * tickPeriod.toNat + countdown.micros : Nat) : Int)
        (⟨clockGetTicks n₀, 0⟩ : Timer) poll.now := by
      rw [right_iff, leftMs_of_length_zero]
      exact iff_of_true rfl (Int.ofNat_le.mpr hpoll)
    have hintime : InTime tickPeriod countdown n₀ before poll.now :=
      ⟨fun hearly => absurd hpoll (Nat.not_le_of_lt hearly),
        fun _ => Or.inr (by rw [← hlength]; exact hseen)⟩
    obtain ⟨earlier, hmem, hover⟩ := hseen
    have hseen' : ∃ earlier ∈ before ++ [poll.now], length.toNat ≤ shownTicks n₀ earlier :=
      ⟨earlier, List.mem_append_left _ hmem, hover⟩
    have hrest := ih hseen' fun p hp => hlate p (List.mem_cons_of_mem _ hp)
    rw [TimerInterface.Honest, AllInTime, after_eq, leftMs_of_length_zero, hrest]
    exact and_congr (iff_of_true hright hintime) Iff.rfl

/-- While no poll has seen the end, an answer is right if and only if the poll has what it
needs. -/
theorem right_iff_inTime (hpos : 0 < tickPeriod.toNat) (hfit : countdown.micros < 4294967296)
    {before : List Nat} (hunseen : ∀ earlier ∈ before, shownTicks n₀ earlier < length.toNat)
    {n : Nat} (hle : n₀ ≤ n) :
    (timerPort tickPeriod).Right ((n₀ * tickPeriod.toNat + countdown.micros : Nat) : Int)
      (⟨clockGetTicks n₀, length⟩ : Timer) n ↔ InTime tickPeriod countdown n₀ before n := by
  have hmul : length.toNat * tickPeriod.toNat ≤ countdown.micros := by
    rw [hlength]
    exact Nat.div_mul_le_self _ _
  have hunits : (n - n₀) * tickPeriod.toNat = n * tickPeriod.toNat - n₀ * tickPeriod.toNat :=
    Nat.sub_mul _ _ _
  have hticks : n - n₀ ≤ (n - n₀) * tickPeriod.toNat := Nat.le_mul_of_pos_right _ hpos
  have hnever : ¬ ∃ earlier ∈ before, length.toNat ≤ shownTicks n₀ earlier := by
    rintro ⟨earlier, hmem, hover⟩
    have := hunseen earlier hmem
    omega
  rw [right_iff, leftMs_running (by omega) hle, Int.ofNat_le]
  constructor
  · intro hanswer
    refine ⟨fun hearly => ?_, fun hlate => Or.inl (hlength ▸ hanswer.mpr hlate)⟩
    have hshown : shownTicks n₀ n = n - n₀ := Nat.mod_eq_of_lt (by omega)
    rw [← hlength, ← hshown]
    exact Nat.le_of_not_lt fun hless => Nat.not_le_of_lt hearly (hanswer.mp hless)
  · intro hintime
    constructor
    · intro hless
      by_contra hearly
      have hshown : shownTicks n₀ n = n - n₀ := Nat.mod_eq_of_lt (by omega)
      have hms := hintime.before_end (by omega)
      rw [← hlength, ← hshown] at hms
      omega
    · intro hlate
      refine (hintime.from_end hlate).elim (fun hless => hlength ▸ hless) fun hseen => ?_
      exact absurd (hlength ▸ hseen) hnever

/-- While no poll has seen the end, a run is honest exactly if every poll has what it needs. -/
theorem honest_iff_of_unseen (hpos : 0 < tickPeriod.toNat)
    (hfit : countdown.micros < 4294967296) {before : List Nat}
    (hunseen : ∀ earlier ∈ before, shownTicks n₀ earlier < length.toNat)
    {polls : List (timerPort tickPeriod).Poll}
    (hclock : (timerPort tickPeriod).NeverBackwards n₀ polls) :
    (timerPort tickPeriod).Honest ((n₀ * tickPeriod.toNat + countdown.micros : Nat) : Int)
      (⟨clockGetTicks n₀, length⟩ : Timer) polls ↔ AllInTime countdown n₀ before polls := by
  induction polls generalizing before with
  | nil => exact Iff.rfl
  | cons poll polls ih =>
    have hticks : ∀ p ∈ poll :: polls, n₀ * tickPeriod.toNat ≤ p.now * tickPeriod.toNat :=
      fun p hp => Int.ofNat_le.mp ((List.pairwise_cons.mp hclock).1 _ (List.mem_map_of_mem hp))
    have hrest := (List.pairwise_cons.mp hclock).2
    have hle : n₀ ≤ poll.now := Nat.le_of_mul_le_mul_right (hticks poll List.mem_cons_self) hpos
    rw [TimerInterface.Honest, AllInTime, right_iff_inTime hlength hpos hfit hunseen hle,
      after_eq, leftMs_running_timer length hle]
    refine and_congr_right fun hintime => ?_
    split
    case isTrue hover =>
      have hend : n₀ * tickPeriod.toNat + countdown.micros ≤ poll.now * tickPeriod.toNat := by
        by_contra hearly
        have hms := hintime.before_end (Nat.lt_of_not_le hearly)
        have hshown : shownTicks n₀ poll.now ≤ poll.now - n₀ := Nat.mod_le _ _
        rw [← hlength, Nat.sub_eq_zero_of_le (Nat.le_trans hover hshown), Nat.zero_mul] at hms
        exact absurd hms (by decide)
      refine honest_iff_of_seen hlength ⟨poll.now, by simp, hover⟩ fun p hp => ?_
      exact Nat.le_trans hend (Int.ofNat_le.mp
        ((List.pairwise_cons.mp hrest).1 _ (List.mem_map_of_mem hp)))
    case isFalse hover =>
      refine ih ?_ ?_
      · intro earlier hmem
        rcases List.mem_append.mp hmem with hbefore | hpoll
        · exact hunseen earlier hbefore
        · rw [List.mem_singleton.mp hpoll]
          exact Nat.lt_of_not_le hover
      · exact List.pairwise_cons.mpr ⟨fun t ht => (List.pairwise_cons.mp hclock).1 t
          (List.mem_cons_of_mem _ ht), (List.pairwise_cons.mp hrest).2⟩

end

/-- The TI-RTOS timer is honest in a run exactly if every poll has what it needs. -/
theorem honest_iff_allInTime (hpos : 0 < tickPeriod.toNat) {countdown : Countdown} {n₀ : Nat}
    {timer : Timer} (hstart : (timerPort tickPeriod).started countdown n₀ = some timer)
    {polls : List (timerPort tickPeriod).Poll}
    (hclock : (timerPort tickPeriod).NeverBackwards n₀ polls) :
    (timerPort tickPeriod).Honest ((n₀ * tickPeriod.toNat + countdown.micros : Nat) : Int) timer
      polls ↔ AllInTime countdown n₀ [] polls := by
  obtain ⟨start, length⟩ := timer
  obtain ⟨hfit, rfl, hlength⟩ := started_eq hstart
  exact honest_iff_of_unseen hlength hpos hfit (fun _ h => absurd h List.not_mem_nil) hclock

end AwsIot.Tirtos
