/-
  Linux/TlsWrite.lean --- what `iot_tls_write` reports.

  The for loop adds `ret` to `written_so_far` after every pass, also after one whose
  while loop was left because the timer had expired.  Then `ret` is what the last
  call returned, a would-block code or the bytes of the pass before, or nothing at
  all before the first call.  `Miscounts` says when a pass ends so, in terms of what
  the clock and mbedTLS answer; the count is right exactly if none does.
-/
import AwsIot.Linux.TlsWrapper

set_option autoImplicit false

namespace AwsIot.Linux

open AwsIot.Foundation AwsIot.Foundation.Program
open AwsIot.Mqtt (IoTError)

/-! ## Questions and answers -/

/-- `has_timer_expired` as question number `t`. -/
def TlsEnv.expired (env : TlsEnv) (timer : Timer) (t : Nat) : Bool :=
  timer.hasExpired (env.now t)

/-- `mbedtls_ssl_write` of `len` bytes as question number `t`. -/
def TlsEnv.written (env : TlsEnv) (len t : Nat) : Int := min (env.sslWrite t).toInt len

/-- The world after a question to the clock. -/
def TlsWorld.tick (w : TlsWorld) : TlsWorld := { w with time := w.time + 1 }

@[simp] theorem TlsWorld.time_tick (w : TlsWorld) : w.tick.time = w.time + 1 := rfl

/-- The world after `mbedtls_ssl_write` returned `ret` for the bytes from offset `off` on. -/
def TlsWorld.wrote (w : TlsWorld) (off : Nat) (ret : Int) : TlsWorld :=
  { w with time := w.time + 1, accepted := w.accepted ++ w.msg.slice off ret.toNat }

@[simp] theorem TlsWorld.time_wrote (w : TlsWorld) (off : Nat) (ret : Int) :
    (w.wrote off ret).time = w.time + 1 := rfl

section Ends

variable {env : TlsEnv} {timer : Timer} {w : TlsWorld} {H : TlsWorld → Prop}

@[simp] theorem ends_hasTimerExpired {Q : Bool → TlsWorld → Prop} :
    (hasTimerExpired env timer).Ends w Q H ↔ Q (env.expired timer w.time) w.tick := Iff.rfl

@[simp] theorem ends_mbedtlsSslWrite {off len : Nat} {Q : Int → TlsWorld → Prop} :
    (mbedtlsSslWrite env off len).Ends w Q H ↔
      Q (env.written len w.time) (w.wrote off (env.written len w.time)) := Iff.rfl

end Ends

theorem TlsEnv.written_le (env : TlsEnv) (len t : Nat) : env.written len t ≤ len :=
  Int.min_le_right _ _

/-- What an `int` can hold. -/
def IsInt (n : Int) : Prop := -2 ^ 31 ≤ n ∧ n < 2 ^ 31

theorem isInt_toInt (n : Int32) : IsInt n.toInt := ⟨n.le_toInt, n.toInt_lt⟩

theorem TlsEnv.isInt_written (env : TlsEnv) (len t : Nat) : IsInt (env.written len t) := by
  obtain ⟨hge, hlt⟩ := isInt_toInt (env.sslWrite t)
  unfold IsInt TlsEnv.written
  omega

/-- The codes after which the while loop asks again. -/
def WouldBlock (ret : Int) : Prop :=
  ret = mbedtlsErrSslWantRead ∨ ret = mbedtlsErrSslWantWrite

theorem WouldBlock.neg {ret : Int} (h : WouldBlock ret) : ret < 0 := by
  rcases h with rfl | rfl <;> decide

theorem addToSize_of_nonneg {n : Nat} {ret : Int} (h : 0 ≤ ret) (hlt : n + ret.toNat < 2 ^ 64) :
    addToSize n ret = n + ret.toNat := by
  unfold addToSize
  omega

theorem addToSize_ne {n : Nat} {ret : Int} (hret : IsInt ret) (hne : ret ≠ 0) :
    addToSize n ret ≠ n := by
  obtain ⟨hge, hlt⟩ := hret
  unfold addToSize
  omega

/-! ## When the count goes wrong -/

/-- Where `iot_tls_write` asks whether the timer has expired. -/
inductive WriteTest where
  /-- The condition of the for loop. -/
  | pass
  /-- The condition of the while loop. -/
  | retry

/-- At question `t`, a test of the timer, `soFar < len` bytes are accepted and counted and `ret`
is the last value returned.  From there on the count goes wrong. -/
inductive Miscounts (env : TlsEnv) (timer : Timer) (len : Nat) :
    WriteTest → Nat → Int → Nat → Prop where
  /-- The for loop ends because the timer has expired, and it has not at the last test. -/
  | revived {soFar : Nat} {ret : Int} {t : Nat} : env.expired timer t = true →
      env.expired timer (t + 1) = false → Miscounts env timer len .pass soFar ret t
  /-- A pass begins that goes wrong. -/
  | begun {soFar : Nat} {ret : Int} {t : Nat} : env.expired timer t = false →
      Miscounts env timer len .retry soFar ret (t + 1) → Miscounts env timer len .pass soFar ret t
  /-- The while loop ends because the timer has expired, and `ret` is added. -/
  | stale {soFar : Nat} {ret : Int} {t : Nat} : env.expired timer t = true → ret ≠ 0 →
      Miscounts env timer len .retry soFar ret t
  /-- A `ret` that was never assigned adds nothing if it happens to be zero. -/
  | unassigned {soFar t : Nat} : env.expired timer t = true →
      Miscounts env timer len .pass soFar 0 (t + 1) → Miscounts env timer len .retry soFar 0 t
  /-- A call would block, and the while loop asks again. -/
  | blocked {soFar : Nat} {ret : Int} {t : Nat} : env.expired timer t = false →
      WouldBlock (env.written (len - soFar) (t + 1)) →
      Miscounts env timer len .retry soFar (env.written (len - soFar) (t + 1)) (t + 2) →
      Miscounts env timer len .retry soFar ret t
  /-- A call takes some of the rest, and another pass follows. -/
  | taken {soFar k : Nat} {ret : Int} {t : Nat} : env.expired timer t = false →
      env.written (len - soFar) (t + 1) = k → 0 < k → soFar + k < len →
      Miscounts env timer len .pass (soFar + k) k (t + 2) →
      Miscounts env timer len .retry soFar ret t

/-- However the contents of the message, the reported length is that of what mbedTLS accepted, a
prefix of the message, and the code says whether that is all of it. -/
def WritesExactly (env : TlsEnv) (timer : Timer) (pMsg : MsgArray) (t : Nat) : Prop :=
  ∀ fuel w w' rc writtenLen, w.time = t →
    (iotTlsWrite env fuel timer pMsg.len).run w = .done (rc, writtenLen) w' →
      ∃ new, w'.accepted = w.accepted ++ new ∧ writtenLen = new.length ∧
        new <+: w.msg.slice 0 pMsg.len ∧ writtenLen ≤ pMsg.len ∧
        (rc = .success ↔ writtenLen = pMsg.len)

/-! ## A right count -/

/-- The first `soFar` bytes of the message were accepted since `start`. -/
structure Counted (start : TlsWorld) (soFar : Nat) (w : TlsWorld) : Prop where
  /-- Writing does not change the message. -/
  msg : w.msg = start.msg
  /-- What was accepted. -/
  accepted : w.accepted = start.accepted ++ start.msg.slice 0 soFar

section Counting

variable {env : TlsEnv} {timer : Timer} {len : Nat} {start : TlsWorld}

theorem counted_start (start : TlsWorld) : Counted start 0 start := ⟨rfl, by simp⟩

theorem Counted.tick {soFar : Nat} {w : TlsWorld} (h : Counted start soFar w) :
    Counted start soFar w.tick := ⟨h.msg, h.accepted⟩

theorem Counted.wrote {soFar : Nat} {ret : Int} {w : TlsWorld} (h : Counted start soFar w) :
    Counted start (soFar + ret.toNat) (w.wrote soFar ret) := by
  refine ⟨h.msg, ?_⟩
  show w.accepted ++ w.msg.slice soFar ret.toNat = _
  rw [h.accepted, h.msg, List.append_assoc, Memory.slice_add, Nat.zero_add]

theorem Counted.wroteNothing {soFar : Nat} {ret : Int} {w : TlsWorld} (h : Counted start soFar w)
    (hret : ret ≤ 0) : Counted start soFar (w.wrote soFar ret) := by
  have hzero : ret.toNat = 0 := Int.toNat_of_nonpos hret
  have hwrote : Counted start (soFar + ret.toNat) (w.wrote soFar ret) := h.wrote
  simpa [hzero] using hwrote

/-- What the while loop leaves for the for loop to add. -/
structure Retried (env : TlsEnv) (timer : Timer) (len : Nat) (start : TlsWorld) (soFar : Nat)
    (ret : Int) (w : TlsWorld) : Prop where
  /-- It is no error code. -/
  nonneg : 0 ≤ ret
  /-- It is no more than the rest of the message. -/
  le : soFar + ret.toNat ≤ len
  /-- It was accepted. -/
  counted : Counted start (soFar + ret.toNat) w
  /-- Nothing goes wrong after it. -/
  goesOn : soFar + ret.toNat < len →
    ¬ Miscounts env timer len .pass (soFar + ret.toNat) ret w.time

/-- The end of a while loop, with an error or with something to add. -/
def RetryEnd (env : TlsEnv) (timer : Timer) (len : Nat) (start : TlsWorld) (soFar : Nat) :
    Int × Bool → TlsWorld → Prop
  | (_, true), w => Counted start soFar w
  | (ret, false), w => Retried env timer len start soFar ret w

/-- A test of the while loop from which nothing goes wrong. -/
theorem writeRetry_retried {soFar : Nat} (hlt : soFar < len) {ret : Int} {w : TlsWorld}
    (h : Counted start soFar w ∧ ¬ Miscounts env timer len .retry soFar ret w.time) :
    (writeRetry env timer len soFar ret).Ends w
      (fun r w' => match r with
        | .again ret' => Counted start soFar w' ∧
            ¬ Miscounts env timer len .retry soFar ret' w'.time
        | .stop r => RetryEnd env timer len start soFar r w')
      (fun _ => True) := by
  obtain ⟨hcounted, hnot⟩ := h
  unfold writeRetry
  simp only [ends_bind, ends_hasTimerExpired, ends_ite, ends_pure, ends_mbedtlsSslWrite]
  split
  case isTrue hexpired =>
    obtain rfl : ret = 0 := Decidable.byContradiction fun hne => hnot (.stale hexpired hne)
    exact ⟨Int.le_refl 0, Nat.le_of_lt hlt, hcounted.tick,
      fun _ hmis => hnot (.unassigned hexpired hmis)⟩
  case isFalse hrunning =>
    have hrunning : env.expired timer w.time = false := by simpa using hrunning
    have hle := env.written_le (len - soFar) w.tick.time
    generalize hret : env.written (len - soFar) w.tick.time = ret' at hle ⊢
    rw [TlsWorld.time_tick] at hret
    by_cases hpos : ret' ≤ 0
    · rw [if_neg (not_not_intro hpos)]
      split
      case isTrue => exact hcounted.tick.wroteNothing hpos
      case isFalse hblock =>
        refine ⟨hcounted.tick.wroteNothing hpos, fun hmis => hnot (.blocked hrunning ?_ ?_)⟩
        · rw [hret]
          exact (Decidable.or_iff_not_not_and_not).mpr hblock
        · rw [hret]
          exact hmis
    · rw [if_pos hpos]
      refine ⟨by omega, by omega, hcounted.tick.wrote, fun hmore hmis => ?_⟩
      obtain ⟨k, rfl⟩ := Int.eq_ofNat_of_zero_le (show 0 ≤ ret' by omega)
      exact hnot (.taken hrunning hret (by omega) hmore hmis)

theorem writeRetryLoop_retried {soFar : Nat} (hlt : soFar < len) {ret : Int} {w : TlsWorld}
    (hcounted : Counted start soFar w) (hnot : ¬ Miscounts env timer len .retry soFar ret w.time)
    (fuel : Nat) :
    (loop (writeRetry env timer len soFar) fuel ret).Ends w
      (RetryEnd env timer len start soFar) (fun _ => True) := by
  refine ends_loop (I := fun ret w => Counted start soFar w ∧
    ¬ Miscounts env timer len .retry soFar ret w.time) ?_ (fun _ _ _ => trivial) fuel ret w
    ⟨hcounted, hnot⟩
  intro ret w hI
  refine (writeRetry_retried hlt hI).mono ?_ (fun _ h => h)
  intro r w' hr
  cases r with
  | again ret' => exact hr
  | stop r => exact hr

/-- What the for loop leaves for the last test. -/
structure Ended (env : TlsEnv) (timer : Timer) (len : Nat) (start : TlsWorld) (writtenSoFar : Nat)
    (isErrorFlag : Bool) (w : TlsWorld) : Prop where
  counted : Counted start writtenSoFar w
  le : writtenSoFar ≤ len
  /-- An error is found before the end. -/
  failed : isErrorFlag = true → writtenSoFar < len
  /-- Without one the loop ends early for the timer only. -/
  expired : isErrorFlag = false → writtenSoFar < len → env.expired timer w.time = true

/-- Passes that do not go wrong. -/
theorem writeLoop_ended (hlen : len < 2 ^ 63) {w : TlsWorld} {ret : Int}
    (hw : Counted start 0 w) (hnot : 0 < len → ¬ Miscounts env timer len .pass 0 ret w.time)
    (fuel : Nat) :
    (loop (writePass env fuel timer len) fuel (0, ret)).Ends w
      (fun r w' => Ended env timer len start r.1 r.2 w') (fun _ => True) := by
  refine ends_loop (I := fun v w => Counted start v.1 w ∧ v.1 ≤ len ∧
    (v.1 < len → ¬ Miscounts env timer len .pass v.1 v.2 w.time)) ?_ (fun _ _ _ => trivial)
    fuel (0, ret) w ⟨hw, Nat.zero_le _, hnot⟩
  rintro ⟨soFar, ret⟩ w ⟨hcounted, hle, hnot⟩
  unfold writePass
  simp only [ends_bind, ends_hasTimerExpired, ends_ite, ends_pure]
  split
  case isTrue hfull => exact ⟨hcounted, hle, by simp, fun _ hlt => absurd hlt hfull⟩
  case isFalse hlt =>
    have hlt : soFar < len := Decidable.not_not.mp hlt
    have hnot := hnot hlt
    split
    case isTrue hexpired =>
      refine ⟨hcounted.tick, hle, by simp, fun _ _ => ?_⟩
      exact Decidable.byContradiction fun hnow => hnot (.revived hexpired (by simpa using hnow))
    case isFalse hrunning =>
      have hrunning : env.expired timer w.time = false := by simpa using hrunning
      refine (writeRetryLoop_retried hlt hcounted.tick
        (fun hmis => hnot (.begun hrunning hmis)) fuel).mono ?_ (fun _ h => h)
      rintro ⟨ret', isErrorFlag⟩ w' hr
      cases isErrorFlag with
      | true => exact ⟨hr, hle, fun _ => hlt, by simp⟩
      | false =>
        have hr : Retried env timer len start soFar ret' w' := hr
        have hadd : addToSize soFar ret' = soFar + ret'.toNat :=
          addToSize_of_nonneg hr.nonneg (Nat.lt_of_le_of_lt hr.le (by omega))
        show Counted start (addToSize soFar ret') w' ∧ addToSize soFar ret' ≤ len ∧ _
        rw [hadd]
        exact ⟨hr.counted, hr.le, hr.goesOn⟩

end Counting

/-- Without a pass that goes wrong, what is reported is what was accepted. -/
theorem writesExactly_of_not_miscounts {env : TlsEnv} {timer : Timer} {pMsg : MsgArray} {t : Nat}
    (hnot : ¬ Miscounts env timer pMsg.len .pass 0 env.indeterminate.toInt t) :
    WritesExactly env timer pMsg t := by
  rintro fuel w w' rc writtenLen rfl hrun
  suffices h : (iotTlsWrite env fuel timer pMsg.len).Ends w
      (fun r w' => Counted w r.2 w' ∧ r.2 ≤ pMsg.len ∧ (r.1 = .success ↔ r.2 = pMsg.len))
      (fun _ => True) by
    obtain ⟨hcounted, hle, hcode⟩ := h.of_run hrun
    refine ⟨_, hcounted.accepted, Memory.length_slice.symm, ?_, hle, hcode⟩
    exact Memory.take_slice hle ▸ List.take_prefix _ _
  unfold iotTlsWrite
  simp only [ends_bind, ends_hasTimerExpired, ends_ite, ends_pure]
  refine (writeLoop_ended pMsg.lt (counted_start w) (fun _ => hnot) fuel).mono ?_
    (fun _ h => h)
  rintro ⟨writtenSoFar, isErrorFlag⟩ w' ⟨hcounted, hle, hfailed, hexpired⟩
  cases isErrorFlag with
  | true => exact ⟨hcounted, hle, iff_of_false (by simp) (Nat.ne_of_lt (hfailed rfl))⟩
  | false =>
    rw [if_neg (by simp)]
    by_cases hall : writtenSoFar = pMsg.len
    · rw [if_neg (fun h => h.2 hall)]
      exact ⟨hcounted.tick, hle, by simp [hall]⟩
    · rw [if_pos ⟨hexpired rfl (by omega), hall⟩]
      exact ⟨hcounted.tick, hle, iff_of_false (by simp) hall⟩

/-! ## A wrong count -/

section Miscounting

variable {env : TlsEnv} {timer : Timer} {len : Nat} {start : TlsWorld}

/-- The for loop has ended with a count that is wrong, or with one short of the message for a timer
that is not found expired any more. -/
def EndsWrong (env : TlsEnv) (timer : Timer) (len : Nat) (start : TlsWorld) (r : Nat × Bool)
    (w : TlsWorld) : Prop :=
  ∃ soFar, Counted start soFar w ∧
    (r.1 ≠ soFar ∨ r.1 < len ∧ r.2 = false ∧ env.expired timer w.time = false)

/-- What a run goes on to do from a test of the timer, with enough fuel for every loop. -/
def GoesWrong (env : TlsEnv) (timer : Timer) (len : Nat) (start : TlsWorld) (soFar : Nat)
    (ret : Int) (w : TlsWorld) : WriteTest → Prop
  | .pass => ∃ n, ∀ inner ≥ n, ∀ fuel ≥ n,
      (loop (writePass env inner timer len) fuel (soFar, ret)).Ends w
        (EndsWrong env timer len start) (fun _ => False)
  | .retry => ∃ n, ∀ left ≥ n, ∀ inner ≥ n, ∀ fuel ≥ n,
      (loop (writeRetry env timer len soFar) left ret).Ends w
        (fun r w' => r.2 = false ∧
          (loop (writePass env inner timer len) fuel (addToSize soFar r.1, r.1)).Ends w'
            (EndsWrong env timer len start) (fun _ => False))
        (fun _ => False)

/-! ### Single passes -/

section Passes

variable {soFar : Nat} {ret : Int} {w : TlsWorld}

theorem writeRetry_expired (h : env.expired timer w.time = true) :
    (writeRetry env timer len soFar ret).run w = .done (.stop (ret, false)) w.tick := by
  rw [run_eq_done_iff, writeRetry, ends_bind, ends_hasTimerExpired, ends_ite, if_pos h]
  exact ⟨rfl, rfl⟩

theorem writeRetry_taken (h : env.expired timer w.time = false) {ret' : Int} (hpos : 0 < ret')
    (hret : env.written (len - soFar) (w.time + 1) = ret') :
    (writeRetry env timer len soFar ret).run w =
      .done (.stop (ret', false)) (w.tick.wrote soFar ret') := by
  rw [run_eq_done_iff, writeRetry, ends_bind, ends_hasTimerExpired, ends_ite, if_neg (by simp [h]),
    ends_bind, ends_mbedtlsSslWrite, TlsWorld.time_tick, hret, ends_ite, if_pos (by omega)]
  exact ⟨rfl, rfl⟩

theorem writeRetry_blocked (h : env.expired timer w.time = false) {ret' : Int}
    (hblock : WouldBlock ret') (hret : env.written (len - soFar) (w.time + 1) = ret') :
    (writeRetry env timer len soFar ret).run w = .done (.again ret') (w.tick.wrote soFar ret') := by
  have hneg := hblock.neg
  have hnot : ¬ (ret' ≠ mbedtlsErrSslWantRead ∧ ret' ≠ mbedtlsErrSslWantWrite) :=
    (Decidable.or_iff_not_not_and_not).mp hblock
  rw [run_eq_done_iff, writeRetry, ends_bind, ends_hasTimerExpired, ends_ite, if_neg (by simp [h]),
    ends_bind, ends_mbedtlsSslWrite, TlsWorld.time_tick, hret, ends_ite, if_neg (by omega),
    ends_ite, if_neg hnot]
  exact ⟨rfl, rfl⟩

theorem writePass_full {fuel : Nat} (h : ¬ soFar < len) :
    (writePass env fuel timer len (soFar, ret)).run w = .done (.stop (soFar, false)) w := by
  rw [run_eq_done_iff, writePass, ends_ite, if_pos h]
  exact ⟨rfl, rfl⟩

theorem writePass_expired {fuel : Nat} (hlt : soFar < len)
    (h : env.expired timer w.time = true) :
    (writePass env fuel timer len (soFar, ret)).run w = .done (.stop (soFar, false)) w.tick := by
  rw [run_eq_done_iff, writePass, ends_ite, if_neg (not_not_intro hlt), ends_bind,
    ends_hasTimerExpired, ends_ite, if_pos h]
  exact ⟨rfl, rfl⟩

theorem ends_writePass_begun {fuel : Nat} {Q : Step (Nat × Int) (Nat × Bool) → TlsWorld → Prop}
    {H : TlsWorld → Prop} (hlt : soFar < len) (h : env.expired timer w.time = false) :
    (writePass env fuel timer len (soFar, ret)).Ends w Q H ↔
      (loop (writeRetry env timer len soFar) fuel ret).Ends w.tick
        (fun r w' => if r.2 = true then Q (.stop (soFar, true)) w'
          else Q (.again (addToSize soFar r.1, r.1)) w') H := by
  rw [writePass, ends_ite, if_neg (not_not_intro hlt), ends_bind, ends_hasTimerExpired, ends_ite,
    if_neg (by simp [h]), ends_bind]
  simp only [ends_ite, ends_pure]

end Passes

/-- Once a timer that stays expired has been found so, the for loop only ends. -/
theorem writeLoop_expired {w : TlsWorld} (hexpired : env.expired timer w.time = true)
    (inner fuel writtenSoFar : Nat) (ret : Int) :
    (loop (writePass env inner timer len) (fuel + 1) (writtenSoFar, ret)).Ends w
      (fun r w' => r = (writtenSoFar, false) ∧ (w' = w ∨ w' = w.tick)) (fun _ => False) := by
  by_cases hlt : writtenSoFar < len
  · rw [ends_loop_stop (writePass_expired hlt hexpired)]
    exact ⟨rfl, .inr rfl⟩
  · rw [ends_loop_stop (writePass_full hlt)]
    exact ⟨rfl, .inl rfl⟩

/-- With a clock that never runs backwards, a count that goes wrong stays wrong. -/
theorem goesWrong_of_miscounts (hlen : len < 2 ^ 63)
    (hclock : ∀ t, env.expired timer t = true → env.expired timer (t + 1) = true)
    {test : WriteTest} {soFar : Nat} {ret : Int} {t : Nat}
    (h : Miscounts env timer len test soFar ret t) :
    ∀ w, w.time = t → Counted start soFar w → soFar < len → IsInt ret →
      GoesWrong env timer len start soFar ret w test := by
  induction h with
  | revived hexpired hnow =>
    rw [hclock _ hexpired] at hnow
    cases hnow
  | @begun soFar ret t hrunning _ ih =>
    rintro w rfl hcounted hlt hret
    obtain ⟨n, hn⟩ := ih w.tick rfl hcounted.tick hlt hret
    refine ⟨n + 1, fun inner hinner fuel hfuel => ?_⟩
    obtain ⟨fuel, rfl⟩ := Nat.exists_eq_add_of_le' (Nat.le_of_add_left_le hfuel)
    refine ends_bind.mpr ((ends_writePass_begun hlt hrunning).mpr ?_)
    refine (hn inner (by omega) inner (by omega) fuel (by omega)).mono ?_ (fun _ h => h)
    rintro ⟨ret', isErrorFlag⟩ w' ⟨rfl, hrest⟩
    exact hrest
  | @stale soFar ret t hexpired hne =>
    rintro w rfl hcounted hlt hret
    have hafter : env.expired timer w.tick.time = true := hclock _ hexpired
    refine ⟨1, fun left hleft inner hinner fuel hfuel => ?_⟩
    obtain ⟨left, rfl⟩ := Nat.exists_eq_add_of_le' hleft
    obtain ⟨fuel, rfl⟩ := Nat.exists_eq_add_of_le' hfuel
    rw [ends_loop_stop (writeRetry_expired hexpired)]
    refine ⟨rfl, (writeLoop_expired hafter inner fuel _ ret).mono ?_ (fun _ h => h)⟩
    rintro r w' ⟨rfl, hw'⟩
    have hwrong := addToSize_ne (n := soFar) hret hne
    rcases hw' with rfl | rfl
    · exact ⟨soFar, hcounted.tick, .inl hwrong⟩
    · exact ⟨soFar, hcounted.tick.tick, .inl hwrong⟩
  | @unassigned soFar t hexpired _ ih =>
    rintro w rfl hcounted hlt hret
    have hadd : addToSize soFar 0 = soFar :=
      addToSize_of_nonneg (Int.le_refl 0) (Nat.lt_trans hlt (by omega))
    obtain ⟨n, hn⟩ := ih w.tick rfl hcounted.tick hlt hret
    refine ⟨n + 1, fun left hleft inner hinner fuel hfuel => ?_⟩
    obtain ⟨left, rfl⟩ := Nat.exists_eq_add_of_le' (Nat.le_of_add_left_le hleft)
    rw [ends_loop_stop (writeRetry_expired hexpired)]
    refine ⟨rfl, ?_⟩
    rw [hadd]
    exact hn inner (by omega) fuel (by omega)
  | @blocked soFar ret t hrunning hblock _ ih =>
    rintro w rfl hcounted hlt hret
    obtain ⟨n, hn⟩ := ih _ rfl (hcounted.tick.wroteNothing (Int.le_of_lt hblock.neg)) hlt
      (env.isInt_written _ _)
    refine ⟨n + 1, fun left hleft inner hinner fuel hfuel => ?_⟩
    obtain ⟨left, rfl⟩ := Nat.exists_eq_add_of_le' (Nat.le_of_add_left_le hleft)
    rw [ends_loop_again (writeRetry_blocked hrunning hblock rfl)]
    exact hn left (by omega) inner (by omega) fuel (by omega)
  | @taken soFar k ret t hrunning hk hpos hmore _ ih =>
    rintro w rfl hcounted hlt hret
    have hadd : addToSize soFar k = soFar + k :=
      addToSize_of_nonneg (by omega) (Nat.lt_trans hmore (by omega))
    have hwrote : Counted start (soFar + (k : Int).toNat) (w.tick.wrote soFar k) :=
      hcounted.tick.wrote
    obtain ⟨n, hn⟩ := ih (w.tick.wrote soFar k) rfl hwrote hmore (hk ▸ env.isInt_written _ _)
    refine ⟨n + 1, fun left hleft inner hinner fuel hfuel => ?_⟩
    obtain ⟨left, rfl⟩ := Nat.exists_eq_add_of_le' (Nat.le_of_add_left_le hleft)
    rw [ends_loop_stop (writeRetry_taken hrunning (by omega) hk)]
    refine ⟨rfl, ?_⟩
    rw [hadd]
    exact hn inner (by omega) fuel (by omega)

/-- A wrong count is reported. -/
theorem not_writesExactly_of_miscounts {pMsg : MsgArray} {t : Nat}
    (hclock : ∀ t, env.expired timer t = true → env.expired timer (t + 1) = true)
    (h : Miscounts env timer pMsg.len .pass 0 env.indeterminate.toInt t) :
    ¬ WritesExactly env timer pMsg t := by
  intro hexact
  let w : TlsWorld := ⟨t, fun _ => 0, [], fun _ => 0, 0⟩
  obtain ⟨n, hn⟩ := goesWrong_of_miscounts pMsg.lt hclock h w rfl (counted_start w)
    (Nat.lt_of_lt_of_le Nat.one_pos pMsg.pos) (isInt_toInt _)
  have hends : (iotTlsWrite env n timer pMsg.len).Ends w
      (fun r w' => ∃ soFar, Counted w soFar w' ∧
        (r.2 ≠ soFar ∨ r.1 = .success ∧ r.2 < pMsg.len)) (fun _ => False) := by
    unfold iotTlsWrite
    simp only [ends_bind, ends_hasTimerExpired, ends_ite, ends_pure]
    refine (hn n (Nat.le_refl n) n (Nat.le_refl n)).mono ?_ (fun _ h => h)
    rintro ⟨writtenSoFar, isErrorFlag⟩ w' ⟨soFar, hcounted, hwrong⟩
    rcases hwrong with hne | ⟨hlt, rfl, hnow⟩
    · split
      · exact ⟨soFar, hcounted, .inl hne⟩
      · split <;> exact ⟨soFar, hcounted.tick, .inl hne⟩
    · rw [if_neg (by simp), if_neg (by simp [hnow])]
      exact ⟨soFar, hcounted.tick, .inr ⟨trivial, hlt⟩⟩
  obtain ⟨⟨rc, writtenLen⟩, w', hrun, soFar, hcounted, hwrong⟩ := exists_run_of_ends hends
  obtain ⟨new, hnew, hlen, _, _, hcode⟩ := hexact n w w' rc writtenLen rfl hrun
  rw [hcounted.accepted] at hnew
  obtain rfl := List.append_cancel_left hnew
  rw [Memory.length_slice] at hlen
  rcases hwrong with hne | ⟨rfl, hlt⟩
  · exact hne hlen
  · exact Nat.ne_of_lt hlt (hcode.mp rfl)

end Miscounting

/-- If no pass goes wrong, what is reported is what was accepted; for a timer that stays expired
once it is, only then. -/
theorem writesExactly_iff (env : TlsEnv) (timer : Timer) (pMsg : MsgArray) (t : Nat) :
    (¬ Miscounts env timer pMsg.len .pass 0 env.indeterminate.toInt t →
      WritesExactly env timer pMsg t) ∧
    ((∀ t, env.expired timer t = true → env.expired timer (t + 1) = true) →
      WritesExactly env timer pMsg t →
        ¬ Miscounts env timer pMsg.len .pass 0 env.indeterminate.toInt t) :=
  ⟨writesExactly_of_not_miscounts,
    fun hclock hexact h => not_writesExactly_of_miscounts hclock h hexact⟩

/-- The time `n` seconds after the epoch. -/
def atSecond (n : Int) : TimeVal := ⟨n, 0, (secInterval 0).usec_nonneg, (secInterval 0).usec_lt⟩

/-- A message of four bytes. -/
def fourBytes : MsgArray := ⟨4, by decide, by decide⟩

/-- A peer that takes everything at once, long before the timer ends. -/
def promptEnv : TlsEnv := ⟨fun _ => atSecond 0, fun _ => 1000, fun _ => 0, 7⟩

theorem writesExactly_prompt : WritesExactly promptEnv ⟨atSecond 1⟩ fourBytes 0 := by
  refine (writesExactly_iff promptEnv ⟨atSecond 1⟩ fourBytes 0).1 ?_
  have hrunning : ∀ t, promptEnv.expired ⟨atSecond 1⟩ t = false := fun _ => rfl
  intro h
  cases h with
  | revived hexpired => exact absurd hexpired (by simp [hrunning])
  | begun _ h =>
    cases h with
    | stale hexpired => exact absurd hexpired (by simp [hrunning])
    | blocked _ hblock => exact absurd hblock (by unfold WouldBlock; decide)
    | taken _ hk _ hmore =>
      have hall : promptEnv.written 4 (0 + 1 + 1) = 4 := by decide
      have hk : promptEnv.written 4 (0 + 1 + 1) = _ := hk
      have hmore : _ < 4 := hmore
      omega

/-- A peer that takes nothing until the timer has expired. -/
def blockedEnv : TlsEnv :=
  ⟨fun t => atSecond (if t < 3 then 0 else 2), fun _ => -0x6880, fun _ => 0, 7⟩

/-- The would-block code is reported as a number of bytes. -/
theorem not_writesExactly_blocked : ¬ WritesExactly blockedEnv ⟨atSecond 1⟩ fourBytes 0 := by
  intro h
  let w : TlsWorld := ⟨0, fun _ => 0x61, [], fun _ => 0, 0⟩
  have hrun : ((iotTlsWrite blockedEnv 5 ⟨atSecond 1⟩ 4).run w).value? =
      some (.networkSslWriteTimeoutError, 18446744073709524864) := by decide +kernel
  obtain ⟨_, _, _, _, hle, _⟩ := h 5 w _ _ _ rfl (run_eq_done hrun)
  exact absurd hle (by decide)

end AwsIot.Linux
