/-
  Linux/TlsRead.lean --- what `iot_tls_read` delivers.

  Every pass of the do-while loop reads up to `len` bytes to the start of the
  message, whatever earlier passes stored there.  A message that takes two reads is
  therefore overwritten, and its length may come out greater than `len`.  An error
  after a part of the message, or a millisecond count of zero before the timer has
  expired, ends the loop early and is reported as success.  `Misreads` collects
  these ends in terms of what the clock and mbedTLS answer.
-/
import AwsIot.Linux.TlsWrite

set_option autoImplicit false

namespace AwsIot.Linux

open AwsIot.Foundation AwsIot.Foundation.Program
open AwsIot.Mqtt (IoTError)

/-! ## Questions and answers -/

/-- `left_ms` as question number `t`. -/
def TlsEnv.left (env : TlsEnv) (timer : Timer) (t : Nat) : UInt32 := timer.leftMs (env.now t)

/-- `mbedtls_ssl_read` of `len` bytes as question number `t`. -/
def TlsEnv.got (env : TlsEnv) (len t : Nat) : Int := min (env.sslRead t).toInt len

/-- The world after `mbedtls_ssl_read` returned `ret`, storing to the start of the message. -/
def TlsWorld.read (w : TlsWorld) (ret : Int) : TlsWorld :=
  { w with
    time := w.time + 1
    msg := w.msg.writeAt 0 (w.stream.slice w.consumed ret.toNat)
    consumed := w.consumed + ret.toNat }

@[simp] theorem TlsWorld.time_read (w : TlsWorld) (ret : Int) :
    (w.read ret).time = w.time + 1 := rfl

section Ends

variable {env : TlsEnv} {timer : Timer} {w : TlsWorld} {H : TlsWorld → Prop}

@[simp] theorem ends_leftMs {Q : UInt32 → TlsWorld → Prop} :
    (leftMs env timer).Ends w Q H ↔ Q (env.left timer w.time) w.tick := Iff.rfl

@[simp] theorem ends_mbedtlsSslRead {len : Nat} {Q : Int → TlsWorld → Prop} :
    (mbedtlsSslRead env 0 len).Ends w Q H ↔
      Q (env.got len w.time) (w.read (env.got len w.time)) := Iff.rfl

end Ends

theorem TlsEnv.got_le (env : TlsEnv) (len t : Nat) : env.got len t ≤ len :=
  Int.min_le_right _ _

theorem TlsEnv.isInt_got (env : TlsEnv) (len t : Nat) : IsInt (env.got len t) := by
  obtain ⟨hge, hlt⟩ := isInt_toInt (env.sslRead t)
  unfold IsInt TlsEnv.got
  omega

/-- The codes that raise `isErrorFlag`. -/
def IsFailure (ret : Int) : Prop := ret < 0 ∧ ret ≠ mbedtlsErrSslWantRead

instance (ret : Int) : Decidable (IsFailure ret) := inferInstanceAs (Decidable (_ ∧ _))

theorem IsFailure.toNat {ret : Int} (h : IsFailure ret) : ret.toNat = 0 :=
  Int.toNat_of_nonpos (Int.le_of_lt h.1)

/-! ## When reading goes wrong -/

/-- At question `t`, a call of `mbedtls_ssl_read`, `rxLen < len` bytes have been stored.  From
there on the call ends wrong. -/
inductive Misreads (env : TlsEnv) (timer : Timer) (len : Nat) : Nat → Nat → Prop where
  /-- The last part of the message is stored over an earlier one. -/
  | overwritten {rxLen t : Nat} : 0 < rxLen → len ≤ rxLen + (env.got len t).toNat →
      Misreads env timer len rxLen t
  /-- An error after a part of the message, before the timer has expired. -/
  | failed {rxLen t : Nat} : 0 < rxLen → IsFailure (env.got len t) →
      env.expired timer (t + 2) = false → Misreads env timer len rxLen t
  /-- Less than a millisecond is left with a part of the message missing. -/
  | hurried {rxLen t : Nat} : ¬ IsFailure (env.got len t) →
      rxLen + (env.got len t).toNat < len → env.left timer (t + 1) = 0 →
      env.expired timer (t + 2) = false → Misreads env timer len rxLen t
  /-- A part of the message, or nothing, and another pass. -/
  | again {rxLen t : Nat} : ¬ IsFailure (env.got len t) →
      rxLen + (env.got len t).toNat < len → 0 < env.left timer (t + 1) →
      Misreads env timer len (rxLen + (env.got len t).toNat) (t + 2) →
      Misreads env timer len rxLen t

/-- Whatever the peer sends and whatever the message held before: on SUCCESS the message is the
next `len` bytes of the stream; and in every case no more than `len` bytes are reported, no byte
behind the message is written, and what is reported is what was taken off the stream. -/
def ReadsInOrder (env : TlsEnv) (timer : Timer) (pMsg : MsgArray) (t : Nat) : Prop :=
  ∀ fuel w w' rc readLen, w.time = t →
    (iotTlsRead env fuel timer pMsg.len).run w = .done (rc, readLen) w' →
      (rc = .success → readLen = pMsg.len ∧
        w'.msg.slice 0 pMsg.len = w.stream.slice w.consumed pMsg.len) ∧
      readLen ≤ pMsg.len ∧ (∀ i, pMsg.len ≤ i → w'.msg i = w.msg i) ∧
      w'.consumed = w.consumed + readLen

/-! ## One pass -/

section Pass

variable {env : TlsEnv} {timer : Timer} {len : Nat} {start : TlsWorld}

theorem addToSize_got {rxLen t : Nat} (hrx : rxLen < len) (hlen : len < 2 ^ 63) :
    (if env.got len t ≥ 0 then addToSize rxLen (env.got len t) else rxLen) =
      rxLen + (env.got len t).toNat := by
  have hlt := (env.isInt_got len t).2
  split
  case isTrue hnonneg => exact addToSize_of_nonneg hnonneg (by omega)
  case isFalse hneg => rw [Int.toNat_of_nonpos (by omega), Nat.add_zero]

/-- Everything a pass can do. -/
theorem ends_readPass {rxLen : Nat} {w : TlsWorld} {Q : Step Nat ReadVars → TlsWorld → Prop}
    {H : TlsWorld → Prop} (hrx : rxLen < len) (hlen : len < 2 ^ 63) {ret : Int}
    (hret : env.got len w.time = ret) :
    (readPass env timer len rxLen).Ends w Q H ↔
      if ¬ IsFailure ret ∧ rxLen + ret.toNat < len ∧ 0 < env.left timer (w.time + 1) then
        Q (.again (rxLen + ret.toNat)) (w.read ret).tick
      else Q (.stop ⟨rxLen + ret.toNat, decide (IsFailure ret), decide (len ≤ rxLen + ret.toNat)⟩)
        (w.read ret).tick := by
  have hcount : (if env.got len w.time ≥ 0 then addToSize rxLen (env.got len w.time) else rxLen) =
      rxLen + (env.got len w.time).toNat := addToSize_got hrx hlen
  have hfailure : (¬ ret ≥ 0 ∧ ret ≠ mbedtlsErrSslWantRead) = IsFailure ret := by
    rw [IsFailure, Int.not_le]
  unfold readPass
  rw [ends_bind, ends_mbedtlsSslRead]
  simp only [ends_bind, ends_leftMs, ends_ite, ends_pure, hcount]
  subst hret
  simp only [hfailure, TlsWorld.time_read, Bool.and_eq_true, Bool.not_eq_true',
    decide_eq_true_eq, decide_eq_false_iff_not, and_assoc, Nat.not_le, ge_iff_le, gt_iff_lt]

/-! ## A message in one piece -/

/-- Since `start`, `rxLen` bytes were taken off the stream and none was stored behind the
message. -/
structure Stored (len : Nat) (start : TlsWorld) (rxLen : Nat) (w : TlsWorld) : Prop where
  stream : w.stream = start.stream
  consumed : w.consumed = start.consumed + rxLen
  outside : ∀ i, len ≤ i → w.msg i = start.msg i

theorem stored_start (len : Nat) (start : TlsWorld) : Stored len start 0 start :=
  ⟨rfl, rfl, fun _ _ => rfl⟩

theorem Stored.tick {rxLen : Nat} {w : TlsWorld} (h : Stored len start rxLen w) :
    Stored len start rxLen w.tick := ⟨h.stream, h.consumed, h.outside⟩

theorem Stored.read {rxLen : Nat} {ret : Int} {w : TlsWorld} (h : Stored len start rxLen w)
    (hle : ret ≤ len) : Stored len start (rxLen + ret.toNat) (w.read ret) := by
  refine ⟨h.stream, ?_, fun i hi => ?_⟩
  · show w.consumed + ret.toNat = _
    rw [h.consumed, Nat.add_assoc]
  · rw [← h.outside i hi]
    have hend : 0 + (w.stream.slice w.consumed ret.toNat).length ≤ i := by
      rw [Memory.length_slice]
      omega
    exact Memory.writeAt_of_ge hend

/-- What the loop leaves if nothing goes wrong. -/
structure Collected (env : TlsEnv) (timer : Timer) (len : Nat) (start : TlsWorld) (v : ReadVars)
    (w : TlsWorld) : Prop where
  stored : Stored len start v.rxLen w
  le : v.rxLen ≤ len
  complete : v.isCompleteFlag = true → v.rxLen = len ∧
    w.msg.slice 0 len = start.stream.slice start.consumed len
  /-- Otherwise nothing was read, or the timer is to blame. -/
  partly : v.isCompleteFlag = false → v.rxLen = 0 ∧ v.isErrorFlag = true ∨
    env.expired timer w.time = true

theorem readPass_collected (hlen : len < 2 ^ 63) {rxLen : Nat} {w : TlsWorld}
    (h : Stored len start rxLen w ∧ rxLen < len ∧ ¬ Misreads env timer len rxLen w.time) :
    (readPass env timer len rxLen).Ends w
      (fun r w' => match r with
        | .again rxLen' => Stored len start rxLen' w' ∧ rxLen' < len ∧
            ¬ Misreads env timer len rxLen' w'.time
        | .stop v => Collected env timer len start v w')
      (fun _ => True) := by
  obtain ⟨hstored, hlt, hnot⟩ := h
  have hle := env.got_le len w.time
  rw [ends_readPass hlt hlen rfl]
  split
  case isTrue hagain =>
    obtain ⟨hfailure, hmore, hleft⟩ := hagain
    exact ⟨(hstored.read hle).tick, hmore, fun hmis => hnot (.again hfailure hmore hleft hmis)⟩
  case isFalse hstop =>
    by_cases hall : len ≤ rxLen + (env.got len w.time).toNat
    · obtain rfl : rxLen = 0 := Nat.eq_zero_of_not_pos fun hpos => hnot (.overwritten hpos hall)
      have hgot : (env.got len w.time).toNat = len := by omega
      have hsum : 0 + (env.got len w.time).toNat = len := by omega
      refine ⟨(hstored.read hle).tick, Nat.le_of_eq hsum, fun _ => ⟨hsum, ?_⟩, fun hpart => ?_⟩
      · show (w.msg.writeAt 0 (w.stream.slice w.consumed _)).slice 0 len = _
        rw [hgot, hstored.stream, hstored.consumed]
        exact (Memory.slice_writeAt (by simp)).trans (List.take_of_length_le (by simp))
      · exact absurd hall (of_decide_eq_false hpart)
    · refine ⟨(hstored.read hle).tick, Nat.le_of_lt (Nat.not_le.mp hall), fun hcomplete => ?_,
        fun _ => ?_⟩
      · exact absurd (of_decide_eq_true hcomplete) hall
      · by_cases hfailure : IsFailure (env.got len w.time)
        · rw [hfailure.toNat, Nat.add_zero]
          rcases Nat.eq_zero_or_pos rxLen with hzero | hpos
          · exact .inl ⟨hzero, decide_eq_true hfailure⟩
          · refine .inr (Decidable.byContradiction fun hnow => hnot (.failed hpos hfailure ?_))
            simpa using hnow
        · refine .inr (Decidable.byContradiction fun hnow => hnot (.hurried hfailure (by omega)
            ?_ (by simpa using hnow)))
          refine Decidable.byContradiction fun hleft => hstop ⟨hfailure, by omega, ?_⟩
          exact UInt32.pos_iff_ne_zero.mpr hleft

/-! ## A message in pieces -/

/-- The loop has ended with something wrong: the start of the message is not that of the stream, or
the message is short and nothing but a timer that has not expired is left to say so. -/
def Spoiled (env : TlsEnv) (timer : Timer) (len : Nat) (start : TlsWorld) (v : ReadVars)
    (w : TlsWorld) : Prop :=
  0 < v.rxLen ∧ v.isCompleteFlag = true ∧ w.msg 0 ≠ start.stream start.consumed ∨
    (v.rxLen = 0 → v.isErrorFlag = false) ∧ v.rxLen < len ∧ env.expired timer w.time = false

/-- On a stream whose bytes differ from its next one, a loop that goes wrong spoils the message. -/
theorem readLoop_spoiled (hlen : len < 2 ^ 63)
    (hstream : ∀ i, 0 < i → start.stream (start.consumed + i) ≠ start.stream start.consumed)
    {rxLen t : Nat} (h : Misreads env timer len rxLen t) :
    ∀ w, w.time = t → Stored len start rxLen w → rxLen < len →
      ∃ n, (loop (readPass env timer len) n rxLen).Ends w (Spoiled env timer len start)
        (fun _ => False) := by
  induction h with
  | @overwritten rxLen t hpos hall =>
    rintro w rfl hstored hlt
    refine ⟨1, ends_bind.mpr ((ends_readPass hlt hlen rfl).mpr ?_)⟩
    rw [if_neg (fun h => Nat.not_le.mpr h.2.1 hall)]
    refine .inl ⟨Nat.lt_of_lt_of_le hpos (Nat.le_add_right _ _), decide_eq_true hall, ?_⟩
    have hgot : 0 < (w.stream.slice w.consumed (env.got len w.time).toNat).length := by
      rw [Memory.length_slice]
      omega
    have hfirst : (w.read (env.got len w.time)).tick.msg 0 = w.stream w.consumed := by
      show w.msg.writeAt 0 (w.stream.slice w.consumed (env.got len w.time).toNat) (0 + 0) = _
      rw [Memory.writeAt_add hgot, Memory.getElem_slice hgot, Nat.add_zero]
    rw [hfirst, hstored.stream, hstored.consumed]
    exact hstream rxLen hpos
  | @failed rxLen t hpos hfailure hnow =>
    rintro w rfl hstored hlt
    refine ⟨1, ends_bind.mpr ((ends_readPass hlt hlen rfl).mpr ?_)⟩
    rw [if_neg (fun h => h.1 hfailure)]
    have hcount : rxLen + (env.got len w.time).toNat = rxLen := by
      rw [hfailure.toNat, Nat.add_zero]
    refine .inr ⟨fun hzero => ?_, Nat.lt_of_le_of_lt (Nat.le_of_eq hcount) hlt, hnow⟩
    exact absurd (hcount.symm.trans hzero) (Nat.ne_of_gt hpos)
  | @hurried rxLen t hfailure hmore hleft hnow =>
    rintro w rfl hstored hlt
    refine ⟨1, ends_bind.mpr ((ends_readPass hlt hlen rfl).mpr ?_)⟩
    rw [if_neg (fun h => by rw [hleft] at h; exact absurd h.2.2 (by decide))]
    exact .inr ⟨fun _ => decide_eq_false hfailure, hmore, hnow⟩
  | @again rxLen t hfailure hmore hleft _ ih =>
    rintro w rfl hstored hlt
    obtain ⟨n, hn⟩ := ih (w.read (env.got len w.time)).tick rfl
      (hstored.read (env.got_le _ _)).tick hmore
    refine ⟨n + 1, ends_bind.mpr ((ends_readPass hlt hlen rfl).mpr ?_)⟩
    rw [if_pos ⟨hfailure, hmore, hleft⟩]
    exact hn

end Pass

/-- If nothing goes wrong, the stream is delivered in order. -/
theorem readsInOrder_of_not_misreads {env : TlsEnv} {timer : Timer} {pMsg : MsgArray} {t : Nat}
    (hnot : ¬ Misreads env timer pMsg.len 0 (t + 1)) : ReadsInOrder env timer pMsg t := by
  rintro fuel w w' rc readLen rfl hrun
  have hloop : (loop (readPass env timer pMsg.len) fuel 0).Ends w.tick
      (Collected env timer pMsg.len w) (fun _ => True) := by
    refine ends_loop (I := fun rxLen w' => Stored pMsg.len w rxLen w' ∧ rxLen < pMsg.len ∧
      ¬ Misreads env timer pMsg.len rxLen w'.time) ?_ (fun _ _ _ => trivial) fuel 0 w.tick
      ⟨(stored_start _ w).tick, pMsg.pos, hnot⟩
    intro rxLen w₁ hI
    refine (readPass_collected pMsg.lt hI).mono ?_ (fun _ h => h)
    intro r w₂ hr
    cases r with
    | again rxLen' => exact hr
    | stop v => exact hr
  suffices h : (iotTlsRead env fuel timer pMsg.len).Ends w
      (fun r w' => Stored pMsg.len w r.2 w' ∧ r.2 ≤ pMsg.len ∧ (r.1 = .success →
        r.2 = pMsg.len ∧ w'.msg.slice 0 pMsg.len = w.stream.slice w.consumed pMsg.len))
      (fun _ => True) by
    obtain ⟨hstored, hle, hsuccess⟩ := h.of_run hrun
    exact ⟨hsuccess, hle, hstored.outside, hstored.consumed⟩
  unfold iotTlsRead
  simp only [ends_bind, ends_leftMs, ends_hasTimerExpired, ends_ite, ends_pure]
  refine hloop.mono ?_ (fun _ h => h)
  rintro ⟨rxLen, isErrorFlag, isCompleteFlag⟩ w₁ ⟨hstored, hle, hcomplete, hpartly⟩
  cases isCompleteFlag with
  | true =>
    obtain ⟨hall, hmsg⟩ := hcomplete rfl
    have hpos := pMsg.pos
    rw [if_neg (fun h => by have hzero : rxLen = 0 := h.1; have : rxLen = pMsg.len := hall; omega),
      if_neg (by simp)]
    exact ⟨hstored.tick, hle, fun _ => ⟨hall, hmsg⟩⟩
  | false =>
    rcases hpartly rfl with ⟨hzero, herror⟩ | hexpired
    · rw [if_pos ⟨hzero, herror⟩]
      exact ⟨hstored, hle, by simp⟩
    · split
      · exact ⟨hstored, hle, by simp⟩
      · rw [if_pos ⟨hexpired, by simp⟩]
        exact ⟨hstored.tick, hle, by simp⟩

/-- If something goes wrong, the stream is not delivered in order. -/
theorem not_readsInOrder_of_misreads {env : TlsEnv} {timer : Timer} {pMsg : MsgArray} {t : Nat}
    (h : Misreads env timer pMsg.len 0 (t + 1)) : ¬ ReadsInOrder env timer pMsg t := by
  intro horder
  let w : TlsWorld := ⟨t, fun _ => 0, [], fun i => if i = 0 then 1 else 0, 0⟩
  have hstream : ∀ i, 0 < i → w.stream (w.consumed + i) ≠ w.stream w.consumed := by
    intro i hi
    show (if 0 + i = 0 then (1 : UInt8) else 0) ≠ 1
    rw [if_neg (by omega)]
    decide
  obtain ⟨n, hn⟩ := readLoop_spoiled pMsg.lt hstream h w.tick rfl (stored_start _ w).tick pMsg.pos
  have hends : (iotTlsRead env n timer pMsg.len).Ends w
      (fun r w' => r.1 = .success ∧
        (w'.msg 0 ≠ w.stream w.consumed ∨ r.2 < pMsg.len)) (fun _ => False) := by
    unfold iotTlsRead
    simp only [ends_bind, ends_leftMs, ends_hasTimerExpired, ends_ite, ends_pure]
    refine hn.mono ?_ (fun _ h => h)
    rintro ⟨rxLen, isErrorFlag, isCompleteFlag⟩ w₁ hspoiled
    rcases hspoiled with ⟨hpos, hcomplete, hfirst⟩ | ⟨herror, hlt, hnow⟩
    · rw [if_neg (fun h => Nat.ne_of_gt hpos h.1), if_neg (fun h => h.2 hcomplete)]
      exact ⟨trivial, .inl hfirst⟩
    · rw [if_neg (fun h => by rw [herror h.1] at h; exact absurd h.2 (by simp)),
        if_neg (fun h => by rw [hnow] at h; exact absurd h.1 (by simp))]
      exact ⟨trivial, .inr hlt⟩
  obtain ⟨⟨rc, readLen⟩, w', hrun, hsuccess, hwrong⟩ := exists_run_of_ends hends
  obtain ⟨hall, _⟩ := horder n w w' rc readLen rfl hrun
  obtain ⟨hlen, hmsg⟩ := hall hsuccess
  rcases hwrong with hfirst | hlt
  · exact hfirst (Memory.eq_of_slice_eq hmsg pMsg.pos)
  · exact Nat.ne_of_lt hlt hlen

/-- The stream is delivered in order exactly if neither a second part of a message is stored over
the first, nor an error or a millisecond count of zero ends the call between them. -/
theorem readsInOrder_iff (env : TlsEnv) (timer : Timer) (pMsg : MsgArray) (t : Nat) :
    ReadsInOrder env timer pMsg t ↔ ¬ Misreads env timer pMsg.len 0 (t + 1) :=
  ⟨fun horder h => not_readsInOrder_of_misreads h horder, readsInOrder_of_not_misreads⟩

/-- A peer whose message of four bytes arrives two bytes at a time, with no time to wait. -/
def halvesEnv : TlsEnv := ⟨fun _ => atSecond 0, fun _ => 0, fun _ => 2, 0⟩

/-- The second half is stored over the first. -/
theorem not_readsInOrder_halves : ¬ ReadsInOrder halvesEnv ⟨atSecond 1⟩ fourBytes 0 := by
  intro h
  let w : TlsWorld := ⟨0, fun _ => 0, [], fun i => UInt8.ofNat i, 0⟩
  have hrun : ((iotTlsRead halvesEnv 5 ⟨atSecond 1⟩ 4).run w).value? = some (.success, 4) := by
    decide +kernel
  obtain ⟨hsuccess, _⟩ := h 5 w _ _ _ rfl (run_eq_done hrun)
  exact absurd (hsuccess rfl).2 (by decide +kernel)

end AwsIot.Linux
