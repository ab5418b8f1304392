/-
  Linux/TlsWrapper.lean --- `iot_tls_write` and `iot_tls_read` of
  `network_mbedtls_wrapper.c`.

  Every question to the outside, a reading of the clock or a call into mbedTLS,
  has a number, and the environment answers by number: any behaviour of the timer
  and any sequence of outcomes is some environment.
-/
import AwsIot.Foundation.Memory
import AwsIot.Foundation.Program
import AwsIot.Linux.Timer
import AwsIot.Mqtt.Types

set_option autoImplicit false

namespace AwsIot.Linux

open AwsIot.Foundation
open AwsIot.Mqtt (IoTError)

/-! ## The outside -/

/-- What the functions find around them. -/
structure TlsEnv where
  /-- What `gettimeofday` stores when it is question number `t`. -/
  now : Nat → TimeVal
  /-- What `mbedtls_ssl_write` returns as question number `t`, if that is not more than it
  was asked to take. -/
  sslWrite : Nat → Int32
  /-- What `mbedtls_ssl_read` returns as question number `t`, if that is not more than it
  was asked for. -/
  sslRead : Nat → Int32
  /-- What `ret` of `iot_tls_write` holds before it is assigned. -/
  indeterminate : Int32

/-- What a call changes. -/
structure TlsWorld where
  /-- The questions asked so far. -/
  time : Nat
  /-- The bytes from `pMsg` on. -/
  msg : Memory
  /-- The bytes `mbedtls_ssl_write` has accepted, in order. -/
  accepted : List UInt8
  /-- The bytes the peer sends, in order. -/
  stream : Memory
  /-- How many of them `mbedtls_ssl_read` has handed over. -/
  consumed : Nat

/-- A C function that runs between the timer and mbedTLS. -/
abbrev Tls := Program TlsWorld

/-- The array `pMsg[0..len)` of a caller. -/
structure MsgArray where
  /-- `len`. -/
  len : Nat
  /-- It has an element. -/
  pos : 1 ≤ len
  /-- No array is longer than a `ptrdiff_t` can tell. -/
  lt : len < 2 ^ 63

/-- `MBEDTLS_ERR_SSL_WANT_READ`. -/
def mbedtlsErrSslWantRead : Int := -0x6900

/-- `MBEDTLS_ERR_SSL_WANT_WRITE`. -/
def mbedtlsErrSslWantWrite : Int := -0x6880

variable (env : TlsEnv)

/-- `gettimeofday`. -/
def gettimeofday : Tls TimeVal := fun w =>
  .done (env.now w.time) { w with time := w.time + 1 }

/-- `has_timer_expired`. -/
def hasTimerExpired (timer : Timer) : Tls Bool := do
  let now ← gettimeofday env
  return timer.hasExpired now

/-- `left_ms`. -/
def leftMs (timer : Timer) : Tls UInt32 := do
  let now ← gettimeofday env
  return timer.leftMs now

/-- `mbedtls_ssl_write` of the `len` bytes from offset `off` of the message on. -/
def mbedtlsSslWrite (off len : Nat) : Tls Int := fun w =>
  let ret := min (env.sslWrite w.time).toInt len
  .done ret { w with time := w.time + 1, accepted := w.accepted ++ w.msg.slice off ret.toNat }

/-- `mbedtls_ssl_read` of at most `len` bytes to offset `off` of the message. -/
def mbedtlsSslRead (off len : Nat) : Tls Int := fun w =>
  let ret := min (env.sslRead w.time).toInt len
  .done ret { w with
    time := w.time + 1
    msg := w.msg.writeAt off (w.stream.slice w.consumed ret.toNat)
    consumed := w.consumed + ret.toNat }

/-! ## Writing -/

variable (fuel : Nat) (timer : Timer) (len : Nat)

/-- `n += ret` for a `size_t` and an `int`. -/
def addToSize (n : Nat) (ret : Int) : Nat := ((n + ret) % 2 ^ 64).toNat

/-- One test of the while loop of `iot_tls_write`; `ret` is what the variable held before
it.  The loop gives `ret` and `isErrorFlag`. -/
def writeRetry (writtenSoFar : Nat) (ret : Int) : Tls (Step Int (Int × Bool)) := do
  if ← hasTimerExpired env timer then return .stop (ret, false)
  let ret ← mbedtlsSslWrite env writtenSoFar (len - writtenSoFar)
  if ¬ ret ≤ 0 then return .stop (ret, false)
  if ret ≠ mbedtlsErrSslWantRead ∧ ret ≠ mbedtlsErrSslWantWrite then return .stop (ret, true)
  return .again ret

/-- One pass of the for loop of `iot_tls_write`; the variables are `written_so_far` and `ret`,
and the loop gives `written_so_far` and `isErrorFlag`.  `frags` is only counted. -/
def writePass (v : Nat × Int) : Tls (Step (Nat × Int) (Nat × Bool)) := do
  if ¬ v.1 < len then return .stop (v.1, false)
  if ← hasTimerExpired env timer then return .stop (v.1, false)
  let (ret, isErrorFlag) ← loop (writeRetry env timer len v.1) fuel v.2
  if isErrorFlag then return .stop (v.1, true)
  -- the while loop may have been left by the timer, before or after a call
  return .again (addToSize v.1 ret, ret)

/-- `iot_tls_write`: the return code and `*written_len`. -/
def iotTlsWrite : Tls (IoTError × Nat) := do
  let (writtenSoFar, isErrorFlag) ←
    loop (writePass env fuel timer len) fuel (0, env.indeterminate.toInt)
  if isErrorFlag then return (.networkSslWriteError, writtenSoFar)
  let expired ← hasTimerExpired env timer
  if expired ∧ writtenSoFar ≠ len then return (.networkSslWriteTimeoutError, writtenSoFar)
  return (.success, writtenSoFar)

/-! ## Reading -/

/-- What the do-while loop of `iot_tls_read` leaves. -/
structure ReadVars where
  rxLen : Nat
  isErrorFlag : Bool
  isCompleteFlag : Bool

/-- One pass of the do-while loop of `iot_tls_read`, entered with both flags clear. -/
def readPass (rxLen : Nat) : Tls (Step Nat ReadVars) := do
  -- every pass stores from the start of the message on
  let ret ← mbedtlsSslRead env 0 len
  let rxLen := if ret ≥ 0 then addToSize rxLen ret else rxLen
  let isErrorFlag : Bool := ¬ ret ≥ 0 ∧ ret ≠ mbedtlsErrSslWantRead
  let isCompleteFlag : Bool := rxLen ≥ len
  let timerLeftVal ← leftMs env timer
  if !isErrorFlag && !isCompleteFlag && timerLeftVal > 0 then return .again rxLen
  return .stop ⟨rxLen, isErrorFlag, isCompleteFlag⟩

/-- `iot_tls_read`: the return code and `*read_len`. -/
def iotTlsRead : Tls (IoTError × Nat) := do
  let _ ← leftMs env timer
  let v ← loop (readPass env timer len) fuel 0
  if v.rxLen = 0 ∧ v.isErrorFlag then return (.networkSslNothingToRead, v.rxLen)
  let expired ← hasTimerExpired env timer
  if expired ∧ ¬ v.isCompleteFlag then return (.networkSslReadTimeoutError, v.rxLen)
  return (.success, v.rxLen)

end AwsIot.Linux
