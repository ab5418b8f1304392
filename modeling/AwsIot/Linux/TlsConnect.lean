/-
  Linux/TlsConnect.lean --- the life of a TLS connection in `network_mbedtls_wrapper.c`.

  `iot_tls_connect` initialises the mbedTLS objects of a connection, loads the
  certificates and the key, connects, configures and shakes hands; `iot_tls_destroy`
  frees the objects.  mbedTLS is outside: a call into it is an event with what it
  returned, and any sequence of answers is some environment.  A call that fails ends the
  connect with its own error, and none is made after it.
-/
import AwsIot.Foundation.Program
import AwsIot.Foundation.TextBuffer
import AwsIot.Linux.TlsWrite

set_option autoImplicit false

namespace AwsIot.Linux

open AwsIot.Foundation AwsIot.Foundation.Program
open AwsIot.Mqtt (IoTError)

/-! ## mbedTLS -/

/-- The members of `TLSDataParams` that mbedTLS initialises and frees. -/
inductive TlsObject where
  | entropy
  | ctrDrbg
  | ssl
  | conf
  | cacert
  | clicert
  | pkey
  | serverFd
  deriving DecidableEq, Repr

/-- `MBEDTLS_SSL_VERIFY_OPTIONAL` and `MBEDTLS_SSL_VERIFY_REQUIRED`. -/
inductive AuthMode where
  | optional
  | required
  deriving DecidableEq, Repr

/-- A call into mbedTLS. -/
inductive MbedCall where
  /-- `mbedtls_net_init`, `mbedtls_ssl_init` and so on. -/
  | init (object : TlsObject)
  /-- `mbedtls_net_free`, `mbedtls_ssl_free` and so on. -/
  | free (object : TlsObject)
  | ctrDrbgSeed
  | x509CrtParseFile (chain : TlsObject) (path : CString)
  | pkParseKeyfile (path : CString)
  | netConnect (host port : CString)
  | netSetBlock
  | sslConfigDefaults
  | sslConfVerify
  | sslConfAuthmode (mode : AuthMode)
  | sslConfRng
  | sslConfCaChain
  | sslConfOwnCert
  | sslConfReadTimeout (timeoutMs : UInt32)
  | sslSetup
  | sslSetHostname (host : CString)
  | sslSetBio
  | sslHandshake
  | sslGetRecordExpansion
  | sslGetVerifyResult
  | sslRead
  | sslWrite
  | sslCloseNotify
  deriving DecidableEq

/-- The objects that a call works on, those it initialises or frees apart. -/
def MbedCall.uses : MbedCall → List TlsObject
  | .init _ | .free _ => []
  | .ctrDrbgSeed => [.ctrDrbg, .entropy]
  | .x509CrtParseFile chain _ => [chain]
  | .pkParseKeyfile _ => [.pkey]
  | .netConnect .. | .netSetBlock => [.serverFd]
  | .sslConfigDefaults | .sslConfVerify | .sslConfAuthmode _ | .sslConfReadTimeout _ => [.conf]
  | .sslConfRng => [.conf, .ctrDrbg]
  | .sslConfCaChain => [.conf, .cacert]
  | .sslConfOwnCert => [.conf, .clicert, .pkey]
  | .sslSetup => [.ssl, .conf]
  | .sslSetBio => [.ssl, .serverFd]
  | .sslSetHostname _ | .sslHandshake | .sslGetRecordExpansion | .sslGetVerifyResult | .sslRead
  | .sslWrite | .sslCloseNotify => [.ssl]

/-- `MBEDTLS_ERR_NET_SOCKET_FAILED`. -/
def mbedtlsErrNetSocketFailed : Int := -0x42

/-- `MBEDTLS_ERR_NET_UNKNOWN_HOST`. -/
def mbedtlsErrNetUnknownHost : Int := -0x52

/-! ## The wrapper -/

/-- `TLSConnectParams`. -/
structure TLSConnectParams where
  pRootCALocation : CString
  pDeviceCertLocation : CString
  pDevicePrivateKeyLocation : CString
  pDestinationURL : CString
  destinationPort : UInt16
  timeoutMs : UInt32
  serverVerificationFlag : Bool

/-- What is logged of a network connection. -/
inductive TlsEvent where
  /-- `iot_tls_init` set up the network structure. -/
  | tlsInit
  /-- `iot_tls_connect` begins with `params`. -/
  | connecting (params : TLSConnectParams)
  /-- A call into mbedTLS returned `ret`; where it returns nothing, `ret` is never looked
  at. -/
  | made (call : MbedCall) (ret : Int)

/-- A network structure, and what happened to it, newest event first. -/
structure TlsNetwork where
  /-- `tlsConnectParams`. -/
  params : TLSConnectParams
  /-- `tlsDataParams.flags`. -/
  flags : UInt32
  /-- What happened so far. -/
  log : List TlsEvent

/-- What the wrapper finds around it. -/
structure MbedEnv where
  /-- What mbedTLS returns as event number `t`. -/
  answer : Nat → Int32
  /-- What `iot_tls_init` is given as event number `t`. -/
  given : Nat → TLSConnectParams
  /-- How often `iot_tls_read` or `iot_tls_write`, begun as event number `t`, calls
  mbedTLS. -/
  passes : Nat → Nat

/-- A C function over a network structure. -/
abbrev Mbed := Program TlsNetwork

/-- The connection after an event. -/
def TlsNetwork.push (n : TlsNetwork) (e : TlsEvent) : TlsNetwork := { n with log := e :: n.log }

@[simp] theorem TlsNetwork.log_push (n : TlsNetwork) (e : TlsEvent) :
    (n.push e).log = e :: n.log := rfl

@[simp] theorem TlsNetwork.params_push (n : TlsNetwork) (e : TlsEvent) :
    (n.push e).params = n.params := rfl

variable (env : MbedEnv) (fuel : Nat)

/-- What a call returns that is made now. -/
def TlsNetwork.answer (n : TlsNetwork) : Int := (env.answer n.log.length).toInt

/-- Make a call. -/
def mbedtls (call : MbedCall) : Mbed Int := fun n =>
  .done (n.answer env) (n.push (.made call (n.answer env)))

/-- `pNetwork->tlsConnectParams`. -/
def getParams : Mbed TLSConnectParams := fun n => .done n.params n

/-- `_iot_tls_set_connect_params`. -/
def setConnectParams (params : TLSConnectParams) : Mbed Unit := fun n =>
  .done () { n with params := params }

/-- `tlsDataParams.flags = flags`. -/
def setFlags (flags : UInt32) : Mbed Unit := fun n => .done () { n with flags := flags }

/-- `iot_tls_init`. -/
def iotTlsInit : Mbed IoTError := fun n =>
  let params := env.given n.log.length
  .done .success ({ n with params := params, flags := 0 }.push .tlsInit)

/-- The parameters that `iot_tls_connect` may be given. -/
def overrideConnectParams : Option TLSConnectParams → Mbed Unit
  | none => return ()
  | some params => setConnectParams params

/-- Log that a connect begins. -/
def logConnecting : Mbed Unit := fun n => .done () (n.push (.connecting n.params))

/-- One test of the handshake loop; the loop gives whether the handshake succeeded. -/
def handshakePass (_ : Unit) : Mbed (Step Unit Bool) := do
  let ret ← mbedtls env .sslHandshake
  if ret = 0 then return .stop true
  if ret ≠ mbedtlsErrSslWantRead ∧ ret ≠ mbedtlsErrSslWantWrite then return .stop false
  return .again ()

/-- The objects in the order in which `iot_tls_connect` initialises them. -/
def initOrder : List TlsObject :=
  [.serverFd, .ssl, .conf, .ctrDrbg, .cacert, .clicert, .pkey, .entropy]

/-- The objects in the order in which `iot_tls_destroy` frees them. -/
def freeOrder : List TlsObject :=
  [.serverFd, .clicert, .cacert, .pkey, .ssl, .conf, .ctrDrbg, .entropy]

/-- The switch of `iot_tls_connect` over what `mbedtls_net_connect` returned. -/
def netConnectError (ret : Int) : IoTError :=
  if ret = mbedtlsErrNetSocketFailed then .networkErrNetSocketFailed
  else if ret = mbedtlsErrNetUnknownHost then .networkErrNetUnknownHost
  else .networkErrNetConnectFailed

/-- The part of `iot_tls_connect` up to the connection: credentials and the socket. -/
def loadAndConnect : Mbed IoTError := do
  let ret ← mbedtls env .ctrDrbgSeed
  if ret ≠ 0 then return .networkMbedtlsErrCtrDrbgEntropySourceFailed
  let params ← getParams
  let ret ← mbedtls env (.x509CrtParseFile .cacert params.pRootCALocation)
  -- a positive number counts certificates that were skipped
  if ret < 0 then return .networkX509RootCrtParseError
  let ret ← mbedtls env (.x509CrtParseFile .clicert params.pDeviceCertLocation)
  if ret ≠ 0 then return .networkX509DeviceCrtParseError
  let ret ← mbedtls env (.pkParseKeyfile params.pDevicePrivateKeyLocation)
  if ret ≠ 0 then return .networkPkPrivateKeyParseError
  let ret ← mbedtls env
    (.netConnect params.pDestinationURL (.ofNat params.destinationPort.toNat))
  if ret ≠ 0 then return netConnectError ret
  let ret ← mbedtls env .netSetBlock
  if ret ≠ 0 then return .sslConnectionError
  return .success

/-- The part of `iot_tls_connect` that configures TLS on the connection. -/
def configure : Mbed IoTError := do
  let params ← getParams
  let ret ← mbedtls env .sslConfigDefaults
  if ret ≠ 0 then return .sslConnectionError
  let _ ← mbedtls env .sslConfVerify
  let _ ← mbedtls env
    (.sslConfAuthmode (if params.serverVerificationFlag = true then .required else .optional))
  let _ ← mbedtls env .sslConfRng
  let _ ← mbedtls env .sslConfCaChain
  let ret ← mbedtls env .sslConfOwnCert
  if ret ≠ 0 then return .sslConnectionError
  let _ ← mbedtls env (.sslConfReadTimeout params.timeoutMs)
  let ret ← mbedtls env .sslSetup
  if ret ≠ 0 then return .sslConnectionError
  let ret ← mbedtls env (.sslSetHostname params.pDestinationURL)
  if ret ≠ 0 then return .sslConnectionError
  let _ ← mbedtls env .sslSetBio
  return .success

/-- The part of `iot_tls_connect` that asks for the result of the verification. -/
def verify : Mbed IoTError := do
  let params ← getParams
  if params.serverVerificationFlag = true then
    let ret ← mbedtls env .sslGetVerifyResult
    setFlags (UInt32.ofInt ret)
    if ret ≠ 0 then return .sslConnectionError
    return .success
  return .success

/-- `IOT_SSL_READ_TIMEOUT`. -/
def iotSslReadTimeout : UInt32 := 10

/-- `iot_tls_connect`. -/
def iotTlsConnect (params : Option TLSConnectParams) : Mbed IoTError := do
  overrideConnectParams params
  logConnecting
  forEach (fun object => do let _ ← mbedtls env (.init object)) initOrder
  let rc ← loadAndConnect env
  if rc ≠ .success then return rc
  let rc ← configure env
  if rc ≠ .success then return rc
  let shaken ← loop (handshakePass env) fuel ()
  if ¬ shaken then return .sslConnectionError
  let _ ← mbedtls env .sslGetRecordExpansion
  let rc ← verify env
  let _ ← mbedtls env (.sslConfReadTimeout iotSslReadTimeout)
  return rc

/-- `iot_tls_disconnect`. -/
def iotTlsDisconnect : Mbed IoTError := do
  loop (fun (_ : Unit) => do
    let ret ← mbedtls env .sslCloseNotify
    if ret = mbedtlsErrSslWantWrite then return .again ()
    return .stop ()) fuel ()
  return .success

/-- `iot_tls_destroy`. -/
def iotTlsDestroy : Mbed IoTError := do
  forEach (fun object => do let _ ← mbedtls env (.free object)) freeOrder
  return .success

/-! ## Lists of calls -/

instance (ret : Int) : Decidable (WouldBlock ret) := inferInstanceAs (Decidable (_ ∨ _))

/-- The error that a call stands for which returned `ret` to `iot_tls_connect`. -/
def MbedCall.error (call : MbedCall) (ret : Int) : Option IoTError :=
  match call with
  | .ctrDrbgSeed => if ret ≠ 0 then some .networkMbedtlsErrCtrDrbgEntropySourceFailed else none
  | .x509CrtParseFile .cacert _ => if ret < 0 then some .networkX509RootCrtParseError else none
  | .x509CrtParseFile _ _ => if ret ≠ 0 then some .networkX509DeviceCrtParseError else none
  | .pkParseKeyfile _ => if ret ≠ 0 then some .networkPkPrivateKeyParseError else none
  | .netConnect .. => if ret ≠ 0 then some (netConnectError ret) else none
  | .netSetBlock | .sslConfigDefaults | .sslConfOwnCert | .sslSetup | .sslSetHostname _
  | .sslGetVerifyResult => if ret ≠ 0 then some .sslConnectionError else none
  | .sslHandshake =>
      if ret = 0 ∨ WouldBlock ret then none else some .sslConnectionError
  | _ => none

theorem netConnectError_ne_success (ret : Int) : netConnectError ret ≠ .success := by
  unfold netConnectError
  split
  · decide
  split
  · decide
  · decide

/-- No error is SUCCESS. -/
theorem MbedCall.error_ne_success {call : MbedCall} {ret : Int} {rc : IoTError}
    (h : call.error ret = some rc) : rc ≠ .success := by
  have hsome : ∀ {p : Prop} [Decidable p] {e : IoTError}, e ≠ .success →
      (if p then some e else none) = some rc → rc ≠ .success := by
    intro p _ e he hite
    obtain ⟨-, heq⟩ := Option.ite_none_right_eq_some.mp hite
    rw [← Option.some.inj heq]
    exact he
  have hnone : ∀ {p : Prop} [Decidable p] {e : IoTError}, e ≠ .success →
      (if p then none else some e) = some rc → rc ≠ .success := by
    intro p _ e he hite
    obtain ⟨-, heq⟩ := Option.ite_none_left_eq_some.mp hite
    rw [← Option.some.inj heq]
    exact he
  unfold MbedCall.error at h
  split at h
  all_goals first
    | exact hsome (netConnectError_ne_success ret) h
    | exact hsome (by decide) h
    | exact hnone (by decide) h
    | exact absurd h (by simp)

/-- Calls made in order, each unless one before it failed; a failure is the result. -/
inductive Goes : List MbedCall → IoTError → List TlsEvent → List TlsEvent → Prop where
  /-- No call is left. -/
  | finished {log : List TlsEvent} : Goes [] .success log log
  /-- A call fails. -/
  | failed {call : MbedCall} {calls : List MbedCall} {ret : Int} {rc : IoTError}
      {log : List TlsEvent} : call.error ret = some rc →
      Goes (call :: calls) rc log (.made call ret :: log)
  /-- A call does not fail. -/
  | passed {call : MbedCall} {calls : List MbedCall} {ret : Int} {rc : IoTError}
      {log log' : List TlsEvent} : call.error ret = none →
      Goes calls rc (.made call ret :: log) log' → Goes (call :: calls) rc log log'

/-- What `iot_tls_connect` does up to the connection. -/
def loadCalls (params : TLSConnectParams) : List MbedCall :=
  [.ctrDrbgSeed, .x509CrtParseFile .cacert params.pRootCALocation,
    .x509CrtParseFile .clicert params.pDeviceCertLocation,
    .pkParseKeyfile params.pDevicePrivateKeyLocation,
    .netConnect params.pDestinationURL (.ofNat params.destinationPort.toNat), .netSetBlock]

/-- How far the certificate of the server is verified. -/
def TLSConnectParams.authMode (params : TLSConnectParams) : AuthMode :=
  if params.serverVerificationFlag = true then .required else .optional

/-- How `iot_tls_connect` configures TLS. -/
def configureCalls (params : TLSConnectParams) : List MbedCall :=
  [.sslConfigDefaults, .sslConfVerify, .sslConfAuthmode params.authMode, .sslConfRng,
    .sslConfCaChain, .sslConfOwnCert, .sslConfReadTimeout params.timeoutMs, .sslSetup,
    .sslSetHostname params.pDestinationURL, .sslSetBio]

/-- What `iot_tls_connect` does up to the handshake. -/
def setupCalls (params : TLSConnectParams) : List MbedCall :=
  initOrder.map .init ++ (loadCalls params ++ configureCalls params)

/-- What `iot_tls_connect` asks after the handshake. -/
def verifyCalls (params : TLSConnectParams) : List MbedCall :=
  if params.serverVerificationFlag = true then [.sslGetVerifyResult] else []

section Lists

variable {env : MbedEnv} {n : TlsNetwork} {H : TlsNetwork → Prop}

@[simp] theorem ends_mbedtls {call : MbedCall} {Q : Int → TlsNetwork → Prop} :
    (mbedtls env call).Ends n Q H ↔ Q (n.answer env) (n.push (.made call (n.answer env))) :=
  Iff.rfl

@[simp] theorem ends_getParams {Q : TLSConnectParams → TlsNetwork → Prop} :
    getParams.Ends n Q H ↔ Q n.params n := Iff.rfl

@[simp] theorem ends_setFlags {flags : UInt32} {Q : Unit → TlsNetwork → Prop} :
    (setFlags flags).Ends n Q H ↔ Q () { n with flags := flags } := Iff.rfl

/-- From `n` the calls `calls` are made; the parameters stay. -/
def Calls (calls : List MbedCall) (n : TlsNetwork) (rc : IoTError) (n' : TlsNetwork) : Prop :=
  n'.params = n.params ∧ Goes calls rc n.log n'.log

/-- Calls whose outcome nobody looks at. -/
theorem forEach_calls {objects : List TlsObject} {make : TlsObject → MbedCall}
    (hmake : ∀ object ret, (make object).error ret = none) :
    (forEach (fun object => do let _ ← mbedtls env (make object)) objects).Ends n
      (fun _ => Calls (objects.map make) n .success) (fun _ => False) := by
  induction objects generalizing n with
  | nil => exact ⟨rfl, .finished⟩
  | cons object objects ih =>
    rw [forEach, ends_bind, ends_bind, ends_mbedtls, ends_pure]
    apply ih.mono _ (fun _ h => h)
    rintro _ n' ⟨hparams, hgoes⟩
    exact ⟨hparams, .passed (hmake object _) hgoes⟩

/-- A call whose outcome is looked at ends the function, or the rest goes on. -/
theorem checked_calls {call : MbedCall} {calls : List MbedCall} {rc : Int → IoTError}
    {p : Int → Prop} [DecidablePred p] {rest : Mbed IoTError}
    (herror : ∀ ret, call.error ret = if p ret then some (rc ret) else none)
    (hrest : ∀ n' : TlsNetwork, n'.params = n.params →
      rest.Ends n' (Calls calls n') (fun _ => False)) :
    (mbedtls env call >>= fun ret => if p ret then pure (rc ret) else rest).Ends n
      (Calls (call :: calls) n) (fun _ => False) := by
  rw [ends_bind, ends_mbedtls, ends_ite]
  split
  case isTrue hret =>
    exact ⟨rfl, .failed ((herror _).trans (if_pos hret))⟩
  case isFalse hret =>
    apply (hrest (n.push _) rfl).mono _ (fun _ h => h)
    rintro rc' n' ⟨hparams, hgoes⟩
    exact ⟨hparams, .passed ((herror _).trans (if_neg hret)) hgoes⟩

/-- The rest goes on after a call whose outcome is not looked at. -/
theorem unchecked_calls {call : MbedCall} {calls : List MbedCall} {rest : Mbed IoTError}
    (herror : ∀ ret, call.error ret = none)
    (hrest : ∀ n' : TlsNetwork, n'.params = n.params →
      rest.Ends n' (Calls calls n') (fun _ => False)) :
    (mbedtls env call >>= fun _ => rest).Ends n (Calls (call :: calls) n) (fun _ => False) := by
  rw [ends_bind, ends_mbedtls]
  apply (hrest (n.push _) rfl).mono _ (fun _ h => h)
  rintro rc' n' ⟨hparams, hgoes⟩
  exact ⟨hparams, .passed (herror _) hgoes⟩

theorem finished_calls : (pure .success : Mbed IoTError).Ends n (Calls [] n) (fun _ => False) :=
  ⟨rfl, .finished⟩

theorem loadAndConnect_calls : (loadAndConnect env).Ends n (Calls (loadCalls n.params) n)
    (fun _ => False) := by
  unfold loadAndConnect loadCalls
  apply checked_calls (fun _ => rfl)
  intro n₁ h₁
  rw [ends_bind, ends_getParams, h₁]
  apply checked_calls (fun _ => rfl)
  intro n₂ _
  apply checked_calls (fun _ => rfl)
  intro n₃ _
  apply checked_calls (fun _ => rfl)
  intro n₄ _
  apply checked_calls (fun _ => rfl)
  intro n₅ _
  apply checked_calls (fun _ => rfl)
  intro _ _
  exact finished_calls

theorem configure_calls : (configure env).Ends n (Calls (configureCalls n.params) n)
    (fun _ => False) := by
  unfold configure configureCalls TLSConnectParams.authMode
  rw [ends_bind, ends_getParams]
  apply checked_calls (fun _ => rfl)
  intro n₁ _
  apply unchecked_calls (fun _ => rfl)
  intro n₂ _
  apply unchecked_calls (fun _ => rfl)
  intro n₃ _
  apply unchecked_calls (fun _ => rfl)
  intro n₄ _
  apply unchecked_calls (fun _ => rfl)
  intro n₅ _
  apply checked_calls (fun _ => rfl)
  intro n₆ _
  apply unchecked_calls (fun _ => rfl)
  intro n₇ _
  apply checked_calls (fun _ => rfl)
  intro n₈ _
  apply checked_calls (fun _ => rfl)
  intro n₉ _
  apply unchecked_calls (fun _ => rfl)
  intro _ _
  exact finished_calls

theorem verify_calls : (verify env).Ends n (Calls (verifyCalls n.params) n)
    (fun _ => False) := by
  unfold verify verifyCalls
  rw [ends_bind, ends_getParams, ends_ite]
  split
  · rw [ends_bind, ends_mbedtls, ends_bind, ends_setFlags, ends_ite]
    split
    case isTrue hret => exact ⟨rfl, .failed (if_pos hret)⟩
    case isFalse hret => exact ⟨rfl, .passed (if_neg hret) .finished⟩
  · exact finished_calls

/-- Handshakes that would block, after which another one is due. -/
inductive Waits (log : List TlsEvent) : List TlsEvent → Prop where
  | started : Waits log log
  | blocked {ret : Int} {log' : List TlsEvent} : WouldBlock ret → Waits log log' →
      Waits log (.made .sslHandshake ret :: log')

/-- The handshake ends, and the flag says how. -/
def Shakes (shaken : Bool) (log log' : List TlsEvent) : Prop :=
  ∃ ret log₁, Waits log log₁ ∧ log' = .made .sslHandshake ret :: log₁ ∧ ¬ WouldBlock ret ∧
    (shaken = true ↔ ret = 0)

theorem handshake_shakes {env : MbedEnv} {fuel : Nat} {n : TlsNetwork} :
    (loop (handshakePass env) fuel ()).Ends n
      (fun shaken n' => n'.params = n.params ∧ Shakes shaken n.log n'.log)
      (fun n' => n'.params = n.params ∧ Waits n.log n'.log) := by
  have hstart : n.params = n.params ∧ Waits n.log n.log := ⟨rfl, .started⟩
  apply ends_loop (I := fun _ n₁ => n₁.params = n.params ∧ Waits n.log n₁.log) _
    (fun _ _ h => h) fuel () n hstart
  rintro _ n₁ ⟨hparams, hwaits⟩
  unfold handshakePass
  simp only [ends_bind, ends_mbedtls, ends_ite, ends_pure]
  split
  case isTrue hzero =>
    exact ⟨hparams, _, _, hwaits, rfl, by rw [hzero]; decide, by simp [hzero]⟩
  split
  case isTrue hzero hfailed =>
    exact ⟨hparams, _, _, hwaits, rfl, not_or.mpr hfailed, by simp [hzero]⟩
  case isFalse hzero hblocked =>
    exact ⟨hparams, .blocked (Decidable.or_iff_not_not_and_not.mpr hblocked) hwaits⟩

end Lists

/-! ## Connecting -/

/-- How `iot_tls_connect` ends with `params`. -/
inductive Connects (params : TLSConnectParams) : IoTError → List TlsEvent → List TlsEvent →
    Prop where
  /-- A call before the handshake fails. -/
  | unready {rc : IoTError} {log log' : List TlsEvent} : Goes (setupCalls params) rc log log' →
      rc ≠ .success → Connects params rc log log'
  /-- The handshake fails. -/
  | unshaken {log log₁ log' : List TlsEvent} : Goes (setupCalls params) .success log log₁ →
      Shakes false log₁ log' → Connects params .sslConnectionError log log'
  /-- The handshake succeeds, and the verification decides. -/
  | shaken {rc : IoTError} {log log₁ log₂ log₃ : List TlsEvent} {ret₁ ret₂ : Int} :
      Goes (setupCalls params) .success log log₁ → Shakes true log₁ log₂ →
      Goes (verifyCalls params) rc (.made .sslGetRecordExpansion ret₁ :: log₂) log₃ →
      Connects params rc log (.made (.sslConfReadTimeout iotSslReadTimeout) ret₂ :: log₃)

theorem Goes.append {calls calls' : List MbedCall} {rc rc' : IoTError}
    {log log₁ log' : List TlsEvent} (h : Goes calls rc log log₁) (hrc : rc = .success)
    (h' : Goes calls' rc' log₁ log') : Goes (calls ++ calls') rc' log log' := by
  induction h with
  | finished => exact h'
  | failed hfailed => exact absurd hrc (MbedCall.error_ne_success hfailed)
  | passed hpassed _ ih => exact .passed hpassed (ih hrc h')

theorem Goes.append_failed {calls : List MbedCall} {rc : IoTError} {log log' : List TlsEvent}
    (h : Goes calls rc log log') (hrc : rc ≠ .success) (calls' : List MbedCall) :
    Goes (calls ++ calls') rc log log' := by
  induction h with
  | finished => exact absurd rfl hrc
  | failed hfailed => exact .failed hfailed
  | passed hpassed _ ih => exact .passed hpassed (ih hrc)

/-- The parameters in force. -/
def TLSConnectParams.override (params : TLSConnectParams) (given : Option TLSConnectParams) :
    TLSConnectParams := given.getD params

/-- How `iot_tls_connect` ends, or where it is when it goes on shaking hands. -/
theorem iotTlsConnect_connects {env : MbedEnv} {fuel : Nat} {n : TlsNetwork}
    (given : Option TLSConnectParams) :
    (iotTlsConnect env fuel given).Ends n
      (fun rc n' => n'.params = n.params.override given ∧
        Connects (n.params.override given) rc
          (.connecting (n.params.override given) :: n.log) n'.log)
      (fun n' => ∃ log₁, Goes (setupCalls (n.params.override given)) .success
        (.connecting (n.params.override given) :: n.log) log₁ ∧ Waits log₁ n'.log) := by
  have hoverride : (overrideConnectParams given >>= fun _ => logConnecting).Ends n
      (fun _ n₁ => n₁.params = n.params.override given ∧
        n₁.log = .connecting (n.params.override given) :: n.log) (fun _ => False) := by
    cases given with
    | none => exact ⟨rfl, rfl⟩
    | some params => exact ⟨rfl, rfl⟩
  generalize n.params.override given = params at hoverride ⊢
  unfold iotTlsConnect
  rw [ends_bind] at hoverride ⊢
  apply hoverride.mono _ (fun _ h => h.elim)
  intro _ n₀ hlogged
  rw [ends_bind]
  apply hlogged.mono _ (fun _ h => h.elim)
  rintro _ n₁ ⟨rfl, hlog⟩
  rw [ends_bind]
  apply (forEach_calls fun _ _ => rfl).mono _ (fun _ h => h.elim)
  rintro _ n₂ ⟨hparams₂, hinit⟩
  rw [ends_bind]
  apply loadAndConnect_calls.mono _ (fun _ h => h.elim)
  rintro rc n₃ ⟨hparams₃, hload⟩
  rw [hparams₂] at hparams₃ hload
  rw [← hlog]
  rw [ends_ite]
  split
  case isTrue hrc =>
    have hunready := hinit.append rfl (hload.append_failed hrc (configureCalls n₁.params))
    exact ⟨hparams₃, .unready hunready hrc⟩
  case isFalse hrc =>
  obtain rfl := not_not.mp hrc
  rw [ends_bind]
  apply configure_calls.mono _ (fun _ h => h.elim)
  rintro rc n₄ ⟨hparams₄, hconfigure⟩
  rw [hparams₃] at hparams₄ hconfigure
  have hsetup : Goes (setupCalls n₁.params) rc n₁.log n₄.log :=
    hinit.append rfl (hload.append rfl hconfigure)
  rw [ends_ite]
  split
  case isTrue hrc => exact ⟨hparams₄, .unready hsetup hrc⟩
  case isFalse hrc =>
  obtain rfl := not_not.mp hrc
  rw [ends_bind]
  apply handshake_shakes.mono _ (fun n' h => ⟨n₄.log, hsetup, h.2⟩)
  rintro shaken n₅ ⟨hparams₅, hshakes⟩
  rw [hparams₄] at hparams₅
  rw [ends_ite]
  split
  case isTrue hshaken =>
    rw [eq_false_of_ne_true hshaken] at hshakes
    exact ⟨hparams₅, .unshaken hsetup hshakes⟩
  case isFalse hshaken =>
  rw [not_not.mp hshaken] at hshakes
  rw [ends_bind, ends_mbedtls, ends_bind]
  apply verify_calls.mono _ (fun _ h => h.elim)
  rintro rc n₆ ⟨hparams₆, hverify⟩
  rw [TlsNetwork.params_push, hparams₅] at hparams₆ hverify
  exact ⟨hparams₆, .shaken hsetup hshakes hverify⟩

end AwsIot.Linux
