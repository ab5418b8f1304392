/-
  Tirtos/Network.lean --- `platform/tirtos/network_sl.c`.

  The client calls the functions of this port through pointers in the network structure,
  which `iot_tls_init` sets and `iot_tls_destroy` clears.  What the socket and TLS libraries
  of the device answer is left to the surroundings; the calls into them are logged.
-/
import AwsIot.Linux.TlsConnect

set_option autoImplicit false

namespace AwsIot.Tirtos

open AwsIot.Foundation AwsIot.Foundation.Program
open AwsIot.Linux (TLSConnectParams)
open AwsIot.Mqtt (IoTError)

/-! ## Networks -/

/-- The function pointers of `Network`. -/
inductive NetFunction where
  | connect
  | read
  | write
  | disconnect
  | isConnected
  | destroy
  deriving DecidableEq, Repr

/-- Calls into the libraries of the device. -/
inductive SockCall where
  | tlsCreate
  | gethostbyname (host : CString)
  | socket
  | ssockCreate (skt : Int)
  | ssockStartTLS
  /-- `connect`, to the address that `gethostbyname` found. -/
  | connect (skt : Int) (port : UInt16)
  | ssockDelete
  | tlsDelete
  | close (skt : Int)
  | ssockSend (len : Nat)
  | ssockGetSocket
  /-- `setsockopt` of the receive timeout. -/
  | setsockopt (skt : Int) (usec : UInt32)
  | ssockRecvall (len : Nat)
  deriving DecidableEq

/-- A network structure, with the calls made for it, newest first. -/
structure Network where
  /-- `tlsConnectParams`. -/
  params : TLSConnectParams
  /-- The pointer is not NULL. -/
  pointers : NetFunction → Bool
  /-- `tlsDataParams.ssock`, `none` for NULL. -/
  ssock : Option Nat
  /-- `tlsDataParams.tlsH`, `none` for NULL. -/
  tlsH : Option Nat
  /-- The calls into the libraries. -/
  log : List SockCall
  /-- The pointer that was NULL when it was called, which ends the run. -/
  calledNull : Option NetFunction

/-- What the port finds around it. -/
structure SockEnv where
  /-- What call number `t` returns. -/
  answer : Nat → Int32
  /-- What call number `t` leaves in the handle that it is about. -/
  handle : Nat → Option Nat
  /-- What `left_ms` tells before call number `t`. -/
  left : Nat → UInt32
  /-- What `iot_tls_init` is given before call number `t`. -/
  given : Nat → TLSConnectParams
  /-- `Ssock_TIMEOUT`. -/
  timeout : Int

/-- A C function over a network structure. -/
abbrev Sock := Program Network

/-- The network structure after a call. -/
def Network.push (n : Network) (call : SockCall) : Network := { n with log := call :: n.log }

/-! ## The port -/

variable (env : SockEnv)

/-- `pNetwork`. -/
def getNetwork : Sock Network := fun n => .done n n

/-- Make a call. -/
def sock (call : SockCall) : Sock Int := fun n =>
  .done (env.answer n.log.length).toInt (n.push call)

/-- Make a call that sets `tlsDataParams.ssock`. -/
def setSsock (call : SockCall) : Sock (Option Nat) := fun n =>
  .done (env.handle n.log.length) { n.push call with ssock := env.handle n.log.length }

/-- Make a call that sets `tlsDataParams.tlsH`. -/
def setTlsH (call : SockCall) : Sock (Option Nat) := fun n =>
  .done (env.handle n.log.length) { n.push call with tlsH := env.handle n.log.length }

/-- `left_ms` of the timer that a read is given. -/
def leftMs : Sock UInt32 := fun n => .done (env.left n.log.length) n

/-- `iot_tls_init`. -/
def iotTlsInit : Sock IoTError := fun n =>
  .done .success { n with
    params := env.given n.log.length
    pointers := fun _ => true
    ssock := none
    tlsH := none }

/-- The part of `iot_tls_connect` up to the label: `ret` and `skt`. -/
def openSocket : Sock (IoTError × Int) := do
  let tlsH ← setTlsH env .tlsCreate
  -- `skt` is 0 as long as no socket was asked for
  if tlsH = none then return (.networkSslInitError, 0)
  let n ← getNetwork
  let ret ← sock env (.gethostbyname n.params.pDestinationURL)
  if ret < 0 then return (.networkErrNetUnknownHost, 0)
  let skt ← sock env .socket
  if skt < 0 then return (.networkErrNetSocketFailed, skt)
  let ssock ← setSsock env (.ssockCreate skt)
  if ssock = none then return (.networkErrNetSocketFailed, skt)
  let ret ← sock env .ssockStartTLS
  if ret ≠ 0 then return (.networkSslCertError, skt)
  let ret ← sock env (.connect skt n.params.destinationPort)
  if ret < 0 then return (.networkErrNetConnectFailed, skt)
  return (.success, skt)

/-- The part of `iot_tls_connect` behind the label, after an error. -/
def cleanUp (skt : Int) : Sock Unit := do
  let n ← getNetwork
  if n.ssock ≠ none then let _ ← setSsock env .ssockDelete
  if n.tlsH ≠ none then let _ ← setTlsH env .tlsDelete
  if skt ≥ 0 then let _ ← sock env (.close skt)

/-- `iot_tls_connect`. -/
def iotTlsConnect : Sock IoTError := do
  let opened ← openSocket env
  if opened.1 ≠ .success then cleanUp env opened.2
  return opened.1

/-- `iot_tls_write`: the return code, and `*numbytes` where it is assigned. -/
def iotTlsWrite (len : Nat) : Sock (IoTError × Option Nat) := do
  let n ← getNetwork
  if n.ssock = none then return (.nullValueError, none)
  let bytes ← sock env (.ssockSend len)
  if bytes > 0 then return (.success, some bytes.toNat)
  return (.networkSslWriteError, none)

/-- `iot_tls_read`: the return code, and `*numbytes` where it is assigned. -/
def iotTlsRead (len : Nat) : Sock (IoTError × Option Nat) := do
  let n ← getNetwork
  if n.ssock = none then return (.nullValueError, none)
  let left ← leftMs env
  let skt ← sock env .ssockGetSocket
  let ret ← sock env (.setsockopt skt ((if left = 0 then 1 else left) * 1000))
  if ret ≠ 0 then return (.networkSslReadError, none)
  let bytes ← sock env (.ssockRecvall len)
  if bytes > 0 then return (.success, some bytes.toNat)
  if bytes = env.timeout then return (.networkSslNothingToRead, none)
  return (.networkSslReadError, none)

/-- `iot_tls_disconnect`.  The handle that is deleted is a copy: `tlsDataParams.ssock` keeps
what it held. -/
def iotTlsDisconnect : Sock IoTError := do
  let n ← getNetwork
  if n.ssock = none then return .nullValueError
  let _ ← setTlsH env .tlsDelete
  let skt ← sock env .ssockGetSocket
  let _ ← sock env .ssockDelete
  let _ ← sock env (.close skt)
  return .success

/-- `iot_tls_destroy`. -/
def iotTlsDestroy : Sock IoTError := fun n =>
  .done .success { n with pointers := fun _ => false }

/-- A call through a function pointer; a call through NULL ends the run. -/
def through {α : Type} (f : NetFunction) (x : Sock α) : Sock α := fun n =>
  if n.pointers f then x n else .halted { n with calledNull := some f }

/-! ## What the functions leave alone -/

/-- The function pointers are as they were, and none was called that is NULL. -/
def KeepsPointers (n n' : Network) : Prop :=
  n'.pointers = n.pointers ∧ n'.calledNull = n.calledNull

instance : IsPreorder Network KeepsPointers where
  refl _ := ⟨rfl, rfl⟩
  trans _ _ _ h h' := ⟨h'.1.trans h.1, h'.2.trans h.2⟩

/-- Functions that leave the pointers alone. -/
abbrev LeavesPointers {α : Type} (x : Sock α) : Prop := Keeps KeepsPointers x

section Frame

variable {env : SockEnv}

theorem leavesPointers_compositional : Compositional (m := Sock) LeavesPointers :=
  keeps_compositional KeepsPointers

theorem getNetwork_leaves : LeavesPointers getNetwork := fun _ => ⟨rfl, rfl⟩

theorem sock_leaves (call : SockCall) : LeavesPointers (sock env call) := fun _ => ⟨rfl, rfl⟩

theorem setSsock_leaves (call : SockCall) : LeavesPointers (setSsock env call) :=
  fun _ => ⟨rfl, rfl⟩

theorem setTlsH_leaves (call : SockCall) : LeavesPointers (setTlsH env call) :=
  fun _ => ⟨rfl, rfl⟩

theorem leftMs_leaves : LeavesPointers (leftMs env) := fun _ => ⟨rfl, rfl⟩

theorem openSocket_leaves : LeavesPointers (openSocket env) := by
  have hcomp : Compositional (m := Sock) LeavesPointers := leavesPointers_compositional
  unfold openSocket
  refine hcomp.bind (setTlsH_leaves _) fun tlsH => hcomp.ite (fun _ => hcomp.pure _) fun _ => ?_
  refine hcomp.bind getNetwork_leaves fun n => hcomp.bind (sock_leaves _) fun ret => ?_
  refine hcomp.ite (fun _ => hcomp.pure _) fun _ => hcomp.bind (sock_leaves _) fun skt => ?_
  refine hcomp.ite (fun _ => hcomp.pure _) fun _ => hcomp.bind (setSsock_leaves _) fun ssock => ?_
  refine hcomp.ite (fun _ => hcomp.pure _) fun _ => hcomp.bind (sock_leaves _) fun ret => ?_
  refine hcomp.ite (fun _ => hcomp.pure _) fun _ => hcomp.bind (sock_leaves _) fun ret => ?_
  exact hcomp.ite (fun _ => hcomp.pure _) fun _ => hcomp.pure _

theorem cleanUp_leaves (skt : Int) : LeavesPointers (cleanUp env skt) := by
  have hcomp : Compositional (m := Sock) LeavesPointers := leavesPointers_compositional
  have hclose : LeavesPointers (do
      if skt ≥ 0 then let _ ← sock env (.close skt) : Sock Unit) := by
    refine hcomp.ite (fun _ => ?_) fun _ => hcomp.pure _
    exact hcomp.bind (sock_leaves _) fun _ => hcomp.pure _
  unfold cleanUp
  refine hcomp.bind getNetwork_leaves fun n => ?_
  have htls : LeavesPointers (do
      if n.tlsH ≠ none then let _ ← setTlsH env .tlsDelete
      if skt ≥ 0 then let _ ← sock env (.close skt) : Sock Unit) := by
    refine hcomp.ite (fun _ => ?_) fun _ => hclose
    exact hcomp.bind (setTlsH_leaves _) fun _ => hclose
  refine hcomp.ite (fun _ => ?_) fun _ => htls
  exact hcomp.bind (setSsock_leaves _) fun _ => htls

theorem iotTlsConnect_leaves : LeavesPointers (iotTlsConnect env) := by
  have hcomp : Compositional (m := Sock) LeavesPointers := leavesPointers_compositional
  unfold iotTlsConnect
  refine hcomp.bind openSocket_leaves fun opened => hcomp.ite (fun _ => ?_) fun _ => hcomp.pure _
  exact hcomp.bind (cleanUp_leaves _) fun _ => hcomp.pure _

theorem iotTlsWrite_leaves (len : Nat) : LeavesPointers (iotTlsWrite env len) := by
  have hcomp : Compositional (m := Sock) LeavesPointers := leavesPointers_compositional
  unfold iotTlsWrite
  refine hcomp.bind getNetwork_leaves fun n => hcomp.ite (fun _ => hcomp.pure _) fun _ => ?_
  refine hcomp.bind (sock_leaves _) fun bytes => ?_
  exact hcomp.ite (fun _ => hcomp.pure _) fun _ => hcomp.pure _

theorem iotTlsRead_leaves (len : Nat) : LeavesPointers (iotTlsRead env len) := by
  have hcomp : Compositional (m := Sock) LeavesPointers := leavesPointers_compositional
  unfold iotTlsRead
  refine hcomp.bind getNetwork_leaves fun n => hcomp.ite (fun _ => hcomp.pure _) fun _ => ?_
  refine hcomp.bind leftMs_leaves fun left => hcomp.bind (sock_leaves _) fun skt => ?_
  refine hcomp.bind (sock_leaves _) fun ret => hcomp.ite (fun _ => hcomp.pure _) fun _ => ?_
  refine hcomp.bind (sock_leaves _) fun bytes => hcomp.ite (fun _ => hcomp.pure _) fun _ => ?_
  exact hcomp.ite (fun _ => hcomp.pure _) fun _ => hcomp.pure _

theorem iotTlsDisconnect_leaves : LeavesPointers (iotTlsDisconnect env) := by
  have hcomp : Compositional (m := Sock) LeavesPointers := leavesPointers_compositional
  unfold iotTlsDisconnect
  refine hcomp.bind getNetwork_leaves fun n => hcomp.ite (fun _ => hcomp.pure _) fun _ => ?_
  refine hcomp.bind (setTlsH_leaves _) fun _ => hcomp.bind (sock_leaves _) fun skt => ?_
  refine hcomp.bind (sock_leaves _) fun _ => hcomp.bind (sock_leaves _) fun _ => ?_
  exact hcomp.pure _

end Frame

end AwsIot.Tirtos
