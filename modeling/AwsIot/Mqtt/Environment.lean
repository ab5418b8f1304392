/-
  Mqtt/Environment.lean --- what surrounds the client.

  The network stack, the clock and the application are outside the client.  `Env`
  answers every question the client asks them, by the number of the question:
  every behaviour of the surroundings is some `Env`, so a statement about every
  `Env` is a statement about every outcome of every network function, every clock
  and every application handler.

  The client's code is written over `ClientOps`, the few things it does to the
  client, to the shared client state and to its surroundings.  `M` is its meaning
  for a client that one thread uses: a `World` is the client with the count of
  questions asked and a log, newest event first.  The log records what passed
  between the client and its surroundings, and marks the points of the code that
  properties of a run refer to; no modelled function reads it.
-/
import AwsIot.Foundation.Program
import AwsIot.Mqtt.Types
import AwsIot.Shadow.Types

set_option autoImplicit false

namespace AwsIot.Mqtt

open AwsIot.Foundation

/-! ## The surroundings -/

/-- What one `networkStack.read` does: its return code, the bytes it stores at
the destination and the count it reports. -/
structure ReadOutcome where
  /-- The return code. -/
  rc : IoTError
  /-- The bytes stored, cut to the requested length. -/
  bytes : List UInt8
  /-- The reported count, cut to the requested length. -/
  readLen : Nat
  deriving DecidableEq, Repr, Inhabited

/-- What one `networkStack.write` does: its return code and how many of the
offered bytes it took. -/
structure WriteOutcome where
  /-- The return code. -/
  rc : IoTError
  /-- The count taken, cut to the requested length. -/
  sentLen : Nat
  deriving DecidableEq, Repr, Inhabited

/-- The surroundings: the answer to every question, by its number. -/
structure Env where
  /-- The compile-time constants. -/
  config : Config
  /-- The clock in milliseconds, asked by `has_timer_expired` and `countdown_*`. -/
  clock : Nat → Nat
  /-- `iot_tls_init`. -/
  tlsInit : Nat → IoTError
  /-- `networkStack.connect`. -/
  connect : Nat → IoTError
  /-- `networkStack.read`. -/
  read : Nat → ReadOutcome
  /-- `networkStack.write`. -/
  write : Nat → WriteOutcome
  /-- `networkStack.destroy`. -/
  destroy : Nat → IoTError
  /-- `networkStack.isConnected`, `none` for a NULL function pointer. -/
  isConnected : Nat → Option IoTError
  /-- The next call a running message handler makes, `none` when it returns. -/
  messageHandler : Nat → Option ApiCall
  /-- The next call a running disconnect handler makes, `none` when it returns. -/
  disconnectHandler : Nat → Option ApiCall
  /-- What an automatic variable holds before it is assigned. -/
  indeterminate : Nat → UInt8

/-! ## Events -/

/-- The four calls of `networkStack.read` in
`_aws_iot_mqtt_internal_read_packet`. -/
inductive ReadSite where
  /-- The header byte, into `readBuf[0]`. -/
  | header
  /-- One byte of the remaining length, into a local variable. -/
  | remainingLength
  /-- A piece of a packet too long for `readBuf`. -/
  | drop
  /-- The body, behind the re-encoded remaining length. -/
  | body
  deriving DecidableEq, Repr, Inhabited

/-- A call of a message handler, with what it is given. -/
structure HandlerCall where
  /-- The slot of the handler table. -/
  slot : Nat
  /-- The application's handler. -/
  handler : Nat
  /-- The data registered with it. -/
  data : Nat
  /-- Where the topic name starts in the read buffer. -/
  topicNameAt : Nat
  /-- The bytes at the topic name's address, as many as its stated length. -/
  topicName : List UInt8
  /-- The bytes at the payload's address, as many as its stated length. -/
  payload : List UInt8
  deriving DecidableEq, Repr

/-- One entry of the log. -/
inductive Event where
  /-- `networkStack.connect` returned `rc`. -/
  | netConnect (rc : IoTError)
  /-- `networkStack.read` of `len` bytes to offset `offset`, asked in client state
  `state`, returned `rc`, reported `readLen` and stored `bytes`. -/
  | netRead (site : ReadSite) (state : ClientState) (offset len : Nat) (rc : IoTError)
      (readLen : Nat) (bytes : List UInt8)
  /-- `networkStack.write` was offered the bytes `offered` of the write buffer from
  index `offset` on, returned `rc` and reported `sentLen`. -/
  | netWrite (offset : Nat) (offered : List UInt8) (rc : IoTError) (sentLen : Nat)
  /-- `networkStack.disconnect` was called. -/
  | netDisconnect
  /-- `networkStack.destroy` returned `rc`. -/
  | netDestroy (rc : IoTError)
  /-- `send_packet` starts on `packet`. -/
  | sending (packet : List UInt8)
  /-- `send_packet` returned SUCCESS for `packet`. -/
  | sent (packet : List UInt8)
  /-- `read_packet` returned SUCCESS with `packet` in the read buffer. -/
  | packetRead (packet : List UInt8)
  /-- `wait_for_read` for a packet of type `packetType` returned `rc`. -/
  | waited (packetType : MessageType) (rc : IoTError)
  /-- A publish stored its packet id `id` in the message structure `index` of a running
  handler. -/
  | idStored (index : Nat) (id : UInt16)
  /-- A subscribe stored `handler` in slot `slot`. -/
  | registered (slot : Nat) (handler : MessageHandlers)
  /-- An unsubscribe emptied every slot whose filter compares equal to `filter`. -/
  | cleared (filter : CharPtr)
  /-- A client was initialised: the handler table is empty. -/
  | tableReset
  /-- `iot_tls_init` returned `rc`. -/
  | tlsInit (rc : IoTError)
  /-- Resubscribe turns to slot `slot`, which holds `handler`. -/
  | resubscribing (slot : Nat) (handler : MessageHandlers)
  /-- A failed connect cleans up the network in client state `state`. -/
  | connectCleanup (state : ClientState)
  /-- `_aws_iot_mqtt_internal_disconnect` destroyed the network with `rc`. -/
  | disconnectDestroyed (rc : IoTError)
  /-- A message handler is called. -/
  | handlerCalled (call : HandlerCall)
  /-- The message handler called last returned. -/
  | handlerReturned
  /-- The disconnect handler is over, in client state `state`. -/
  | disconnectHandled (state : ClientState)
  /-- A connect that succeeded is over, in client state `state`. -/
  | connectDone (state : ClientState)
  /-- A yield that lost the connection put the client into PENDING_RECONNECT, with auto
  reconnect `enabled`. -/
  | reconnectStarted (enabled : Bool)
  /-- `attempt_reconnect` asked for PENDING_RECONNECT, which returned `rc`, with auto
  reconnect `enabled`. -/
  | reconnectPending (rc : IoTError) (enabled : Bool)
  /-- A yield that waits to reconnect turns to the back-off interval `interval`, in client
  state `state`. -/
  | reconnectDue (state : ClientState) (interval : Nat)
  /-- An automatic attempt to reconnect failed after the back-off interval `interval`. -/
  | attemptFailed (interval : Nat)
  /-- An API call was made. -/
  | called (call : ApiCall)
  /-- An API call returned `rc`. -/
  | returned (call : ApiCall) (rc : IoTError)
  deriving DecidableEq, Repr

/-- What an event is about. -/
inductive EventKind where
  /-- Bytes of the network, and waits. -/
  | traffic
  /-- A packet that was read. -/
  | packet
  /-- The start or the end of a message handler. -/
  | handler
  /-- The start or the end of an API call. -/
  | call
  /-- The network connection and the client's life. -/
  | connection
  /-- A turn of the resubscribe loop. -/
  | turn
  /-- An update of the handler table. -/
  | table
  deriving DecidableEq, Repr

/-- The kind of an event. -/
def Event.kind : Event → EventKind
  | .netRead .. | .netWrite .. | .sending _ | .sent _ | .waited .. | .idStored .. => .traffic
  | .packetRead _ => .packet
  | .handlerCalled _ | .handlerReturned => .handler
  | .called _ | .returned .. => .call
  | .netConnect _ | .netDisconnect | .netDestroy _ | .tlsInit _ | .connectCleanup _
  | .disconnectDestroyed _ | .disconnectHandled _ | .connectDone _ | .reconnectStarted _
  | .reconnectPending .. | .reconnectDue .. | .attemptFailed _ => .connection
  | .resubscribing .. => .turn
  | .registered .. | .cleared _ | .tableReset => .table

/-- The event is about reconnecting. -/
def Event.isReconnect : Event → Bool
  | .connectDone _ | .reconnectStarted _ | .reconnectPending .. | .reconnectDue ..
  | .attemptFailed _ => true
  | _ => false

/-! ## Client programs -/

/-- The call sites of `aws_iot_mqtt_set_client_state`. -/
inductive StateSite where
  /-- `connect`: to CONNECTING, result ignored. -/
  | connectEnter
  /-- `connect`: CONNECTING to DISCONNECTED_ERROR. -/
  | connectFailed
  /-- `connect`: CONNECTING to CONNECTED_IDLE. -/
  | connectDone
  /-- `publish`, `subscribe`, `unsubscribe`, `resubscribe`: admission. -/
  | requestEnter
  /-- `publish`, `subscribe`, `unsubscribe`, `resubscribe`: back to the saved state. -/
  | requestLeave
  /-- `unsubscribe`: the attempt to undo an admission that failed. -/
  | unsubscribeUndo
  /-- `deliver_message`: to WAIT_FOR_CB_RETURN, result ignored. -/
  | deliverEnter
  /-- `deliver_message`: back to the saved state. -/
  | deliverLeave
  /-- `yield`: admission. -/
  | yieldEnter
  /-- `yield`: back to CONNECTED_IDLE. -/
  | yieldLeave
  /-- `internal_yield`: DISCONNECTED_ERROR to PENDING_RECONNECT. -/
  | yieldPending
  /-- `handle_reconnect`: CONNECTED_IDLE to CONNECTED_YIELD_IN_PROGRESS. -/
  | yieldReconnected
  /-- `disconnect`: to DISCONNECTING. -/
  | disconnectEnter
  /-- `attempt_reconnect`: DISCONNECTED_ERROR to PENDING_RECONNECT. -/
  | reconnectPending
  deriving DecidableEq, Repr, Inhabited

/-- The internal functions that do the work of an operation. -/
inductive Operation where
  | connect
  | publish
  | subscribe
  | unsubscribe
  | resubscribe
  | yield
  deriving DecidableEq, Repr, Inhabited

/-- What a stretch of a program is executing. -/
inductive Mark where
  /-- The body of an operation's internal function. -/
  | body (operation : Operation)
  /-- A handler of the application. -/
  | callback
  /-- A call of the application to the client. -/
  | call
  deriving DecidableEq, Repr, Inhabited

/-- What the client's code can do.  The code is written once over this interface;
`M` below runs it alone, and the thread model runs several calls side by side. -/
class ClientOps (m : Type → Type) where
  /-- Read the client, apart from its state. -/
  getClient : m Client
  /-- Update the client, apart from its state. -/
  modifyClient (f : Client → Client) : m Unit
  /-- Ask the surroundings the next question. -/
  ask {α : Type} (f : Nat → α) : m α
  /-- Append an event to the log. -/
  emit (e : Client → Event) : m Unit
  /-- `aws_iot_mqtt_get_client_state`. -/
  getClientState : m ClientState
  /-- `aws_iot_mqtt_set_client_state`. -/
  setClientState (site : StateSite) (expectedCurrentState newState : ClientState) : m IoTError
  /-- An assignment to `clientStatus.clientState` that bypasses `set_client_state`. -/
  assignClientState (newState : ClientState) : m Unit
  /-- Run a stretch of a program under a mark. -/
  within {α : Type} (mark : Mark) (x : m α) : m α

export ClientOps (getClient modifyClient ask emit getClientState setClientState
  assignClientState within)

section Effects

variable {m : Type → Type} [Monad m] [Halting m] [ClientOps m] (env : Env)

/-! ## Timers -/

/-- `init_timer`: an initialised timer has expired. -/
def initTimer : Timer := 0

/-- `has_timer_expired`. -/
def hasTimerExpired (timer : Timer) : m Bool := do
  let now ← ask env.clock
  return decide (timer ≤ now)

/-- `countdown_ms`: the timer that expires in `timeout` milliseconds. -/
def countdownMs (timeout : Nat) : m Timer := do
  let now ← ask env.clock
  return now + timeout

/-- `countdown_sec`: the timer that expires in `timeout` seconds. -/
def countdownSec (timeout : Nat) : m Timer := do
  let now ← ask env.clock
  return now + 1000 * timeout

/-! ## The network stack -/

/-- `networkStack.connect`. -/
def netConnect : m IoTError := do
  let rc ← ask env.connect
  emit fun _ => .netConnect rc
  return rc

/-- `networkStack.read` of `len` bytes into `readBuf + offset`: the return code
and `*read_len`. -/
def netRead (site : ReadSite) (offset len : Nat) : m (IoTError × Nat) := do
  let out ← ask env.read
  let readLen := min out.readLen len
  emit fun c => .netRead site c.clientState offset len out.rc readLen (out.bytes.take len)
  modifyClient fun c =>
    { c with readBuf := c.readBuf.writeAt offset (out.bytes.take len) }
  return (out.rc, readLen)

/-- `networkStack.read` of one byte into a local variable: the return code,
`*read_len` and the byte the variable holds afterwards. -/
def netReadByte (site : ReadSite) (before : UInt8) : m (IoTError × Nat × UInt8) := do
  let out ← ask env.read
  let readLen := min out.readLen 1
  emit fun c => .netRead site c.clientState 0 1 out.rc readLen (out.bytes.take 1)
  return (out.rc, readLen, out.bytes.headD before)

/-- `networkStack.write` of `len` bytes from `writeBuf + offset`: the return code
and `*sentLen`. -/
def netWrite (offset len : Nat) : m (IoTError × Nat) := do
  let out ← ask env.write
  let sentLen := min out.sentLen len
  emit fun c => .netWrite offset (c.writeBuf.slice offset len) out.rc sentLen
  return (out.rc, sentLen)

/-- `networkStack.disconnect`. -/
def netDisconnect : m Unit := emit fun _ => .netDisconnect

/-- `networkStack.destroy`. -/
def netDestroy : m IoTError := do
  let rc ← ask env.destroy
  emit fun _ => .netDestroy rc
  return rc

end Effects

/-! ## One thread -/

/-- An event with the moment at which it was logged. -/
structure Moment where
  /-- The event. -/
  event : Event
  /-- How many questions the client had asked. -/
  time : Nat
  /-- The client. -/
  client : Client

/-- The program and its surroundings at one moment. -/
structure World where
  /-- The client. -/
  client : Client
  /-- How many questions the client has asked. -/
  time : Nat
  /-- What has happened, newest first. -/
  log : List Event
  /-- The moments at which it happened, newest first. -/
  history : List Moment
  /-- The static storage of the shadow layer, which the client does not touch. -/
  shadow : Shadow.Records

namespace World

/-- Replace the client by its image under `f`. -/
def onClient (w : World) (f : Client → Client) : World := { w with client := f w.client }

/-- Append `e` to the log. -/
def push (w : World) (e : Event) : World :=
  { w with log := e :: w.log, history := ⟨e, w.time, w.client⟩ :: w.history }

/-- Count one question. -/
def tick (w : World) : World := { w with time := w.time + 1 }

/-- Replace the client state. -/
def withState (w : World) (s : ClientState) : World :=
  w.onClient fun c => { c with clientState := s }

/-- Replace the static storage of the shadow layer by its image under `f`. -/
def onShadow (w : World) (f : Shadow.Records → Shadow.Records) : World :=
  { w with shadow := f w.shadow }

/-- What happened since the earlier world `w`, newest first. -/
def since (w w' : World) : List Event := w'.log.take (w'.log.length - w.log.length)

variable (w : World) (f : Client → Client) (e : Event) (s : ClientState)

@[simp] theorem client_onClient : (w.onClient f).client = f w.client := rfl
@[simp] theorem log_onClient : (w.onClient f).log = w.log := rfl
@[simp] theorem time_onClient : (w.onClient f).time = w.time := rfl
@[simp] theorem client_push : (w.push e).client = w.client := rfl
@[simp] theorem log_push : (w.push e).log = e :: w.log := rfl
@[simp] theorem time_push : (w.push e).time = w.time := rfl
@[simp] theorem history_onClient : (w.onClient f).history = w.history := rfl
@[simp] theorem history_push :
    (w.push e).history = ⟨e, w.time, w.client⟩ :: w.history := rfl
@[simp] theorem history_tick : w.tick.history = w.history := rfl
@[simp] theorem history_withState : (w.withState s).history = w.history := rfl
@[simp] theorem client_tick : w.tick.client = w.client := rfl
@[simp] theorem log_tick : w.tick.log = w.log := rfl
@[simp] theorem time_tick : w.tick.time = w.time + 1 := rfl
@[simp] theorem log_withState : (w.withState s).log = w.log := rfl
@[simp] theorem time_withState : (w.withState s).time = w.time := rfl
@[simp] theorem clientState_withState : (w.withState s).client.clientState = s := rfl
@[simp] theorem messageHandlers_withState :
    (w.withState s).client.messageHandlers = w.client.messageHandlers := rfl

@[simp] theorem client_onShadow (g : Shadow.Records → Shadow.Records) :
    (w.onShadow g).client = w.client := rfl
@[simp] theorem shadow_onShadow (g : Shadow.Records → Shadow.Records) :
    (w.onShadow g).shadow = g w.shadow := rfl
@[simp] theorem shadow_onClient : (w.onClient f).shadow = w.shadow := rfl
@[simp] theorem shadow_push : (w.push e).shadow = w.shadow := rfl
@[simp] theorem shadow_tick : w.tick.shadow = w.shadow := rfl
@[simp] theorem shadow_withState : (w.withState s).shadow = w.shadow := rfl

theorem since_of_append {w w' : World} {l : List Event} (h : w'.log = l ++ w.log) :
    w.since w' = l := by
  simp [since, h]

end World

/-- A client in static storage before its first use. -/
def zeroedClient : Client where
  pingTimer := 0
  reconnectDelayTimer := 0
  clientState := .invalid
  isPingOutstanding := false
  isAutoReconnectEnabled := false
  nextPacketId := 0
  commandTimeoutMs := 0
  keepAliveInterval := 0
  currentReconnectWaitInterval := 0
  counterNetworkDisconnected := 0
  writeBufSize := 0
  readBufSize := 0
  writeBuf := fun _ => 0
  readBuf := fun _ => 0
  options := connectParamsInitializer
  messageHandlers := fun _ => ⟨none, 0, .qos0, none, 0⟩
  disconnectHandler := false
  receivedIds := []

/-- The start of a run: nothing has happened yet. -/
def World.start : World := ⟨zeroedClient, 0, [], [], Shadow.zeroedRecords⟩

/-- Surroundings in which nothing goes wrong and nothing arrives: every network
function succeeds, writes take everything, and no handler calls back. -/
def quietEnv : Env where
  config := {}
  clock n := n
  tlsInit _ := .success
  connect _ := .success
  read _ := ⟨.networkSslNothingToRead, [], 0⟩
  write _ := ⟨.success, 65536⟩
  destroy _ := .success
  isConnected _ := some .networkPhysicalLayerConnected
  messageHandler _ := none
  disconnectHandler _ := none
  indeterminate _ := 0

/-- Programs of a client used by one thread, built without
`_ENABLE_THREAD_SUPPORT_`. -/
abbrev M := Program World

instance : ClientOps M where
  getClient := fun w => .done w.client w
  modifyClient f := fun w => .done () (w.onClient f)
  ask f := fun w => .done (f w.time) w.tick
  emit e := fun w => .done () (w.push (e w.client))
  getClientState := fun w => .done w.client.clientState w
  setClientState _ expectedCurrentState newState := fun w =>
    if expectedCurrentState = w.client.clientState then .done .success (w.withState newState)
    else .done .mqttUnexpectedClientStateError w
  assignClientState newState := fun w => .done () (w.withState newState)
  within _ x := x

section Rules

open Program

variable {w : World} {H : World → Prop}

@[simp] theorem ends_getClient {Q : Client → World → Prop} :
    (getClient : M Client).Ends w Q H ↔ Q w.client w := Iff.rfl

@[simp] theorem ends_modifyClient {f : Client → Client} {Q : Unit → World → Prop} :
    (modifyClient f : M Unit).Ends w Q H ↔ Q () (w.onClient f) := Iff.rfl

@[simp] theorem ends_ask {α : Type} {f : Nat → α} {Q : α → World → Prop} :
    (ask f : M α).Ends w Q H ↔ Q (f w.time) w.tick := Iff.rfl

@[simp] theorem ends_emit {e : Client → Event} {Q : Unit → World → Prop} :
    (emit e : M Unit).Ends w Q H ↔ Q () (w.push (e w.client)) := Iff.rfl

@[simp] theorem ends_getClientState {Q : ClientState → World → Prop} :
    (getClientState : M ClientState).Ends w Q H ↔ Q w.client.clientState w := Iff.rfl

@[simp] theorem ends_setClientState {site : StateSite} {old new : ClientState}
    {Q : IoTError → World → Prop} :
    (setClientState site old new : M IoTError).Ends w Q H ↔
      if old = w.client.clientState then Q .success (w.withState new)
      else Q .mqttUnexpectedClientStateError w := by
  by_cases h : old = w.client.clientState <;>
    simp [setClientState, Ends, h]

@[simp] theorem ends_assignClientState {new : ClientState} {Q : Unit → World → Prop} :
    (assignClientState new : M Unit).Ends w Q H ↔ Q () (w.withState new) := Iff.rfl

@[simp] theorem ends_within {α : Type} {mark : Mark} {x : M α} {Q : α → World → Prop} :
    (within mark x).Ends w Q H ↔ x.Ends w Q H := Iff.rfl

variable {env : Env}

@[simp] theorem ends_hasTimerExpired {timer : Timer} {Q : Bool → World → Prop} :
    (hasTimerExpired env timer : M Bool).Ends w Q H ↔
      Q (decide (timer ≤ env.clock w.time)) w.tick := Iff.rfl

@[simp] theorem ends_countdownMs {timeout : Nat} {Q : Timer → World → Prop} :
    (countdownMs env timeout : M Timer).Ends w Q H ↔
      Q (env.clock w.time + timeout) w.tick := Iff.rfl

@[simp] theorem ends_countdownSec {timeout : Nat} {Q : Timer → World → Prop} :
    (countdownSec env timeout : M Timer).Ends w Q H ↔
      Q (env.clock w.time + 1000 * timeout) w.tick := Iff.rfl

@[simp] theorem ends_netRead {site : ReadSite} {offset len : Nat}
    {Q : IoTError × Nat → World → Prop} :
    (netRead env site offset len : M (IoTError × Nat)).Ends w Q H ↔
      Q ((env.read w.time).rc, min (env.read w.time).readLen len)
        ((w.tick.push (.netRead site w.client.clientState offset len (env.read w.time).rc
          (min (env.read w.time).readLen len) ((env.read w.time).bytes.take len))).onClient
            fun c => { c with
              readBuf := c.readBuf.writeAt offset ((env.read w.time).bytes.take len) }) := Iff.rfl

@[simp] theorem ends_netReadByte {site : ReadSite} {before : UInt8}
    {Q : IoTError × Nat × UInt8 → World → Prop} :
    (netReadByte env site before : M (IoTError × Nat × UInt8)).Ends w Q H ↔
      Q ((env.read w.time).rc, min (env.read w.time).readLen 1,
          (env.read w.time).bytes.headD before)
        (w.tick.push (.netRead site w.client.clientState 0 1 (env.read w.time).rc
          (min (env.read w.time).readLen 1) ((env.read w.time).bytes.take 1))) := Iff.rfl

@[simp] theorem ends_netConnect {Q : IoTError → World → Prop} :
    (netConnect env : M IoTError).Ends w Q H ↔
      Q (env.connect w.time) (w.tick.push (.netConnect (env.connect w.time))) := Iff.rfl

@[simp] theorem ends_netDisconnect {Q : Unit → World → Prop} :
    (netDisconnect : M Unit).Ends w Q H ↔ Q () (w.push .netDisconnect) := Iff.rfl

@[simp] theorem ends_netDestroy {Q : IoTError → World → Prop} :
    (netDestroy env : M IoTError).Ends w Q H ↔
      Q (env.destroy w.time) (w.tick.push (.netDestroy (env.destroy w.time))) := Iff.rfl

end Rules

end AwsIot.Mqtt
