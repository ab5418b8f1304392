/-
  Mqtt/Traversal.lean --- what holds of the primitives holds of the client.

  A property of programs that sequencing preserves (`Compositional`) and that the
  primitives of `ClientOps` have is had by every function built from them.  The
  functions are walked through once, here; the invariant proofs then only say
  what each primitive does.

  `Traffic` covers the functions below the client state: everything that moves
  packets, with delivery to the application as a parameter.  `Everything` covers
  the whole API.
-/
import AwsIot.Mqtt.Api

set_option autoImplicit false

namespace AwsIot.Mqtt

open AwsIot.Foundation

variable {m : Type → Type} [Monad m] [Halting m] [ClientOps m]

/-- An update of the client that leaves its state, the handler table and the back-off
interval alone. -/
def KeepsTable (f : Client → Client) : Prop :=
  ∀ c, (f c).clientState = c.clientState ∧ (f c).messageHandlers = c.messageHandlers ∧
    (f c).currentReconnectWaitInterval = c.currentReconnectWaitInterval

/-- An update of the client that also leaves the size of its read buffer alone. -/
def KeepsCore (f : Client → Client) : Prop :=
  ∀ c, (f c).clientState = c.clientState ∧ (f c).messageHandlers = c.messageHandlers ∧
    (f c).currentReconnectWaitInterval = c.currentReconnectWaitInterval ∧
    (f c).readBufSize = c.readBufSize

/-- An update of the client that also leaves the messages under way alone. -/
def KeepsReceived (f : Client → Client) : Prop :=
  KeepsCore f ∧ ∀ c, (f c).receivedIds = c.receivedIds

/-- An update of the client that also leaves the keep-alive alone. -/
def KeepsTimers (f : Client → Client) : Prop :=
  KeepsCore f ∧ ∀ c, (f c).pingTimer = c.pingTimer ∧
    (f c).keepAliveInterval = c.keepAliveInterval

/-- What of a client the properties of runs are about. -/
structure Outline where
  clientState : ClientState
  messageHandlers : Nat → MessageHandlers
  currentReconnectWaitInterval : Nat
  readBufSize : Nat
  receivedIds : List (Option UInt16)
  pingTimer : Timer
  keepAliveInterval : UInt16
  isPingOutstanding : Bool

def Client.outline (c : Client) : Outline where
  clientState := c.clientState
  messageHandlers := c.messageHandlers
  currentReconnectWaitInterval := c.currentReconnectWaitInterval
  readBufSize := c.readBufSize
  receivedIds := c.receivedIds
  pingTimer := c.pingTimer
  keepAliveInterval := c.keepAliveInterval
  isPingOutstanding := c.isPingOutstanding

/-- An update of the client that leaves its outline alone. -/
def KeepsOutline (f : Client → Client) : Prop := ∀ c, (f c).outline = c.outline

theorem KeepsOutline.core {f : Client → Client} (hf : KeepsOutline f) : KeepsCore f := by
  intro c
  obtain ⟨hstate, htable, hinterval, hsize, -⟩ := Outline.mk.inj (hf c)
  exact ⟨hstate, htable, hinterval, hsize⟩

theorem KeepsOutline.received {f : Client → Client} (hf : KeepsOutline f) : KeepsReceived f :=
  ⟨hf.core, fun c => congrArg Outline.receivedIds (hf c)⟩

theorem KeepsOutline.timers {f : Client → Client} (hf : KeepsOutline f) : KeepsTimers f :=
  ⟨hf.core, fun c => ⟨congrArg Outline.pingTimer (hf c), congrArg Outline.keepAliveInterval (hf c)⟩⟩

/-- The primitives that move bytes have the property. -/
structure Traffic (Ok : ∀ {α : Type}, m α → Prop) : Prop extends Compositional (m := m) Ok where
  /-- Reading the client. -/
  getClient : Ok (getClient : m Client)
  /-- Updating the client outside its outline. -/
  modifyClient : ∀ {f : Client → Client}, KeepsOutline f → Ok (modifyClient f : m Unit)
  /-- Asking the surroundings. -/
  ask : ∀ {α : Type} (f : Nat → α), Ok (ask f : m α)
  /-- Logging traffic. -/
  emit : ∀ {e : Client → Event}, (∀ c, (e c).kind = .traffic) → Ok (emit e : m Unit)
  /-- Storing a packet id in a message that a handler was given. -/
  storeReceivedId : ∀ index id, Ok (storeReceivedId (some index) id : m Unit)

namespace Traffic

variable {Ok : ∀ {α : Type}, m α → Prop} (h : Traffic (m := m) Ok) (env : Env) (fuel : Nat)
include h

/-! ## Transport -/

theorem hasTimerExpired (timer : Timer) : Ok (hasTimerExpired env timer : m Bool) :=
  h.bind (h.ask _) fun _ => h.pure _

theorem countdownMs (timeout : Nat) : Ok (countdownMs env timeout : m Timer) :=
  h.bind (h.ask _) fun _ => h.pure _

theorem countdownSec (timeout : Nat) : Ok (countdownSec env timeout : m Timer) :=
  h.bind (h.ask _) fun _ => h.pure _

theorem netRead (site : ReadSite) (offset len : Nat) :
    Ok (netRead env site offset len : m (IoTError × Nat)) :=
  h.bind (h.ask _) fun _ =>
    h.bind (h.emit fun _ => rfl) fun _ =>
      h.bind (h.modifyClient fun _ => rfl) fun _ => h.pure _

theorem netReadByte (site : ReadSite) (before : UInt8) :
    Ok (netReadByte env site before : m (IoTError × Nat × UInt8)) :=
  h.bind (h.ask _) fun _ => h.bind (h.emit fun _ => rfl) fun _ => h.pure _

theorem netWrite (offset len : Nat) : Ok (netWrite env offset len : m (IoTError × Nat)) :=
  h.bind (h.ask _) fun _ => h.bind (h.emit fun _ => rfl) fun _ => h.pure _

theorem sendPass (length : Nat) (timer : Timer) (sent : Nat) :
    Ok (sendPass env length timer sent : m (Step Nat Nat)) := by
  unfold Mqtt.sendPass
  refine h.ite (fun _ => h.pure _) fun _ => h.bind (h.hasTimerExpired env timer) fun _ => ?_
  refine h.ite (fun _ => h.pure _) fun _ => h.bind (h.netWrite env _ _) fun r => ?_
  exact h.ite (fun _ => h.pure _) fun _ => h.pure _

theorem sendPacket (length : Nat) (timer : Timer) :
    Ok (sendPacket env fuel length timer : m IoTError) := by
  unfold Mqtt.sendPacket
  refine h.bind h.getClient fun c => h.ite (fun _ => h.pure _) fun _ => ?_
  refine h.bind (h.emit fun _ => rfl) fun _ => ?_
  refine h.bind (h.loop (h.sendPass env length timer) fuel 0) fun sent => ?_
  refine h.ite (fun _ => h.pure _) fun _ => ?_
  exact h.bind (h.emit fun _ => rfl) fun _ => h.pure _

theorem decodeRemainingLenPass (v : DecodeVars) :
    Ok (decodeRemainingLenPass env v : m (Step DecodeVars (IoTError × Nat))) := by
  unfold Mqtt.decodeRemainingLenPass
  refine h.ite (fun _ => h.pure _) fun _ => h.bind (h.netReadByte env _ _) fun r => ?_
  refine h.ite (fun _ => h.pure _) fun _ => ?_
  exact h.ite (fun _ => h.pure _) fun _ => h.pure _

theorem decodePacketRemainingLen :
    Ok (decodePacketRemainingLen env fuel : m (IoTError × Nat)) :=
  h.bind (h.ask _) fun _ => h.loop (h.decodeRemainingLenPass env) fuel _

theorem dropPass (readBufSize remLen : Nat) (v : Nat × Nat) :
    Ok (dropPass env readBufSize remLen v : m (Step (Nat × Nat) Unit)) := by
  unfold Mqtt.dropPass
  refine h.bind (h.netRead env _ _ _) fun r => h.ite (fun _ => h.pure _) fun _ => ?_
  exact h.ite (fun _ => h.pure _) fun _ => h.pure _

theorem storePacket (s : Serialized) : Ok (storePacket s : m (Except IoTError Nat)) := by
  cases s with
  | fault => exact h.halt
  | error rc => exact h.pure _
  | packet bytes => exact h.bind (h.modifyClient fun _ => rfl) fun _ => h.pure _

theorem getNextPacketId : Ok (getNextPacketId : m UInt16) :=
  h.bind h.getClient fun _ => h.bind (h.modifyClient fun _ => rfl) fun _ => h.pure _

theorem publishId (params : PublishParams) : Ok (publishId params : m UInt16) := by
  refine h.ite (fun _ => h.bind h.getNextPacketId fun id => ?_) fun _ => h.pure _
  refine h.bind ?_ fun _ => h.pure _
  cases params.received with
  | none => exact h.pure _
  | some index => exact h.storeReceivedId index id

theorem getFreeMessageHandlerIndex : Ok (getFreeMessageHandlerIndex env : m Nat) :=
  h.bind h.getClient fun _ => h.pure _

theorem setConnectParams (params : Option ConnectParams) :
    Ok (setConnectParams params : m IoTError) := by
  cases params with
  | none => exact h.pure _
  | some new => exact h.bind (h.modifyClient fun _ => rfl) fun _ => h.pure _

theorem autoreconnectSetStatus (newStatus : Bool) :
    Ok (autoreconnectSetStatus newStatus : m IoTError) :=
  h.bind (h.modifyClient fun _ => rfl) fun _ => h.pure _

theorem setDisconnectHandler (given : Bool) : Ok (setDisconnectHandler given : m IoTError) := by
  refine h.ite (fun _ => h.pure _) fun _ => ?_
  exact h.bind (h.modifyClient fun _ => rfl) fun _ => h.pure _

theorem startReconnecting
    (hset : Ok (setClientState .yieldPending .disconnectedError .pendingReconnect : m IoTError))
    (hstart : Ok (startInterval env : m Unit)) (yieldRc : IoTError) :
    Ok (startReconnecting env yieldRc : m (Step IoTError IoTError)) := by
  unfold Mqtt.startReconnecting
  refine h.bind (h.modifyClient fun _ => rfl) fun _ => ?_
  refine h.bind h.getClient fun c => h.ite (fun _ => ?_) fun _ => h.pure _
  refine h.bind hset fun rc => h.ite (fun _ => h.pure _) fun _ => ?_
  refine h.bind hstart fun _ => h.bind (h.countdownMs env _) fun t => ?_
  exact h.bind (h.modifyClient fun _ => rfl) fun _ => h.pure _

theorem resetNetworkDisconnectedCount : Ok (resetNetworkDisconnectedCount : m IoTError) :=
  h.bind (h.modifyClient fun _ => rfl) fun _ => h.pure _

end Traffic

/-- Besides the traffic primitives, logging a packet that was read has the property. -/
structure Packets (Ok : ∀ {α : Type}, m α → Prop) : Prop extends Traffic (m := m) Ok where
  /-- Logging a packet. -/
  emitPacket : ∀ {e : Client → Event}, (∀ c, (e c).kind = .packet) →
    Ok (ClientOps.emit e : m Unit)

namespace Packets

variable {Ok : ∀ {α : Type}, m α → Prop} (h : Packets (m := m) Ok) (env : Env) (fuel : Nat)
include h

theorem readPacket (packetType : UInt8) :
    Ok (readPacket env fuel packetType : m (IoTError × UInt8)) := by
  unfold Mqtt.readPacket
  refine h.bind (h.netRead env _ _ _) fun r => h.ite (fun _ => h.pure _) fun _ => ?_
  refine h.bind (h.decodePacketRemainingLen env fuel) fun d => ?_
  refine h.ite (fun _ => h.pure _) fun _ => h.bind h.getClient fun c => ?_
  refine h.ite (fun _ => ?_) fun _ => ?_
  · exact h.bind (h.loop (h.dropPass env _ _) fuel _) fun _ => h.pure _
  · refine h.bind (h.modifyClient fun _ => rfl) fun _ => ?_
    have htail : Ok (do
        ClientOps.emit fun c => .packetRead (c.readBuf.slice 0
          (1 + (writeLenToBuffer (d.2 % 2 ^ 32)).length + d.2))
        let c ← ClientOps.getClient
        pure (IoTError.success, headerType (c.readBuf 0)) : m (IoTError × UInt8)) :=
      h.bind (h.emitPacket fun _ => rfl) fun _ => h.bind h.getClient fun _ => h.pure _
    refine h.ite (fun _ => ?_) fun _ => htail
    exact h.bind (h.netRead env _ _ _) fun r => h.ite (fun _ => h.pure _) fun _ => htail

end Packets

/-! ## Work that waits for packets -/

/-- Besides the traffic primitives, a delivery to the application has the property. -/
structure Delivering (env : Env) (callbacks : Callbacks m) (Ok : ∀ {α : Type}, m α → Prop) :
    Prop extends Traffic (m := m) Ok where
  /-- Delivering a message. -/
  deliverReceived : ∀ msg,
    Ok (deliverReceived env callbacks msg : m (IoTError × Option UInt16))

/-- What a delivery has that leaves the messages under way to updates. -/
theorem Traffic.deliverReceived {Ok : ∀ {α : Type}, m α → Prop} (h : Traffic (m := m) Ok)
    (hmodify : ∀ {f : Client → Client}, KeepsTimers f → Ok (ClientOps.modifyClient f : m Unit))
    {env : Env} {callbacks : Callbacks m} {msg : IncomingPublish}
    (hdeliver : Ok (deliverMessage env callbacks msg : m IoTError)) :
    Ok (deliverReceived env callbacks msg : m (IoTError × Option UInt16)) := by
  have hids : ∀ f : List (Option UInt16) → List (Option UInt16),
      KeepsTimers fun c => { c with receivedIds := f c.receivedIds } :=
    fun f => ⟨fun _ => ⟨rfl, rfl, rfl, rfl⟩, fun _ => ⟨rfl, rfl⟩⟩
  refine h.bind (hmodify (hids fun ids => msg.id :: ids)) fun _ => h.bind hdeliver fun rc => ?_
  exact h.bind h.getClient fun c => h.bind (hmodify (hids List.tail)) fun _ => h.pure _

/-- The end of `_aws_iot_mqtt_internal_handle_publish`: the PUBACK behind the handlers. -/
def acknowledgeReceived (env : Env) (fuel : Nat) (timer : Timer) (id : UInt16) : m IoTError := do
  let c ← getClient
  match ← storePacket (serializeAck c.writeBufSize .puback 0 id) with
  | .error rc => return rc
  | .ok len => sendPacket env fuel len timer

theorem Traffic.acknowledgeReceived {Ok : ∀ {α : Type}, m α → Prop} (h : Traffic (m := m) Ok)
    (env : Env) (fuel : Nat) (timer : Timer) (id : UInt16) :
    Ok (acknowledgeReceived env fuel timer id : m IoTError) := by
  refine h.bind h.getClient fun c => h.bind (h.storePacket _) fun stored => ?_
  cases stored with
  | error rc => exact h.pure _
  | ok len => exact h.sendPacket env fuel len timer

theorem Delivering.handlePublish {Ok : ∀ {α : Type}, m α → Prop} {env : Env}
    {callbacks : Callbacks m} (h : Delivering env callbacks Ok) (fuel : Nat) (timer : Timer) :
    Ok (handlePublish env fuel callbacks timer : m IoTError) := by
  unfold Mqtt.handlePublish
  refine h.bind h.getClient fun c => ?_
  split
  · exact h.pure _
  · refine h.bind (h.deliverReceived _) fun r => h.ite (fun _ => h.pure _) fun _ => ?_
    exact h.ite (fun _ => h.pure _) fun _ => h.acknowledgeReceived env fuel timer _

/-- Besides the traffic primitives, reading a packet and handling it has the property. -/
structure Cycling (env : Env) (callbacks : Callbacks m) (Ok : ∀ {α : Type}, m α → Prop) :
    Prop extends Traffic (m := m) Ok where
  /-- Reading a packet and handling it. -/
  cycleRead : ∀ fuel timer packetType,
    Ok (cycleRead env fuel callbacks timer packetType : m (IoTError × UInt8))

namespace Cycling

variable {Ok : ∀ {α : Type}, m α → Prop} {env : Env} {callbacks : Callbacks m}
  (h : Cycling env callbacks Ok) (fuel : Nat)
include h

theorem waitPass (packetType : UInt8) (timer : Timer) (readPacketType : UInt8) :
    Ok (waitPass env fuel callbacks packetType timer readPacketType :
      m (Step UInt8 (IoTError × UInt8))) := by
  unfold Mqtt.waitPass
  refine h.bind (h.hasTimerExpired env timer) fun _ => h.ite (fun _ => h.pure _) fun _ => ?_
  refine h.bind (h.cycleRead fuel timer readPacketType) fun r => ?_
  exact h.ite (fun _ => h.pure _) fun _ => h.pure _

theorem waitForRead (packetType : MessageType) (timer : Timer) :
    Ok (waitForRead env fuel callbacks packetType timer : m IoTError) := by
  unfold Mqtt.waitForRead
  refine h.bind (h.loop (h.waitPass fuel packetType.code timer) fuel 0) fun r => ?_
  exact h.bind (h.emit fun _ => rfl) fun _ => h.pure _

/-! ## Internal functions -/

theorem internalPublish (topicName : CharPtr) (topicNameLen : UInt16)
    (params : PublishParams) :
    Ok (internalPublish env fuel callbacks topicName topicNameLen params : m IoTError) := by
  unfold Mqtt.internalPublish
  refine h.bind h.getClient fun c => h.bind (h.countdownMs env _) fun timer => ?_
  refine h.bind (h.publishId params) fun id => ?_
  refine h.bind (h.storePacket _) fun stored => ?_
  cases stored with
  | error rc => exact h.pure _
  | ok len =>
    refine h.bind (h.sendPacket env fuel len timer) fun rc => ?_
    refine h.ite (fun _ => h.pure _) fun _ => h.ite (fun _ => ?_) fun _ => h.pure _
    refine h.bind (h.waitForRead fuel .puback timer) fun rc => ?_
    refine h.ite (fun _ => h.pure _) fun _ => h.bind h.getClient fun c => ?_
    split
    · exact h.pure _
    · exact h.pure _

section Timers

variable (htimer : ∀ {f : Client → Client}, KeepsReceived f →
  Ok (ClientOps.modifyClient f : m Unit))
include htimer

theorem awaitConnack (timer : Timer) :
    Ok (awaitConnack env fuel callbacks timer : m IoTError) := by
  unfold Mqtt.awaitConnack
  refine h.bind (h.waitForRead fuel .connack timer) fun rc => ?_
  refine h.ite (fun _ => h.pure _) fun _ => h.bind h.getClient fun c => ?_
  split
  · exact h.pure _
  · refine h.ite (fun _ => h.pure _) fun _ => h.bind h.getClient fun c => ?_
    refine h.bind (h.countdownSec env _) fun t => ?_
    exact h.bind (htimer ⟨fun _ => ⟨rfl, rfl, rfl, rfl⟩, fun _ => rfl⟩) fun _ => h.pure _

theorem exchangeConnect : Ok (exchangeConnect env fuel callbacks : m IoTError) := by
  unfold Mqtt.exchangeConnect
  refine h.bind h.getClient fun c => h.bind (h.countdownMs env _) fun timer => ?_
  refine h.bind (htimer ⟨fun _ => ⟨rfl, rfl, rfl, rfl⟩, fun _ => rfl⟩) fun _ => ?_
  refine h.bind h.getClient fun c => ?_
  refine h.bind (h.storePacket _) fun stored => ?_
  cases stored with
  | error rc => exact h.pure _
  | ok len =>
    refine h.ite (fun _ => h.pure _) fun _ => ?_
    refine h.bind (h.sendPacket env fuel len timer) fun rc => ?_
    exact h.ite (fun _ => h.pure _) fun _ => h.awaitConnack fuel htimer timer

end Timers

theorem internalSubscribe
    (hregister : ∀ slot handler, Ok (registerHandler slot handler : m Unit))
    (topicName : CharPtr) (topicNameLen : UInt16) (qos : QoS)
    (handler data : Nat) :
    Ok (internalSubscribe env fuel callbacks topicName topicNameLen qos handler data :
      m IoTError) := by
  unfold Mqtt.internalSubscribe
  refine h.bind h.getClient fun c => h.bind (h.countdownMs env _) fun timer => ?_
  refine h.bind h.getNextPacketId fun txPacketId => h.bind (h.storePacket _) fun stored => ?_
  cases stored with
  | error rc => exact h.pure _
  | ok len =>
    refine h.bind (h.getFreeMessageHandlerIndex env) fun index => ?_
    refine h.ite (fun _ => h.pure _) fun _ => ?_
    refine h.bind (h.sendPacket env fuel len timer) fun rc => h.ite (fun _ => h.pure _) fun _ => ?_
    refine h.bind (h.waitForRead fuel .suback timer) fun rc => ?_
    refine h.ite (fun _ => h.pure _) fun _ => h.bind h.getClient fun c => ?_
    refine h.ite (fun _ => h.pure _) fun _ => ?_
    exact h.bind (hregister _ _) fun _ => h.pure _

theorem internalUnsubscribe
    (hclear : ∀ filter, Ok (clearHandlers env filter : m Unit)) (topicFilter : CharPtr)
    (topicFilterLen : UInt16) :
    Ok (internalUnsubscribe env fuel callbacks topicFilter topicFilterLen : m IoTError) := by
  unfold Mqtt.internalUnsubscribe
  refine h.bind h.getClient fun c => h.ite (fun _ => h.pure _) fun _ => ?_
  refine h.bind (h.countdownMs env _) fun timer => h.bind h.getNextPacketId fun id => ?_
  refine h.bind (h.storePacket _) fun stored => ?_
  cases stored with
  | error rc => exact h.pure _
  | ok len =>
    refine h.bind (h.sendPacket env fuel len timer) fun rc => h.ite (fun _ => h.pure _) fun _ => ?_
    refine h.bind (h.waitForRead fuel .unsuback timer) fun rc => ?_
    refine h.ite (fun _ => h.pure _) fun _ => h.bind h.getClient fun c => ?_
    split
    · exact h.pure _
    · exact h.bind (hclear _) fun _ => h.pure _

section Turns

variable (hturn : ∀ {e : Client → Event}, (∀ c, (e c).kind = .turn) → Ok (emit e : m Unit))
include hturn

theorem resubscribeSlot (itr : Nat) :
    Ok (resubscribeSlot env fuel callbacks itr : m IoTError) := by
  unfold Mqtt.resubscribeSlot
  refine h.bind h.getClient fun c => h.bind (h.countdownMs env _) fun timer => ?_
  refine h.bind h.getNextPacketId fun id => h.bind (hturn fun _ => rfl) fun _ => ?_
  refine h.bind (h.storePacket _) fun stored => ?_
  cases stored with
  | error rc => exact h.pure _
  | ok len =>
    refine h.bind (h.sendPacket env fuel len timer) fun rc => h.ite (fun _ => h.pure _) fun _ => ?_
    refine h.bind (h.waitForRead fuel .suback timer) fun rc => ?_
    exact h.ite (fun _ => h.pure _) fun _ => h.bind h.getClient fun c => h.pure _

theorem resubscribeFrom : ∀ left itr,
    Ok (resubscribeFrom env fuel callbacks left itr : m IoTError) := by
  intro left
  induction left with
  | zero => intro itr; exact h.pure _
  | succ left ih =>
    intro itr
    refine h.bind (h.resubscribeSlot fuel hturn itr) fun rc => ?_
    exact h.ite (fun _ => h.pure _) fun _ => ih (itr + 1)

theorem internalResubscribe : Ok (internalResubscribe env fuel callbacks : m IoTError) :=
  h.bind (h.getFreeMessageHandlerIndex env) fun n => h.resubscribeFrom fuel hturn n 0

end Turns

end Cycling

/-- Besides waiting for packets, what changes the handler table has the property. -/
structure Serving (env : Env) (callbacks : Callbacks m) (Ok : ∀ {α : Type}, m α → Prop) :
    Prop extends Cycling env callbacks Ok where
  /-- Subscribing. -/
  internalSubscribe : ∀ fuel topicName topicNameLen qos handler data,
    Ok (internalSubscribe env fuel callbacks topicName topicNameLen qos handler data : m IoTError)
  /-- Unsubscribing. -/
  internalUnsubscribe : ∀ fuel topicFilter topicFilterLen,
    Ok (internalUnsubscribe env fuel callbacks topicFilter topicFilterLen : m IoTError)
  /-- Initialising the client. -/
  init : ∀ params, Ok (init env params : m IoTError)

/-! ## Work made of primitives -/

/-- Besides deliveries, logging a packet and the two updates of the handler table have
the property. -/
structure Waiting (env : Env) (callbacks : Callbacks m) (Ok : ∀ {α : Type}, m α → Prop) :
    Prop extends Packets (m := m) Ok, Delivering env callbacks Ok where
  /-- Storing a handler. -/
  registerHandler : ∀ slot handler, Ok (registerHandler slot handler : m Unit)
  /-- Emptying slots. -/
  clearHandlers : ∀ filter, Ok (clearHandlers env filter : m Unit)
  /-- Setting the timers. -/
  modifyTimer : ∀ {f : Client → Client}, KeepsReceived f →
    Ok (ClientOps.modifyClient f : m Unit)

namespace Waiting

variable {Ok : ∀ {α : Type}, m α → Prop} {env : Env} {callbacks : Callbacks m}
  (h : Waiting env callbacks Ok)
include h

theorem cycleRead (fuel : Nat) (timer : Timer) (packetType : UInt8) :
    Ok (cycleRead env fuel callbacks timer packetType : m (IoTError × UInt8)) := by
  unfold Mqtt.cycleRead
  refine h.bind (h.readPacket env fuel packetType) fun r => ?_
  refine h.ite (fun _ => h.pure _) fun _ => h.ite (fun _ => h.pure _) fun _ => ?_
  refine h.ite (fun _ => h.pure _) fun _ => h.ite (fun _ => ?_) fun _ => ?_
  · exact h.bind (h.handlePublish fuel timer) fun _ => h.pure _
  · refine h.ite (fun _ => ?_) fun _ => h.pure _
    refine h.bind h.getClient fun c => h.bind (h.countdownSec env _) fun t => ?_
    exact h.bind (h.modifyTimer ⟨fun _ => ⟨rfl, rfl, rfl, rfl⟩, fun _ => rfl⟩) fun _ => h.pure _

theorem cycling : Cycling env callbacks Ok where
  toTraffic := h.toTraffic
  cycleRead := h.cycleRead

theorem internalSubscribe (fuel : Nat) (topicName : CharPtr) (topicNameLen : UInt16) (qos : QoS)
    (handler data : Nat) :
    Ok (internalSubscribe env fuel callbacks topicName topicNameLen qos handler data :
      m IoTError) :=
  h.cycling.internalSubscribe fuel h.registerHandler _ _ _ _ _

theorem internalUnsubscribe (fuel : Nat) (topicFilter : CharPtr) (topicFilterLen : UInt16) :
    Ok (internalUnsubscribe env fuel callbacks topicFilter topicFilterLen : m IoTError) :=
  h.cycling.internalUnsubscribe fuel h.clearHandlers _ _

theorem exchangeConnect (fuel : Nat) : Ok (exchangeConnect env fuel callbacks : m IoTError) :=
  h.cycling.exchangeConnect fuel h.modifyTimer

theorem serving (hinit : ∀ params, Ok (init env params : m IoTError)) :
    Serving env callbacks Ok where
  toCycling := h.cycling
  internalSubscribe := h.internalSubscribe
  internalUnsubscribe := h.internalUnsubscribe
  init := hinit

end Waiting

/-! ## The network -/

/-- Besides the traffic primitives, logging something about the network has the
property. -/
structure Network (Ok : ∀ {α : Type}, m α → Prop) : Prop extends Traffic (m := m) Ok where
  /-- Logging something about the network. -/
  emitConnection : ∀ {e : Client → Event}, (∀ c, (e c).kind = .connection) →
    (∀ c, (e c).isReconnect = false) → Ok (ClientOps.emit e : m Unit)

namespace Network

variable {Ok : ∀ {α : Type}, m α → Prop} (h : Network (m := m) Ok) (env : Env) (fuel : Nat)
include h

theorem netConnect : Ok (netConnect env : m IoTError) :=
  h.bind (h.ask _) fun _ =>
    h.bind (h.emitConnection (fun _ => rfl) fun _ => rfl) fun _ => h.pure _

theorem netDisconnect : Ok (netDisconnect : m Unit) :=
  h.emitConnection (fun _ => rfl) fun _ => rfl

theorem netDestroy : Ok (netDestroy env : m IoTError) :=
  h.bind (h.ask _) fun _ =>
    h.bind (h.emitConnection (fun _ => rfl) fun _ => rfl) fun _ => h.pure _

omit env fuel in
theorem overrideOptions (params : Option ConnectParams) :
    Ok (overrideOptions params : m IoTError) := by
  cases params with
  | none => exact h.pure _
  | some new => exact h.setConnectParams (some new)

theorem internalConnect {callbacks : Callbacks m}
    (hexchange : Ok (exchangeConnect env fuel callbacks : m IoTError))
    (params : Option ConnectParams) :
    Ok (internalConnect env fuel callbacks params : m IoTError) := by
  refine h.bind (h.overrideOptions params) fun rc => h.ite (fun _ => h.pure _) fun _ => ?_
  exact h.bind (h.netConnect env) fun rc => h.ite (fun _ => h.pure _) fun _ => hexchange

theorem internalDisconnect : Ok (internalDisconnect env fuel : m IoTError) := by
  have hclean : Ok (do
      Mqtt.netDisconnect
      let rc ← Mqtt.netDestroy env
      ClientOps.emit fun _ => .disconnectDestroyed rc
      if rc ≠ .success then return .failure
      return .success : m IoTError) := by
    refine h.bind h.netDisconnect fun _ => h.bind (h.netDestroy env) fun rc => ?_
    refine h.bind (h.emitConnection (fun _ => rfl) fun _ => rfl) fun _ => ?_
    exact h.ite (fun _ => h.pure _) fun _ => h.pure _
  unfold Mqtt.internalDisconnect
  refine h.bind h.getClient fun c => h.bind (h.storePacket _) fun stored => ?_
  cases stored with
  | error rc => exact h.pure _
  | ok len =>
    refine h.bind h.getClient fun c => h.bind (h.countdownMs env _) fun timer => ?_
    refine h.ite (fun _ => ?_) fun _ => hclean
    refine h.bind (h.sendPacket env fuel len timer) fun rc => ?_
    exact h.ite (fun _ => h.pure _) fun _ => hclean

end Network

/-! ## The whole API -/

/-- The move does not lead to PENDING_RECONNECT and does not bring the client online. -/
def PlainMove (old new : ClientState) : Prop :=
  new ≠ .pendingReconnect ∧ (new.isOnline = true → old.isOnline = true)

instance (old new : ClientState) : Decidable (PlainMove old new) :=
  inferInstanceAs (Decidable (_ ∧ _))

/-- The operations that the API is built from have the property.  Moves of the client
state are primitives if they are plain; an assignment may find any state. -/
structure Operations (env : Env) (Ok : ∀ {α : Type}, m α → Prop) :
    Prop extends Network (m := m) Ok where
  /-- Reading the client state. -/
  getClientState : Ok (ClientOps.getClientState : m ClientState)
  /-- Moving the client state. -/
  setClientState : ∀ site {old new}, PlainMove old new →
    Ok (ClientOps.setClientState site old new : m IoTError)
  /-- Assigning the client state. -/
  assignClientState : ∀ {new}, PlainMove .invalid new →
    Ok (ClientOps.assignClientState new : m Unit)
  /-- A marked stretch. -/
  within : ∀ {α : Type} {mark : Mark} {x : m α}, Ok x → Ok (ClientOps.within mark x)
  /-- Disconnecting. -/
  disconnect : ∀ fuel, Ok (disconnect env fuel : m IoTError)
  /-- The end of a connect that succeeded. -/
  connectDone : Ok (ClientOps.emit fun c => .connectDone c.clientState : m Unit)
  /-- Waiting after a failed attempt to reconnect. -/
  enterPending : Ok (enterPending : m Unit)
  /-- Starting to reconnect. -/
  startReconnecting : ∀ rc, Ok (startReconnecting env rc : m (Step IoTError IoTError))
  /-- Turning to the back-off interval. -/
  reconnectDue : Ok (ClientOps.emit fun c =>
    .reconnectDue c.clientState c.currentReconnectWaitInterval : m Unit)
  /-- Backing off. -/
  doubleInterval : Ok (doubleInterval : m Unit)

namespace Operations

variable {Ok : ∀ {α : Type}, m α → Prop} {env : Env} (h : Operations (m := m) env Ok)
include h

theorem handleDisconnect {callbacks : Callbacks m} (fuel : Nat)
    (hdisconnect : Ok callbacks.disconnect) :
    Ok (handleDisconnect env fuel callbacks : m IoTError) := by
  have htail : Ok (do
      ClientOps.emit fun c => .disconnectHandled c.clientState
      ClientOps.assignClientState .disconnectedError
      return .networkDisconnectedError : m IoTError) :=
    h.bind (h.emitConnection (fun _ => rfl) fun _ => rfl) fun _ =>
      h.bind (h.assignClientState (by decide)) fun _ => h.pure _
  have hhandler : Ok (do
      let c ← ClientOps.getClient
      if c.disconnectHandler then ClientOps.within .callback callbacks.disconnect
      ClientOps.emit fun c => .disconnectHandled c.clientState
      ClientOps.assignClientState .disconnectedError
      return .networkDisconnectedError : m IoTError) := by
    refine h.bind h.getClient fun c => h.ite (fun _ => ?_) fun _ => htail
    exact h.bind (h.within hdisconnect) fun _ => htail
  have hforce : Ok (forceClientDisconnect env : m Unit) := by
    refine h.bind (h.assignClientState (by decide)) fun _ => h.bind h.netDisconnect fun _ => ?_
    exact h.bind (h.netDestroy env) fun _ => h.pure _
  unfold Mqtt.handleDisconnect
  refine h.bind (h.disconnect fuel) fun rc => h.ite (fun _ => ?_) fun _ => hhandler
  exact h.bind hforce fun _ => hhandler

theorem keepAlive
    (htimer : ∀ {f : Client → Client}, KeepsReceived f → Ok (ClientOps.modifyClient f : m Unit))
    {callbacks : Callbacks m} (fuel : Nat) (hdisconnect : Ok callbacks.disconnect) :
    Ok (keepAlive env fuel callbacks : m IoTError) := by
  have hlost := h.handleDisconnect fuel hdisconnect
  unfold Mqtt.keepAlive
  refine h.bind h.getClient fun c => h.ite (fun _ => h.pure _) fun _ => ?_
  refine h.bind (h.hasTimerExpired env _) fun _ => h.ite (fun _ => h.pure _) fun _ => ?_
  refine h.ite (fun _ => hlost) fun _ => h.bind (h.countdownMs env _) fun timer => ?_
  refine h.bind (h.storePacket _) fun stored => ?_
  cases stored with
  | error rc => exact h.pure _
  | ok len =>
    refine h.bind (h.sendPacket env fuel len timer) fun rc => h.ite (fun _ => hlost) fun _ => ?_
    refine h.bind (htimer ⟨fun _ => ⟨rfl, rfl, rfl, rfl⟩, fun _ => rfl⟩) fun _ => ?_
    refine h.bind h.getClient fun c => h.bind (h.countdownSec env _) fun t => ?_
    exact h.bind (htimer ⟨fun _ => ⟨rfl, rfl, rfl, rfl⟩, fun _ => rfl⟩) fun _ => h.pure _

theorem connect {callbacks : Callbacks m} (fuel : Nat)
    (hdone : Ok (ClientOps.setClientState .connectDone .connecting .connectedIdle : m IoTError))
    (hexchange : Ok (exchangeConnect env fuel callbacks : m IoTError))
    (params : Option ConnectParams) :
    Ok (connect env fuel callbacks params : m IoTError) := by
  have hinternal := h.internalConnect env fuel hexchange params
  unfold Mqtt.connect Mqtt.connectRequest
  refine h.bind h.getClientState fun s => h.ite (fun _ => h.pure _) fun _ => ?_
  refine h.bind (h.setClientState _ ⟨by decide, fun honline => absurd honline (by decide)⟩)
    fun _ => h.bind (h.within hinternal) fun rc => ?_
  refine h.ite (fun _ => ?_) fun _ => ?_
  · refine h.bind (h.emitConnection (fun _ => rfl) fun _ => rfl) fun _ => ?_
    refine h.bind h.netDisconnect fun _ => h.bind (h.netDestroy env) fun _ => ?_
    exact h.bind (h.setClientState _ (by decide)) fun _ => h.pure _
  · exact h.bind hdone fun _ => h.bind h.connectDone fun _ => h.pure _

theorem init (hreset : Ok (resetHandlers env : m Unit))
    (hsetup : ∀ {f : Client → Client}, KeepsTable f →
      (∀ c, (f c).receivedIds = c.receivedIds ∧ (f c).pingTimer = c.pingTimer ∧
        (f c).keepAliveInterval = c.keepAliveInterval) → Ok (ClientOps.modifyClient f : m Unit))
    (htimers : Ok (ClientOps.modifyClient fun c =>
      { c with pingTimer := initTimer, reconnectDelayTimer := initTimer } : m Unit))
    (params : InitParams) :
    Ok (init env params : m IoTError) := by
  unfold Mqtt.init
  refine h.ite (fun _ => h.pure _) fun _ => h.bind hreset fun _ => ?_
  refine h.bind (hsetup (fun _ => ⟨rfl, rfl, rfl⟩) fun _ => ⟨rfl, rfl, rfl⟩) fun _ => ?_
  refine h.bind (h.setConnectParams _) fun rc => h.ite (fun _ => h.pure _) fun _ => ?_
  refine h.bind (hsetup (fun _ => ⟨rfl, rfl, rfl⟩) fun _ => ⟨rfl, rfl, rfl⟩) fun _ => ?_
  refine h.bind (h.ask _) fun rc => ?_
  refine h.bind (h.emitConnection (fun _ => rfl) fun _ => rfl) fun _ => ?_
  refine h.ite (fun _ => ?_) fun _ => ?_
  · exact h.bind (h.assignClientState (by decide)) fun _ => h.pure _
  · refine h.bind htimers fun _ => ?_
    exact h.bind (h.assignClientState (by decide)) fun _ => h.pure _

end Operations

/-- The primitives that move the client between its states have the property, and so have
the updates of the back-off interval. -/
structure Steering (env : Env) (Ok : ∀ {α : Type}, m α → Prop) :
    Prop extends Traffic (m := m) Ok where
  /-- Logging something about the connection. -/
  emitConnection : ∀ {e : Client → Event}, (∀ c, (e c).kind = .connection) →
    Ok (ClientOps.emit e : m Unit)
  /-- Reading the client state. -/
  getClientState : Ok (ClientOps.getClientState : m ClientState)
  /-- Moving the client state. -/
  setClientState : ∀ site old new, Ok (ClientOps.setClientState site old new : m IoTError)
  /-- Assigning the client state. -/
  assignClientState : ∀ new, Ok (ClientOps.assignClientState new : m Unit)
  /-- A marked stretch. -/
  within : ∀ {α : Type} {mark : Mark} {x : m α}, Ok x → Ok (ClientOps.within mark x)
  /-- Starting to back off. -/
  startInterval : Ok (startInterval env : m Unit)
  /-- Backing off. -/
  doubleInterval : Ok (doubleInterval : m Unit)

namespace Steering

variable {Ok : ∀ {α : Type}, m α → Prop} {env : Env} (h : Steering (m := m) env Ok)
include h

theorem network : Network (m := m) Ok where
  toTraffic := h.toTraffic
  emitConnection he _ := h.emitConnection he

theorem disconnect (fuel : Nat) : Ok (disconnect env fuel : m IoTError) := by
  unfold Mqtt.disconnect
  refine h.bind h.getClientState fun s => h.bind h.getClientState fun _ => ?_
  refine h.ite (fun _ => h.pure _) fun _ => h.bind (h.setClientState _ _ _) fun rc => ?_
  refine h.ite (fun _ => h.pure _) fun _ => ?_
  refine h.bind (h.network.internalDisconnect env fuel) fun rc => ?_
  refine h.ite (fun _ => ?_) fun _ => ?_
  · exact h.bind (h.assignClientState _) fun _ => h.pure _
  · exact h.bind (h.assignClientState _) fun _ => h.pure _

theorem operations : Operations (m := m) env Ok where
  toNetwork := h.network
  getClientState := h.getClientState
  setClientState site _ _ _ := h.setClientState site _ _
  assignClientState _ := h.assignClientState _
  within := h.within
  disconnect := h.disconnect
  connectDone := h.emitConnection fun _ => rfl
  enterPending := h.bind (h.setClientState _ _ _) fun _ => h.emitConnection fun _ => rfl
  startReconnecting := h.toTraffic.startReconnecting env (h.setClientState _ _ _) h.startInterval
  reconnectDue := h.emitConnection fun _ => rfl
  doubleInterval := h.doubleInterval

end Steering

/-- Every primitive has the property, and so have the updates of the handler table. -/
structure Primitives (env : Env) (Ok : ∀ {α : Type}, m α → Prop) :
    Prop extends Packets (m := m) Ok, Steering (m := m) env Ok where
  /-- Storing a handler. -/
  registerHandler : ∀ slot handler, Ok (registerHandler slot handler : m Unit)
  /-- Emptying slots. -/
  clearHandlers : ∀ filter, Ok (clearHandlers env filter : m Unit)
  /-- Emptying the table. -/
  resetHandlers : Ok (resetHandlers env : m Unit)
  /-- Setting the client up. -/
  modifyTable : ∀ {f : Client → Client}, KeepsTable f → (∀ c, (f c).receivedIds = c.receivedIds) →
    Ok (ClientOps.modifyClient f : m Unit)

namespace Primitives

variable {Ok : ∀ {α : Type}, m α → Prop} {env : Env} (h : Primitives (m := m) env Ok)
include h

theorem init (params : InitParams) : Ok (init env params : m IoTError) :=
  h.toSteering.operations.init h.resetHandlers
    (fun hf hsame => h.modifyTable hf fun c => (hsame c).1)
    (h.modifyTable (fun _ => ⟨rfl, rfl, rfl⟩) fun _ => rfl) params

section Delivery

variable (hhandler : ∀ {e : Client → Event}, (∀ c, (e c).kind = .handler) →
    Ok (ClientOps.emit e : m Unit))
  {callbacks : Callbacks m} (hmessage : ∀ call, Ok (callbacks.message call))
include hhandler hmessage

theorem deliverToSlot (msg : IncomingPublish) (itr : Nat) :
    Ok (deliverToSlot callbacks msg itr : m Unit) := by
  refine h.bind h.getClient fun c => ?_
  dsimp only
  split
  · refine h.ite (fun _ => ?_) fun _ => h.pure _
    refine h.bind (hhandler fun _ => rfl) fun _ => ?_
    exact h.bind (h.within (hmessage _)) fun _ => hhandler fun _ => rfl
  · exact h.pure _

theorem deliverMessage (msg : IncomingPublish) :
    Ok (deliverMessage env callbacks msg : m IoTError) := by
  refine h.bind h.getClientState fun s => h.bind (h.setClientState _ _ _) fun _ => ?_
  refine h.bind (h.forEach (h.deliverToSlot hhandler hmessage msg) _) fun _ => ?_
  exact h.setClientState _ _ _

variable (hreceived : ∀ {msg : IncomingPublish},
    Ok (Mqtt.deliverMessage env callbacks msg : m IoTError) →
  Ok (deliverReceived env callbacks msg : m (IoTError × Option UInt16)))
include hreceived

theorem waiting : Waiting env callbacks Ok where
  toPackets := h.toPackets
  deliverReceived msg := hreceived (h.deliverMessage hhandler hmessage msg)
  registerHandler := h.registerHandler
  clearHandlers := h.clearHandlers
  modifyTimer hf := h.modifyTable (fun c => ⟨(hf.1 c).1, (hf.1 c).2.1, (hf.1 c).2.2.1⟩) hf.2

theorem serving : Serving env callbacks Ok :=
  (h.waiting hhandler hmessage hreceived).serving h.init

end Delivery

end Primitives

/-- Besides the operations, the resubscribe loop has the property. -/
structure Everything (env : Env) (Ok : ∀ {α : Type}, m α → Prop) :
    Prop extends Operations (m := m) env Ok where
  /-- Subscribing again to what the handler table holds. -/
  internalResubscribe : ∀ {callbacks : Callbacks m} (fuel : Nat), Cycling env callbacks Ok →
    Ok (internalResubscribe env fuel callbacks : m IoTError)
  /-- Connecting. -/
  connect : ∀ {callbacks : Callbacks m} (fuel : Nat) (params : Option ConnectParams),
    Cycling env callbacks Ok → Ok (connect env fuel callbacks params : m IoTError)
  /-- Keeping the connection alive. -/
  keepAlive : ∀ {callbacks : Callbacks m} (fuel : Nat), Ok callbacks.disconnect →
    Ok (keepAlive env fuel callbacks : m IoTError)

/-- A request is admitted in one of two connected states. -/
theorem ClientState.admitted {s : ClientState}
    (hs : ¬ (s ≠ .connectedIdle ∧ s ≠ .connectedWaitForCbReturn)) :
    s ≠ .pendingReconnect ∧ s.isOnline = true := by
  by_cases hidle : s = .connectedIdle
  · rw [hidle]
    exact ⟨by decide, by decide⟩
  · have hwait : s = .connectedWaitForCbReturn := not_not.mp fun hwait => hs ⟨hidle, hwait⟩
    rw [hwait]
    exact ⟨by decide, by decide⟩

/-- The state of a request other than connect is entered from, and left to, a state in which
requests are admitted. -/
theorem Operation.plainMove {operation : Operation} (hop : operation ≠ .connect)
    {s : ClientState} (hs : s ≠ .pendingReconnect ∧ s.isOnline = true) :
    PlainMove s operation.inProgress ∧ PlainMove operation.inProgress s := by
  refine ⟨⟨?_, fun _ => hs.2⟩, hs.1, fun _ => ?_⟩
  · cases operation <;> decide
  · cases operation with
    | connect => exact absurd rfl hop
    | _ => rfl

/-- Besides the operations, the resubscribe loop and the updates of the timers have the
property. -/
theorem Operations.everything {Ok : ∀ {α : Type}, m α → Prop} {env : Env}
    (h : Operations (m := m) env Ok)
    (hdone : Ok (ClientOps.setClientState .connectDone .connecting .connectedIdle : m IoTError))
    (htimer : ∀ {f : Client → Client}, KeepsReceived f → Ok (ClientOps.modifyClient f : m Unit))
    (hresubscribe : ∀ {callbacks : Callbacks m} (fuel : Nat), Cycling env callbacks Ok →
      Ok (internalResubscribe env fuel callbacks : m IoTError)) :
    Everything (m := m) env Ok where
  toOperations := h
  internalResubscribe := hresubscribe
  connect fuel params hcycle := h.connect fuel hdone (hcycle.exchangeConnect fuel htimer) params
  keepAlive := h.keepAlive htimer

theorem Steering.everything {Ok : ∀ {α : Type}, m α → Prop} {env : Env}
    (h : Steering (m := m) env Ok)
    (htimer : ∀ {f : Client → Client}, KeepsReceived f → Ok (ClientOps.modifyClient f : m Unit))
    (hresubscribe : ∀ {callbacks : Callbacks m} (fuel : Nat), Cycling env callbacks Ok →
      Ok (internalResubscribe env fuel callbacks : m IoTError)) :
    Everything (m := m) env Ok :=
  h.operations.everything (h.setClientState _ _ _) htimer hresubscribe

namespace Everything

variable {Ok : ∀ {α : Type}, m α → Prop} {env : Env} (h : Everything (m := m) env Ok) (fuel : Nat)
include h

/-! ## State changes around the internal functions -/

theorem performRequest {operation : Operation} {s : ClientState}
    (hs : PlainMove operation.inProgress s) {internal : m IoTError} (hi : Ok internal) :
    Ok (performRequest operation s internal : m IoTError) :=
  h.bind (h.within hi) fun _ => h.bind (h.setClientState _ hs) fun _ => h.pure _

theorem request {operation : Operation} (hop : operation ≠ .connect) {internal : m IoTError}
    (hi : Ok internal) :
    Ok (request operation internal : m IoTError) := by
  unfold Mqtt.request
  refine h.bind h.getClientState fun s => h.ite (fun _ => h.pure _) fun _ => ?_
  refine h.bind h.getClientState fun s => h.ite (fun _ => h.pure _) fun hs => ?_
  obtain ⟨henter, hleave⟩ := Operation.plainMove hop (ClientState.admitted hs)
  refine h.bind (h.setClientState _ henter) fun rc => ?_
  exact h.ite (fun _ => h.pure _) fun _ => h.performRequest hleave hi

theorem unsubscribeRequest {internal : m IoTError} (hi : Ok internal) :
    Ok (unsubscribeRequest internal : m IoTError) := by
  unfold Mqtt.unsubscribeRequest
  refine h.bind h.getClientState fun s => h.ite (fun _ => h.pure _) fun _ => ?_
  refine h.bind h.getClientState fun s => h.ite (fun _ => h.pure _) fun hs => ?_
  have hop : Operation.unsubscribe ≠ .connect := by decide
  obtain ⟨henter, hleave⟩ := Operation.plainMove hop (ClientState.admitted hs)
  refine h.bind (h.setClientState _ henter) fun rc => ?_
  exact h.ite (fun _ => h.setClientState _ hleave) fun _ => h.performRequest hleave hi

theorem resubscribeRequest {internal : m IoTError} (hi : Ok internal) :
    Ok (resubscribeRequest internal : m IoTError) := by
  unfold Mqtt.resubscribeRequest
  refine h.bind h.getClientState fun s => h.ite (fun _ => h.pure _) fun _ => ?_
  refine h.bind h.getClientState fun s => h.ite (fun _ => h.pure _) fun _ => ?_
  refine h.bind (h.setClientState _ (by decide)) fun rc => ?_
  exact h.ite (fun _ => h.pure _) fun _ => h.performRequest (by decide) hi

theorem yieldRequest {internal : m IoTError} (hi : Ok internal) :
    Ok (yieldRequest internal : m IoTError) := by
  have hperform : Ok (performYield internal : m IoTError) := by
    refine h.bind (h.within hi) fun rc => h.ite (fun _ => ?_) fun _ => h.pure _
    exact h.bind (h.setClientState _ (by decide)) fun _ => h.pure _
  unfold Mqtt.yieldRequest
  refine h.bind h.getClientState fun s => h.ite (fun _ => h.pure _) fun _ => ?_
  refine h.ite (fun _ => hperform) fun _ => h.bind h.getClientState fun _ => ?_
  refine h.ite (fun _ => h.pure _) fun _ => h.ite (fun _ => h.pure _) fun _ => ?_
  refine h.bind (h.setClientState _ (by decide)) fun rc => ?_
  exact h.ite (fun _ => h.pure _) fun _ => hperform

/-! ## Connection -/

theorem backOff (rc : IoTError) : Ok (backOff env rc : m IoTError) := by
  unfold Mqtt.backOff
  refine h.bind h.doubleInterval fun _ => h.bind h.getClient fun c => ?_
  refine h.ite (fun _ => h.pure _) fun _ => h.bind (h.countdownMs env _) fun t => ?_
  exact h.bind (h.modifyClient fun _ => rfl) fun _ => h.pure _

section Callbacks

variable {callbacks : Callbacks m}

section Cycles

variable (hcycle : Cycling env callbacks Ok)
include hcycle

theorem publish (topicName : Option CharPtr) (topicNameLen : UInt16)
    (params : Option PublishParams) :
    Ok (publish env fuel callbacks topicName topicNameLen params : m IoTError) := by
  unfold Mqtt.publish
  split
  · refine h.ite (fun _ => h.pure _) fun _ => ?_
    exact h.request (by decide) (hcycle.internalPublish fuel _ _ _)
  · exact h.pure _

theorem resubscribe : Ok (resubscribe env fuel callbacks : m IoTError) :=
  h.resubscribeRequest (h.internalResubscribe fuel hcycle)

theorem attemptReconnect : Ok (attemptReconnect env fuel callbacks : m IoTError) := by
  unfold Mqtt.attemptReconnect
  refine h.bind h.getClientState fun s => h.ite (fun _ => h.pure _) fun _ => ?_
  refine h.bind (h.connect fuel none hcycle) fun _ => h.bind h.getClientState fun s => ?_
  refine h.ite (fun _ => ?_) fun _ => ?_
  · exact h.bind h.enterPending fun _ => h.pure _
  refine h.bind (h.resubscribe fuel hcycle) fun rc => ?_
  exact h.ite (fun _ => h.pure _) fun _ => h.pure _

/-! ## Yield -/

theorem handleReconnect : Ok (handleReconnect env fuel callbacks : m IoTError) := by
  unfold Mqtt.handleReconnect
  refine h.bind h.getClient fun c => h.bind (h.hasTimerExpired env _) fun _ => ?_
  refine h.ite (fun _ => h.pure _) fun _ => h.bind (h.ask _) fun p => ?_
  refine h.ite (fun _ => ?_) fun _ => h.backOff _
  refine h.bind (h.attemptReconnect fuel hcycle) fun rc => ?_
  refine h.ite (fun _ => ?_) fun _ => h.backOff _
  refine h.bind (h.setClientState _ (by decide)) fun rc => ?_
  exact h.ite (fun _ => h.pure _) fun _ => h.pure _

variable (hdisconnect : Ok callbacks.disconnect)
include hdisconnect

theorem yieldPass (timer : Timer) (yieldRc : IoTError) :
    Ok (yieldPass env fuel callbacks timer yieldRc : m (Step IoTError IoTError)) := by
  unfold Mqtt.yieldPass
  refine h.bind (h.hasTimerExpired env timer) fun _ => h.ite (fun _ => h.pure _) fun _ => ?_
  refine h.bind h.getClientState fun s => h.ite (fun _ => ?_) fun _ => ?_
  · refine h.bind h.reconnectDue fun _ => h.bind h.getClient fun c => ?_
    refine h.ite (fun _ => h.pure _) fun _ => ?_
    exact h.bind (h.handleReconnect fuel hcycle) fun _ => h.pure _
  · refine h.bind (hcycle.cycleRead fuel timer 0) fun r => ?_
    refine h.ite (fun _ => h.pure _) fun _ => ?_
    refine h.bind (h.keepAlive fuel hdisconnect) fun rc => ?_
    refine h.ite (fun _ => h.startReconnecting rc) fun _ => ?_
    exact h.ite (fun _ => h.pure _) fun _ => h.pure _

theorem yield (timeoutMs : Nat) : Ok (yield env fuel callbacks timeoutMs : m IoTError) := by
  refine h.ite (fun _ => h.pure _) fun _ => h.yieldRequest ?_
  refine h.bind (h.countdownMs env _) fun timer => ?_
  exact h.loop (h.yieldPass fuel hcycle hdisconnect timer) fuel _

end Cycles

section Serves

variable (hserve : Serving env callbacks Ok)
include hserve

theorem subscribe (topicName : Option CharPtr) (topicNameLen : UInt16) (qos : QoS)
    (handler : Option Nat) (data : Nat) :
    Ok (subscribe env fuel callbacks topicName topicNameLen qos handler data : m IoTError) := by
  unfold Mqtt.subscribe
  split
  · exact h.request (by decide) (hserve.internalSubscribe fuel _ _ _ _ _)
  · exact h.pure _

theorem unsubscribe (topicFilter : Option CharPtr) (topicFilterLen : UInt16) :
    Ok (unsubscribe env fuel callbacks topicFilter topicFilterLen : m IoTError) := by
  unfold Mqtt.unsubscribe
  split
  · exact h.unsubscribeRequest (hserve.internalUnsubscribe fuel _ _)
  · exact h.pure _

variable (hdisconnect : Ok callbacks.disconnect)
include hdisconnect

theorem dispatch (call : ApiCall) : Ok (dispatch env fuel callbacks call : m IoTError) := by
  cases call with
  | init params => exact hserve.init params
  | connect params => exact h.connect fuel params hserve.toCycling
  | publish topicName topicNameLen params =>
    exact h.publish fuel hserve.toCycling topicName topicNameLen params
  | subscribe topicName topicNameLen qos handler data =>
    exact h.subscribe fuel hserve topicName topicNameLen qos handler data
  | unsubscribe topicFilter topicFilterLen =>
    exact h.unsubscribe fuel hserve topicFilter topicFilterLen
  | resubscribe => exact h.resubscribe fuel hserve.toCycling
  | yield timeoutMs => exact h.yield fuel hserve.toCycling hdisconnect timeoutMs
  | disconnect => exact h.disconnect fuel
  | attemptReconnect => exact h.attemptReconnect fuel hserve.toCycling
  | autoreconnectSetStatus newStatus => exact h.autoreconnectSetStatus newStatus
  | setDisconnectHandler given => exact h.setDisconnectHandler given
  | setConnectParams params => exact h.setConnectParams params
  | resetNetworkDisconnectedCount => exact h.resetNetworkDisconnectedCount

end Serves

end Callbacks

/-! ## Calls of the application -/

theorem runHandler (nextCall : Nat → Option ApiCall) {call : ApiCall → m IoTError}
    (hcall : ∀ c, Ok (call c)) : Ok (runHandler fuel nextCall call : m Unit) := by
  refine h.loop (fun _ => h.bind (h.ask nextCall) fun next => ?_) fuel ()
  cases next with
  | none => exact h.pure _
  | some c => exact h.bind (hcall c) fun _ => h.pure _

/-- Handlers have the property when the calls they make have it. -/
theorem applicationCallbacks {call : ApiCall → m IoTError} (hcall : ∀ c, Ok (call c)) :
    (∀ c, Ok ((applicationCallbacks env fuel call).message c)) ∧
    Ok (applicationCallbacks env fuel call).disconnect :=
  ⟨fun _ => h.runHandler fuel env.messageHandler hcall,
    h.runHandler fuel env.disconnectHandler hcall⟩

variable (hcall : ∀ {e : Client → Event}, (∀ c, (e c).kind = .call) →
    Ok (ClientOps.emit e : m Unit))
  (hserve : ∀ depth, (∀ c, Ok (Mqtt.apiCall env fuel depth c : m IoTError)) →
    Serving (m := m) env (Mqtt.applicationCallbacks env fuel (Mqtt.apiCall env fuel depth)) Ok)
include hcall hserve

theorem apiCall : ∀ depth call, Ok (apiCall env fuel depth call : m IoTError) := by
  intro depth
  induction depth with
  | zero => intro call; exact h.halt
  | succ depth ih =>
    intro call
    have hdisconnect := (h.applicationCallbacks fuel ih).2
    refine h.bind (hcall fun _ => rfl) fun _ => ?_
    refine h.bind (h.within (h.dispatch fuel (hserve depth ih) hdisconnect call)) fun rc => ?_
    exact h.bind (hcall fun _ => rfl) fun _ => h.pure _

theorem application (calls : List ApiCall) : Ok (application env fuel calls : m Unit) :=
  h.forEach (fun call => h.bind (h.apiCall fuel hcall hserve fuel call) fun _ => h.pure _) calls

end Everything

end AwsIot.Mqtt
