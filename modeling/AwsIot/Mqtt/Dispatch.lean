/-
  Mqtt/Dispatch.lean --- incoming packets.

  Topic matching, delivery of a PUBLISH to the handlers of the application,
  `aws_iot_mqtt_internal_cycle_read` and `aws_iot_mqtt_internal_wait_for_read`.
  What a handler of the application does is a parameter: `Mqtt/Api.lean` closes
  the recursion with handlers that call the client again.
-/
import AwsIot.Mqtt.Transport

set_option autoImplicit false

namespace AwsIot.Mqtt

open AwsIot.Foundation

/-- What the application's handlers do when they are called. -/
structure Callbacks (m : Type → Type) where
  /-- The message handler of a subscription, on what it is given. -/
  message (call : HandlerCall) : m Unit
  /-- The disconnect handler. -/
  disconnect : m Unit

/-! ## Topic matching -/

/-- `strncmp(a, b, n) == 0`, from position `i` on. -/
def strncmpEq (a b : Nat → UInt8) : Nat → Nat → Bool
  | 0, _ => true
  | n + 1, i => a i == b i && (a i == 0 || strncmpEq a b n (i + 1))

/-- `_aws_iot_mqtt_internal_is_topic_matched` on the filter's characters and the
topic name's bytes.  The loop leaves with the name not used up on every mismatch,
and then the final test is false. -/
def isTopicMatched : List UInt8 → List UInt8 → Bool
  | [], name => name.isEmpty
  | _ :: _, [] => false
  | f :: filter, n :: name =>
      if n = 0x2F ∧ f ≠ 0x2F then false
      else if f ≠ 0x2B ∧ f ≠ 0x23 ∧ f ≠ n then false
      else if f = 0x2B then isTopicMatched filter (name.dropWhile (· ≠ 0x2F))
      else if f = 0x23 then isTopicMatched filter []
      else isTopicMatched filter name

variable {m : Type → Type} [Monad m] [Halting m] [ClientOps m] (env : Env) (fuel : Nat)
  (callbacks : Callbacks m)

/-! ## Delivery -/

/-- The test of `deliver_message` on a used slot: its filter is the topic name at
`topicName` in the read buffer, or matches it. -/
def slotMatches (readBuf : Memory) (topicName : Nat) (topicNameLen : UInt16)
    (slot : MessageHandlers) (filter : CharPtr) : Bool :=
  topicNameLen = slot.topicNameLen &&
      strncmpEq (fun i => readBuf (topicName + i)) filter.byteAt topicNameLen.toNat 0 ||
    isTopicMatched filter.chars (readBuf.slice topicName topicNameLen.toNat)

/-- What the handler of slot `itr` is called with. -/
def handlerCall (readBuf : Memory) (msg : IncomingPublish) (itr handler data : Nat) :
    HandlerCall where
  slot := itr
  handler := handler
  data := data
  topicNameAt := msg.topicName
  topicName := readBuf.slice msg.topicName msg.topicNameLen.toNat
  payload := readBuf.slice msg.payload msg.payloadLen

/-- One pass of the for loop of `deliver_message`: slot `itr`. -/
def deliverToSlot (msg : IncomingPublish) (itr : Nat) : m Unit := do
  let c ← getClient
  let slot := c.messageHandlers itr
  match slot.topicName, slot.pApplicationHandler with
  | some filter, some handler =>
      if slotMatches c.readBuf msg.topicName msg.topicNameLen slot filter then
        let call := handlerCall c.readBuf msg itr handler slot.pApplicationHandlerData
        emit fun _ => .handlerCalled call
        within .callback (callbacks.message call)
        emit fun _ => .handlerReturned
      else return ()
  | _, _ => return ()

/-- `_aws_iot_mqtt_internal_deliver_message`. -/
def deliverMessage (msg : IncomingPublish) : m IoTError := do
  let clientState ← getClientState
  let _ ← setClientState .deliverEnter clientState .connectedWaitForCbReturn
  forEach (deliverToSlot callbacks msg)
    (List.range env.config.numSubscribeHandlers)
  setClientState .deliverLeave .connectedWaitForCbReturn clientState

/-- Put a serialized packet into the write buffer: its length, or the
serializer's error.  A fault ends the run. -/
def storePacket : Serialized → m (Except IoTError Nat)
  | .fault => halt
  | .error rc => return .error rc
  | .packet bytes => do
      modifyClient fun c => { c with writeBuf := c.writeBuf.writeAt 0 bytes }
      return .ok (bytes.length % 2 ^ 32)

@[simp] theorem ends_storePacket {s : Serialized} {w : World}
    {Q : Except IoTError Nat → World → Prop} {H : World → Prop} :
    (storePacket s : M (Except IoTError Nat)).Ends w Q H ↔ match s with
      | .fault => H w
      | .error rc => Q (.error rc) w
      | .packet bytes => Q (.ok (bytes.length % 2 ^ 32))
          (w.onClient fun c => { c with writeBuf := c.writeBuf.writeAt 0 bytes }) := by
  cases s <;> exact Iff.rfl

/-- `deliver_message` with a pointer to the local `msg` of `handle_publish`: the return
code, and `msg.id` afterwards. -/
def deliverReceived (msg : IncomingPublish) : m (IoTError × Option UInt16) := do
  modifyClient fun c => { c with receivedIds := msg.id :: c.receivedIds }
  let rc ← deliverMessage env callbacks msg
  let c ← getClient
  modifyClient fun c => { c with receivedIds := c.receivedIds.tail }
  return (rc, c.receivedIds.headD msg.id)

/-- The message `msg` is being handled. -/
def World.receiving (w : World) (msg : IncomingPublish) : World :=
  w.onClient fun c => { c with receivedIds := msg.id :: c.receivedIds }

/-- The innermost message has been handled. -/
def World.received (w : World) : World :=
  w.onClient fun c => { c with receivedIds := c.receivedIds.tail }

@[simp] theorem ends_deliverReceived {env : Env} {callbacks : Callbacks M}
    {msg : IncomingPublish} {w : World}
    {Q : IoTError × Option UInt16 → World → Prop} {H : World → Prop} :
    (deliverReceived env callbacks msg : M (IoTError × Option UInt16)).Ends w Q H ↔
      (deliverMessage env callbacks msg : M IoTError).Ends (w.receiving msg)
        (fun rc w' => Q (rc, w'.client.receivedIds.headD msg.id) w'.received) H := by
  unfold deliverReceived
  simp only [Program.ends_bind, ends_modifyClient, ends_getClient, Program.ends_pure]
  rfl

/-- `_aws_iot_mqtt_internal_handle_publish`. -/
def handlePublish (timer : Timer) : m IoTError := do
  let c ← getClient
  match deserializePublish c.readBuf c.readBufSize with
  | .error rc => return rc
  | .ok msg => do
      let (rc, id) ← deliverReceived env callbacks msg
      if rc ≠ .success then return rc
      if msg.qos = 0 then return .success
      let c ← getClient
      match ← storePacket (serializeAck c.writeBufSize .puback 0 (id.getD 0)) with
      | .error rc => return rc
      | .ok len => sendPacket env fuel len timer

/-! ## Reading one packet -/

/-- `aws_iot_mqtt_internal_cycle_read`: the return code and `*pPacketType`, which
held `packetType` before. -/
def cycleRead (timer : Timer) (packetType : UInt8) : m (IoTError × UInt8) := do
  let (rc, packetType) ← readPacket env fuel packetType
  if rc = .mqttNothingToRead then return (.success, packetType)
  if rc ≠ .success then return (rc, packetType)
  if packetType ∈ [MessageType.connack.code, MessageType.puback.code, MessageType.suback.code,
      MessageType.unsuback.code, MessageType.pubrec.code, MessageType.pubcomp.code] then
    return (.success, packetType)
  if packetType = MessageType.publish.code then
    let rc ← handlePublish env fuel callbacks timer
    return (rc, packetType)
  if packetType = MessageType.pingresp.code then
    let c ← getClient
    let pingTimer ← countdownSec env c.keepAliveInterval.toNat
    modifyClient fun c => { c with isPingOutstanding := false, pingTimer := pingTimer }
    return (.success, packetType)
  return (.mqttRxMessagePacketTypeInvalidError, packetType)

/-! ## Waiting for an answer -/

/-- One pass of the do-while loop of `wait_for_read`. -/
def waitPass (packetType : UInt8) (timer : Timer) (readPacketType : UInt8) :
    m (Step UInt8 (IoTError × UInt8)) := do
  if ← hasTimerExpired env timer then
    return .stop (.mqttRequestTimeoutError, readPacketType)
  let (rc, readPacketType) ← cycleRead env fuel callbacks timer readPacketType
  if rc ≠ .networkDisconnectedError ∧ readPacketType ≠ packetType then
    return .again readPacketType
  return .stop (rc, readPacketType)

/-- `aws_iot_mqtt_internal_wait_for_read`. -/
def waitForRead (packetType : MessageType) (timer : Timer) : m IoTError := do
  let (rc, readPacketType) ← loop (waitPass env fuel callbacks packetType.code timer) fuel 0
  let rc :=
    if rc ≠ .mqttRequestTimeoutError ∧ rc ≠ .networkDisconnectedError ∧
        readPacketType ≠ packetType.code then .failure
    else rc
  emit fun _ => .waited packetType rc
  return rc

end AwsIot.Mqtt
