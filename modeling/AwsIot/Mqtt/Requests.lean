/-
  Mqtt/Requests.lean --- publish, subscribe, unsubscribe and resubscribe.

  Each operation is an outer function, which checks its arguments and moves the
  client state, around an internal function, which does the work.  Publish and
  subscribe share one admission; unsubscribe and resubscribe have their own.
-/
import AwsIot.Mqtt.Dispatch

set_option autoImplicit false

namespace AwsIot.Mqtt

open AwsIot.Foundation

variable {m : Type → Type} [Monad m] [Halting m] [ClientOps m] (env : Env) (fuel : Nat)
  (callbacks : Callbacks m)

/-! ## Client data -/

/-- `MAX_PACKET_ID`. -/
def maxPacketId : UInt16 := 65535

/-- The packet id that follows `id`; 0 is not used. -/
def followingPacketId (id : UInt16) : UInt16 := if id = maxPacketId then 1 else id + 1

/-- `aws_iot_mqtt_get_next_packet_id`. -/
def getNextPacketId : m UInt16 := do
  let c ← getClient
  let next := followingPacketId c.nextPacketId
  modifyClient fun c => { c with nextPacketId := next }
  return next

/-- The index of the first free slot among `itr, …, itr + left - 1`, or
`itr + left`. -/
def firstFreeFrom (handlers : Nat → MessageHandlers) : Nat → Nat → Nat
  | 0, itr => itr
  | left + 1, itr =>
      if (handlers itr).topicName = none then itr else firstFreeFrom handlers left (itr + 1)

/-- `_aws_iot_mqtt_get_free_message_handler_index`. -/
def getFreeMessageHandlerIndex : m Nat := do
  let c ← getClient
  return firstFreeFrom c.messageHandlers env.config.numSubscribeHandlers 0

/-- The assignments of `_aws_iot_mqtt_internal_subscribe` to slot `slot`. -/
def registerHandler (slot : Nat) (handler : MessageHandlers) : m Unit := do
  modifyClient fun c =>
    { c with messageHandlers := Function.update c.messageHandlers slot handler }
  emit fun _ => .registered slot handler

/-- A slot of the first `n` whose filter compares equal to `filter` loses it. -/
def clearEqual (n : Nat) (filter : CharPtr) (handlers : Nat → MessageHandlers) :
    Nat → MessageHandlers := fun i =>
  match (handlers i).topicName with
  | some topicName =>
      if i < n ∧ topicName.strEq filter then { handlers i with topicName := none }
      else handlers i
  | none => handlers i

/-- The last for loop of `_aws_iot_mqtt_internal_unsubscribe`. -/
def clearHandlers (filter : CharPtr) : m Unit := do
  modifyClient fun c => { c with
    messageHandlers := clearEqual env.config.numSubscribeHandlers filter c.messageHandlers }
  emit fun _ => .cleared filter

/-! ## Internal functions -/

/-- `pParams->id = id`, as far as a running `handle_publish` sees it: `received` says
whether `pParams` is a message that a handler was given. -/
def storeReceivedId (received : Option Nat) (id : UInt16) : m Unit :=
  match received with
  | none => return ()
  | some index => do
      modifyClient fun c => { c with receivedIds := c.receivedIds.set index (some id) }
      emit fun _ => .idStored index id

/-- The packet id of a publish: a new one for QoS 1, which `pParams` keeps. -/
def publishId (params : PublishParams) : m UInt16 := do
  if params.qos = .qos1 then
    let id ← getNextPacketId
    storeReceivedId params.received id
    return id
  else return params.id

/-- `_aws_iot_mqtt_internal_publish`. -/
def internalPublish (topicName : CharPtr) (topicNameLen : UInt16) (params : PublishParams) :
    m IoTError := do
  let c ← getClient
  let timer ← countdownMs env c.commandTimeoutMs
  let id ← publishId params
  let serialized := serializePublish c.writeBufSize 0 params.qos params.isRetained id
    (some topicName) topicNameLen params.payload params.payloadLen
  match ← storePacket serialized with
  | .error rc => return rc
  | .ok len => do
      let rc ← sendPacket env fuel len timer
      if rc ≠ .success then return rc
      if params.qos = .qos1 then
        let rc ← waitForRead env fuel callbacks .puback timer
        if rc ≠ .success then return rc
        let c ← getClient
        match deserializeAck c.readBuf c.readBufSize with
        | .error rc => return rc
        | .ok _ => return .success
      else return .success

/-- `_aws_iot_mqtt_internal_subscribe`. -/
def internalSubscribe (topicName : CharPtr) (topicNameLen : UInt16) (qos : QoS)
    (handler : Nat) (data : Nat) : m IoTError := do
  let c ← getClient
  let timer ← countdownMs env c.commandTimeoutMs
  let txPacketId ← getNextPacketId
  let serialized :=
    serializeSubscribe c.writeBufSize 0 txPacketId [⟨some topicName, topicNameLen, qos⟩]
  match ← storePacket serialized with
  | .error rc => return rc
  | .ok len => do
      let indexOfFreeMessageHandler ← getFreeMessageHandlerIndex env
      if env.config.numSubscribeHandlers ≤ indexOfFreeMessageHandler then
        return .mqttMaxSubscriptionsReachedError
      let rc ← sendPacket env fuel len timer
      if rc ≠ .success then return rc
      let rc ← waitForRead env fuel callbacks .suback timer
      if rc ≠ .success then return rc
      let c ← getClient
      let suback := deserializeSuback 1 c.readBuf c.readBufSize
      if suback.rc ≠ .success then return suback.rc
      registerHandler indexOfFreeMessageHandler
        ⟨some topicName, topicNameLen, qos, some handler, data⟩
      return .success

/-- `_aws_iot_mqtt_internal_unsubscribe`. -/
def internalUnsubscribe (topicFilter : CharPtr) (topicFilterLen : UInt16) : m IoTError := do
  let c ← getClient
  let subscriptionExists := (List.range env.config.numSubscribeHandlers).any fun i =>
    (c.messageHandlers i).topicName.any (·.strEq topicFilter)
  if ¬ subscriptionExists then return .failure
  let timer ← countdownMs env c.commandTimeoutMs
  let packetId ← getNextPacketId
  let serialized :=
    serializeUnsubscribe c.writeBufSize 0 packetId [(some topicFilter, topicFilterLen)]
  match ← storePacket serialized with
  | .error rc => return rc
  | .ok len => do
      let rc ← sendPacket env fuel len timer
      if rc ≠ .success then return rc
      let rc ← waitForRead env fuel callbacks .unsuback timer
      if rc ≠ .success then return rc
      let c ← getClient
      match deserializeUnsuback c.readBuf c.readBufSize with
      | .error rc => return rc
      | .ok _ => do
          clearHandlers env topicFilter
          return .success

/-- One pass of the for loop of `_aws_iot_mqtt_internal_resubscribe`. -/
def resubscribeSlot (itr : Nat) : m IoTError := do
  let c ← getClient
  let timer ← countdownMs env c.commandTimeoutMs
  let packetId ← getNextPacketId
  let slot := c.messageHandlers itr
  emit fun _ => .resubscribing itr slot
  let serialized :=
    serializeSubscribe c.writeBufSize 0 packetId [⟨slot.topicName, slot.topicNameLen, slot.qos⟩]
  match ← storePacket serialized with
  | .error rc => return rc
  | .ok len => do
      let rc ← sendPacket env fuel len timer
      if rc ≠ .success then return rc
      let rc ← waitForRead env fuel callbacks .suback timer
      if rc ≠ .success then return rc
      let c ← getClient
      return (deserializeSuback 1 c.readBuf c.readBufSize).rc

/-- The for loop of `_aws_iot_mqtt_internal_resubscribe`: `left` more slots from
`itr` on. -/
def resubscribeFrom : Nat → Nat → m IoTError
  | 0, _ => return .success
  | left + 1, itr => do
      let rc ← resubscribeSlot env fuel callbacks itr
      if rc ≠ .success then return rc
      resubscribeFrom left (itr + 1)

/-- `_aws_iot_mqtt_internal_resubscribe`. -/
def internalResubscribe : m IoTError := do
  let existingSubCount ← getFreeMessageHandlerIndex env
  resubscribeFrom env fuel callbacks existingSubCount 0

/-! ## Outer functions -/

/-- The state an operation holds while its internal function runs. -/
def Operation.inProgress : Operation → ClientState
  | .connect => .connecting
  | .publish => .connectedPublishInProgress
  | .subscribe => .connectedSubscribeInProgress
  | .unsubscribe => .connectedUnsubscribeInProgress
  | .resubscribe => .connectedResubscribeInProgress
  | .yield => .connectedYieldInProgress

/-- The second half of every request: run the internal function, then go back to
the state saved before. -/
def performRequest (operation : Operation) (clientState : ClientState)
    (internal : m IoTError) : m IoTError := do
  let opRc ← within (.body operation) internal
  let rc ← setClientState .requestLeave operation.inProgress clientState
  return if opRc = .success ∧ rc ≠ .success then rc else opRc

/-- The admission of `aws_iot_mqtt_publish` and `aws_iot_mqtt_subscribe`. -/
def request (operation : Operation) (internal : m IoTError) : m IoTError := do
  -- `is_client_connected` and `get_client_state` read the state one after the other
  let connected := (← getClientState).isConnected
  if ¬ connected then return .networkDisconnectedError
  let clientState ← getClientState
  if clientState ≠ .connectedIdle ∧ clientState ≠ .connectedWaitForCbReturn then
    return .mqttClientNotIdleError
  let rc ← setClientState .requestEnter clientState operation.inProgress
  if rc ≠ .success then return rc
  performRequest operation clientState internal

/-- `aws_iot_mqtt_publish`. -/
def publish (topicName : Option CharPtr) (topicNameLen : UInt16)
    (params : Option PublishParams) : m IoTError :=
  match topicName, params with
  | some topicName, some params =>
      if topicNameLen = 0 then return .nullValueError
      else request .publish (internalPublish env fuel callbacks topicName topicNameLen params)
  | _, _ => return .nullValueError

/-- `aws_iot_mqtt_subscribe`. -/
def subscribe (topicName : Option CharPtr) (topicNameLen : UInt16) (qos : QoS)
    (handler : Option Nat) (data : Nat) : m IoTError :=
  match topicName, handler with
  | some topicName, some handler =>
      request .subscribe
        (internalSubscribe env fuel callbacks topicName topicNameLen qos handler data)
  | _, _ => return .nullValueError

/-- The admission of `aws_iot_mqtt_unsubscribe`.  Where publish and subscribe
return the error of a failed admission, this one first tries to undo it. -/
def unsubscribeRequest (internal : m IoTError) : m IoTError := do
  let connected := (← getClientState).isConnected
  if ¬ connected then return .networkDisconnectedError
  let clientState ← getClientState
  if clientState ≠ .connectedIdle ∧ clientState ≠ .connectedWaitForCbReturn then
    return .mqttClientNotIdleError
  let rc ← setClientState .requestEnter clientState .connectedUnsubscribeInProgress
  if rc ≠ .success then
    setClientState .unsubscribeUndo .connectedUnsubscribeInProgress clientState
  else performRequest .unsubscribe clientState internal

/-- `aws_iot_mqtt_unsubscribe`. -/
def unsubscribe (topicFilter : Option CharPtr) (topicFilterLen : UInt16) : m IoTError :=
  match topicFilter with
  | some topicFilter =>
      unsubscribeRequest (internalUnsubscribe env fuel callbacks topicFilter topicFilterLen)
  | none => return .nullValueError

/-- The admission of `aws_iot_mqtt_resubscribe`, from CONNECTED_IDLE only. -/
def resubscribeRequest (internal : m IoTError) : m IoTError := do
  let connected := (← getClientState).isConnected
  if ¬ connected then return .networkDisconnectedError
  let clientState ← getClientState
  if clientState ≠ .connectedIdle then return .mqttClientNotIdleError
  let rc ← setClientState .requestEnter .connectedIdle .connectedResubscribeInProgress
  if rc ≠ .success then return rc
  performRequest .resubscribe .connectedIdle internal

/-- `aws_iot_mqtt_resubscribe`. -/
def resubscribe : m IoTError :=
  resubscribeRequest (internalResubscribe env fuel callbacks)

end AwsIot.Mqtt
