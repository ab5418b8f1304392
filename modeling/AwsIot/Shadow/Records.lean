/-
  Shadow/Records.lean --- the tables of awaited answers and of ack topics.

  Every function here is written over the MQTT client as it is modelled: a subscribe or an
  unsubscribe waits for its answer, and the messages that arrive meanwhile are delivered to
  `ackStatusCallback` again.  `Handlers` stands for what they reach.
-/
import AwsIot.Mqtt.Api
import AwsIot.Shadow.Json

set_option autoImplicit false

namespace AwsIot.Shadow

open AwsIot.Foundation AwsIot.Mqtt Program

/-- What is behind the client and the shadow layer: the handlers the client calls, and the
callback the shadow layer calls for a request. -/
structure Handlers (m : Type → Type) extends Callbacks m where
  /-- The callback of a request. -/
  action : m Unit
  /-- The callback of a registered key. -/
  delta : m Unit

/-- The handler `AckStatusCallback`, as the client's handler table refers to it. -/
def ackStatusCallbackHandler : Nat := 0

/-- The handler of deleted shadows. -/
def deleteActionHandler : Nat := 1

/-- The handler `shadow_delta_callback`. -/
def shadowDeltaCallbackHandler : Nat := 2

/-! ## Topics -/

/-- The name of an action in its topics. -/
def ShadowActions.name : ShadowActions → List UInt8
  | .get => ascii "get"
  | .update => ascii "update"
  | .delete => ascii "delete"

/-- The end of an ack topic. -/
def AckTopicTypes.suffix : AckTopicTypes → List UInt8
  | .accepted => ascii "/accepted"
  | .rejected => ascii "/rejected"
  | .action => []

variable (config : ShadowConfig)

/-- `topicNameFromThingAndAction`. -/
def topicNameFromThingAndAction (thingName : List UInt8) (action : ShadowActions)
    (ackType : AckTopicTypes) : List UInt8 :=
  (ascii "$aws/things/" ++ thingName ++ ascii "/shadow/" ++ action.name ++ ackType.suffix).take
    (config.maxShadowTopicLengthBytes - 1)

/-- `strstr(string, needle) != NULL`. -/
def strstr : List UInt8 → List UInt8 → Bool
  | [], needle => needle.isEmpty
  | c :: string, needle => needle.isPrefixOf (c :: string) || strstr string needle

/-! ## Records -/

variable {m : Type → Type} [Monad m] [Halting m] [ClientOps m] [ShadowOps m]

/-- Record `index` of `SubscriptionList` changes by `f`. -/
def updateSubscription (index : Nat) (f : SubscriptionRecord → SubscriptionRecord) : m Unit :=
  modifyRecords fun s => { s with
    subscriptionList := Function.update s.subscriptionList index (f (s.subscriptionList index)) }

/-- Record `index` of `AckWaitList` changes by `f`. -/
def updateAckWait (index : Nat) (f : ToBeReceivedAckRecord → ToBeReceivedAckRecord) : m Unit :=
  modifyRecords fun s => { s with
    ackWaitList := Function.update s.ackWaitList index (f (s.ackWaitList index)) }

/-- Record `index` of `AckWaitList` is free again. -/
def freeAckWait (index : Nat) : m Unit := do
  updateAckWait index fun r => { r with isFree := true }
  note (.freed index)

/-- The record is in use with topic `topic`. -/
def SubscriptionRecord.holds (r : SubscriptionRecord) (topic : List UInt8) : Bool :=
  !r.isFree && r.topic == topic

/-- `getNextFreeIndexOfSubscriptionList`, which takes the record it finds. -/
def getNextFreeIndexOfSubscriptionList : m (Option Nat) := do
  let s ← getRecords
  let free := (List.range config.maxTopicsAtAnyGivenTime).find? fun i =>
    (s.subscriptionList i).isFree
  match free with
  | none => return none
  | some i => do
      updateSubscription i fun r => { r with isFree := false }
      note (.recordTaken i)
      return some i

/-- `findIndexOfSubscriptionList`. -/
def findIndexOfSubscriptionList (topic : List UInt8) : m (Option Nat) := do
  let s ← getRecords
  let found := (List.range config.maxTopicsAtAnyGivenTime).find? fun i =>
    (s.subscriptionList i).holds topic
  match found with
  | none => return none
  | some i => do
      note (.recordMet i)
      return some i

/-- `isSubscriptionPresent`, on the two ack topics. -/
def isSubscriptionPresent (s : Records) (accepted rejected : List UInt8) : Bool :=
  let records := List.range config.maxTopicsAtAnyGivenTime
  (records.any fun i => (s.subscriptionList i).holds accepted) &&
    records.any fun i =>
      (s.subscriptionList i).holds rejected && (s.subscriptionList i).topic != accepted

/-- `topicNameFromThingAndAction` into record `index`. -/
def writeTopic (index : Nat) (topic : List UInt8) : m Unit := do
  let s ← getRecords
  let taken := (List.range config.maxTopicsAtAnyGivenTime).any fun i =>
    i != index && (s.subscriptionList i).holds topic
  storeTopic (.subscription index) topic
  note (.topicWritten index topic taken)

/-- `incrementSubscriptionCnt`, on the two ack topics. -/
def incrementSubscriptionCnt (accepted rejected : List UInt8) (isSticky : Bool) : m Unit :=
  forEach (fun i => do
    let s ← getRecords
    if (s.subscriptionList i).holds accepted || (s.subscriptionList i).holds rejected then
      note (.recordMet i)
      updateSubscription i fun r => { r with count := r.count + 1, isSticky := isSticky })
    (List.range config.maxTopicsAtAnyGivenTime)

/-- The assignments of `initializeRecords` to the tables, and to `pMqttClient`. -/
def initializeRecords : m Unit :=
  modifyRecords fun s => { s with
    ackWaitList := fun i =>
      if i < config.maxAcksToComeinAtAnyGivenTime then
        { s.ackWaitList i with isFree := true }
      else s.ackWaitList i
    subscriptionList := fun i =>
      if i < config.maxTopicsAtAnyGivenTime then
        { s.subscriptionList i with isFree := true, count := 0, isSticky := false }
      else s.subscriptionList i
    pMqttClient := true
    log := .recordsInitialized :: s.log }

variable (env : ShadowEnv) (fuel : Nat) (handlers : Handlers m)

/-! ## The client -/

/-- `aws_iot_mqtt_subscribe` to the topic in `buffer`, `topic`. -/
def mqttSubscribe (buffer : Option TopicBuffer) (topic : List UInt8) (qos : QoS)
    (handler : Nat) : m IoTError :=
  passing buffer topic fun topicName =>
    subscribe env.mqtt fuel handlers.toCallbacks (some topicName)
      (UInt16.ofNat topicName.bytes.length) qos (some handler) 0

/-- A client that is used by one thread gets the topic itself. -/
theorem mqttSubscribe_eq (env : ShadowEnv) (fuel : Nat) (handlers : Handlers M)
    (buffer : Option TopicBuffer) (topic : List UInt8) (qos : QoS) (handler : Nat) :
    mqttSubscribe env fuel handlers buffer topic qos handler =
      subscribe env.mqtt fuel handlers.toCallbacks (some ⟨topic⟩) (UInt16.ofNat topic.length) qos
        (some handler) 0 := rfl

/-- `aws_iot_mqtt_subscribe` to the ack topic in record `index`. -/
def subscribeAck (index : Nat) (topic : List UInt8) : m IoTError := do
  let s ← getRecords
  let rc ← if s.pMqttClient then
      mqttSubscribe env fuel handlers (some (.subscription index)) topic .qos0
        ackStatusCallbackHandler
    else pure .nullValueError
  note (.subscribed topic rc)
  return rc

/-- `aws_iot_mqtt_unsubscribe` from an ack topic. -/
def unsubscribeAck (topic : List UInt8) : m IoTError := do
  note (.unsubscribing topic)
  let s ← getRecords
  let rc ← if s.pMqttClient then
      unsubscribe env.mqtt fuel handlers.toCallbacks (some ⟨topic⟩) (UInt16.ofNat topic.length)
    else pure .nullValueError
  note (.unsubscribed topic rc)
  return rc

/-! ## Ack topics of a request -/

/-- One half of `unsubscribeFromAcceptedAndRejected`: a request less needs `topic`. -/
def lowerSubscription (topic : List UInt8) : m Unit := do
  match ← findIndexOfSubscriptionList env.config topic with
  | none => return ()
  | some i => do
      let r := (← getRecords).subscriptionList i
      if ¬ r.isSticky ∧ r.count = 1 then
        note (.recordHeld i)
        let rc ← unsubscribeAck env fuel handlers topic
        if rc = .success then updateSubscription i fun r => { r with isFree := true }
        note (.recordReleased i)
      else if 1 < r.count then
        updateSubscription i fun r => { r with count := r.count - 1 }

/-- The C string at `AckWaitList[index].thingName`. -/
def ackThingName (r : ToBeReceivedAckRecord) : m (List UInt8) := do
  if r.thingName.length < env.config.maxSizeOfThingName then return r.thingName
  let beyond ← ask env.afterThingName
  return r.thingName ++ beyond

/-- `unsubscribeFromAcceptedAndRejected`. -/
def unsubscribeFromAcceptedAndRejected (index : Nat) : m Unit := do
  let r := (← getRecords).ackWaitList index
  let thingName ← ackThingName env r
  lowerSubscription env fuel handlers
    (topicNameFromThingAndAction env.config thingName r.action .accepted)
  lowerSubscription env fuel handlers
    (topicNameFromThingAndAction env.config thingName r.action .rejected)

/-- The end of `subscribeToShadowActionAcks` when `clearBothEntriesFromList` is still set.
Index -1 is `none`. -/
def clearEntries (indexAcceptedSubList indexRejectedSubList : Option Nat) : m Unit := do
  match indexAcceptedSubList, indexRejectedSubList with
  | some i, _ => updateSubscription i fun r => { r with isFree := true }
  | none, some i => updateSubscription i fun r => { r with isFree := true }
  | none, none => pure ()
  let s ← getRecords
  let r ← match indexAcceptedSubList with
    | some i => pure (s.subscriptionList i)
    | none => ask env.beforeSubscriptionList
  if r.count = 1 then
    let _ ← unsubscribeAck env fuel handlers r.topic

/-- The failed call that took records `i` and `j` is done with the first and leaves the
second in use. -/
def loseRecords (i j : Nat) : m Unit := do
  note (.recordReleased i)
  note (.recordLost j)

/-- The wait for `SUBSCRIBE_SETTLING_TIME` seconds. -/
def settle : m Unit := do
  let subSettlingtimer ← countdownSec env.mqtt 2
  loop (fun (_ : Unit) => do
    if ← hasTimerExpired env.mqtt subSettlingtimer then return .stop () else return .again ())
    fuel ()

/-- `subscribeToShadowActionAcks`, on the two ack topics. -/
def subscribeToShadowActionAcks (accepted rejected : List UInt8) (isSticky : Bool) :
    m IoTError := do
  let indexAcceptedSubList ← getNextFreeIndexOfSubscriptionList env.config
  let indexRejectedSubList ← getNextFreeIndexOfSubscriptionList env.config
  match indexAcceptedSubList, indexRejectedSubList with
  | some i, some j => do
      writeTopic env.config i accepted
      let rc ← subscribeAck env fuel handlers i accepted
      if rc ≠ .success then
        loseRecords i j
        clearEntries env fuel handlers (some i) (some j)
        return rc
      updateSubscription i fun r => { r with count := 1, isSticky := isSticky }
      writeTopic env.config j rejected
      let rc ← subscribeAck env fuel handlers j rejected
      if rc ≠ .success then
        loseRecords i j
        clearEntries env fuel handlers (some i) (some j)
        return rc
      updateSubscription j fun r => { r with count := 1, isSticky := isSticky }
      note (.recordReleased i)
      note (.recordReleased j)
      settle env fuel
      return .success
  | _, _ => do
      note .noFreeRecord
      clearEntries env fuel handlers indexAcceptedSubList indexRejectedSubList
      return .success

/-! ## Awaited answers -/

/-- What `publishToShadowAction` assigns in `msgParams`. -/
def fillMsgParams (msgParams : PublishParams) (pJsonDocumentToBeSent : CharPtr) : PublishParams :=
  { msgParams with
    qos := .qos0
    payloadLen := pJsonDocumentToBeSent.chars.length
    payload := some pJsonDocumentToBeSent
    received := none }

/-- `publishToShadowAction`. -/
def publishToShadowAction (thingName : List UInt8) (action : ShadowActions)
    (pJsonDocumentToBeSent : CharPtr) : m IoTError := do
  let topic := topicNameFromThingAndAction env.config thingName action .action
  let msgParams ← ask env.msgParams
  let s ← getRecords
  let rc ← if s.pMqttClient then
      publish env.mqtt fuel handlers.toCallbacks (some ⟨topic⟩) (UInt16.ofNat topic.length)
        (some (fillMsgParams msgParams pJsonDocumentToBeSent))
    else pure .nullValueError
  note (.published rc)
  return rc

/-- `getNextFreeIndexOfAckWaitList`: `*pIndex`, if it returns true. -/
def getNextFreeIndexOfAckWaitList (s : Records) : Option Nat :=
  (List.range config.maxAcksToComeinAtAnyGivenTime).find? fun i => (s.ackWaitList i).isFree

/-- `addToAckWaitList`. -/
def addToAckWaitList (indexAckWaitList : Nat) (thingName : List UInt8) (action : ShadowActions)
    (extractedClientToken : List UInt8) (callback : Bool) (timeoutSeconds : Nat) : m Unit := do
  let timer ← countdownSec env.mqtt timeoutSeconds
  let s ← getRecords
  updateAckWait indexAckWaitList fun _ =>
    { clientTokenID := extractedClientToken
      thingName := thingName.take env.config.maxSizeOfThingName
      action := action
      callback := callback
      isFree := false
      timer := timer
      request := s.requests }
  modifyRecords fun s => { s with requests := s.requests + 1 }
  note (.tracked indexAckWaitList s.requests)

/-- The callback of the request in record `index`, if there is one. -/
def callBack (index : Nat) (status : AckStatus) : m Unit := do
  let r := (← getRecords).ackWaitList index
  note (.resolving index)
  if r.callback then
    note (.callbackCalled index r.request status)
    handlers.action

/-- The body of the for loop of `HandleExpiredResponseCallbacks`. -/
def handleExpired (index : Nat) : m Unit := do
  let r := (← getRecords).ackWaitList index
  if ¬ r.isFree then
    if ← hasTimerExpired env.mqtt r.timer then
      callBack handlers index .timeout
      freeAckWait index
      unsubscribeFromAcceptedAndRejected env fuel handlers index

/-- `HandleExpiredResponseCallbacks`. -/
def handleExpiredResponseCallbacks : m Unit :=
  forEach (handleExpired env fuel handlers)
    (List.range env.config.maxAcksToComeinAtAnyGivenTime)

/-! ## Answers -/

/-- `isAckForMyThingName`. -/
def isAckForMyThingName (s : Records) (topicName : List UInt8) : Bool :=
  strstr topicName s.myThingName &&
    (strstr topicName (ascii "get/accepted") || strstr topicName (ascii "update/accepted") ||
      strstr topicName (ascii "delta"))

/-- The status that `topicName` tells: what the variable held if it tells none. -/
def ackStatus (topicName : List UInt8) : m AckStatus := do
  if strstr topicName (ascii "accepted") then return .accepted
  if strstr topicName (ascii "rejected") then return .rejected
  ask env.indeterminateStatus

/-- What `AckStatusCallback` does for the record whose answer has come. -/
def resolve (index : Nat) (status : AckStatus) : m Unit := do
  callBack handlers index status
  unsubscribeFromAcceptedAndRejected env fuel handlers index
  freeAckWait index

/-- The body of the for loop of `AckStatusCallback`: whether it returns. -/
def resolveRecord (topicName clientToken : List UInt8) (index : Nat) : m Bool := do
  let r := (← getRecords).ackWaitList index
  if r.isFree ∨ r.clientTokenID ≠ clientToken then return false
  let status ← ackStatus env topicName
  if status ≠ .accepted ∧ status ≠ .rejected then return false
  resolve env fuel handlers index status
  return true

/-- The for loop of `AckStatusCallback`: `left` more records from `i` on. -/
def resolveFrom (topicName clientToken : List UInt8) : Nat → Nat → m Unit
  | 0, _ => return ()
  | left + 1, i => do
      if ← resolveRecord env fuel handlers topicName clientToken i then return ()
      resolveFrom topicName clientToken left (i + 1)

/-- The C string at `topicNameAt` in the read buffer, which ends with the buffer at the
latest. -/
def topicString (c : Client) (topicNameAt : Nat) : List UInt8 :=
  (c.readBuf.slice topicNameAt (c.readBufSize - topicNameAt)).takeWhile (· ≠ 0)

/-- `memcpy` of the payload into `shadowRxBuf`, and the NUL behind it. -/
def receiveDocument (payload : List UInt8) : m Unit :=
  modifyRecords fun s => { s with shadowRxBuf := s.shadowRxBuf.writeAt 0 (payload ++ [0]) }

/-- The bytes from `shadowRxBuf` on. -/
def rxDocument (s : Records) : List UInt8 :=
  s.shadowRxBuf.slice 0 (config.shadowMaxSizeOfRxBuffer + 1)

/-- `AckStatusCallback`. -/
def ackStatusCallback (call : HandlerCall) : m Unit := do
  if env.config.shadowMaxSizeOfRxBuffer < call.payload.length then return ()
  receiveDocument call.payload
  let document := rxDocument env.config (← getRecords)
  match ← isJsonValidAndParse env document with
  | none => return ()
  | some tokenCount => do
      let topicName := topicString (← getClient) call.topicNameAt
      let mine := isAckForMyThingName (← getRecords) topicName
      note (.ackReceived mine document)
      if mine then
        match ← extractVersionNumber env document tokenCount with
        | none => pure ()
        | some version => modifyRecords fun s =>
            { s with shadowJsonVersionNum := max s.shadowJsonVersionNum version }
      match ← extractClientToken env document env.config.maxSizeClientTokenClientSequence with
      | none => return ()
      | some clientToken =>
          resolveFrom env fuel handlers topicName clientToken
            env.config.maxAcksToComeinAtAnyGivenTime 0

/-! ## Delta messages -/

/-- `initDeltaTokens`. -/
def initDeltaTokens : m Unit :=
  modifyRecords fun s => { s with
    tokenTable := fun i =>
      if i < config.maxJsonTokenExpected then { s.tokenTable i with isFree := true }
      else s.tokenTable i
    tokenTableIndex := 0
    deltaTopicSubscribedFlag := false }

/-- The first half of `registerJsonTokenOnDelta`: the subscription. -/
def subscribeDelta : m IoTError := do
  let s ← getRecords
  if s.deltaTopicSubscribedFlag then return .success
  let topic := (ascii "$aws/things/" ++ s.myThingName ++ ascii "/shadow/update/delta").take
    (env.config.maxShadowTopicLengthBytes - 1)
  storeTopic .shadowDeltaTopic topic
  let rc ← if s.pMqttClient then
      mqttSubscribe env fuel handlers (some .shadowDeltaTopic) topic .qos0
        shadowDeltaCallbackHandler
    else pure .nullValueError
  modifyRecords fun s => { s with deltaTopicSubscribedFlag := true }
  return rc

/-- `registerJsonTokenOnDelta`. -/
def registerJsonTokenOnDelta (pStruct : JsonStruct) : m IoTError := do
  let rc ← subscribeDelta env fuel handlers
  let s ← getRecords
  if env.config.maxJsonTokenExpected ≤ s.tokenTableIndex then return .failure
  modifyRecords fun s => { s with
    tokenTable := Function.update s.tokenTable s.tokenTableIndex ⟨pStruct, pStruct.cb, false⟩
    tokenTableIndex := s.tokenTableIndex + 1 }
  return rc

/-- What is found in the receive buffer for entry `index`: the text of the value, and what a
variable that held nothing holds afterwards. -/
def lookUp (s : Records) (tokenCount index : Nat) : Option (List UInt8 × ShadowData) :=
  let entry := s.tokenTable index
  if entry.isFree then none
  else
    let document := rxDocument env.config s
    let found := isJsonKeyMatchingAndUpdateValue env document s.jsonTokenStruct tokenCount
      entry.pStruct .unset
    found.map fun found =>
      ((document.drop found.dataPosition).take found.dataLength, found.data)

/-- The entries behind `index`, and what is found for them, are the same. -/
def laterEntriesKept (s s' : Records) (tokenCount index : Nat) : Bool :=
  s'.tokenTableIndex = s.tokenTableIndex &&
    (List.range s.tokenTableIndex).all fun i => i ≤ index ||
      (s'.tokenTable i == s.tokenTable i &&
        lookUp env s' tokenCount i == lookUp env s tokenCount i)

/-- The body of the for loop of `shadow_delta_callback`, for the message that came `received`
events after the start. -/
def dispatchEntry (received tokenCount index : Nat) : m Unit := do
  let s ← getRecords
  let entry := s.tokenTable index
  if ¬ entry.isFree then
    let document := rxDocument env.config s
    match isJsonKeyMatchingAndUpdateValue env document s.jsonTokenStruct tokenCount entry.pStruct
      (s.appData entry.pStruct.pData) with
    | none => return ()
    | some found => do
        modifyRecords fun s => { s with
          appData := Function.update s.appData entry.pStruct.pData found.data }
        note (.deltaUpdated received index found.data)
        if entry.callback then
          note (.deltaCalledBack received index
            ((document.drop found.dataPosition).take found.dataLength))
          handlers.delta
          let s' ← getRecords
          note (.deltaReturned received index
            (laterEntriesKept env s s' tokenCount index))

/-- The for loop of `shadow_delta_callback`: `left` more entries at most, from `index` on. -/
def dispatchFrom (received tokenCount : Nat) : Nat → Nat → m Unit
  | 0, _ => return ()
  | left + 1, index => do
      let s ← getRecords
      if s.tokenTableIndex ≤ index then return ()
      dispatchEntry env handlers received tokenCount index
      dispatchFrom received tokenCount left (index + 1)

/-- The test of `shadow_delta_callback` whether a message is new: the version it is to store,
`none` for an old message. -/
def newVersion (s : Records) (version : Option UInt32) : Option UInt32 :=
  match version.filter fun _ => s.shadowDiscardOldDeltaFlag with
  | none => some s.shadowJsonVersionNum
  | some version => if s.shadowJsonVersionNum < version then some version else none

/-- `shadow_delta_callback`. -/
def shadowDeltaCallback (call : HandlerCall) : m Unit := do
  if env.config.shadowMaxSizeOfRxBuffer < call.payload.length then return ()
  receiveDocument call.payload
  let document := rxDocument env.config (← getRecords)
  match ← isJsonValidAndParse env document with
  | none => return ()
  | some tokenCount => do
      let received := (← getRecords).log.length
      note (.deltaReceived document)
      let version ← extractVersionNumber env document tokenCount
      match newVersion (← getRecords) version with
      | none => return ()
      | some version => do
          modifyRecords fun s => { s with shadowJsonVersionNum := version }
          dispatchFrom env handlers received tokenCount env.config.maxJsonTokenExpected 0

end AwsIot.Shadow
