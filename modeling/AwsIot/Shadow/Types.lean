/-
  Shadow/Types.lean --- the data of the device shadow layer.

  The shadow layer keeps three tables in static storage.  `AckWaitList` holds the requests
  whose answer is awaited, `SubscriptionList` the ack topics that are subscribed to for
  them, and `tokenTable` the keys whose changes the application wants to hear of.  A fourth
  one belongs to the JSON parser.  All of it is part of the state of the program, like the
  client, and starts out zeroed.
-/
import AwsIot.Foundation.Memory
import AwsIot.Mqtt.Types

set_option autoImplicit false

namespace AwsIot.Shadow

open AwsIot.Foundation AwsIot.Mqtt

/-! ## Requests and answers -/

/-- `ShadowActions_t`. -/
inductive ShadowActions where
  | get
  | update
  | delete
  deriving DecidableEq, Repr, Inhabited

/-- `Shadow_Ack_Status_t`. -/
inductive AckStatus where
  | timeout
  | rejected
  | accepted
  deriving DecidableEq, Repr, Inhabited

/-- `ShadowAckTopicTypes_t`. -/
inductive AckTopicTypes where
  | accepted
  | rejected
  | action
  deriving DecidableEq, Repr, Inhabited

/-! ## The tables -/

/-- `ToBeReceivedAckRecord_t`.  A record is in use unless `isFree` says otherwise. -/
structure ToBeReceivedAckRecord where
  /-- The client token of the request. -/
  clientTokenID : List UInt8
  /-- What `strncpy` put into the array: if that fills it, no NUL ends the name. -/
  thingName : List UInt8
  /-- What was requested. -/
  action : ShadowActions
  /-- A callback is registered. -/
  callback : Bool
  /-- The record may be taken. -/
  isFree : Bool
  /-- When the answer is overdue. -/
  timer : Timer
  /-- Not a field of the source: the number of the request. -/
  request : Nat
  deriving DecidableEq, Repr, Inhabited

/-- `SubscriptionRecord_t`. -/
structure SubscriptionRecord where
  /-- The topic, without the NUL that ends it. -/
  topic : List UInt8
  /-- How many requests need the subscription. -/
  count : UInt8
  /-- The record may be taken. -/
  isFree : Bool
  /-- The subscription is to stay. -/
  isSticky : Bool
  deriving DecidableEq, Repr, Inhabited

/-- `jsmntype_t`. -/
inductive JsmnType where
  | undefined
  | object
  | array
  | string
  | primitive
  deriving DecidableEq, Repr, Inhabited

/-- `jsmntok_t`, as far as the shadow layer looks at it: the characters from `start` up to
`stop` of the document. -/
structure JsmnToken where
  type : JsmnType
  start : Nat
  stop : Nat
  deriving DecidableEq, Repr, Inhabited

/-! ## Registered keys -/

/-- `JsonPrimitiveType`. -/
inductive JsonPrimitiveType where
  | int32
  | int16
  | int8
  | uint32
  | uint16
  | uint8
  | float
  | double
  | bool
  | string
  | object
  deriving DecidableEq, Repr, Inhabited

/-- What a variable of the application holds that a `pData` points to. -/
inductive ShadowData where
  | int32 (value : Int32)
  | int16 (value : Int16)
  | int8 (value : Int8)
  | uint32 (value : UInt32)
  | uint16 (value : UInt16)
  | uint8 (value : UInt8)
  /-- The bits of a `float`. -/
  | float (bits : UInt32)
  /-- The bits of a `double`. -/
  | double (bits : UInt64)
  | bool (value : Bool)
  /-- Something that the shadow layer did not store. -/
  | unset
  deriving DecidableEq, Repr, Inhabited

/-- `jsonStruct_t`. -/
structure JsonStruct where
  /-- The key, without the NUL that ends it. -/
  pKey : List UInt8
  /-- Which variable of the application it points to. -/
  pData : Nat
  /-- The type of the variable. -/
  type : JsonPrimitiveType
  /-- A callback is given. -/
  cb : Bool
  deriving DecidableEq, Repr, Inhabited

/-- `JsonTokenTable_t`; nothing looks at its copy of the key. -/
structure JsonTokenTable where
  /-- What was registered. -/
  pStruct : JsonStruct
  /-- A callback was given. -/
  callback : Bool
  /-- The entry is not in use. -/
  isFree : Bool
  deriving DecidableEq, Repr, Inhabited

/-- The compile-time constants of `aws_iot_config.h` that the shadow layer uses. -/
structure ShadowConfig where
  /-- `SHADOW_MAX_SIZE_OF_RX_BUFFER`. -/
  shadowMaxSizeOfRxBuffer : Nat := 513
  /-- `MAX_SIZE_OF_UNIQUE_CLIENT_ID_BYTES`. -/
  maxSizeOfUniqueClientIdBytes : Nat := 80
  /-- `MAX_SIZE_CLIENT_ID_WITH_SEQUENCE`. -/
  maxSizeClientIdWithSequence : Nat := 90
  /-- `MAX_SIZE_CLIENT_TOKEN_CLIENT_SEQUENCE`. -/
  maxSizeClientTokenClientSequence : Nat := 110
  /-- `MAX_ACKS_TO_COMEIN_AT_ANY_GIVEN_TIME`. -/
  maxAcksToComeinAtAnyGivenTime : Nat := 10
  /-- `MAX_THINGNAME_HANDLED_AT_ANY_GIVEN_TIME`. -/
  maxThingnameHandledAtAnyGivenTime : Nat := 10
  /-- `MAX_SIZE_OF_THING_NAME`. -/
  maxSizeOfThingName : Nat := 20
  /-- `MAX_SHADOW_TOPIC_LENGTH_BYTES`. -/
  maxShadowTopicLengthBytes : Nat := 80
  /-- `MAX_JSON_TOKEN_EXPECTED`. -/
  maxJsonTokenExpected : Nat := 120
  deriving DecidableEq, Repr, Inhabited

/-- `MAX_TOPICS_AT_ANY_GIVEN_TIME`. -/
def ShadowConfig.maxTopicsAtAnyGivenTime (config : ShadowConfig) : Nat :=
  2 * config.maxThingnameHandledAtAnyGivenTime

/-! ## Calls -/

/-- `ShadowInitParameters_t`, with the strings kept as present or NULL. -/
structure ShadowInitParameters where
  /-- The endpoint is given. -/
  hasHost : Bool
  /-- The service port. -/
  port : UInt16
  /-- The root CA file is given. -/
  hasRootCA : Bool
  /-- The device certificate file is given. -/
  hasClientCRT : Bool
  /-- The private key file is given. -/
  hasClientKey : Bool
  /-- Enable auto reconnect. -/
  enableAutoReconnect : Bool
  /-- A disconnect handler is given. -/
  disconnectHandler : Bool
  deriving DecidableEq, Repr, Inhabited

/-- `ShadowConnectParameters_t`. -/
structure ShadowConnectParameters where
  /-- The name of the device's own thing. -/
  pMyThingName : CharPtr
  /-- The client id, `none` for NULL. -/
  pMqttClientId : Option CharPtr
  /-- The client id's stated length. -/
  mqttClientIdLen : UInt16
  /-- A handler of deleted shadows is given. -/
  deleteActionHandler : Bool
  deriving DecidableEq, Repr, Inhabited

/-- A request, as an application makes it. -/
structure ActionParams where
  /-- The thing, `none` for NULL. -/
  pThingName : Option CharPtr
  /-- A callback is given. -/
  callback : Bool
  /-- How long to wait for the answer, in seconds. -/
  timeoutSeconds : UInt8
  /-- The ack topics are to stay subscribed. -/
  isPersistentSubscribe : Bool
  deriving DecidableEq, Repr, Inhabited

/-- A call of the shadow API, as an application or one of its callbacks makes it. -/
inductive ShadowCall where
  | init (params : ShadowInitParameters)
  | connect (params : ShadowConnectParameters)
  | disconnect
  | update (params : ActionParams) (pJsonString : Option CharPtr)
  | get (params : ActionParams)
  | delete (params : ActionParams)
  | yield (timeoutMs : Nat)
  | setAutoreconnectStatus (newStatus : Bool)
  | registerDelta (pStruct : Option JsonStruct)
  | resetLastReceivedVersion
  | enableDiscardOldDeltaMsgs
  | disableDiscardOldDeltaMsgs
  deriving DecidableEq, Repr, Inhabited

/-! ## What has happened -/

/-- One entry of the shadow layer's own log. -/
inductive ShadowEvent where
  /-- `initializeRecords` emptied both tables. -/
  | recordsInitialized
  /-- An action that is to be tracked asks for its ack topics, which a record of theirs
  flagged to stay would lose if `unflagged`. -/
  | requested (accepted rejected : List UInt8) (isSticky unflagged : Bool)
  /-- An action found no two free records for its ack topics. -/
  | noFreeRecord
  /-- Record `index` was free and is taken. -/
  | recordTaken (index : Nat)
  /-- The subscription of record `index` is about to be given up. -/
  | recordHeld (index : Nat)
  /-- The call that took or held record `index` is done with it. -/
  | recordReleased (index : Nat)
  /-- The call that took record `index` failed and leaves it in use. -/
  | recordLost (index : Nat)
  /-- Record `index` was looked up or counted. -/
  | recordMet (index : Nat)
  /-- Record `index` got the topic `topic`, which another record in use had if `taken`. -/
  | topicWritten (index : Nat) (topic : List UInt8) (taken : Bool)
  /-- `aws_iot_mqtt_subscribe` to `topic` returned `rc`. -/
  | subscribed (topic : List UInt8) (rc : IoTError)
  /-- `aws_iot_mqtt_unsubscribe` from `topic` is called. -/
  | unsubscribing (topic : List UInt8)
  /-- `aws_iot_mqtt_unsubscribe` from `topic` returned `rc`. -/
  | unsubscribed (topic : List UInt8) (rc : IoTError)
  /-- `publishToShadowAction` returned `rc`. -/
  | published (rc : IoTError)
  /-- An action with these ack topics, subscribed to, is about to return SUCCESS. -/
  | granted (accepted rejected : List UInt8) (isSticky : Bool)
  /-- The request `request` is awaited in record `index` of `AckWaitList`. -/
  | tracked (index request : Nat)
  /-- The request in record `index` of `AckWaitList` is about to be answered. -/
  | resolving (index : Nat)
  /-- The callback of the request `request` in record `index` is called with `status`. -/
  | callbackCalled (index request : Nat) (status : AckStatus)
  /-- Record `index` of `AckWaitList` is free again. -/
  | freed (index : Nat)
  /-- The number of the version received last was set to 0. -/
  | versionReset
  /-- Delta messages of old versions are ignored from now on, or not. -/
  | discardSet (flag : Bool)
  /-- `AckStatusCallback` got the object that `shadowRxBuf` starts with, by its topic an ack
  for the device's own thing if `mine`. -/
  | ackReceived (mine : Bool) (document : List UInt8)
  /-- `shadow_delta_callback` got the object that `shadowRxBuf` starts with. -/
  | deltaReceived (document : List UInt8)
  /-- The delta message that came `received` events after the start changed the variable of
  entry `index` of `tokenTable` to `data`. -/
  | deltaUpdated (received index : Nat) (data : ShadowData)
  /-- The callback of entry `index` was called for that message with `value`. -/
  | deltaCalledBack (received index : Nat) (value : List UInt8)
  /-- That callback returned, and what is found for the entries behind `index` is what was
  found before it if `kept`. -/
  | deltaReturned (received index : Nat) (kept : Bool)
  /-- A call was made. -/
  | called (call : ShadowCall)
  /-- A call returned `rc`. -/
  | returned (call : ShadowCall) (rc : IoTError)
  deriving DecidableEq, Repr

/-- What an event is about. -/
inductive ShadowEventKind where
  /-- The start or the end of a call, and the publish of a request. -/
  | call
  /-- An ack topic and its record. -/
  | subscription
  /-- An awaited answer. -/
  | answer
  /-- Both tables. -/
  | tables
  /-- A version or a delta message. -/
  | delta
  deriving DecidableEq, Repr

/-- The kind of an event. -/
def ShadowEvent.kind : ShadowEvent → ShadowEventKind
  | .called _ | .returned .. | .published _ => .call
  | .requested .. | .noFreeRecord | .recordTaken _ | .recordHeld _ | .recordReleased _
  | .recordLost _ | .recordMet _ | .topicWritten .. | .subscribed .. | .unsubscribing _
  | .unsubscribed .. | .granted .. => .subscription
  | .tracked .. | .resolving _ | .callbackCalled .. | .freed _ => .answer
  | .recordsInitialized => .tables
  | .versionReset | .discardSet _ | .ackReceived .. | .deltaReceived _ | .deltaUpdated ..
  | .deltaCalledBack .. | .deltaReturned .. => .delta

/-! ## The state -/

/-- The static storage of the shadow layer. -/
structure Records where
  /-- The requests whose answer is awaited; records from
  `maxAcksToComeinAtAnyGivenTime` on are never used. -/
  ackWaitList : Nat → ToBeReceivedAckRecord
  /-- The ack topics subscribed to; records from `maxTopicsAtAnyGivenTime` on are never
  used. -/
  subscriptionList : Nat → SubscriptionRecord
  /-- `pMqttClient` points to the client. -/
  pMqttClient : Bool
  /-- The name of the device's own thing. -/
  myThingName : List UInt8
  /-- The client id that client tokens start with. -/
  mqttClientID : List UInt8
  /-- The number of the next client token. -/
  clientTokenNum : UInt32
  /-- The document received last, up to a NUL, and what is behind it. -/
  shadowRxBuf : Memory
  /-- The tokens of the document parsed last, behind them those of earlier ones. -/
  jsonTokenStruct : Nat → JsmnToken
  /-- The highest version received. -/
  shadowJsonVersionNum : UInt32
  /-- Delta messages of old versions are ignored. -/
  shadowDiscardOldDeltaFlag : Bool
  /-- The keys registered; entries from `maxJsonTokenExpected` on are never used. -/
  tokenTable : Nat → JsonTokenTable
  /-- How many entries of it are in use. -/
  tokenTableIndex : Nat
  /-- The topic of the delta messages, without the NUL that ends it. -/
  shadowDeltaTopic : List UInt8
  /-- The topic has been subscribed to. -/
  deltaTopicSubscribedFlag : Bool
  /-- Not part of the source: the variables of the application. -/
  appData : Nat → ShadowData
  /-- Not part of the source: the number of the next request. -/
  requests : Nat
  /-- Not part of the source: what has happened, newest first. -/
  log : List ShadowEvent

/-- Static storage before its first use. -/
def zeroedRecords : Records where
  ackWaitList _ := ⟨[], [], .get, false, false, 0, 0⟩
  subscriptionList _ := ⟨[], 0, false, false⟩
  pMqttClient := false
  myThingName := []
  mqttClientID := []
  clientTokenNum := 0
  shadowRxBuf _ := 0
  jsonTokenStruct _ := ⟨.undefined, 0, 0⟩
  shadowJsonVersionNum := 0
  shadowDiscardOldDeltaFlag := true
  tokenTable _ := ⟨⟨[], 0, .int32, false⟩, false, false⟩
  tokenTableIndex := 0
  shadowDeltaTopic := []
  deltaTopicSubscribedFlag := false
  appData _ := .unset
  requests := 1
  log := []

/-- The static storage that holds topics which the shadow layer subscribes to. -/
inductive TopicBuffer where
  /-- `SubscriptionList[index].Topic`. -/
  | subscription (index : Nat)
  /-- `shadowDeltaTopic`. -/
  | shadowDeltaTopic
  deriving DecidableEq, Repr

/-- The topic in `buffer`. -/
def Records.topicIn (s : Records) : TopicBuffer → List UInt8
  | .subscription index => (s.subscriptionList index).topic
  | .shadowDeltaTopic => s.shadowDeltaTopic

/-- The static storage when `topic` has been written to `buffer`. -/
def Records.storeTopic (buffer : TopicBuffer) (topic : List UInt8) (s : Records) : Records :=
  match buffer with
  | .subscription index => { s with
      subscriptionList := Function.update s.subscriptionList index
        { s.subscriptionList index with topic := topic } }
  | .shadowDeltaTopic => { s with shadowDeltaTopic := topic }

end AwsIot.Shadow
