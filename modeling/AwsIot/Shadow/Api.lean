/-
  Shadow/Api.lean --- the shadow API as an application and its callbacks use it.

  As in `Mqtt/Api.lean`, depth is fuel: whatever is reached below the last level halts the
  run.  A level is entered by every message that is delivered and by every callback.
-/
import AwsIot.Shadow.Records

set_option autoImplicit false

namespace AwsIot.Shadow

open AwsIot.Foundation AwsIot.Mqtt Program

variable {m : Type → Type} [Monad m] [Halting m] [ClientOps m] [ShadowOps m]
  (env : ShadowEnv) (fuel : Nat) (handlers : Handlers m)

/-! ## Actions -/

/-- A record in use has one of the ack topics of a request and is flagged to stay. -/
def keptSubscription (config : ShadowConfig) (s : Records) (accepted rejected : List UInt8) :
    Bool :=
  (List.range config.maxTopicsAtAnyGivenTime).any fun i =>
    ((s.subscriptionList i).holds accepted || (s.subscriptionList i).holds rejected) &&
      (s.subscriptionList i).isSticky

/-- Records in use have both ack topics of a request. -/
def bothOnRecord (config : ShadowConfig) (s : Records) (accepted rejected : List UInt8) :
    Bool :=
  let records := List.range config.maxTopicsAtAnyGivenTime
  (records.any fun i => (s.subscriptionList i).holds accepted) &&
    records.any fun i => (s.subscriptionList i).holds rejected

/-- The second half of `aws_iot_shadow_internal_action` for a request that is to be tracked
in record `index`: its ack topics, the request itself and the record. -/
def trackedAction (index : Nat) (thingName : List UInt8) (action : ShadowActions)
    (pJsonDocumentToBeSent : CharPtr) (clientToken : List UInt8) (params : ActionParams) :
    m IoTError := do
  let accepted := topicNameFromThingAndAction env.config thingName action .accepted
  let rejected := topicNameFromThingAndAction env.config thingName action .rejected
  let s ← getRecords
  note (.requested accepted rejected params.isPersistentSubscribe
    (!params.isPersistentSubscribe && keptSubscription env.config s accepted rejected))
  let rc ← if isSubscriptionPresent env.config s accepted rejected then do
      incrementSubscriptionCnt env.config accepted rejected params.isPersistentSubscribe
      pure .success
    else
      subscribeToShadowActionAcks env fuel handlers accepted rejected
        params.isPersistentSubscribe
  if rc ≠ .success then return rc
  let rc ← publishToShadowAction env fuel handlers thingName action pJsonDocumentToBeSent
  if rc ≠ .success then return rc
  addToAckWaitList env index thingName action clientToken params.callback
    params.timeoutSeconds.toNat
  if bothOnRecord env.config (← getRecords) accepted rejected then
    note (.granted accepted rejected params.isPersistentSubscribe)
  return .success

/-- `aws_iot_shadow_internal_action`. -/
def internalAction (action : ShadowActions) (params : ActionParams)
    (pJsonDocumentToBeSent : Option CharPtr) : m IoTError := do
  match params.pThingName, pJsonDocumentToBeSent with
  | some pThingName, some pJsonDocumentToBeSent => do
      let extractedClientToken ← extractClientToken env pJsonDocumentToBeSent.chars
        env.config.maxSizeClientIdWithSequence
      match extractedClientToken.filter fun _ => params.callback with
      | none =>
          publishToShadowAction env fuel handlers pThingName.chars action pJsonDocumentToBeSent
      | some clientToken =>
          match getNextFreeIndexOfAckWaitList env.config (← getRecords) with
          | none => return .failure
          | some index =>
              trackedAction env fuel handlers index pThingName.chars action
                pJsonDocumentToBeSent clientToken params
  | _, _ => return .nullValueError

/-! ## The interface -/

/-- `aws_iot_shadow_reset_last_received_version`. -/
def resetLastReceivedVersion : m Unit :=
  modifyRecords fun s => { s with shadowJsonVersionNum := 0, log := .versionReset :: s.log }

/-- What `aws_iot_shadow_init` assigns in `mqttInitParams`. -/
def fillMqttInitParams (mqttInitParams : InitParams) (params : ShadowInitParameters) :
    InitParams :=
  { mqttInitParams with
    enableAutoReconnect := params.enableAutoReconnect
    hasHostURL := params.hasHost
    port := params.port
    hasRootCALocation := params.hasRootCA
    hasDeviceCertLocation := params.hasClientCRT
    hasDevicePrivateKeyLocation := params.hasClientKey
    mqttCommandTimeoutMs := 20000
    disconnectHandler := params.disconnectHandler }

/-- `aws_iot_shadow_init`. -/
def shadowInit (params : ShadowInitParameters) : m IoTError := do
  let s ← getRecords
  let rc ← init env.mqtt (fillMqttInitParams (env.mqttInitParams s.log.length) params)
  if rc ≠ .success then return rc
  modifyRecords fun s => { s with clientTokenNum := 0 }
  resetLastReceivedVersion
  initDeltaTokens env.config
  return .success

/-- `aws_iot_shadow_connect`. -/
def shadowConnect (params : ShadowConnectParameters) : m IoTError := do
  match params.pMqttClientId with
  | none => return .nullValueError
  | some pMqttClientId => do
      modifyRecords fun s => { s with
        myThingName := params.pMyThingName.chars.take (env.config.maxSizeOfThingName - 1)
        mqttClientID := pMqttClientId.chars.take (env.config.maxSizeOfUniqueClientIdBytes - 1) }
      let rc ← connect env.mqtt fuel handlers.toCallbacks
        (some { connectParamsInitializer with
          keepAliveIntervalInSec := 10
          pClientID := some pMqttClientId
          clientIDLen := params.mqttClientIdLen })
      if rc = .success then initializeRecords env.config
      if params.deleteActionHandler then
        let s ← getRecords
        mqttSubscribe env fuel handlers none
          (topicNameFromThingAndAction env.config s.myThingName .delete .accepted) .qos1
          deleteActionHandler
      else return rc

/-- `aws_iot_shadow_update`, `aws_iot_shadow_get` and `aws_iot_shadow_delete` first see
whether the client is connected. -/
def whenConnected (action : m IoTError) : m IoTError := do
  let connected := (← getClientState).isConnected
  if ¬ connected then return .mqttConnectionError
  action

/-- `aws_iot_shadow_get` and `aws_iot_shadow_delete`. -/
def requestWithToken (action : ShadowActions) (params : ActionParams) : m IoTError :=
  whenConnected do
    let document ← emptyJsonWithClientToken
    internalAction env fuel handlers action params (some ⟨document⟩)

/-- `aws_iot_shadow_yield`. -/
def shadowYield (timeoutMs : Nat) : m IoTError := do
  handleExpiredResponseCallbacks env fuel handlers
  yield env.mqtt fuel handlers.toCallbacks timeoutMs

/-- `aws_iot_shadow_register_delta`. -/
def registerDelta (pStruct : Option JsonStruct) : m IoTError :=
  match pStruct with
  | none => return .nullValueError
  | some pStruct => whenConnected (registerJsonTokenOnDelta env fuel handlers pStruct)

/-- `aws_iot_shadow_enable_discard_old_delta_msgs` and
`aws_iot_shadow_disable_discard_old_delta_msgs`. -/
def setDiscardOldDeltaMsgs (flag : Bool) : m Unit :=
  modifyRecords fun s => { s with
    shadowDiscardOldDeltaFlag := flag
    log := .discardSet flag :: s.log }

/-- The function behind a call of the shadow API; SUCCESS for one that returns nothing. -/
def shadowDispatch : ShadowCall → m IoTError
  | .init params => shadowInit env params
  | .connect params => shadowConnect env fuel handlers params
  | .disconnect => disconnect env.mqtt fuel
  | .update params pJsonString =>
      whenConnected (internalAction env fuel handlers .update params pJsonString)
  | .get params => requestWithToken env fuel handlers .get params
  | .delete params => requestWithToken env fuel handlers .delete params
  | .yield timeoutMs => shadowYield env fuel handlers timeoutMs
  | .setAutoreconnectStatus newStatus => autoreconnectSetStatus newStatus
  | .registerDelta pStruct => registerDelta env fuel handlers pStruct
  | .resetLastReceivedVersion => do
      resetLastReceivedVersion
      return .success
  | .enableDiscardOldDeltaMsgs => do
      setDiscardOldDeltaMsgs true
      return .success
  | .disableDiscardOldDeltaMsgs => do
      setDiscardOldDeltaMsgs false
      return .success

/-- A call of the shadow API. -/
def shadowCall (call : ShadowCall) : m IoTError := do
  note (.called call)
  let rc ← shadowDispatch env fuel handlers call
  note (.returned call rc)
  return rc

/-! ## Programs -/

/-- A callback or handler of the application: it makes the calls its surroundings choose,
one after the other, and returns. -/
def runCallback : m Unit :=
  loop (fun (_ : Unit) => do
    match ← ask env.callback with
    | none => return .stop ()
    | some call => do
        let _ ← shadowCall env fuel handlers call
        return .again ()) fuel ()

/-- What is behind the client and the shadow layer, `depth` levels deep. -/
def handlersAt : Nat → Handlers m
  | 0 => ⟨⟨fun _ => halt, halt⟩, halt, halt⟩
  | depth + 1 =>
      { message := fun call =>
          if call.handler = ackStatusCallbackHandler then
            ackStatusCallback env fuel (handlersAt depth) call
          else if call.handler = shadowDeltaCallbackHandler then
            shadowDeltaCallback env (handlersAt depth) call
          else runCallback env fuel (handlersAt depth)
        disconnect := runCallback env fuel (handlersAt depth)
        action := runCallback env fuel (handlersAt depth)
        delta := runCallback env fuel (handlersAt depth) }

/-- An application of the shadow API: the calls it makes outside its callbacks, in order. -/
def shadowApplication (calls : List ShadowCall) : m Unit :=
  forEach (fun call => do
    let _ ← shadowCall env fuel (handlersAt env fuel fuel) call
    return ()) calls

end AwsIot.Shadow
