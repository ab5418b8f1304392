/-
  Mqtt/Connection.lean --- init, connect, disconnect and reconnect.

  `aws_iot_mqtt_client.c` and `aws_iot_mqtt_client_connect.c`.
-/
import AwsIot.Mqtt.Requests

set_option autoImplicit false

namespace AwsIot.Mqtt

open AwsIot.Foundation

variable {m : Type → Type} [Monad m] [Halting m] [ClientOps m] (env : Env) (fuel : Nat)
  (callbacks : Callbacks m)

/-! ## Initialisation -/

/-- The copy of `aws_iot_mqtt_set_connect_params`, field by field as the code
makes it.  The password's pointer is taken from the user name. -/
def copyConnectParams (new : ConnectParams) : ConnectParams where
  isWillMsgPresent := new.isWillMsgPresent
  mqttVersion := new.mqttVersion
  pClientID := new.pClientID
  clientIDLen := new.clientIDLen
  pUsername := new.pUsername
  usernameLen := new.usernameLen
  pPassword := new.pUsername
  passwordLen := new.passwordLen
  will := {
    pTopicName := new.will.pTopicName
    topicNameLen := new.will.topicNameLen
    pMessage := new.will.pMessage
    msgLen := new.will.msgLen
    qos := new.will.qos
    isRetained := new.will.isRetained }
  keepAliveIntervalInSec := new.keepAliveIntervalInSec
  isCleanSession := new.isCleanSession

/-- `aws_iot_mqtt_set_connect_params`. -/
def setConnectParams (params : Option ConnectParams) : m IoTError :=
  match params with
  | none => return .nullValueError
  | some new => do
      modifyClient fun c => { c with options := copyConnectParams new }
      return .success

/-- The for loop of `aws_iot_mqtt_init` over the first `n` slots. -/
def emptyHandlers (n : Nat) (handlers : Nat → MessageHandlers) : Nat → MessageHandlers :=
  fun i =>
    if i < n then
      { handlers i with
        topicName := none
        pApplicationHandler := none
        pApplicationHandlerData := 0
        qos := .qos0 }
    else handlers i

/-- The handler table of a client that is being initialised. -/
def resetHandlers : m Unit := do
  modifyClient fun c => { c with
    messageHandlers := emptyHandlers env.config.numSubscribeHandlers c.messageHandlers }
  emit fun _ => .tableReset

/-- `aws_iot_mqtt_init`. -/
def init (params : InitParams) : m IoTError := do
  if ¬ params.complete then return .nullValueError
  resetHandlers env
  modifyClient fun c => { c with
    commandTimeoutMs := params.mqttCommandTimeoutMs
    writeBufSize := env.config.txBufLen
    readBufSize := env.config.rxBufLen
    counterNetworkDisconnected := 0
    disconnectHandler := params.disconnectHandler
    disconnectHandlerData := params.disconnectHandlerData
    nextPacketId := 1 }
  let rc ← setConnectParams (some connectParamsInitializer)
  if rc ≠ .success then return rc
  modifyClient fun c => { c with
    isBlockOnThreadLockEnabled := params.isBlockOnThreadLockEnabled
    isPingOutstanding := false
    isAutoReconnectEnabled := params.enableAutoReconnect }
  let rc ← ask env.tlsInit
  emit fun _ => .tlsInit rc
  if rc ≠ .success then
    assignClientState .invalid
    return rc
  modifyClient fun c => { c with pingTimer := initTimer, reconnectDelayTimer := initTimer }
  assignClientState .initialized
  return .success

/-! ## Connect -/

/-- The end of `_aws_iot_mqtt_internal_connect`: wait for the CONNACK and look at
its return code. -/
def awaitConnack (connectTimer : Timer) : m IoTError := do
  let rc ← waitForRead env fuel callbacks .connack connectTimer
  if rc ≠ .success then return rc
  let c ← getClient
  match deserializeConnack c.readBuf c.readBufSize with
  | .error rc => return rc
  | .ok (_, connackRc) => do
      if connackRc ≠ .mqttConnackConnectionAccepted then return connackRc
      let c ← getClient
      let pingTimer ← countdownSec env (c.keepAliveInterval.toNat / 2)
      modifyClient fun c => { c with isPingOutstanding := false, pingTimer := pingTimer }
      return .success

/-- `_aws_iot_mqtt_internal_connect` behind `networkStack.connect`: the CONNECT
packet and its answer. -/
def exchangeConnect : m IoTError := do
  let c ← getClient
  let connectTimer ← countdownMs env c.commandTimeoutMs
  modifyClient fun c => { c with keepAliveInterval := c.options.keepAliveIntervalInSec }
  let c ← getClient
  match ← storePacket (serializeConnect c.writeBufSize c.options) with
  | .error rc => return rc
  | .ok len => do
      if len = 0 then return .success
      let rc ← sendPacket env fuel len connectTimer
      if rc ≠ .success then return rc
      awaitConnack env fuel callbacks connectTimer

/-- The head of `_aws_iot_mqtt_internal_connect`: new options, if supplied. -/
def overrideOptions : Option ConnectParams → m IoTError
  | none => return .success
  | some params => setConnectParams (some params)

/-- `_aws_iot_mqtt_internal_connect`. -/
def internalConnect (params : Option ConnectParams) : m IoTError := do
  let rc ← overrideOptions params
  if rc ≠ .success then return .mqttConnectionError
  let rc ← netConnect env
  if rc ≠ .success then return rc
  exchangeConnect env fuel callbacks

/-- The state changes of `aws_iot_mqtt_connect` around its internal function. -/
def connectRequest (internal : m IoTError) : m IoTError := do
  let clientState ← getClientState
  if ¬ clientState.isValidForConnect then return .networkAlreadyConnectedError
  let _ ← setClientState .connectEnter clientState .connecting
  let rc ← within (.body .connect) internal
  if rc ≠ .success then
    emit fun c => .connectCleanup c.clientState
    netDisconnect
    let _ ← netDestroy env
    let _ ← setClientState .connectFailed .connecting .disconnectedError
    return rc
  else
    let _ ← setClientState .connectDone .connecting .connectedIdle
    emit fun c => .connectDone c.clientState
    return rc

/-- `aws_iot_mqtt_connect`. -/
def connect (params : Option ConnectParams) : m IoTError :=
  connectRequest env (internalConnect env fuel callbacks params)

/-! ## Disconnect -/

/-- `_aws_iot_mqtt_internal_disconnect`. -/
def internalDisconnect : m IoTError := do
  let c ← getClient
  match ← storePacket (serializeZero c.writeBufSize .disconnect) with
  | .error rc => return rc
  | .ok len => do
      let c ← getClient
      let timer ← countdownMs env c.commandTimeoutMs
      if len > 0 then
        let rc ← sendPacket env fuel len timer
        if rc ≠ .success then return rc
      netDisconnect
      let rc ← netDestroy env
      emit fun _ => .disconnectDestroyed rc
      if rc ≠ .success then return .failure
      return .success

/-- `aws_iot_mqtt_disconnect`. -/
def disconnect : m IoTError := do
  let clientState ← getClientState
  let connected := (← getClientState).isConnected
  if ¬ connected then return .networkDisconnectedError
  let rc ← setClientState .disconnectEnter clientState .disconnecting
  if rc ≠ .success then return rc
  let rc ← internalDisconnect env fuel
  if rc ≠ .success then assignClientState clientState
  else assignClientState .disconnectedManually
  return rc

/-! ## Reconnect -/

/-- What `aws_iot_mqtt_attempt_reconnect` does with a client it could not connect. -/
def enterPending : m Unit := do
  let rc ← setClientState .reconnectPending .disconnectedError .pendingReconnect
  emit fun c => .reconnectPending rc c.isAutoReconnectEnabled

/-- `aws_iot_mqtt_attempt_reconnect`. -/
def attemptReconnect : m IoTError := do
  let connected := (← getClientState).isConnected
  if connected then return .networkAlreadyConnectedError
  let _ ← connect env fuel callbacks none
  if (← getClientState) ≠ .connectedIdle then
    enterPending
    return .networkAttemptingReconnect
  let rc ← resubscribe env fuel callbacks
  if rc ≠ .success then return rc
  return .networkReconnected

end AwsIot.Mqtt
