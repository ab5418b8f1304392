/-
  Mqtt/Yield.lean --- yield: incoming packets, keep-alive and auto-reconnect.

  `aws_iot_mqtt_client_yield.c`.
-/
import AwsIot.Mqtt.Connection

set_option autoImplicit false

namespace AwsIot.Mqtt

open AwsIot.Foundation

variable {m : Type → Type} [Monad m] [Halting m] [ClientOps m] (env : Env) (fuel : Nat)
  (callbacks : Callbacks m)

/-! ## Losing the connection -/

/-- `_aws_iot_mqtt_force_client_disconnect`. -/
def forceClientDisconnect : m Unit := do
  assignClientState .disconnectedError
  netDisconnect
  let _ ← netDestroy env

/-- `_aws_iot_mqtt_handle_disconnect`. -/
def handleDisconnect : m IoTError := do
  let rc ← disconnect env fuel
  if rc ≠ .success then forceClientDisconnect env
  let c ← getClient
  if c.disconnectHandler then within .callback callbacks.disconnect
  emit fun c => .disconnectHandled c.clientState
  assignClientState .disconnectedError
  return .networkDisconnectedError

/-! ## Getting it back -/

/-- Double the back-off interval, a `uint32_t`. -/
def doubleInterval : m Unit := do
  emit fun c => .attemptFailed c.currentReconnectWaitInterval
  modifyClient fun c => { c with
    currentReconnectWaitInterval := c.currentReconnectWaitInterval * 2 % 2 ^ 32 }

/-- The tail of `_aws_iot_mqtt_handle_reconnect`: double the back-off interval and give
up past the maximum. -/
def backOff (rc : IoTError) : m IoTError := do
  doubleInterval
  let c ← getClient
  if env.config.maxReconnectWaitInterval < c.currentReconnectWaitInterval then
    return .networkReconnectTimedOutError
  let reconnectDelayTimer ← countdownMs env c.currentReconnectWaitInterval
  modifyClient fun c => { c with reconnectDelayTimer := reconnectDelayTimer }
  return rc

/-- `_aws_iot_mqtt_handle_reconnect`. -/
def handleReconnect : m IoTError := do
  let c ← getClient
  if ¬ (← hasTimerExpired env c.reconnectDelayTimer) then return .networkAttemptingReconnect
  let physicalLayer ← ask env.isConnected
  let rc := physicalLayer.getD .networkPhysicalLayerDisconnected
  if rc = .networkPhysicalLayerConnected then
    let rc ← attemptReconnect env fuel callbacks
    if rc = .networkReconnected then
      let rc ← setClientState .yieldReconnected .connectedIdle .connectedYieldInProgress
      if rc ≠ .success then return rc
      return .networkReconnected
    backOff env rc
  else backOff env rc

/-! ## Keep-alive -/

/-- `_aws_iot_mqtt_keep_alive`. -/
def keepAlive : m IoTError := do
  let c ← getClient
  if c.keepAliveInterval = 0 then return .success
  if ¬ (← hasTimerExpired env c.pingTimer) then return .success
  if c.isPingOutstanding then return ← handleDisconnect env fuel callbacks
  let timer ← countdownMs env c.commandTimeoutMs
  match ← storePacket (serializeZero c.writeBufSize .pingreq) with
  | .error rc => return rc
  | .ok len => do
      let rc ← sendPacket env fuel len timer
      if rc ≠ .success then return ← handleDisconnect env fuel callbacks
      modifyClient fun c => { c with isPingOutstanding := true }
      let c ← getClient
      let pingTimer ← countdownSec env (c.keepAliveInterval.toNat / 2)
      modifyClient fun c => { c with pingTimer := pingTimer }
      return .success

/-! ## Yield -/

/-- Set the back-off interval to its minimum. -/
def startInterval : m Unit := do
  modifyClient fun c => { c with
    currentReconnectWaitInterval := env.config.minReconnectWaitInterval }
  emit fun c => .reconnectStarted c.isAutoReconnectEnabled

/-- What a pass of the yield loop does after a keep-alive that found the network
disconnected. -/
def startReconnecting (yieldRc : IoTError) : m (Step IoTError IoTError) := do
  modifyClient fun c => { c with
    counterNetworkDisconnected := (c.counterNetworkDisconnected + 1) % 2 ^ 32 }
  let c ← getClient
  if c.isAutoReconnectEnabled then
    let rc ← setClientState .yieldPending .disconnectedError .pendingReconnect
    if rc ≠ .success then return .stop rc
    startInterval env
    let reconnectDelayTimer ← countdownMs env env.config.minReconnectWaitInterval
    modifyClient fun c => { c with reconnectDelayTimer := reconnectDelayTimer }
    return .again .networkAttemptingReconnect
  else return .stop yieldRc

/-- One pass of the while loop of `_aws_iot_mqtt_internal_yield`; the loop
variable is `yieldRc`. -/
def yieldPass (timer : Timer) (yieldRc : IoTError) : m (Step IoTError IoTError) := do
  if ← hasTimerExpired env timer then return .stop yieldRc
  let clientState ← getClientState
  if clientState = .pendingReconnect then
    emit fun c => .reconnectDue c.clientState c.currentReconnectWaitInterval
    let c ← getClient
    if env.config.maxReconnectWaitInterval < c.currentReconnectWaitInterval then
      return .stop .networkReconnectTimedOutError
    let yieldRc ← handleReconnect env fuel callbacks
    return .again yieldRc
  -- `packet_type` is not initialised; `cycle_read` assigns it before it reads it
  let (yieldRc, _) ← cycleRead env fuel callbacks timer 0
  if yieldRc ≠ .success then return .stop yieldRc
  let yieldRc ← keepAlive env fuel callbacks
  if yieldRc = .networkDisconnectedError then startReconnecting env yieldRc
  else if yieldRc ≠ .success then return .stop yieldRc
  else return .again yieldRc

/-- `_aws_iot_mqtt_internal_yield`. -/
def internalYield (timeoutMs : Nat) : m IoTError := do
  let timer ← countdownMs env timeoutMs
  loop (yieldPass env fuel callbacks timer) fuel .success

/-- The second half of `aws_iot_mqtt_yield`: the internal function, and back to
idle unless the connection is gone. -/
def performYield (internal : m IoTError) : m IoTError := do
  let yieldRc ← within (.body .yield) internal
  if yieldRc ≠ .networkDisconnectedError ∧ yieldRc ≠ .networkAttemptingReconnect then
    let rc ← setClientState .yieldLeave .connectedYieldInProgress .connectedIdle
    return if yieldRc = .success ∧ rc ≠ .success then rc else yieldRc
  else return yieldRc

/-- The state changes of `aws_iot_mqtt_yield` around its internal function. -/
def yieldRequest (internal : m IoTError) : m IoTError := do
  let clientState ← getClientState
  if clientState = .disconnectedManually then return .networkManuallyDisconnected
  if clientState = .pendingReconnect then performYield internal
  else
    let connected := (← getClientState).isConnected
    if ¬ connected then return .networkDisconnectedError
    if clientState ≠ .connectedIdle then return .mqttClientNotIdleError
    let rc ← setClientState .yieldEnter .connectedIdle .connectedYieldInProgress
    if rc ≠ .success then return rc
    performYield internal

/-- `aws_iot_mqtt_yield`. -/
def yield (timeoutMs : Nat) : m IoTError :=
  if timeoutMs = 0 then return .nullValueError
  else yieldRequest (internalYield env fuel callbacks timeoutMs)

end AwsIot.Mqtt
