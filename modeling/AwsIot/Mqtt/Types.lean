/-
  Mqtt/Types.lean --- the data model of the MQTT client.

  `aws_iot_error.h`, `aws_iot_mqtt_client.h` and the enumerations of
  `aws_iot_mqtt_client_common_internal.h`.  Enumerations are inductive types,
  `uint16_t` fields are `UInt16`, bytes are `UInt8`, and `uint32_t`, `size_t` and
  clock values are `Nat`, reduced explicitly where the code lets them wrap.
-/
import AwsIot.Foundation.Memory

set_option autoImplicit false

namespace AwsIot.Mqtt

/-! ## Return codes -/

/-- `IoT_Error_t`, every code of `aws_iot_error.h`. -/
inductive IoTError where
  | networkPhysicalLayerConnected
  | networkManuallyDisconnected
  | networkAttemptingReconnect
  | networkReconnected
  | mqttNothingToRead
  | mqttConnackConnectionAccepted
  | success
  | failure
  | nullValueError
  | tcpConnectionError
  | sslConnectionError
  | tcpSetupError
  | networkSslConnectTimeoutError
  | networkSslWriteError
  | networkSslInitError
  | networkSslCertError
  | networkSslWriteTimeoutError
  | networkSslReadTimeoutError
  | networkSslReadError
  | networkDisconnectedError
  | networkReconnectTimedOutError
  | networkAlreadyConnectedError
  | networkMbedtlsErrCtrDrbgEntropySourceFailed
  | networkSslUnknownError
  | networkPhysicalLayerDisconnected
  | networkX509RootCrtParseError
  | networkX509DeviceCrtParseError
  | networkPkPrivateKeyParseError
  | networkErrNetSocketFailed
  | networkErrNetUnknownHost
  | networkErrNetConnectFailed
  | networkSslNothingToRead
  | mqttConnectionError
  | mqttConnectTimeoutError
  | mqttRequestTimeoutError
  | mqttUnexpectedClientStateError
  | mqttClientNotIdleError
  | mqttRxMessagePacketTypeInvalidError
  | mqttRxBufferTooShortError
  | mqttTxBufferTooShortError
  | mqttMaxSubscriptionsReachedError
  | mqttDecodeRemainingLengthError
  | mqttConnackUnknownError
  | mqttConnackUnacceptableProtocolVersionError
  | mqttConnackIdentifierRejectedError
  | mqttConnackServerUnavailableError
  | mqttConnackBadUserdataError
  | mqttConnackNotAuthorizedError
  | jsonParseError
  | shadowWaitForPublish
  | shadowJsonBufferTruncated
  | shadowJsonError
  | mutexInitError
  | mutexLockError
  | mutexUnlockError
  | mutexDestroyError
  deriving DecidableEq, Repr, Inhabited

/-- The code is below SUCCESS in `aws_iot_error.h`. -/
def IoTError.isError : IoTError → Bool
  | .networkPhysicalLayerConnected | .networkManuallyDisconnected | .networkAttemptingReconnect
  | .networkReconnected | .mqttNothingToRead | .mqttConnackConnectionAccepted | .success => false
  | _ => true

theorem IoTError.ne_success_of_isError {rc : IoTError} (h : rc.isError = true) :
    rc ≠ .success := by
  rintro rfl
  exact absurd h (by decide)

/-! ## Client states -/

/-- `ClientState`. -/
inductive ClientState where
  | invalid
  | initialized
  | connecting
  | connectedIdle
  | connectedYieldInProgress
  | connectedPublishInProgress
  | connectedSubscribeInProgress
  | connectedUnsubscribeInProgress
  | connectedResubscribeInProgress
  | connectedWaitForCbReturn
  | disconnecting
  | disconnectedError
  | disconnectedManually
  | pendingReconnect
  deriving DecidableEq, Repr, Inhabited

namespace ClientState

/-- The switch of `aws_iot_mqtt_is_client_connected`. -/
def isConnected : ClientState → Bool
  | .connectedIdle | .connectedYieldInProgress | .connectedPublishInProgress
  | .connectedSubscribeInProgress | .connectedUnsubscribeInProgress
  | .connectedResubscribeInProgress | .connectedWaitForCbReturn => true
  | .invalid | .initialized | .connecting | .disconnecting | .disconnectedError
  | .disconnectedManually | .pendingReconnect => false

/-- The client is connected, or about to end the connection. -/
def isOnline (s : ClientState) : Bool := s.isConnected || s == .disconnecting

/-- `_aws_iot_mqtt_is_client_state_valid_for_connect`. -/
def isValidForConnect : ClientState → Bool
  | .initialized | .disconnectedError | .disconnectedManually | .pendingReconnect => true
  | .invalid | .connecting | .connectedIdle | .connectedYieldInProgress
  | .connectedPublishInProgress | .connectedSubscribeInProgress
  | .connectedUnsubscribeInProgress | .connectedResubscribeInProgress
  | .connectedWaitForCbReturn | .disconnecting => false

end ClientState

/-! ## Packet types and quality of service -/

/-- `QoS`, the levels an application can ask for. -/
inductive QoS where
  | qos0
  | qos1
  deriving DecidableEq, Repr, Inhabited

/-- The value of a `QoS` enumerator. -/
def QoS.toByte : QoS → UInt8
  | .qos0 => 0
  | .qos1 => 1

/-- `MessageTypes`. -/
inductive MessageType where
  | unknown
  | connect
  | connack
  | publish
  | puback
  | pubrec
  | pubrel
  | pubcomp
  | subscribe
  | suback
  | unsubscribe
  | unsuback
  | pingreq
  | pingresp
  | disconnect
  deriving DecidableEq, Repr, Inhabited

/-- The value of a `MessageTypes` enumerator, as an `uint8_t`. -/
def MessageType.code : MessageType → UInt8
  | .unknown => 255
  | .connect => 1
  | .connack => 2
  | .publish => 3
  | .puback => 4
  | .pubrec => 5
  | .pubrel => 6
  | .pubcomp => 7
  | .subscribe => 8
  | .suback => 9
  | .unsubscribe => 10
  | .unsuback => 11
  | .pingreq => 12
  | .pingresp => 13
  | .disconnect => 14

/-! ## Strings and request parameters -/

/-- What a `char *` argument points to: the readable bytes from its address on.
Bytes past the list read as zero, so a NUL is always reached. -/
structure CharPtr where
  /-- The bytes at the address, in order. -/
  bytes : List UInt8
  deriving DecidableEq, Repr, Inhabited

namespace CharPtr

/-- The byte `i` positions after the address. -/
def byteAt (p : CharPtr) (i : Nat) : UInt8 := p.bytes.getD i 0

/-- The C string at the address: the bytes before the first NUL. -/
def chars (p : CharPtr) : List UInt8 := p.bytes.takeWhile (· ≠ 0)

/-- The first `n` bytes at the address, as `memcpy` reads them. -/
def take (p : CharPtr) (n : Nat) : List UInt8 := (List.range n).map p.byteAt

/-- `strcmp` finds the two strings equal. -/
def strEq (p q : CharPtr) : Bool := p.chars == q.chars

@[simp] theorem length_take (p : CharPtr) (n : Nat) : (p.take n).length = n := by
  simp [take]

end CharPtr

/-- `IoT_Publish_Message_Params` as an application passes it to publish. -/
structure PublishParams where
  /-- Message quality of service. -/
  qos : QoS
  /-- The retain flag to send. -/
  isRetained : UInt8
  /-- The packet id the structure holds before the call. -/
  id : UInt16
  /-- The payload, `none` for NULL. -/
  payload : Option CharPtr
  /-- The stated payload length. -/
  payloadLen : Nat
  /-- Which of the message structures that running handlers were given this is, counted
  from the innermost one; `none` for a structure of the application's own. -/
  received : Option Nat
  deriving DecidableEq, Repr, Inhabited

/-- `IoT_MQTT_Will_Options`. -/
structure WillOptions where
  /-- The will topic, `none` for NULL. -/
  pTopicName : Option CharPtr
  /-- The will topic's stated length. -/
  topicNameLen : UInt16
  /-- The will message, `none` for NULL. -/
  pMessage : Option CharPtr
  /-- The will message's stated length. -/
  msgLen : UInt16
  /-- The retain flag of the will. -/
  isRetained : Bool
  /-- The quality of service of the will. -/
  qos : QoS
  deriving DecidableEq, Repr, Inhabited

/-- `MQTT_Ver_t`.  The enumeration has one member; `other` is any other value
the field can hold. -/
inductive MqttVersion where
  | mqtt311
  | other (value : UInt8)
  deriving DecidableEq, Repr, Inhabited

/-- The protocol level byte of a version. -/
def MqttVersion.toByte : MqttVersion → UInt8
  | .mqtt311 => 4
  | .other v => v

/-- `IoT_Client_Connect_Params`. -/
structure ConnectParams where
  /-- Desired MQTT version. -/
  mqttVersion : MqttVersion
  /-- The client id, `none` for NULL. -/
  pClientID : Option CharPtr
  /-- The client id's stated length. -/
  clientIDLen : UInt16
  /-- Keep-alive interval in seconds. -/
  keepAliveIntervalInSec : UInt16
  /-- The clean-session flag. -/
  isCleanSession : Bool
  /-- Whether `will` is to be sent. -/
  isWillMsgPresent : Bool
  /-- The last will. -/
  will : WillOptions
  /-- The user name, `none` for NULL. -/
  pUsername : Option CharPtr
  /-- The user name's stated length. -/
  usernameLen : UInt16
  /-- The password, `none` for NULL. -/
  pPassword : Option CharPtr
  /-- The password's stated length. -/
  passwordLen : UInt16
  deriving DecidableEq, Repr, Inhabited

/-- `IoT_MQTT_Will_Options_Initializer`. -/
def willOptionsInitializer : WillOptions where
  pTopicName := none
  topicNameLen := 0
  pMessage := none
  msgLen := 0
  isRetained := false
  qos := .qos0

/-- `IoT_Client_Connect_Params_initializer`. -/
def connectParamsInitializer : ConnectParams where
  mqttVersion := .mqtt311
  pClientID := none
  clientIDLen := 0
  keepAliveIntervalInSec := 60
  isCleanSession := true
  isWillMsgPresent := false
  will := willOptionsInitializer
  pUsername := none
  usernameLen := 0
  pPassword := none
  passwordLen := 0

/-- `IoT_Client_Init_Params`, with the strings that are only passed on to the TLS
layer kept as present or NULL. -/
structure InitParams where
  /-- Enable auto reconnect. -/
  enableAutoReconnect : Bool
  /-- The endpoint is given. -/
  hasHostURL : Bool
  /-- The service port. -/
  port : UInt16
  /-- The root CA file is given. -/
  hasRootCALocation : Bool
  /-- The device certificate file is given. -/
  hasDeviceCertLocation : Bool
  /-- The private key file is given. -/
  hasDevicePrivateKeyLocation : Bool
  /-- Timeout of blocking MQTT calls, in milliseconds. -/
  mqttCommandTimeoutMs : Nat
  /-- A disconnect handler is given. -/
  disconnectHandler : Bool
  /-- The data passed to the disconnect handler. -/
  disconnectHandlerData : Nat := 0
  /-- Wait for a mutex that is taken. -/
  isBlockOnThreadLockEnabled : Bool := false
  deriving DecidableEq, Repr, Inhabited

/-- The NULL checks at the head of `aws_iot_mqtt_init` pass. -/
def InitParams.complete (p : InitParams) : Bool :=
  p.hasHostURL && p.port != 0 && p.hasRootCALocation &&
    p.hasDevicePrivateKeyLocation && p.hasDeviceCertLocation

/-! ## The client -/

/-- `MessageHandlers`, one slot of the handler table.  A slot is free when its
`topicName` is NULL; the other fields keep what they held. -/
structure MessageHandlers where
  /-- The registered filter, `none` for NULL. -/
  topicName : Option CharPtr
  /-- The filter's stated length. -/
  topicNameLen : UInt16
  /-- The requested quality of service. -/
  qos : QoS
  /-- The application's handler, `none` for NULL. -/
  pApplicationHandler : Option Nat
  /-- The data passed to the handler. -/
  pApplicationHandlerData : Nat
  deriving DecidableEq, Repr, Inhabited

/-- A `Timer`: the clock reading in milliseconds at which it expires. -/
abbrev Timer := Nat

/-- The compile-time constants of `aws_iot_config.h`. -/
structure Config where
  /-- `AWS_IOT_MQTT_TX_BUF_LEN`. -/
  txBufLen : Nat := 512
  /-- `AWS_IOT_MQTT_RX_BUF_LEN`. -/
  rxBufLen : Nat := 512
  /-- `AWS_IOT_MQTT_NUM_SUBSCRIBE_HANDLERS`. -/
  numSubscribeHandlers : Nat := 5
  /-- `AWS_IOT_MQTT_MIN_RECONNECT_WAIT_INTERVAL`. -/
  minReconnectWaitInterval : Nat := 1000
  /-- `AWS_IOT_MQTT_MAX_RECONNECT_WAIT_INTERVAL`. -/
  maxReconnectWaitInterval : Nat := 128000
  deriving DecidableEq, Repr, Inhabited

/-- `AWS_IoT_Client`, with `ClientStatus` and `ClientData` flattened.  The two
packet buffers are the memory from their first byte on. -/
structure Client where
  /-- When the next PINGREQ or its answer is due. -/
  pingTimer : Timer
  /-- When the next reconnect attempt is due. -/
  reconnectDelayTimer : Timer
  /-- `clientStatus.clientState`. -/
  clientState : ClientState
  /-- A PINGREQ has not been answered yet. -/
  isPingOutstanding : Bool
  /-- Reconnect without being asked. -/
  isAutoReconnectEnabled : Bool
  /-- The packet id handed out last. -/
  nextPacketId : UInt16
  /-- Timeout of blocking MQTT calls, in milliseconds. -/
  commandTimeoutMs : Nat
  /-- Keep-alive interval of the connection, in seconds. -/
  keepAliveInterval : UInt16
  /-- Current back-off interval, in milliseconds. -/
  currentReconnectWaitInterval : Nat
  /-- How often the network was found disconnected. -/
  counterNetworkDisconnected : Nat
  /-- Size of `writeBuf`. -/
  writeBufSize : Nat
  /-- Size of `readBuf`. -/
  readBufSize : Nat
  /-- Memory of outgoing packets. -/
  writeBuf : Foundation.Memory
  /-- Memory of incoming packets. -/
  readBuf : Foundation.Memory
  /-- The parameters of the last connect. -/
  options : ConnectParams
  /-- The handler table; slots from `numSubscribeHandlers` on are never used. -/
  messageHandlers : Nat → MessageHandlers
  /-- A disconnect handler is registered. -/
  disconnectHandler : Bool
  /-- The data passed to the disconnect handler. -/
  disconnectHandlerData : Nat := 0
  /-- Wait for a mutex that is taken. -/
  isBlockOnThreadLockEnabled : Bool := false
  /-- Not a field of the source: the `id` of the local `msg` of every `handle_publish`
  under way, innermost first.  Its handlers hold a pointer to it. -/
  receivedIds : List (Option UInt16)

/-- An API call, as an application or one of its handlers makes it. -/
inductive ApiCall where
  | init (params : InitParams)
  | connect (params : Option ConnectParams)
  | publish (topicName : Option CharPtr) (topicNameLen : UInt16)
      (params : Option PublishParams)
  | subscribe (topicName : Option CharPtr) (topicNameLen : UInt16) (qos : QoS)
      (handler : Option Nat) (data : Nat)
  | unsubscribe (topicFilter : Option CharPtr) (topicFilterLen : UInt16)
  | resubscribe
  | yield (timeoutMs : Nat)
  | disconnect
  | attemptReconnect
  | autoreconnectSetStatus (newStatus : Bool)
  | setDisconnectHandler (given : Bool)
  | setConnectParams (params : Option ConnectParams)
  | resetNetworkDisconnectedCount
  deriving DecidableEq, Repr, Inhabited

end AwsIot.Mqtt
