/-
  Mqtt/Packet.lean --- control packets to and from bytes.

  The serializers and deserializers of `aws_iot_mqtt_client_common_internal.c`,
  `_publish.c`, `_subscribe.c`, `_unsubscribe.c` and `_connect.c`.

  A serializer's cursor only moves forward from the first byte of the buffer, so
  its effect on the buffer is the list of bytes it writes there; the length it
  stores is the number of these bytes, cut to `uint32_t`.  A deserializer reads
  the memory behind the receive buffer's address and reports positions in it.

  Only definitions here; nothing is assumed about the bytes.
-/
import AwsIot.Mqtt.Types

set_option autoImplicit false

namespace AwsIot.Mqtt

open AwsIot.Foundation

/-! ## The header byte -/

/-- `MQTTHeader.bits.type`. -/
def headerType (byte : UInt8) : UInt8 := byte >>> 4

/-- `MQTTHeader.bits.dup`. -/
def headerDup (byte : UInt8) : UInt8 := (byte >>> 3) &&& 1

/-- `MQTTHeader.bits.qos`. -/
def headerQos (byte : UInt8) : UInt8 := (byte >>> 1) &&& 3

/-- `MQTTHeader.bits.retain`. -/
def headerRetain (byte : UInt8) : UInt8 := byte &&& 1

/-- `aws_iot_mqtt_internal_init_header`. -/
def initHeader (messageType : MessageType) (qos : QoS) (dup retained : UInt8) :
    Except IoTError UInt8 :=
  if messageType = .unknown then .error .failure
  else
    let dup : UInt8 := if dup = 1 then 1 else 0
    let retain : UInt8 := if retained = 1 then 1 else 0
    .ok (messageType.code <<< 4 ||| dup <<< 3 ||| qos.toByte <<< 1 ||| retain)

/-! ## The remaining length -/

/-- `MAX_NO_OF_REMAINING_LENGTH_BYTES`. -/
def maxNoOfRemainingLengthBytes : Nat := 4

/-- The do-while loop of `write_len_to_buffer`, for at most `fuel` digits. -/
def writeLenDigits : Nat → Nat → List UInt8
  | 0, _ => []
  | fuel + 1, length =>
      let encodedByte := UInt8.ofNat (length % 128)
      let length := length / 128
      if length > 0 then (encodedByte ||| 0x80) :: writeLenDigits fuel length
      else [encodedByte]

/-- `aws_iot_mqtt_internal_write_len_to_buffer`.  A `uint32_t` has at most five
digits to the base 128. -/
def writeLenToBuffer (length : Nat) : List UInt8 := writeLenDigits 5 length

/-- The do-while loop of `decode_remaining_length_from_buffer`; `left` is how
many bytes the check on `len` still admits. -/
def decodeLenDigits (buf : Memory) : Nat → Nat → Nat → Nat → Nat → Option (Nat × Nat)
  | 0, _, _, _, _ => none
  | left + 1, pos, multiplier, decodedLen, len =>
      let encodedByte := buf pos
      let decodedLen := decodedLen + (encodedByte &&& 127).toNat * multiplier
      if encodedByte &&& 128 ≠ 0 then
        decodeLenDigits buf left (pos + 1) (multiplier * 128) decodedLen (len + 1)
      else some (decodedLen, len + 1)

/-- `aws_iot_mqtt_internal_decode_remaining_length_from_buffer`: the decoded
length and the number of bytes it took. -/
def decodeRemainingLengthFromBuffer (buf : Memory) (pos : Nat) :
    Except IoTError (Nat × Nat) :=
  match decodeLenDigits buf maxNoOfRemainingLengthBytes pos 1 0 0 with
  | none => .error .mqttDecodeRemainingLengthError
  | some r => .ok r

/-- `aws_iot_mqtt_internal_get_final_packet_length_from_remaining_length`, in
`uint32_t` arithmetic. -/
def getFinalPacketLengthFromRemainingLength (remLen : Nat) : Nat :=
  let remLen := (remLen + 1) % 2 ^ 32
  if remLen < 128 then remLen + 1
  else if remLen < 16384 then remLen + 2
  else if remLen < 2097152 then remLen + 3
  else (remLen + 4) % 2 ^ 32

/-! ## Primitive fields -/

/-- `aws_iot_mqtt_internal_read_uint16_t`. -/
def readUint16 (buf : Memory) (pos : Nat) : UInt16 :=
  UInt16.ofNat ((buf (pos + 1)).toNat + 256 * (buf pos).toNat)

/-- `aws_iot_mqtt_internal_write_uint_16`. -/
def writeUint16 (anInt : UInt16) : List UInt8 :=
  [UInt8.ofNat (anInt.toNat / 256), UInt8.ofNat (anInt.toNat % 256)]

/-- `aws_iot_mqtt_internal_write_utf8_string`; `none` when it copies from NULL. -/
def writeUtf8String (string : Option CharPtr) (stringLen : UInt16) : Option (List UInt8) :=
  if stringLen > 0 then
    match string with
    | none => none
    | some p => some (writeUint16 stringLen ++ p.take stringLen.toNat)
  else some (writeUint16 stringLen)

/-! ## Serializers -/

/-- How a serializer ends. -/
inductive Serialized where
  /-- It copied from NULL; the behaviour is undefined from there on. -/
  | fault
  /-- It returned an error and left the buffer alone. -/
  | error (rc : IoTError)
  /-- It returned SUCCESS and wrote `bytes` from the start of the buffer. -/
  | packet (bytes : List UInt8)
  deriving DecidableEq, Repr

/-- The bytes a serializer was about to write, if it could read all of them. -/
def Serialized.ofBytes : Option (List UInt8) → Serialized
  | none => .fault
  | some bytes => .packet bytes

/-- `aws_iot_mqtt_internal_serialize_zero`. -/
def serializeZero (txBufLen : Nat) (packetType : MessageType) : Serialized :=
  if 4 > txBufLen then .error .mqttTxBufferTooShortError
  else match initHeader packetType .qos0 0 0 with
    | .error rc => .error rc
    | .ok header => .packet (header :: writeLenToBuffer 0)

/-- `aws_iot_mqtt_internal_serialize_ack`. -/
def serializeAck (txBufLen : Nat) (msgType : MessageType) (dup : UInt8) (packetId : UInt16) :
    Serialized :=
  if 4 > txBufLen then .error .mqttTxBufferTooShortError
  else
    let requestQoS := if msgType = .pubrel then QoS.qos1 else QoS.qos0
    match initHeader msgType requestQoS dup 0 with
    | .error rc => .error rc
    | .ok header => .packet (header :: writeLenToBuffer 2 ++ writeUint16 packetId)

/-- `_aws_iot_mqtt_internal_serialize_publish`. -/
def serializePublish (txBufLen : Nat) (dup : UInt8) (qos : QoS) (retained : UInt8)
    (packetId : UInt16) (topicName : Option CharPtr) (topicNameLen : UInt16)
    (payload : Option CharPtr) (payloadLen : Nat) : Serialized :=
  match payload with
  | none => .error .nullValueError
  | some payload =>
      let remLen := (topicNameLen.toNat + payloadLen + 2) % 2 ^ 32
      let remLen := if qos.toByte > 0 then (remLen + 2) % 2 ^ 32 else remLen
      if getFinalPacketLengthFromRemainingLength remLen > txBufLen then
        .error .mqttTxBufferTooShortError
      else match initHeader .publish qos dup retained with
        | .error rc => .error rc
        | .ok header => .ofBytes do
            let topic ← writeUtf8String topicName topicNameLen
            let id := if qos.toByte > 0 then writeUint16 packetId else []
            return header :: writeLenToBuffer remLen ++ topic ++ id ++ payload.take payloadLen

/-- One member of the parallel topic lists of a SUBSCRIBE. -/
structure TopicRequest where
  /-- The filter, `none` for NULL. -/
  topicName : Option CharPtr
  /-- The filter's stated length. -/
  topicNameLen : UInt16
  /-- The requested quality of service. -/
  requestedQoS : QoS
  deriving DecidableEq, Repr

/-- `_aws_iot_mqtt_serialize_subscribe`. -/
def serializeSubscribe (txBufLen : Nat) (dup : UInt8) (packetId : UInt16)
    (topics : List TopicRequest) : Serialized :=
  let remLen := topics.foldl (fun n t => (n + (t.topicNameLen.toNat + 2 + 1)) % 2 ^ 32) 2
  if getFinalPacketLengthFromRemainingLength remLen > txBufLen then
    .error .mqttTxBufferTooShortError
  else match initHeader .subscribe .qos1 dup 0 with
    | .error rc => .error rc
    | .ok header => .ofBytes do
        let fields ← topics.mapM fun t => do
          let topic ← writeUtf8String t.topicName t.topicNameLen
          return topic ++ [t.requestedQoS.toByte]
        return header :: writeLenToBuffer remLen ++ writeUint16 packetId ++ fields.flatten

/-- `_aws_iot_mqtt_serialize_unsubscribe`. -/
def serializeUnsubscribe (txBufLen : Nat) (dup : UInt8) (packetId : UInt16)
    (topics : List (Option CharPtr × UInt16)) : Serialized :=
  let remLen := topics.foldl (fun n t => (n + (t.2.toNat + 2)) % 2 ^ 32) 2
  if getFinalPacketLengthFromRemainingLength remLen > txBufLen then
    .error .mqttTxBufferTooShortError
  else match initHeader .unsubscribe .qos1 dup 0 with
    | .error rc => .error rc
    | .ok header => .ofBytes do
        let fields ← topics.mapM fun t => writeUtf8String t.1 t.2
        return header :: writeLenToBuffer remLen ++ writeUint16 packetId ++ fields.flatten

/-- `_aws_iot_get_connect_packet_length`. -/
def getConnectPacketLength (params : ConnectParams) : Nat :=
  let len := 10
  let len := len + params.clientIDLen.toNat + 2
  let len := if params.isWillMsgPresent then
      len + params.will.topicNameLen.toNat + 2 + params.will.msgLen.toNat + 2
    else len
  let len := if params.pUsername.isSome then len + params.usernameLen.toNat + 2 else len
  if params.pPassword.isSome then len + params.passwordLen.toNat + 2 else len

/-- `MQTT_Connect_Header_Flags.all` as `_aws_iot_mqtt_serialize_connect` fills it. -/
def connectFlags (params : ConnectParams) : UInt8 :=
  let cleansession : UInt8 := if params.isCleanSession then 1 else 0
  let will : UInt8 := if params.isWillMsgPresent then 1 else 0
  let willQoS : UInt8 := if params.isWillMsgPresent then params.will.qos.toByte else 0
  let willRetain : UInt8 :=
    if params.isWillMsgPresent then (if params.will.isRetained then 1 else 0) else 0
  let username : UInt8 := if params.pUsername.isSome then 1 else 0
  let password : UInt8 := if params.pPassword.isSome then 1 else 0
  cleansession <<< 1 ||| will <<< 2 ||| willQoS <<< 3 ||| willRetain <<< 5 |||
    password <<< 6 ||| username <<< 7

/-- The protocol name `MQTT` of the variable header. -/
def protocolName : CharPtr := ⟨[0x4D, 0x51, 0x54, 0x54]⟩

/-- The client id as `_aws_iot_mqtt_serialize_connect` writes it. -/
def writeClientID (params : ConnectParams) : Option (List UInt8) :=
  match params.pClientID with
  | none => some (writeUint16 0)
  | some id => writeUtf8String (some id) params.clientIDLen

/-- The will's topic and message, if there is a will. -/
def writeWill (params : ConnectParams) : Option (List UInt8) :=
  if params.isWillMsgPresent then do
    let topic ← writeUtf8String params.will.pTopicName params.will.topicNameLen
    let message ← writeUtf8String params.will.pMessage params.will.msgLen
    return topic ++ message
  else some []

/-- The user name or the password, if its pointer is not NULL. -/
def writeCredential (string : Option CharPtr) (stringLen : UInt16) : Option (List UInt8) :=
  if string.isSome then writeUtf8String string stringLen else some []

/-- What `_aws_iot_mqtt_serialize_connect` writes behind the remaining length. -/
def connectBody (params : ConnectParams) : Option (List UInt8) := do
  let name ← writeUtf8String (some protocolName) 4
  let clientID ← writeClientID params
  let will ← writeWill params
  let username ← writeCredential params.pUsername params.usernameLen
  let password ← writeCredential params.pPassword params.passwordLen
  return name ++ ([params.mqttVersion.toByte] ++ ([connectFlags params] ++
    (writeUint16 params.keepAliveIntervalInSec ++ (clientID ++ (will ++ (username ++ password))))))

/-- `_aws_iot_mqtt_serialize_connect`. -/
def serializeConnect (txBufLen : Nat) (params : ConnectParams) : Serialized :=
  if params.pClientID.isNone ∧ params.clientIDLen ≠ 0 ∨
      params.pClientID.isSome ∧ params.clientIDLen = 0 then
    .error .nullValueError
  else match params.mqttVersion with
    | .other _ => .error .mqttConnackUnacceptableProtocolVersionError
    | .mqtt311 =>
        let len := getConnectPacketLength params
        if getFinalPacketLengthFromRemainingLength len > txBufLen then
          .error .mqttTxBufferTooShortError
        else match initHeader .connect .qos0 0 0 with
          | .error rc => .error rc
          | .ok header => .ofBytes do
              let body ← connectBody params
              return header :: (writeLenToBuffer len ++ body)

/-! ## Deserializers -/

/-- The connack return code of a CONNACK's last byte. -/
def connackReturnCode : UInt8 → IoTError
  | 0 => .mqttConnackConnectionAccepted
  | 1 => .mqttConnackUnacceptableProtocolVersionError
  | 2 => .mqttConnackIdentifierRejectedError
  | 3 => .mqttConnackServerUnavailableError
  | 4 => .mqttConnackBadUserdataError
  | 5 => .mqttConnackNotAuthorizedError
  | _ => .mqttConnackUnknownError

/-- `_aws_iot_mqtt_deserialize_connack`: the session-present flag and the connack
return code. -/
def deserializeConnack (rxBuf : Memory) (rxBufLen : Nat) : Except IoTError (UInt8 × IoTError) :=
  if 4 > rxBufLen then .error .mqttRxBufferTooShortError
  else if headerType (rxBuf 0) ≠ MessageType.connack.code then .error .failure
  else match decodeRemainingLengthFromBuffer rxBuf 1 with
    | .error rc => .error rc
    | .ok (decodedLen, readBytesLen) =>
        let curdata := 1 + readBytesLen
        if decodedLen ≠ 2 then .error .mqttDecodeRemainingLengthError
        else .ok (rxBuf curdata >>> 7, connackReturnCode (rxBuf (curdata + 1)))

/-- `IoT_Publish_Message_Params` as `handle_publish` fills it; the topic and the
payload are positions in the receive buffer.  `id` stays unassigned for QoS 0. -/
structure IncomingPublish where
  /-- The DUP flag. -/
  isDup : UInt8
  /-- The two QoS bits. -/
  qos : UInt8
  /-- The retain flag. -/
  isRetained : UInt8
  /-- The packet id. -/
  id : Option UInt16
  /-- Where the topic name starts. -/
  topicName : Nat
  /-- The topic name's length. -/
  topicNameLen : UInt16
  /-- Where the payload starts. -/
  payload : Nat
  /-- The payload's length, a `size_t`. -/
  payloadLen : Nat
  deriving DecidableEq, Repr

/-- `_aws_iot_mqtt_read_string_with_len` at `pos`: the string's length and the
position behind it; the string itself starts at `pos + 2`. -/
def readStringWithLen (buf : Memory) (pos enddata : Nat) : Option (UInt16 × Nat) :=
  if enddata > pos + 1 then
    let stringLen := readUint16 buf pos
    if pos + 2 + stringLen.toNat ≤ enddata then some (stringLen, pos + 2 + stringLen.toNat)
    else none
  else none

/-- `aws_iot_mqtt_internal_deserialize_publish`. -/
def deserializePublish (rxBuf : Memory) (rxBufLen : Nat) : Except IoTError IncomingPublish :=
  if 4 > rxBufLen then .error .mqttRxBufferTooShortError
  else if headerType (rxBuf 0) ≠ MessageType.publish.code then .error .failure
  else match decodeRemainingLengthFromBuffer rxBuf 1 with
    | .error rc => .error rc
    | .ok (decodedLen, readBytesLen) =>
        let curData := 1 + readBytesLen
        let endData := curData + decodedLen
        match readStringWithLen rxBuf curData endData with
        | none => .error .failure
        | some (topicNameLen, afterTopic) =>
            let qos := headerQos (rxBuf 0)
            -- the packet id is read without looking at `endData`
            let payload := if qos ≠ 0 then afterTopic + 2 else afterTopic
            .ok {
              isDup := headerDup (rxBuf 0)
              qos := qos
              isRetained := headerRetain (rxBuf 0)
              id := if qos ≠ 0 then some (readUint16 rxBuf afterTopic) else none
              topicName := curData + 2
              topicNameLen := topicNameLen
              payload := payload
              payloadLen := (endData + 2 ^ 64 - payload) % 2 ^ 64 }

/-- What `aws_iot_mqtt_internal_deserialize_ack` returns through its pointers. -/
structure IncomingAck where
  /-- The packet type nibble. -/
  packetType : UInt8
  /-- The DUP flag. -/
  dup : UInt8
  /-- The packet id. -/
  packetId : UInt16
  deriving DecidableEq, Repr

/-- `aws_iot_mqtt_internal_deserialize_ack`. -/
def deserializeAck (rxBuf : Memory) (rxBufLen : Nat) : Except IoTError IncomingAck :=
  if 4 > rxBufLen then .error .mqttRxBufferTooShortError
  else match decodeRemainingLengthFromBuffer rxBuf 1 with
    | .error rc => .error rc
    | .ok (decodedLen, readBytesLen) =>
        if decodedLen < 2 then .error .failure
        else .ok {
          packetType := headerType (rxBuf 0)
          dup := headerDup (rxBuf 0)
          packetId := readUint16 rxBuf (1 + readBytesLen) }

/-- The loop of `_aws_iot_mqtt_deserialize_suback` over the `left` bytes up to
`endData`: the return code and the codes stored. -/
def readGrantedQoSs (rxBuf : Memory) (maxExpectedQoSCount : Nat) :
    Nat → Nat → List UInt8 → IoTError × List UInt8
  | 0, _, stored => (.success, stored)
  | left + 1, curData, stored =>
      if stored.length > maxExpectedQoSCount then (.failure, stored)
      else readGrantedQoSs rxBuf maxExpectedQoSCount left (curData + 1)
        (stored ++ [rxBuf curData])

/-- What `_aws_iot_mqtt_deserialize_suback` leaves behind. -/
structure SubackResult where
  /-- The return code. -/
  rc : IoTError
  /-- `*pPacketId`, if assigned. -/
  packetId : Option UInt16
  /-- The members of `pGrantedQoSs` assigned, in order. -/
  grantedQoSs : List UInt8
  deriving DecidableEq, Repr

/-- `_aws_iot_mqtt_deserialize_suback`. -/
def deserializeSuback (maxExpectedQoSCount : Nat) (rxBuf : Memory) (rxBufLen : Nat) :
    SubackResult :=
  if 5 > rxBufLen then ⟨.mqttRxBufferTooShortError, none, []⟩
  else if headerType (rxBuf 0) ≠ MessageType.suback.code then ⟨.failure, none, []⟩
  else match decodeRemainingLengthFromBuffer rxBuf 1 with
    | .error rc => ⟨rc, none, []⟩
    | .ok (decodedLen, readBytesLen) =>
        let curData := 1 + readBytesLen
        if decodedLen < 2 then ⟨.failure, none, []⟩
        else
          let (rc, grantedQoSs) :=
            readGrantedQoSs rxBuf maxExpectedQoSCount (decodedLen - 2) (curData + 2) []
          ⟨rc, some (readUint16 rxBuf curData), grantedQoSs⟩

/-- `_aws_iot_mqtt_deserialize_unsuback`: the packet id. -/
def deserializeUnsuback (rxBuf : Memory) (rxBufLen : Nat) : Except IoTError UInt16 :=
  match deserializeAck rxBuf rxBufLen with
  | .error rc => .error rc
  | .ok ack =>
      if ack.packetType ≠ MessageType.unsuback.code then .error .failure else .ok ack.packetId

end AwsIot.Mqtt
