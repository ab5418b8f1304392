/-
  Mqtt/Transport.lean --- whole packets over the network stack.

  `aws_iot_mqtt_internal_send_packet`, `_aws_iot_mqtt_internal_decode_packet_remaining_len`
  and `_aws_iot_mqtt_internal_read_packet`.  The timer handed to
  `networkStack.read` and `networkStack.write` is part of what decides their
  outcome, so it is not passed on.
-/
import AwsIot.Mqtt.Environment
import AwsIot.Mqtt.Packet

set_option autoImplicit false

namespace AwsIot.Mqtt

open AwsIot.Foundation

variable {m : Type → Type} [Monad m] [Halting m] [ClientOps m] (env : Env) (fuel : Nat)

/-! ## Sending -/

/-- One pass of the while loop of `send_packet`; `sent` bytes were taken so far. -/
def sendPass (length : Nat) (timer : Timer) (sent : Nat) : m (Step Nat Nat) := do
  if ¬ sent < length then return .stop sent
  if ← hasTimerExpired env timer then return .stop sent
  -- the requested length is the whole packet's, also when bytes were taken before
  let (rc, sentLen) ← netWrite env sent length
  if rc ≠ .success then return .stop sent
  return .again (sent + sentLen)

/-- `aws_iot_mqtt_internal_send_packet`. -/
def sendPacket (length : Nat) (timer : Timer) : m IoTError := do
  let c ← getClient
  if length ≥ c.writeBufSize then return .mqttTxBufferTooShortError
  emit fun c => .sending (c.writeBuf.slice 0 length)
  let sent ← loop (sendPass env length timer) fuel 0
  if sent ≠ length then return .failure
  emit fun c => .sent (c.writeBuf.slice 0 length)
  return .success

/-! ## Reading -/

/-- The local variables of `_aws_iot_mqtt_internal_decode_packet_remaining_len`. -/
structure DecodeVars where
  /-- `len`, which counts the bytes and is also the out-parameter of `read`. -/
  len : Nat
  /-- `multiplier`, a `size_t`. -/
  multiplier : Nat
  /-- `*rem_len`, a `size_t`. -/
  remLen : Nat
  /-- `encodedByte`. -/
  encodedByte : UInt8

/-- One pass of the do-while loop of `decode_packet_remaining_len`. -/
def decodeRemainingLenPass (v : DecodeVars) : m (Step DecodeVars (IoTError × Nat)) := do
  if v.len + 1 > maxNoOfRemainingLengthBytes then
    return .stop (.mqttDecodeRemainingLengthError, v.remLen)
  let (rc, len, encodedByte) ← netReadByte env .remainingLength v.encodedByte
  if rc ≠ .success then return .stop (rc, v.remLen)
  let remLen := (v.remLen + (encodedByte &&& 127).toNat * v.multiplier) % 2 ^ 64
  if encodedByte &&& 128 ≠ 0 then
    return .again ⟨len, v.multiplier * 128 % 2 ^ 64, remLen, encodedByte⟩
  return .stop (rc, remLen)

/-- `_aws_iot_mqtt_internal_decode_packet_remaining_len`: the return code and
`*rem_len`. -/
def decodePacketRemainingLen : m (IoTError × Nat) := do
  let encodedByte ← ask env.indeterminate
  loop (decodeRemainingLenPass env) fuel ⟨0, 1, 0, encodedByte⟩

/-- One pass of the loop of `read_packet` that drops a packet of `remLen` bytes:
the variables are `total_bytes_read` and `bytes_to_be_read`. -/
def dropPass (readBufSize remLen : Nat) (v : Nat × Nat) : m (Step (Nat × Nat) Unit) := do
  let (rc, readLen) ← netRead env .drop 0 v.2
  if rc ≠ .success then return .stop ()
  let totalBytesRead := v.1 + readLen
  let bytesToBeRead :=
    if remLen - totalBytesRead ≥ readBufSize then readBufSize else remLen - totalBytesRead
  if totalBytesRead < remLen then return .again (totalBytesRead, bytesToBeRead)
  return .stop ()

/-- `_aws_iot_mqtt_internal_read_packet`: the return code and `*pPacketType`,
which held `packetType` before. -/
def readPacket (packetType : UInt8) : m (IoTError × UInt8) := do
  let (rc, _) ← netRead env .header 0 1
  if rc = .networkSslNothingToRead then return (.mqttNothingToRead, packetType)
  -- every other return code of the header read goes on
  let (rc, remLen) ← decodePacketRemainingLen env fuel
  if rc ≠ .success then return (rc, packetType)
  let c ← getClient
  if remLen ≥ c.readBufSize then
    loop (dropPass env c.readBufSize remLen) fuel (0, c.readBufSize)
    return (.mqttRxBufferTooShortError, packetType)
  let lenBytes := writeLenToBuffer (remLen % 2 ^ 32)
  modifyClient fun c => { c with readBuf := c.readBuf.writeAt 1 lenBytes }
  let len := 1 + lenBytes.length
  if remLen > 0 then
    let (rc, readLen) ← netRead env .body len remLen
    if rc ≠ .success ∨ readLen ≠ remLen then return (.failure, packetType)
  emit fun c => .packetRead (c.readBuf.slice 0 (len + remLen))
  let c ← getClient
  return (.success, headerType (c.readBuf 0))

end AwsIot.Mqtt
