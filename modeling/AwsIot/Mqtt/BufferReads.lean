/-
  Mqtt/BufferReads.lean --- what the deserializers read of the receive buffer.

  The deserializers of `Mqtt/Packet.lean` once more, this time read by read.  They take
  the length of the buffer, compare it with the size of the smallest packet, and from
  there on follow the lengths in the packet.  `deserializers_readSafely_iff` says for each
  of them on which buffers this stays inside.
-/
import AwsIot.Foundation.Peek
import AwsIot.Mqtt.LengthField

set_option autoImplicit false

namespace AwsIot.Mqtt

open AwsIot.Foundation

/-! ## The deserializers, read by read -/

/-- The loop of `decode_remaining_length_from_buffer`. -/
def peekLenDigits : Nat → Nat → Nat → Nat → Nat → Peek (Option (Nat × Nat))
  | 0, _, _, _, _ => return none
  | left + 1, pos, multiplier, decodedLen, len => do
      let encodedByte ← Peek.byteAt pos
      let decodedLen := decodedLen + (encodedByte &&& 127).toNat * multiplier
      if encodedByte &&& 128 ≠ 0 then
        peekLenDigits left (pos + 1) (multiplier * 128) decodedLen (len + 1)
      else return some (decodedLen, len + 1)

/-- `aws_iot_mqtt_internal_decode_remaining_length_from_buffer`. -/
def peekRemainingLength (pos : Nat) : Peek (Except IoTError (Nat × Nat)) := do
  match ← peekLenDigits maxNoOfRemainingLengthBytes pos 1 0 0 with
  | none => return .error .mqttDecodeRemainingLengthError
  | some r => return .ok r

/-- `aws_iot_mqtt_internal_read_uint16_t`. -/
def peekUint16 (pos : Nat) : Peek UInt16 := do
  let firstByte ← Peek.byteAt pos
  let secondByte ← Peek.byteAt (pos + 1)
  return UInt16.ofNat (secondByte.toNat + 256 * firstByte.toNat)

/-- `_aws_iot_mqtt_read_string_with_len`. -/
def peekStringWithLen (pos enddata : Nat) : Peek (Option (UInt16 × Nat)) :=
  if enddata > pos + 1 then do
    let stringLen ← peekUint16 pos
    if pos + 2 + stringLen.toNat ≤ enddata then
      return some (stringLen, pos + 2 + stringLen.toNat)
    else return none
  else return none

/-- `_aws_iot_mqtt_deserialize_connack`. -/
def peekConnack (rxBufLen : Nat) : Peek (Except IoTError (UInt8 × IoTError)) :=
  if 4 > rxBufLen then return .error .mqttRxBufferTooShortError
  else do
    let header ← Peek.byteAt 0
    if headerType header ≠ MessageType.connack.code then return .error .failure
    else match ← peekRemainingLength 1 with
      | .error rc => return .error rc
      | .ok (decodedLen, readBytesLen) =>
          if decodedLen ≠ 2 then return .error .mqttDecodeRemainingLengthError
          else do
            let flags ← Peek.byteAt (1 + readBytesLen)
            let connackRc ← Peek.byteAt (1 + readBytesLen + 1)
            return .ok (flags >>> 7, connackReturnCode connackRc)

/-- The packet id of a PUBLISH with QoS `qos`. -/
def peekPublishId (qos : UInt8) (pos : Nat) : Peek (Option UInt16) :=
  if qos ≠ 0 then do
    let packetId ← peekUint16 pos
    return some packetId
  else return none

/-- `aws_iot_mqtt_internal_deserialize_publish`. -/
def peekPublish (rxBufLen : Nat) : Peek (Except IoTError IncomingPublish) :=
  if 4 > rxBufLen then return .error .mqttRxBufferTooShortError
  else do
    let header ← Peek.byteAt 0
    if headerType header ≠ MessageType.publish.code then return .error .failure
    else match ← peekRemainingLength 1 with
      | .error rc => return .error rc
      | .ok (decodedLen, readBytesLen) =>
          let curData := 1 + readBytesLen
          let endData := curData + decodedLen
          match ← peekStringWithLen curData endData with
          | none => return .error .failure
          | some (topicNameLen, afterTopic) =>
              let qos := headerQos header
              let id ← peekPublishId qos afterTopic
              let payload := if qos ≠ 0 then afterTopic + 2 else afterTopic
              return .ok {
                isDup := headerDup header
                qos := qos
                isRetained := headerRetain header
                id := id
                topicName := curData + 2
                topicNameLen := topicNameLen
                payload := payload
                payloadLen := (endData + 2 ^ 64 - payload) % 2 ^ 64 }

/-- `aws_iot_mqtt_internal_deserialize_ack`. -/
def peekAck (rxBufLen : Nat) : Peek (Except IoTError IncomingAck) :=
  if 4 > rxBufLen then return .error .mqttRxBufferTooShortError
  else do
    let header ← Peek.byteAt 0
    match ← peekRemainingLength 1 with
    | .error rc => return .error rc
    | .ok (decodedLen, readBytesLen) =>
        if decodedLen < 2 then return .error .failure
        else do
          let packetId ← peekUint16 (1 + readBytesLen)
          return .ok {
            packetType := headerType header
            dup := headerDup header
            packetId := packetId }

/-- The loop of `_aws_iot_mqtt_deserialize_suback`. -/
def peekGrantedQoSs (maxExpectedQoSCount : Nat) :
    Nat → Nat → List UInt8 → Peek (IoTError × List UInt8)
  | 0, _, stored => return (.success, stored)
  | left + 1, curData, stored =>
      if stored.length > maxExpectedQoSCount then return (.failure, stored)
      else do
        let code ← Peek.byteAt curData
        peekGrantedQoSs maxExpectedQoSCount left (curData + 1) (stored ++ [code])

/-- `_aws_iot_mqtt_deserialize_suback`. -/
def peekSuback (maxExpectedQoSCount rxBufLen : Nat) : Peek SubackResult :=
  if 5 > rxBufLen then return ⟨.mqttRxBufferTooShortError, none, []⟩
  else do
    let header ← Peek.byteAt 0
    if headerType header ≠ MessageType.suback.code then return ⟨.failure, none, []⟩
    else match ← peekRemainingLength 1 with
      | .error rc => return ⟨rc, none, []⟩
      | .ok (decodedLen, readBytesLen) =>
          let curData := 1 + readBytesLen
          if decodedLen < 2 then return ⟨.failure, none, []⟩
          else do
            let packetId ← peekUint16 curData
            let (rc, grantedQoSs) ←
              peekGrantedQoSs maxExpectedQoSCount (decodedLen - 2) (curData + 2) []
            return ⟨rc, some packetId, grantedQoSs⟩

/-! ## They return what the deserializers return -/

section Run

variable {rxBuf : Memory} {rxBufLen : Nat}

theorem run_peekLenDigits : ∀ (left pos multiplier decodedLen len : Nat),
    (peekLenDigits left pos multiplier decodedLen len).run rxBuf =
      decodeLenDigits rxBuf left pos multiplier decodedLen len := by
  intro left
  induction left with
  | zero => intros; rfl
  | succ left ih =>
    intro pos multiplier decodedLen len
    rw [peekLenDigits, decodeLenDigits, Peek.run_bind, Peek.run_byteAt]
    dsimp only
    split
    · exact ih _ _ _ _
    · rfl

@[simp] theorem run_peekRemainingLength (pos : Nat) :
    (peekRemainingLength pos).run rxBuf = decodeRemainingLengthFromBuffer rxBuf pos := by
  rw [peekRemainingLength, decodeRemainingLengthFromBuffer, Peek.run_bind, run_peekLenDigits]
  cases decodeLenDigits rxBuf maxNoOfRemainingLengthBytes pos 1 0 0 <;> rfl

@[simp] theorem run_peekUint16 (pos : Nat) :
    (peekUint16 pos).run rxBuf = readUint16 rxBuf pos := rfl

@[simp] theorem run_peekPublishId (qos : UInt8) (pos : Nat) :
    (peekPublishId qos pos).run rxBuf = if qos ≠ 0 then some (readUint16 rxBuf pos) else none := by
  unfold peekPublishId
  split <;> rfl

@[simp] theorem run_peekStringWithLen (pos enddata : Nat) :
    (peekStringWithLen pos enddata).run rxBuf = readStringWithLen rxBuf pos enddata := by
  unfold peekStringWithLen readStringWithLen
  split
  · rw [Peek.run_bind, run_peekUint16]
    dsimp only
    split <;> rfl
  · rfl

theorem run_peekConnack : (peekConnack rxBufLen).run rxBuf = deserializeConnack rxBuf rxBufLen := by
  unfold peekConnack deserializeConnack
  split
  · rfl
  rw [Peek.run_bind, Peek.run_byteAt]
  split
  · rfl
  rw [Peek.run_bind, run_peekRemainingLength]
  cases decodeRemainingLengthFromBuffer rxBuf 1 with
  | error rc => rfl
  | ok r =>
    dsimp only
    split <;> rfl

theorem run_peekPublish : (peekPublish rxBufLen).run rxBuf = deserializePublish rxBuf rxBufLen := by
  unfold peekPublish deserializePublish
  split
  · rfl
  rw [Peek.run_bind, Peek.run_byteAt]
  split
  · rfl
  rw [Peek.run_bind, run_peekRemainingLength]
  cases decodeRemainingLengthFromBuffer rxBuf 1 with
  | error rc => rfl
  | ok r =>
    dsimp only
    rw [Peek.run_bind, run_peekStringWithLen]
    cases readStringWithLen rxBuf (1 + r.2) (1 + r.2 + r.1) with
    | none => rfl
    | some s =>
      dsimp only
      rw [Peek.run_bind, run_peekPublishId]
      rfl

theorem run_peekAck : (peekAck rxBufLen).run rxBuf = deserializeAck rxBuf rxBufLen := by
  unfold peekAck deserializeAck
  split
  · rfl
  rw [Peek.run_bind, Peek.run_byteAt, Peek.run_bind, run_peekRemainingLength]
  cases decodeRemainingLengthFromBuffer rxBuf 1 with
  | error rc => rfl
  | ok r =>
    dsimp only
    split <;> rfl

theorem run_peekGrantedQoSs (maxExpectedQoSCount : Nat) :
    ∀ (left curData : Nat) (stored : List UInt8),
      (peekGrantedQoSs maxExpectedQoSCount left curData stored).run rxBuf =
        readGrantedQoSs rxBuf maxExpectedQoSCount left curData stored := by
  intro left
  induction left with
  | zero => intros; rfl
  | succ left ih =>
    intro curData stored
    rw [peekGrantedQoSs, readGrantedQoSs]
    split
    · rfl
    · rw [Peek.run_bind]
      exact ih _ _

/-- The parser's loop takes one code more than `maxExpectedQoSCount`, and fails at the next. -/
theorem readGrantedQoSs_eq (rxBuf : Memory) (maxExpectedQoSCount : Nat) :
    ∀ (left curData : Nat) (stored : List UInt8),
      readGrantedQoSs rxBuf maxExpectedQoSCount left curData stored =
        (if left = 0 ∨ stored.length + left ≤ maxExpectedQoSCount + 1 then .success else .failure,
          stored ++ rxBuf.slice curData (min left (maxExpectedQoSCount + 1 - stored.length))) := by
  intro left
  induction left with
  | zero =>
    intro curData stored
    rw [if_pos (.inl rfl), Nat.zero_min, Memory.slice_zero, List.append_nil]
    rfl
  | succ left ih =>
    intro curData stored
    rw [readGrantedQoSs]
    by_cases hfull : stored.length > maxExpectedQoSCount
    · have hnone : min (left + 1) (maxExpectedQoSCount + 1 - stored.length) = 0 := by omega
      rw [if_pos hfull, if_neg (by omega), hnone, Memory.slice_zero, List.append_nil]
    · have hone : min (left + 1) (maxExpectedQoSCount + 1 - stored.length) =
          min left (maxExpectedQoSCount + 1 - (stored.length + 1)) + 1 := by omega
      have hrc : (left = 0 ∨ stored.length + 1 + left ≤ maxExpectedQoSCount + 1) ↔
          (left + 1 = 0 ∨ stored.length + (left + 1) ≤ maxExpectedQoSCount + 1) := by omega
      rw [if_neg hfull, ih, List.length_append, List.length_singleton, hone, Memory.slice_succ,
        List.append_assoc]
      simp only [hrc]
      rfl

theorem readGrantedQoSs_success_iff (rxBuf : Memory) (maxExpectedQoSCount left curData : Nat)
    (stored : List UInt8) :
    (readGrantedQoSs rxBuf maxExpectedQoSCount left curData stored).1 = .success ↔
      left = 0 ∨ stored.length + left ≤ maxExpectedQoSCount + 1 := by
  rw [readGrantedQoSs_eq]
  dsimp only
  split
  case isTrue h => exact iff_of_true rfl h
  case isFalse h => exact iff_of_false (by decide) h

theorem run_peekSuback (maxExpectedQoSCount : Nat) :
    (peekSuback maxExpectedQoSCount rxBufLen).run rxBuf =
      deserializeSuback maxExpectedQoSCount rxBuf rxBufLen := by
  unfold peekSuback deserializeSuback
  split
  · rfl
  rw [Peek.run_bind, Peek.run_byteAt]
  split
  · rfl
  rw [Peek.run_bind, run_peekRemainingLength]
  cases decodeRemainingLengthFromBuffer rxBuf 1 with
  | error rc => rfl
  | ok r =>
    dsimp only
    split
    · rfl
    · rw [Peek.run_bind, Peek.run_bind, run_peekGrantedQoSs]
      rfl

end Run

/-! ## What they read -/

section Below

variable {rxBuf : Memory} {n : Nat}

theorem below_peekLenDigits : ∀ {left pos multiplier decodedLen len : Nat},
    (peekLenDigits left pos multiplier decodedLen len).Below rxBuf n ↔
      ∀ i < left, Continues rxBuf pos i → pos + i < n := by
  intro left
  induction left with
  | zero =>
    intro pos multiplier decodedLen len
    exact iff_of_true (Peek.below_pure _) fun i hi => absurd hi (Nat.not_lt_zero i)
  | succ left ih =>
    intro pos multiplier decodedLen len
    rw [peekLenDigits, Peek.below_bind, Peek.below_byteAt, Peek.run_byteAt]
    dsimp only
    by_cases hmore : 128 ≤ (rxBuf pos).toNat
    · rw [if_pos ((byte_and_128 _).mpr hmore), ih]
      constructor
      · rintro ⟨hfirst, hrest⟩ i hi hcont
        cases i with
        | zero => exact hfirst
        | succ i =>
          have hlt := hrest i (by omega) fun j hj => by
            rw [Nat.add_assoc, Nat.add_comm 1 j]
            exact hcont (j + 1) (by omega)
          omega
      · intro h
        refine ⟨h 0 (by omega) fun j hj => absurd hj (Nat.not_lt_zero j), ?_⟩
        intro i hi hcont
        have hlt := h (i + 1) (by omega) fun j hj => by
          cases j with
          | zero => exact hmore
          | succ j =>
            rw [← Nat.add_assoc, Nat.add_right_comm]
            exact hcont j (by omega)
        omega
    · rw [if_neg fun h => hmore ((byte_and_128 _).mp h)]
      constructor
      · rintro ⟨hfirst, -⟩ i hi hcont
        cases i with
        | zero => exact hfirst
        | succ i => exact absurd (hcont 0 (Nat.succ_pos i)) hmore
      · intro h
        exact ⟨h 0 (by omega) fun j hj => absurd hj (Nat.not_lt_zero j), Peek.below_pure _⟩

/-- The length field of a packet lies in a buffer of at least four bytes, unless the buffer
has four and the three bytes behind the header announce another one. -/
def LengthFieldInside (rxBuf : Memory) (rxBufLen : Nat) : Prop :=
  Continues rxBuf 1 3 → 4 < rxBufLen

theorem below_peekRemainingLength (hn : 4 ≤ n) :
    (peekRemainingLength 1).Below rxBuf n ↔ LengthFieldInside rxBuf n := by
  have hmatch : ∀ r : Option (Nat × Nat), (match r with
      | none => pure (.error .mqttDecodeRemainingLengthError)
      | some r => pure (.ok r) : Peek (Except IoTError (Nat × Nat))).Below rxBuf n := by
    intro r
    cases r <;> exact Peek.below_pure _
  rw [peekRemainingLength, Peek.below_bind, and_iff_left (hmatch _), below_peekLenDigits]
  constructor
  · intro h hcont
    have := h 3 (by decide) hcont
    omega
  · intro h i hi hcont
    rcases Nat.lt_or_ge i 3 with hlt | hge
    · omega
    · obtain rfl : i = 3 := by unfold maxNoOfRemainingLengthBytes at hi; omega
      have := h hcont
      omega

theorem below_peekUint16 {pos : Nat} : (peekUint16 pos).Below rxBuf n ↔ pos + 2 ≤ n := by
  simp only [peekUint16, Peek.below_bind, Peek.below_byteAt, Peek.below_pure, and_true]
  omega

theorem below_peekPublishId {qos : UInt8} {pos : Nat} :
    (peekPublishId qos pos).Below rxBuf n ↔ (qos ≠ 0 → pos + 2 ≤ n) := by
  unfold peekPublishId
  split
  case isTrue hqos =>
    rw [Peek.below_bind, below_peekUint16, and_iff_left (Peek.below_pure _)]
    exact ⟨fun h _ => h, fun h => h hqos⟩
  case isFalse hqos => exact iff_of_true (Peek.below_pure _) fun h => absurd h hqos

theorem below_peekStringWithLen {pos enddata : Nat} :
    (peekStringWithLen pos enddata).Below rxBuf n ↔ (enddata > pos + 1 → pos + 2 ≤ n) := by
  unfold peekStringWithLen
  split
  case isTrue hroom =>
    have hnone : ∀ stringLen : UInt16, (if pos + 2 + stringLen.toNat ≤ enddata then
        pure (some (stringLen, pos + 2 + stringLen.toNat)) else pure none :
        Peek (Option (UInt16 × Nat))).Below rxBuf n := by
      intro stringLen
      split <;> exact Peek.below_pure _
    rw [Peek.below_bind, below_peekUint16, and_iff_left (hnone _)]
    exact ⟨fun h _ => h, fun h => h hroom⟩
  case isFalse hroom => exact iff_of_true (Peek.below_pure _) fun h => absurd h hroom

theorem below_peekGrantedQoSs {maxExpectedQoSCount : Nat} :
    ∀ {left curData : Nat} {stored : List UInt8},
      (peekGrantedQoSs maxExpectedQoSCount left curData stored).Below rxBuf n ↔
        ∀ i < left, stored.length + i ≤ maxExpectedQoSCount → curData + i < n := by
  intro left
  induction left with
  | zero =>
    intro curData stored
    exact iff_of_true (Peek.below_pure _) fun i hi => absurd hi (Nat.not_lt_zero i)
  | succ left ih =>
    intro curData stored
    rw [peekGrantedQoSs]
    split
    case isTrue hfull =>
      exact iff_of_true (Peek.below_pure _) fun i _ hi => by omega
    case isFalse hroom =>
      rw [Peek.below_bind, Peek.below_byteAt, ih, List.length_append, List.length_singleton]
      constructor
      · rintro ⟨hfirst, hrest⟩ i hi hle
        cases i with
        | zero => exact hfirst
        | succ i =>
          have := hrest i (by omega) (by omega)
          omega
      · intro h
        refine ⟨h 0 (by omega) (by omega), ?_⟩
        intro i hi hle
        have := h (i + 1) (by omega) (by omega)
        omega

end Below

/-! ## Safe buffers -/

/-- Where the packet in the buffer ends, by its length field. -/
def DeclaresEnd (rxBuf : Memory) (stop : Nat) : Prop :=
  ∃ decodedLen readBytesLen,
    decodeRemainingLengthFromBuffer rxBuf 1 = .ok (decodedLen, readBytesLen) ∧
    stop = 1 + readBytesLen + decodedLen

/-- Where the topic name of a PUBLISH ends, by the length in front of it. -/
def DeclaresTopicEnd (rxBuf : Memory) (stop : Nat) : Prop :=
  ∃ decodedLen readBytesLen,
    decodeRemainingLengthFromBuffer rxBuf 1 = .ok (decodedLen, readBytesLen) ∧
    2 ≤ decodedLen ∧ stop = 1 + readBytesLen + 2 + (readUint16 rxBuf (1 + readBytesLen)).toNat

/-- A parser of a buffer of `rxBufLen` bytes stays inside: it reads no byte behind the
buffer, it fails if the packet declares data behind the buffer, and if it does not fail the
slices in its result lie in the buffer. -/
structure ReadsSafely {β : Type} (parser : Peek β) (failed : β → Prop)
    (declares : Memory → Nat → Prop) (slices : β → List (Nat × Nat)) (rxBuf : Memory)
    (rxBufLen : Nat) : Prop where
  /-- What it reads. -/
  below : parser.Below rxBuf rxBufLen
  /-- What it refuses. -/
  refuses : ∀ stop, declares rxBuf stop → rxBufLen < stop → failed (parser.run rxBuf)
  /-- Where its slices lie. -/
  slicesInside : ¬ failed (parser.run rxBuf) →
    ∀ s ∈ slices (parser.run rxBuf), s.1 + s.2 ≤ rxBufLen

/-- The parser reported an error. -/
def Failed {α : Type} (r : Except IoTError α) : Prop := ∃ rc, r = .error rc

/-- `_aws_iot_mqtt_deserialize_connack` stays inside. -/
def ConnackReadsSafely (rxBuf : Memory) (rxBufLen : Nat) : Prop :=
  ReadsSafely (peekConnack rxBufLen) Failed DeclaresEnd (fun _ => []) rxBuf rxBufLen

/-- `aws_iot_mqtt_internal_deserialize_publish` stays inside. -/
def PublishReadsSafely (rxBuf : Memory) (rxBufLen : Nat) : Prop :=
  ReadsSafely (peekPublish rxBufLen) Failed
    (fun rxBuf stop => DeclaresEnd rxBuf stop ∨ DeclaresTopicEnd rxBuf stop)
    (fun r => match r with
      | .error _ => []
      | .ok msg => [(msg.topicName, msg.topicNameLen.toNat), (msg.payload, msg.payloadLen)])
    rxBuf rxBufLen

/-- `aws_iot_mqtt_internal_deserialize_ack` stays inside. -/
def AckReadsSafely (rxBuf : Memory) (rxBufLen : Nat) : Prop :=
  ReadsSafely (peekAck rxBufLen) Failed DeclaresEnd (fun _ => []) rxBuf rxBufLen

/-- `_aws_iot_mqtt_deserialize_suback` stays inside. -/
def SubackReadsSafely (maxExpectedQoSCount : Nat) (rxBuf : Memory) (rxBufLen : Nat) : Prop :=
  ReadsSafely (peekSuback maxExpectedQoSCount rxBufLen) (fun r => r.rc ≠ .success) DeclaresEnd
    (fun _ => []) rxBuf rxBufLen

/-- A buffer that `deserialize_connack` stays inside: if the remaining length is 2, the two
bytes are there. -/
def ConnackInside (rxBuf : Memory) (rxBufLen : Nat) : Prop :=
  4 ≤ rxBufLen → headerType (rxBuf 0) = MessageType.connack.code →
    LengthFieldInside rxBuf rxBufLen ∧
    ∀ readBytesLen, decodeRemainingLengthFromBuffer rxBuf 1 = .ok (2, readBytesLen) →
      1 + readBytesLen + 2 ≤ rxBufLen

/-- A buffer that `deserialize_publish` stays inside: the length of the topic name is
there, and if the topic name fits into the packet, the packet fits into the buffer and
the packet id into the packet. -/
def PublishInside (rxBuf : Memory) (rxBufLen : Nat) : Prop :=
  4 ≤ rxBufLen → headerType (rxBuf 0) = MessageType.publish.code →
    LengthFieldInside rxBuf rxBufLen ∧
    ∀ decodedLen readBytesLen,
      decodeRemainingLengthFromBuffer rxBuf 1 = .ok (decodedLen, readBytesLen) → 2 ≤ decodedLen →
      1 + readBytesLen + 2 ≤ rxBufLen ∧
      (2 + (readUint16 rxBuf (1 + readBytesLen)).toNat ≤ decodedLen →
        1 + readBytesLen + decodedLen ≤ rxBufLen ∧
        (headerQos (rxBuf 0) ≠ 0 →
          4 + (readUint16 rxBuf (1 + readBytesLen)).toNat ≤ decodedLen))

/-- A buffer that `deserialize_ack` stays inside: a packet with room for an id is there. -/
def AckInside (rxBuf : Memory) (rxBufLen : Nat) : Prop :=
  4 ≤ rxBufLen → LengthFieldInside rxBuf rxBufLen ∧
    ∀ decodedLen readBytesLen,
      decodeRemainingLengthFromBuffer rxBuf 1 = .ok (decodedLen, readBytesLen) → 2 ≤ decodedLen →
      1 + readBytesLen + decodedLen ≤ rxBufLen

/-- A buffer that `deserialize_suback` stays inside: the packet id is there, and as many of
the return codes as the parser stores. -/
def SubackInside (maxExpectedQoSCount : Nat) (rxBuf : Memory) (rxBufLen : Nat) : Prop :=
  5 ≤ rxBufLen → headerType (rxBuf 0) = MessageType.suback.code →
    ∀ decodedLen readBytesLen,
      decodeRemainingLengthFromBuffer rxBuf 1 = .ok (decodedLen, readBytesLen) → 2 ≤ decodedLen →
      1 + readBytesLen + 2 + min (decodedLen - 2) (maxExpectedQoSCount + 1) ≤ rxBufLen

section Safe

variable {rxBuf : Memory} {n : Nat}

theorem below_remainingLength {β : Type} (f : Except IoTError (Nat × Nat) → Peek β) (hn : 4 ≤ n) :
    (peekRemainingLength 1 >>= f).Below rxBuf n ↔
      LengthFieldInside rxBuf n ∧ (f (decodeRemainingLengthFromBuffer rxBuf 1)).Below rxBuf n := by
  rw [Peek.below_bind, below_peekRemainingLength hn, run_peekRemainingLength]

theorem below_header {β : Type} (f : UInt8 → Peek β) (hn : 0 < n) :
    (Peek.byteAt 0 >>= f).Below rxBuf n ↔ (f (rxBuf 0)).Below rxBuf n := by
  rw [Peek.below_bind, Peek.below_byteAt, and_iff_right hn, Peek.run_byteAt]

/-- The decoder returned one pair. -/
theorem forall_decoded {P : Nat → Nat → Prop} {decodedLen readBytesLen : Nat} :
    (∀ d k, (.ok (decodedLen, readBytesLen) : Except IoTError (Nat × Nat)) = .ok (d, k) → P d k) ↔
      P decodedLen readBytesLen := by
  constructor
  · intro h
    exact h _ _ rfl
  · rintro h _ _ ⟨⟩
    exact h

/-! The reads of each parser. -/

theorem below_peekConnack : (peekConnack n).Below rxBuf n ↔ ConnackInside rxBuf n := by
  unfold peekConnack ConnackInside
  by_cases hshort : 4 > n
  · rw [if_pos hshort]
    exact iff_of_true (Peek.below_pure _) fun h => absurd h (Nat.not_le.mpr hshort)
  rw [if_neg hshort, below_header _ (by omega)]
  by_cases htype : headerType (rxBuf 0) = MessageType.connack.code
  · rw [if_neg (not_not.mpr htype), below_remainingLength _ (by omega)]
    simp only [Nat.le_of_not_gt hshort, htype, forall_const]
    refine and_congr_right fun _ => ?_
    cases decodeRemainingLengthFromBuffer rxBuf 1 with
    | error rc => simp
    | ok r =>
      obtain ⟨decodedLen, readBytesLen⟩ := r
      by_cases htwo : decodedLen = 2
      · subst htwo
        simp
        omega
      · simp [htwo]
  · rw [if_pos htype]
    exact iff_of_true (Peek.below_pure _) fun _ h => absurd h htype

theorem below_peekPublish : (peekPublish n).Below rxBuf n ↔
    (4 ≤ n → headerType (rxBuf 0) = MessageType.publish.code → LengthFieldInside rxBuf n ∧
      ∀ decodedLen readBytesLen,
        decodeRemainingLengthFromBuffer rxBuf 1 = .ok (decodedLen, readBytesLen) →
        2 ≤ decodedLen → 1 + readBytesLen + 2 ≤ n ∧
        (2 + (readUint16 rxBuf (1 + readBytesLen)).toNat ≤ decodedLen → headerQos (rxBuf 0) ≠ 0 →
          1 + readBytesLen + 4 + (readUint16 rxBuf (1 + readBytesLen)).toNat ≤ n)) := by
  unfold peekPublish
  by_cases hshort : 4 > n
  · rw [if_pos hshort]
    exact iff_of_true (Peek.below_pure _) fun h => absurd h (Nat.not_le.mpr hshort)
  rw [if_neg hshort, below_header _ (by omega)]
  by_cases htype : headerType (rxBuf 0) = MessageType.publish.code
  · rw [if_neg (not_not.mpr htype), below_remainingLength _ (by omega)]
    simp only [Nat.le_of_not_gt hshort, htype, forall_const]
    refine and_congr_right fun _ => ?_
    cases decodeRemainingLengthFromBuffer rxBuf 1 with
    | error rc => simp
    | ok r =>
      obtain ⟨decodedLen, readBytesLen⟩ := r
      dsimp only
      rw [Peek.below_bind, below_peekStringWithLen, run_peekStringWithLen]
      rw [forall_decoded]
      unfold readStringWithLen
      by_cases htwo : 2 ≤ decodedLen
      · rw [if_pos (by omega)]
        dsimp only
        by_cases hfits : 1 + readBytesLen + 2 + (readUint16 rxBuf (1 + readBytesLen)).toNat ≤
            1 + readBytesLen + decodedLen
        · rw [if_pos hfits]
          dsimp only
          rw [Peek.below_bind, below_peekPublishId, and_iff_left (Peek.below_pure _)]
          have hstring : 2 + (readUint16 rxBuf (1 + readBytesLen)).toNat ≤ decodedLen := by omega
          simp only [htwo, hstring, forall_const]
          refine and_congr ⟨fun h => h (by omega), fun h _ => h⟩ (imp_congr_right fun _ => ?_)
          omega
        · rw [if_neg hfits, and_iff_left (Peek.below_pure _)]
          have hstring : ¬ 2 + (readUint16 rxBuf (1 + readBytesLen)).toNat ≤ decodedLen := by omega
          simp only [htwo, hstring, forall_const, IsEmpty.forall_iff, and_true]
          exact ⟨fun h => h (by omega), fun h _ => h⟩
      · rw [if_neg (by omega), and_iff_left (Peek.below_pure _)]
        exact iff_of_true (fun h => by omega) fun h => absurd h htwo
  · rw [if_pos htype]
    exact iff_of_true (Peek.below_pure _) fun _ h => absurd h htype

theorem below_peekAck : (peekAck n).Below rxBuf n ↔
    (4 ≤ n → LengthFieldInside rxBuf n ∧ ∀ decodedLen readBytesLen,
      decodeRemainingLengthFromBuffer rxBuf 1 = .ok (decodedLen, readBytesLen) →
      2 ≤ decodedLen → 1 + readBytesLen + 2 ≤ n) := by
  unfold peekAck
  by_cases hshort : 4 > n
  · rw [if_pos hshort]
    exact iff_of_true (Peek.below_pure _) fun h => absurd h (Nat.not_le.mpr hshort)
  rw [if_neg hshort, below_header _ (by omega), below_remainingLength _ (by omega)]
  simp only [Nat.le_of_not_gt hshort, forall_const]
  refine and_congr_right fun _ => ?_
  cases decodeRemainingLengthFromBuffer rxBuf 1 with
  | error rc => simp
  | ok r =>
    obtain ⟨decodedLen, readBytesLen⟩ := r
    rw [forall_decoded]
    dsimp only
    by_cases htwo : decodedLen < 2
    · rw [if_pos htwo]
      exact iff_of_true (Peek.below_pure _) fun h => by omega
    · rw [if_neg htwo, Peek.below_bind, below_peekUint16, and_iff_left (Peek.below_pure _)]
      exact ⟨fun h _ => h, fun h => h (by omega)⟩

theorem below_peekSuback {maxExpectedQoSCount : Nat} :
    (peekSuback maxExpectedQoSCount n).Below rxBuf n ↔
      SubackInside maxExpectedQoSCount rxBuf n := by
  unfold peekSuback SubackInside
  by_cases hshort : 5 > n
  · rw [if_pos hshort]
    exact iff_of_true (Peek.below_pure _) fun h => absurd h (Nat.not_le.mpr hshort)
  rw [if_neg hshort, below_header _ (by omega)]
  by_cases htype : headerType (rxBuf 0) = MessageType.suback.code
  · have hfield : LengthFieldInside rxBuf n := fun _ => by omega
    rw [if_neg (not_not.mpr htype), below_remainingLength _ (by omega), and_iff_right hfield]
    simp only [Nat.le_of_not_gt hshort, htype, forall_const]
    cases decodeRemainingLengthFromBuffer rxBuf 1 with
    | error rc => simp
    | ok r =>
      obtain ⟨decodedLen, readBytesLen⟩ := r
      rw [forall_decoded]
      dsimp only
      by_cases htwo : decodedLen < 2
      · rw [if_pos htwo]
        exact iff_of_true (Peek.below_pure _) fun h => by omega
      · rw [if_neg htwo, Peek.below_bind, below_peekUint16, Peek.below_bind, below_peekGrantedQoSs,
          and_iff_left (Peek.below_pure _), List.length_nil]
        constructor
        · rintro ⟨hid, hcodes⟩ -
          by_contra hout
          have := hcodes (min (decodedLen - 2) (maxExpectedQoSCount + 1) - 1) (by omega) (by omega)
          omega
        · intro h
          have := h (by omega)
          refine ⟨by omega, fun i hi hle => ?_⟩
          omega
  · rw [if_pos htype]
    exact iff_of_true (Peek.below_pure _) fun _ h => absurd h htype

/-! The buffers that a parser does not refuse. -/

theorem not_failed_ok {α : Type} (a : α) : ¬ Failed (.ok a : Except IoTError α) := by
  rintro ⟨rc, h⟩
  cases h

theorem deserializeConnack_accepts (h : ¬ Failed (deserializeConnack rxBuf n)) :
    4 ≤ n ∧ headerType (rxBuf 0) = MessageType.connack.code ∧
      ∃ readBytesLen, decodeRemainingLengthFromBuffer rxBuf 1 = .ok (2, readBytesLen) := by
  unfold deserializeConnack at h
  split at h
  case isTrue => exact absurd ⟨_, rfl⟩ h
  case isFalse hshort =>
    split at h
    case isTrue => exact absurd ⟨_, rfl⟩ h
    case isFalse htype =>
      split at h
      case h_1 => exact absurd ⟨_, rfl⟩ h
      case h_2 decodedLen readBytesLen hdecode =>
        dsimp only at h
        split at h
        case isTrue => exact absurd ⟨_, rfl⟩ h
        case isFalse htwo =>
          obtain rfl := not_not.mp htwo
          exact ⟨Nat.le_of_not_lt hshort, not_not.mp htype, readBytesLen, hdecode⟩

theorem readStringWithLen_some {pos enddata : Nat} {r : UInt16 × Nat}
    (h : readStringWithLen rxBuf pos enddata = some r) :
    pos + 1 < enddata ∧ pos + 2 + (readUint16 rxBuf pos).toNat ≤ enddata := by
  unfold readStringWithLen at h
  split at h
  case isTrue hlen =>
    dsimp only at h
    split at h
    case isTrue hfits => exact ⟨hlen, hfits⟩
    case isFalse => cases h
  case isFalse => cases h

theorem deserializePublish_accepts (h : ¬ Failed (deserializePublish rxBuf n)) :
    4 ≤ n ∧ headerType (rxBuf 0) = MessageType.publish.code ∧ ∃ decodedLen readBytesLen,
      decodeRemainingLengthFromBuffer rxBuf 1 = .ok (decodedLen, readBytesLen) ∧ 2 ≤ decodedLen ∧
      2 + (readUint16 rxBuf (1 + readBytesLen)).toNat ≤ decodedLen := by
  unfold deserializePublish at h
  split at h
  case isTrue => exact absurd ⟨_, rfl⟩ h
  case isFalse hshort =>
    split at h
    case isTrue => exact absurd ⟨_, rfl⟩ h
    case isFalse htype =>
      split at h
      case h_1 => exact absurd ⟨_, rfl⟩ h
      case h_2 decodedLen readBytesLen hdecode =>
        dsimp only at h
        split at h
        case h_1 => exact absurd ⟨_, rfl⟩ h
        case h_2 topicNameLen afterTopic hstring =>
          obtain ⟨hlen, hfits⟩ := readStringWithLen_some hstring
          exact ⟨Nat.le_of_not_lt hshort, not_not.mp htype, decodedLen, readBytesLen, hdecode,
            by omega, by omega⟩

/-- What the slices of an accepted PUBLISH are. -/
theorem deserializePublish_slices (hn : 4 ≤ n)
    (htype : headerType (rxBuf 0) = MessageType.publish.code) {decodedLen readBytesLen : Nat}
    (hdecode : decodeRemainingLengthFromBuffer rxBuf 1 = .ok (decodedLen, readBytesLen))
    (hlen : 2 ≤ decodedLen)
    (hfits : 2 + (readUint16 rxBuf (1 + readBytesLen)).toNat ≤ decodedLen) :
    ∃ msg, deserializePublish rxBuf n = .ok msg ∧
      msg.topicName + msg.topicNameLen.toNat =
        1 + readBytesLen + 2 + (readUint16 rxBuf (1 + readBytesLen)).toNat ∧
      msg.payload = msg.topicName + msg.topicNameLen.toNat +
        (if headerQos (rxBuf 0) ≠ 0 then 2 else 0) ∧
      msg.payloadLen = (1 + readBytesLen + decodedLen + 2 ^ 64 - msg.payload) % 2 ^ 64 := by
  unfold deserializePublish
  rw [if_neg (Nat.not_lt.mpr hn), if_neg (not_not.mpr htype), hdecode]
  dsimp only
  rw [readStringWithLen, if_pos (by omega)]
  dsimp only
  rw [if_pos (by omega)]
  refine ⟨_, rfl, rfl, ?_, rfl⟩
  dsimp only
  split <;> rfl

theorem deserializeAck_accepts (h : ¬ Failed (deserializeAck rxBuf n)) :
    4 ≤ n ∧ ∃ decodedLen readBytesLen,
      decodeRemainingLengthFromBuffer rxBuf 1 = .ok (decodedLen, readBytesLen) ∧
      2 ≤ decodedLen := by
  unfold deserializeAck at h
  split at h
  case isTrue => exact absurd ⟨_, rfl⟩ h
  case isFalse hshort =>
    split at h
    case h_1 => exact absurd ⟨_, rfl⟩ h
    case h_2 decodedLen readBytesLen hdecode =>
      split at h
      case isTrue => exact absurd ⟨_, rfl⟩ h
      case isFalse hlen =>
        exact ⟨Nat.le_of_not_lt hshort, decodedLen, readBytesLen, hdecode, Nat.le_of_not_lt hlen⟩

theorem deserializeAck_ok (hn : 4 ≤ n) {decodedLen readBytesLen : Nat}
    (hdecode : decodeRemainingLengthFromBuffer rxBuf 1 = .ok (decodedLen, readBytesLen))
    (hlen : 2 ≤ decodedLen) : ¬ Failed (deserializeAck rxBuf n) := by
  unfold deserializeAck
  rw [if_neg (Nat.not_lt.mpr hn), hdecode]
  dsimp only
  rw [if_neg (Nat.not_lt.mpr hlen)]
  exact not_failed_ok _

theorem deserializeSuback_accepts {maxExpectedQoSCount : Nat}
    (h : (deserializeSuback maxExpectedQoSCount rxBuf n).rc = .success) :
    5 ≤ n ∧ headerType (rxBuf 0) = MessageType.suback.code ∧ ∃ decodedLen readBytesLen,
      decodeRemainingLengthFromBuffer rxBuf 1 = .ok (decodedLen, readBytesLen) ∧ 2 ≤ decodedLen ∧
      decodedLen - 2 ≤ maxExpectedQoSCount + 1 := by
  unfold deserializeSuback at h
  split at h
  case isTrue => cases h
  case isFalse hshort =>
    split at h
    case isTrue => cases h
    case isFalse htype =>
      split at h
      case h_1 rc hdecode =>
        exact absurd h
          (IoTError.ne_success_of_isError (decodeRemainingLengthFromBuffer_error hdecode))
      case h_2 decodedLen readBytesLen hdecode =>
        dsimp only at h
        split at h
        case isTrue => cases h
        case isFalse hlen =>
          have hcount := (readGrantedQoSs_success_iff _ _ _ _ _).mp h
          rw [List.length_nil] at hcount
          exact ⟨Nat.le_of_not_lt hshort, not_not.mp htype, decodedLen, readBytesLen, hdecode,
            Nat.le_of_not_lt hlen, by omega⟩

/-! When a parser stays inside. -/

theorem connackReadsSafely_iff : ConnackReadsSafely rxBuf n ↔ ConnackInside rxBuf n := by
  refine ⟨fun h => below_peekConnack.mp h.below, fun h => ⟨below_peekConnack.mpr h, ?_, ?_⟩⟩
  · rintro stop ⟨decodedLen, readBytesLen, hdecode, rfl⟩ hout
    rw [run_peekConnack]
    by_contra haccepts
    obtain ⟨hn, htype, k, hdecode'⟩ := deserializeConnack_accepts haccepts
    cases hdecode.symm.trans hdecode'
    have := (h hn htype).2 readBytesLen hdecode
    omega
  · intro _ s hs
    exact absurd hs List.not_mem_nil

theorem ackReadsSafely_iff : AckReadsSafely rxBuf n ↔ AckInside rxBuf n := by
  constructor
  · intro h hn
    refine ⟨(below_peekAck.mp h.below hn).1, fun decodedLen readBytesLen hdecode hlen => ?_⟩
    by_contra hout
    have hfailed := h.refuses _ ⟨_, _, hdecode, rfl⟩ (Nat.lt_of_not_le hout)
    rw [run_peekAck] at hfailed
    exact deserializeAck_ok hn hdecode hlen hfailed
  · intro h
    refine ⟨below_peekAck.mpr ?_, ?_, fun _ s hs => absurd hs List.not_mem_nil⟩
    · intro hn
      refine ⟨(h hn).1, fun decodedLen readBytesLen hdecode hlen => ?_⟩
      have := (h hn).2 _ _ hdecode hlen
      omega
    · rintro stop ⟨decodedLen, readBytesLen, hdecode, rfl⟩ hout
      rw [run_peekAck]
      by_contra haccepts
      obtain ⟨hn, d, k, hdecode', hlen⟩ := deserializeAck_accepts haccepts
      cases hdecode.symm.trans hdecode'
      have := (h hn).2 _ _ hdecode hlen
      omega

theorem subackReadsSafely_iff {maxExpectedQoSCount : Nat} :
    SubackReadsSafely maxExpectedQoSCount rxBuf n ↔ SubackInside maxExpectedQoSCount rxBuf n := by
  refine ⟨fun h => below_peekSuback.mp h.below, fun h => ⟨below_peekSuback.mpr h, ?_, ?_⟩⟩
  · rintro stop ⟨decodedLen, readBytesLen, hdecode, rfl⟩ hout
    rw [run_peekSuback]
    intro haccepts
    obtain ⟨hn, htype, d, k, hdecode', hlen, hcount⟩ := deserializeSuback_accepts haccepts
    cases hdecode.symm.trans hdecode'
    have := h hn htype _ _ hdecode hlen
    omega
  · intro _ s hs
    exact absurd hs List.not_mem_nil

theorem publishInside_of_readsSafely (hsize : n < 2 ^ 64) (h : PublishReadsSafely rxBuf n) :
    PublishInside rxBuf n := by
  intro hn htype
  obtain ⟨hfield, hreads⟩ := below_peekPublish.mp h.below hn htype
  refine ⟨hfield, fun decodedLen readBytesLen hdecode hlen => ?_⟩
  refine ⟨(hreads _ _ hdecode hlen).1, fun hfits => ?_⟩
  obtain ⟨msg, hmsg, htopic, hpayload, hpayloadLen⟩ :=
    deserializePublish_slices hn htype hdecode hlen hfits
  have hrun : (peekPublish n).run rxBuf = .ok msg := run_peekPublish.trans hmsg
  have haccepts : ¬ Failed ((peekPublish n).run rxBuf) := by
    rw [hrun]
    exact not_failed_ok msg
  constructor
  · by_contra hout
    exact haccepts (h.refuses _ (.inl ⟨_, _, hdecode, rfl⟩) (Nat.lt_of_not_le hout))
  · intro hqos
    by_contra hshort
    have hslices := h.slicesInside haccepts
    rw [hrun] at hslices
    have hinside : msg.payload + msg.payloadLen ≤ n :=
      hslices (msg.payload, msg.payloadLen) (by simp)
    rw [if_pos hqos] at hpayload
    -- the payload starts behind the end of the packet, and its length has wrapped around
    omega

theorem readsSafely_of_publishInside (hsize : n < 2 ^ 64) (h : PublishInside rxBuf n) :
    PublishReadsSafely rxBuf n := by
  refine ⟨below_peekPublish.mpr ?_, ?_, ?_⟩
  · intro hn htype
    obtain ⟨hfield, hinside⟩ := h hn htype
    refine ⟨hfield, fun decodedLen readBytesLen hdecode hlen => ?_⟩
    obtain ⟨hstring, hrest⟩ := hinside decodedLen readBytesLen hdecode hlen
    refine ⟨hstring, fun hfits hqos => ?_⟩
    have hend := (hrest hfits).1
    have hid := (hrest hfits).2 hqos
    omega
  · intro stop hdeclares hout
    rw [run_peekPublish]
    by_contra haccepts
    obtain ⟨hn, htype, decodedLen, readBytesLen, hdecode, hlen, hfits⟩ :=
      deserializePublish_accepts haccepts
    have hend := (((h hn htype).2 _ _ hdecode hlen).2 hfits).1
    rcases hdeclares with ⟨d, k, hdecode', rfl⟩ | ⟨d, k, hdecode', -, rfl⟩
    all_goals
      cases hdecode.symm.trans hdecode'
      omega
  · intro haccepts s hs
    rw [run_peekPublish] at haccepts hs
    obtain ⟨hn, htype, decodedLen, readBytesLen, hdecode, hlen, hfits⟩ :=
      deserializePublish_accepts haccepts
    obtain ⟨hend, hid⟩ := ((h hn htype).2 _ _ hdecode hlen).2 hfits
    obtain ⟨msg, hmsg, htopic, hpayload, hpayloadLen⟩ :=
      deserializePublish_slices hn htype hdecode hlen hfits
    rw [hmsg] at hs
    have hcases : s = (msg.topicName, msg.topicNameLen.toNat) ∨
        s = (msg.payload, msg.payloadLen) := by simpa using hs
    rcases hcases with rfl | rfl
    · show msg.topicName + msg.topicNameLen.toNat ≤ n
      omega
    · show msg.payload + msg.payloadLen ≤ n
      by_cases hqos : headerQos (rxBuf 0) = 0
      · rw [if_neg (not_not.mpr hqos)] at hpayload
        omega
      · have := hid hqos
        rw [if_pos hqos] at hpayload
        omega

end Safe

/-- No deserializer reads behind the buffer, accepts a packet that declares data behind the
buffer or returns a slice that does not lie in the buffer: for each of the four, and every
buffer of any length and content, exactly under the condition that its definition states. -/
theorem deserializers_readSafely_iff (rxBuf : Memory) (rxBufLen : Nat) (hsize : rxBufLen < 2 ^ 64) :
    (ConnackReadsSafely rxBuf rxBufLen ↔ ConnackInside rxBuf rxBufLen) ∧
    (PublishReadsSafely rxBuf rxBufLen ↔ PublishInside rxBuf rxBufLen) ∧
    (AckReadsSafely rxBuf rxBufLen ↔ AckInside rxBuf rxBufLen) ∧
    (∀ maxExpectedQoSCount, SubackReadsSafely maxExpectedQoSCount rxBuf rxBufLen ↔
      SubackInside maxExpectedQoSCount rxBuf rxBufLen) :=
  ⟨connackReadsSafely_iff,
    ⟨publishInside_of_readsSafely hsize, readsSafely_of_publishInside hsize⟩,
    ackReadsSafely_iff, fun _ => subackReadsSafely_iff⟩

/-- `bytes` at the start of a memory of zeros. -/
def bufferOf (bytes : List UInt8) : Memory := Memory.writeAt (fun _ => 0) 0 bytes

/-- A PUBACK in a buffer of four bytes. -/
theorem deserializers_readSafely_puback : AckReadsSafely (bufferOf [0x40, 2, 0, 1]) 4 := by
  apply (deserializers_readSafely_iff (bufferOf [0x40, 2, 0, 1]) 4 (by decide)).2.2.1.mpr
  intro _
  refine ⟨fun h => absurd (h 0 (by decide)) (by decide), ?_⟩
  rintro _ _ ⟨⟩ _
  decide

/-- A length field of two bytes moves what the parser reads behind the end of the buffer, and
a length that exceeds the buffer is believed. -/
theorem not_readSafely_short :
    ¬ ConnackReadsSafely (bufferOf [0x20, 0x82, 0, 0]) 4 ∧
    ¬ PublishReadsSafely (bufferOf [0x30, 0x7F, 0, 0]) 4 ∧
    ¬ AckReadsSafely (bufferOf [0x40, 0x82, 0, 0]) 4 ∧
    ¬ SubackReadsSafely 1 (bufferOf [0x90, 4, 0, 1, 0]) 5 := by
  refine ⟨fun h => absurd h.below (by decide), ?_, fun h => absurd h.below (by decide),
    fun h => absurd h.below (by decide)⟩
  intro h
  obtain ⟨rc, hrc⟩ := h.refuses 129 (.inl ⟨127, 1, rfl, rfl⟩) (by decide)
  cases hrc

end AwsIot.Mqtt
