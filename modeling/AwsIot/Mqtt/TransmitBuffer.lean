/-
  Mqtt/TransmitBuffer.lean --- where the serializers write.

  The serializers of `Mqtt/Packet.lean` once more, store by store, as the code
  moves its pointer through the transmit buffer; `serialize_refines` says that
  they write the packets given there.

  The check on the buffer's size is made on a sum cut to `uint32_t`, and the
  remaining length written is that sum too.  `selfDelimiting_iff` says what is
  left of self-delimiting packets that stay inside the buffer: everything, as
  long as the sum itself stays below the four digits the format admits.
-/
import AwsIot.Foundation.Writer
import AwsIot.Mqtt.ConnectPacket
import AwsIot.Mqtt.RequestRules
import Mathlib.Algebra.GroupWithZero.Nat

set_option autoImplicit false

namespace AwsIot.Mqtt

open AwsIot.Foundation Writer Reader

/-! ## Fields -/

/-- `aws_iot_mqtt_internal_write_uint_16`. -/
def storeUint16 (anInt : UInt16) : Writer Unit := do
  store (UInt8.ofNat (anInt.toNat / 256))
  store (UInt8.ofNat (anInt.toNat % 256))

/-- `aws_iot_mqtt_internal_write_utf8_string`. -/
def storeUtf8String (string : Option CharPtr) (stringLen : UInt16) : Writer Unit := do
  storeUint16 stringLen
  if stringLen > 0 then
    match string with
    | none => fault
    | some p => storeAll (p.take stringLen.toNat)

/-- The do-while loop of `write_len_to_buffer`, for at most `fuel` digits. -/
def storeLenDigits : Nat → Nat → Writer Unit
  | 0, _ => return ()
  | fuel + 1, length => do
      let encodedByte := UInt8.ofNat (length % 128)
      let length := length / 128
      if length > 0 then
        store (encodedByte ||| 0x80)
        storeLenDigits fuel length
      else store encodedByte

/-- `aws_iot_mqtt_internal_write_len_to_buffer` at the pointer. -/
def storeLen (length : Nat) : Writer Unit := storeLenDigits 5 length

theorem writes_storeUint16 (n : UInt16) : Writes (storeUint16 n) (some (writeUint16 n)) () :=
  Writes.congr ((Writes.store _).bind (Writes.store _)) rfl

theorem writes_storeUtf8String (p : Option CharPtr) (len : UInt16) :
    Writes (storeUtf8String p len) (writeUtf8String p len) () := by
  unfold storeUtf8String writeUtf8String
  split
  · cases p with
    | none => exact Writes.congr ((writes_storeUint16 len).bind (Writes.fault ())) rfl
    | some p => exact Writes.congr ((writes_storeUint16 len).bind (Writes.storeAll _)) rfl
  · exact Writes.congr ((writes_storeUint16 len).bind (Writes.pure ())) (by simp)

theorem writes_storeLenDigits : ∀ fuel length,
    Writes (storeLenDigits fuel length) (some (writeLenDigits fuel length)) () := by
  intro fuel
  induction fuel with
  | zero => intro length; exact Writes.pure ()
  | succ fuel ih =>
    intro length
    simp only [storeLenDigits, writeLenDigits]
    split
    · exact Writes.congr ((Writes.store _).bind (ih _)) rfl
    · exact Writes.store _

theorem writes_storeLen (length : Nat) :
    Writes (storeLen length) (some (writeLenToBuffer length)) () :=
  writes_storeLenDigits 5 length

/-! ## Serializers -/

/-- What the serializers have in common: the check on the buffer's size, the header,
the remaining length and what `body` stores.  The result is an error or
`*pSerializedLen`, the pointer's distance from the start of the buffer in a variable
of `width` bits. -/
def storePacketWith (txBufLen width : Nat) (header : Except IoTError UInt8) (remLen : Nat)
    (body : Writer Unit) : Writer (Except IoTError Nat) := do
  if getFinalPacketLengthFromRemainingLength remLen > txBufLen then
    return .error .mqttTxBufferTooShortError
  match header with
  | .error rc => return .error rc
  | .ok header => do
      store header
      storeLen remLen
      body
      let written ← tell
      return .ok (written % 2 ^ width)

/-- `_aws_iot_mqtt_internal_serialize_publish`. -/
def storePublish (txBufLen : Nat) (dup : UInt8) (qos : QoS) (retained : UInt8)
    (packetId : UInt16) (topicName : Option CharPtr) (topicNameLen : UInt16)
    (payload : Option CharPtr) (payloadLen : Nat) : Writer (Except IoTError Nat) :=
  match payload with
  | none => return .error .nullValueError
  | some payload =>
      let remLen := (topicNameLen.toNat + payloadLen + 2) % 2 ^ 32
      let remLen := if qos.toByte > 0 then (remLen + 2) % 2 ^ 32 else remLen
      storePacketWith txBufLen 32 (initHeader .publish qos dup retained) remLen do
        storeUtf8String topicName topicNameLen
        if qos.toByte > 0 then storeUint16 packetId
        storeAll (payload.take payloadLen)

/-- `_aws_iot_mqtt_serialize_subscribe`. -/
def storeSubscribe (txBufLen : Nat) (dup : UInt8) (packetId : UInt16)
    (topics : List TopicRequest) : Writer (Except IoTError Nat) :=
  let remLen := topics.foldl (fun n t => (n + (t.topicNameLen.toNat + 2 + 1)) % 2 ^ 32) 2
  storePacketWith txBufLen 32 (initHeader .subscribe .qos1 dup 0) remLen do
    storeUint16 packetId
    forEach (fun t => do
      storeUtf8String t.topicName t.topicNameLen
      store t.requestedQoS.toByte) topics

/-- `_aws_iot_mqtt_serialize_unsubscribe`. -/
def storeUnsubscribe (txBufLen : Nat) (dup : UInt8) (packetId : UInt16)
    (topics : List (Option CharPtr × UInt16)) : Writer (Except IoTError Nat) :=
  let remLen := topics.foldl (fun n t => (n + (t.2.toNat + 2)) % 2 ^ 32) 2
  storePacketWith txBufLen 32 (initHeader .unsubscribe .qos1 dup 0) remLen do
    storeUint16 packetId
    forEach (fun t => storeUtf8String t.1 t.2) topics

/-- The client id as `_aws_iot_mqtt_serialize_connect` writes it. -/
def storeClientID (params : ConnectParams) : Writer Unit :=
  match params.pClientID with
  | none => storeUint16 0
  | some id => storeUtf8String (some id) params.clientIDLen

/-- The will's topic and message, if there is a will. -/
def storeWill (params : ConnectParams) : Writer Unit := do
  if params.isWillMsgPresent then
    storeUtf8String params.will.pTopicName params.will.topicNameLen
    storeUtf8String params.will.pMessage params.will.msgLen

/-- The user name or the password, if its pointer is not NULL. -/
def storeCredential (string : Option CharPtr) (stringLen : UInt16) : Writer Unit := do
  if string.isSome then storeUtf8String string stringLen

/-- `_aws_iot_mqtt_serialize_connect`; its `*pSerializedLen` is a `size_t`. -/
def storeConnect (txBufLen : Nat) (params : ConnectParams) : Writer (Except IoTError Nat) :=
  if params.pClientID.isNone ∧ params.clientIDLen ≠ 0 ∨
      params.pClientID.isSome ∧ params.clientIDLen = 0 then
    return .error .nullValueError
  else match params.mqttVersion with
    | .other _ => return .error .mqttConnackUnacceptableProtocolVersionError
    | .mqtt311 =>
        let len := getConnectPacketLength params
        storePacketWith txBufLen 64 (initHeader .connect .qos0 0 0) len do
          storeUtf8String (some protocolName) 4
          store params.mqttVersion.toByte
          store (connectFlags params)
          storeUint16 params.keepAliveIntervalInSec
          storeClientID params
          storeWill params
          storeCredential params.pUsername params.usernameLen
          storeCredential params.pPassword params.passwordLen

/-! ## The stores of a packet -/

/-- How a serializer ends when it runs from the start of the buffer: what
`Mqtt/Packet.lean` says, store by store. -/
def Serialized.outcome : Serialized → Option (Except IoTError Nat × Cursor)
  | .fault => none
  | .error rc => some (.error rc, .start)
  | .packet bytes => some (.ok (bytes.length % 2 ^ 32), Cursor.start.advance bytes)

/-- The packet with a given header, remaining length and body. -/
def packetOf (header : UInt8) (remLen : Nat) (body : List UInt8) : List UInt8 :=
  header :: (writeLenToBuffer remLen ++ body)

theorem run_storePacketWith {txBufLen width remLen : Nat} {header : UInt8} {body : Writer Unit}
    {bytes : Option (List UInt8)} (h : Writes body bytes ()) :
    (storePacketWith txBufLen width (.ok header) remLen body).run .start =
      if getFinalPacketLengthFromRemainingLength remLen > txBufLen then
        some (.error .mqttTxBufferTooShortError, .start)
      else bytes.map fun b => (.ok ((packetOf header remLen b).length % 2 ^ width),
        Cursor.start.advance (packetOf header remLen b)) := by
  have hheader : ∀ k, (store header).run k = some ((), k.advance [header]) := fun _ => rfl
  have hlen : ∀ k, (storeLen remLen).run k = some ((), k.advance (writeLenToBuffer remLen)) :=
    fun k => writes_storeLen remLen k
  unfold storePacketWith
  split
  · rfl
  · simp only [StateT.run_bind, hheader, hlen, Option.bind_eq_bind, Option.bind_some, h _]
    cases bytes with
    | none => rfl
    | some b =>
      have hcursor : Cursor.start.advance (packetOf header remLen b) =
          ((Cursor.start.advance [header]).advance (writeLenToBuffer remLen)).advance b := by
        rw [← Cursor.advance_append, ← Cursor.advance_append]
        rfl
      rw [Option.map_some, Option.map_some, ← Cursor.pos_start_advance (packetOf header remLen b),
        hcursor]
      rfl

/-! ## Packets that are self-delimiting -/

/-- A successful serializer's stores and its `*pSerializedLen`, on a transmit buffer
of `txBufLen` bytes. -/
structure Delimited (txBufLen serializedLen : Nat) (stores : List (Nat × UInt8)) : Prop where
  /-- Nothing was stored behind the buffer. -/
  inside : ∀ s ∈ stores, s.1 < txBufLen
  /-- The length reported fits too. -/
  len_le : serializedLen ≤ txBufLen
  /-- What was stored is a header byte, a remaining length and exactly as many bytes as
  that says, and the length reported is their total. -/
  framed : ∃ (header : UInt8) (field body : List UInt8),
    stores = storesFrom 0 (header :: (field ++ body)) ∧ 1 ≤ field.length ∧ field.length ≤ 4 ∧
      Reads (base128 4) field body.length ∧ serializedLen = 1 + field.length + body.length

/-- SUCCESS means a self-delimiting packet inside the buffer, an error that nothing was
stored. -/
def SelfDelimiting (txBufLen : Nat) : Option (Except IoTError Nat × Cursor) → Prop
  | none => True
  | some (.error _, k) => k.stores = []
  | some (.ok serializedLen, k) => Delimited txBufLen serializedLen k.stores

theorem length_writeLenDigits_pos (fuel n : Nat) : 0 < (writeLenDigits (fuel + 1) n).length := by
  simp only [writeLenDigits]
  split
  · simp
  · simp

/-- A length below `128 ^ digits` takes at most that many digits. -/
theorem length_writeLenDigits_of_lt : ∀ (digits fuel n : Nat), n < 128 ^ (digits + 1) →
    (writeLenDigits fuel n).length ≤ digits + 1 := by
  intro digits
  induction digits with
  | zero =>
    intro fuel n hn
    cases fuel with
    | zero => exact Nat.zero_le _
    | succ fuel =>
      have hdiv : ¬ n / 128 > 0 := by omega
      rw [writeLenDigits, if_neg hdiv]
      exact Nat.le_refl 1
  | succ digits ih =>
    intro fuel n hn
    cases fuel with
    | zero => exact Nat.zero_le _
    | succ fuel =>
      simp only [writeLenDigits]
      split
      · have hhigh := ih fuel (n / 128)
          (by rw [Nat.div_lt_iff_lt_mul (by omega), ← Nat.pow_succ]; exact hn)
        simpa using hhigh
      · simp

/-- The size check leaves room for the header and the remaining length. -/
theorem length_packetOf_le (header : UInt8) {remLen : Nat} {body : List UInt8}
    (hlen : body.length = remLen) (hlt : remLen < 128 ^ 4) :
    (packetOf header remLen body).length ≤ getFinalPacketLengthFromRemainingLength remLen := by
  have hmod : (remLen + 1) % 2 ^ 32 = remLen + 1 := Nat.mod_eq_of_lt (by omega)
  have htotal : (packetOf header remLen body).length =
      1 + ((writeLenToBuffer remLen).length + remLen) := by
    rw [packetOf, List.length_cons, List.length_append, hlen]
    omega
  unfold getFinalPacketLengthFromRemainingLength
  rw [htotal, hmod]
  dsimp only
  split
  · have := length_writeLenDigits_of_lt 0 5 remLen (by omega)
    unfold writeLenToBuffer
    omega
  split
  · have := length_writeLenDigits_of_lt 1 5 remLen (by omega)
    unfold writeLenToBuffer
    omega
  split
  · have := length_writeLenDigits_of_lt 2 5 remLen (by omega)
    unfold writeLenToBuffer
    omega
  · have := length_writeLenDigits_of_lt 3 5 remLen hlt
    have hmod' : (remLen + 1 + 4) % 2 ^ 32 = remLen + 1 + 4 := Nat.mod_eq_of_lt (by omega)
    unfold writeLenToBuffer
    omega

/-- A packet whose body has `total` bytes, written with `total` cut to `uint32_t` as its
remaining length, is self-delimiting when four digits are enough for `total`. -/
theorem delimited_packetOf_iff {txBufLen width total : Nat} (header : UInt8) {body : List UInt8}
    (hlen : body.length = total) (hwidth : 32 ≤ width)
    (hfit : getFinalPacketLengthFromRemainingLength (total % 2 ^ 32) ≤ txBufLen) :
    Delimited txBufLen ((packetOf header (total % 2 ^ 32) body).length % 2 ^ width)
      (storesFrom 0 (packetOf header (total % 2 ^ 32) body)) ↔ total < 128 ^ 4 := by
  constructor
  · intro h
    obtain ⟨header', field, body', hstores, -, -, hread, -⟩ := h.framed
    have hpacket := storesFrom_injective _ _ 0 hstores
    have htail := (List.cons.inj (show header :: _ = header' :: _ from hpacket)).2
    have hrun := hread body'
    rw [← htail] at hrun
    by_cases hsmall : total % 2 ^ 32 < 128 ^ 4
    · rw [reads_writeLenToBuffer hsmall body] at hrun
      obtain ⟨hn, rfl⟩ := Prod.mk.inj (Option.some.inj hrun)
      omega
    · rw [writeLenToBuffer, base128_writeLenDigits_none 4 5 _ body (by omega) (by omega)] at hrun
      cases hrun
  · intro hlt
    have hmod : total % 2 ^ 32 = total := Nat.mod_eq_of_lt (by omega)
    rw [hmod] at hfit ⊢
    have hle := length_packetOf_le header hlen hlt
    have hfield := length_writeLenDigits_of_lt 3 5 total hlt
    have htotal : (packetOf header total body).length =
        1 + (writeLenToBuffer total).length + body.length := by
      rw [packetOf, List.length_cons, List.length_append]
      omega
    have hpow : 2 ^ 32 ≤ 2 ^ width := Nat.pow_le_pow_right (by omega) hwidth
    have hcut : (packetOf header total body).length % 2 ^ width =
        (packetOf header total body).length := by
      apply Nat.mod_eq_of_lt
      rw [htotal]
      unfold writeLenToBuffer
      omega
    rw [hcut]
    refine ⟨(storesFrom_below_iff _ _).mpr (by omega), by omega, header, writeLenToBuffer total,
      body, rfl, length_writeLenDigits_pos 4 total, hfield, ?_, htotal⟩
    rw [hlen]
    exact reads_writeLenToBuffer hlt

/-! ## The four serializers -/

/-- The arguments of one of the serializers of outgoing packets. -/
inductive OutgoingPacket where
  | connect (params : ConnectParams)
  | publish (dup : UInt8) (qos : QoS) (retained : UInt8) (packetId : UInt16)
      (topicName : Option CharPtr) (topicNameLen : UInt16) (payload : Option CharPtr)
      (payloadLen : Nat)
  | subscribe (dup : UInt8) (packetId : UInt16) (topics : List TopicRequest)
  | unsubscribe (dup : UInt8) (packetId : UInt16) (topics : List (Option CharPtr × UInt16))

namespace OutgoingPacket

/-- The serializer of a packet, on a transmit buffer of `txBufLen` bytes. -/
def store (txBufLen : Nat) : OutgoingPacket → Writer (Except IoTError Nat)
  | connect params => storeConnect txBufLen params
  | publish dup qos retained packetId topicName topicNameLen payload payloadLen =>
      storePublish txBufLen dup qos retained packetId topicName topicNameLen payload payloadLen
  | subscribe dup packetId topics => storeSubscribe txBufLen dup packetId topics
  | unsubscribe dup packetId topics => storeUnsubscribe txBufLen dup packetId topics

/-- The packet as `Mqtt/Packet.lean` gives it. -/
def serialized (txBufLen : Nat) : OutgoingPacket → Serialized
  | connect params => serializeConnect txBufLen params
  | publish dup qos retained packetId topicName topicNameLen payload payloadLen =>
      serializePublish txBufLen dup qos retained packetId topicName topicNameLen payload payloadLen
  | subscribe dup packetId topics => serializeSubscribe txBufLen dup packetId topics
  | unsubscribe dup packetId topics => serializeUnsubscribe txBufLen dup packetId topics

/-- The arguments are turned down before the size is looked at. -/
def Refused : OutgoingPacket → Prop
  | connect params => params.pClientID.isNone ∧ params.clientIDLen ≠ 0 ∨
      params.pClientID.isSome ∧ params.clientIDLen = 0 ∨ params.mqttVersion ≠ .mqtt311
  | publish _ _ _ _ _ _ payload _ => payload = none
  | subscribe .. => False
  | unsubscribe .. => False

/-- The bytes behind the remaining length; `none` when one of the strings is NULL and
its length is not 0. -/
def body : OutgoingPacket → Option (List UInt8)
  | connect params => connectBody params
  | publish _ qos _ packetId topicName topicNameLen payload payloadLen => do
      let topic ← writeUtf8String topicName topicNameLen
      let payload ← payload
      return topic ++ ((if qos.toByte > 0 then writeUint16 packetId else []) ++
        payload.take payloadLen)
  | subscribe _ packetId topics => do
      let fields ← topics.mapM fun t => do
        let topic ← writeUtf8String t.topicName t.topicNameLen
        return topic ++ [t.requestedQoS.toByte]
      return writeUint16 packetId ++ fields.flatten
  | unsubscribe _ packetId topics => do
      let fields ← topics.mapM fun t => writeUtf8String t.1 t.2
      return writeUint16 packetId ++ fields.flatten

/-- The number of these bytes, before it is cut to `uint32_t`. -/
def remainingLength : OutgoingPacket → Nat
  | connect params => getConnectPacketLength params
  | publish _ qos _ _ _ topicNameLen _ payloadLen =>
      topicNameLen.toNat + payloadLen + 2 + if qos.toByte > 0 then 2 else 0
  | subscribe _ _ topics => (topics.map fun t => t.topicNameLen.toNat + 2 + 1).sum + 2
  | unsubscribe _ _ topics => (topics.map fun t => t.2.toNat + 2).sum + 2

/-- The size check turns the packet down. -/
def TooLong (txBufLen : Nat) (p : OutgoingPacket) : Prop :=
  txBufLen < getFinalPacketLengthFromRemainingLength (p.remainingLength % 2 ^ 32)

theorem foldl_mod {α : Type} (size : α → Nat) : ∀ (l : List α) (n : Nat),
    l.foldl (fun n t => (n + size t) % 2 ^ 32) (n % 2 ^ 32) = ((l.map size).sum + n) % 2 ^ 32 := by
  intro l
  induction l with
  | nil => intro n; simp
  | cons t l ih =>
    intro n
    have hstep : (n % 2 ^ 32 + size t) % 2 ^ 32 = (n + size t) % 2 ^ 32 := by omega
    rw [List.foldl_cons, hstep, ih, List.map_cons, List.sum_cons]
    congr 1
    omega

theorem length_flatten_mapM {α : Type} (write : α → Option (List UInt8)) (size : α → Nat)
    (h : ∀ t bytes, write t = some bytes → bytes.length = size t) :
    ∀ (l : List α) (fields : List (List UInt8)), l.mapM write = some fields →
      fields.flatten.length = (l.map size).sum := by
  intro l
  induction l with
  | nil =>
    intro fields hfields
    obtain rfl := Option.some.inj hfields
    rfl
  | cons t l ih =>
    intro fields hfields
    rw [List.mapM_cons] at hfields
    obtain ⟨first, hfirst, hfields⟩ := Option.bind_eq_some_iff.mp hfields
    obtain ⟨rest, hrest, hfields⟩ := Option.bind_eq_some_iff.mp hfields
    obtain rfl := Option.some.inj hfields
    rw [List.flatten_cons, List.length_append, List.map_cons, List.sum_cons, h t first hfirst,
      ih rest hrest]

/-- The length computed beforehand is the length written. -/
theorem length_body {p : OutgoingPacket} {bytes : List UInt8} (hr : ¬ p.Refused)
    (h : p.body = some bytes) : bytes.length = p.remainingLength := by
  cases p with
  | connect params =>
    refine length_connectBody (fun hnone => ?_) h
    refine Decidable.byContradiction fun hne => hr (.inl ⟨?_, hne⟩)
    simp [hnone]
  | publish dup qos retained packetId topicName topicNameLen payload payloadLen =>
    obtain ⟨topic, htopic, h⟩ := Option.bind_eq_some_iff.mp h
    obtain ⟨data, hdata, h⟩ := Option.bind_eq_some_iff.mp h
    obtain rfl := Option.some.inj h
    rw [List.length_append, List.length_append, length_writeUtf8String htopic,
      CharPtr.length_take, remainingLength]
    split <;> simp [writeUint16] <;> omega
  | subscribe dup packetId topics =>
    obtain ⟨fields, hfields, h⟩ := Option.bind_eq_some_iff.mp h
    obtain rfl := Option.some.inj h
    have hlen := length_flatten_mapM _ (fun t : TopicRequest => t.topicNameLen.toNat + 2 + 1) (by
      intro t bytes ht
      obtain ⟨topic, htopic, ht⟩ := Option.bind_eq_some_iff.mp ht
      obtain rfl := Option.some.inj ht
      rw [List.length_append, length_writeUtf8String htopic, List.length_singleton]
      omega) topics fields hfields
    rw [List.length_append, hlen, remainingLength]
    simp [writeUint16]
    omega
  | unsubscribe dup packetId topics =>
    obtain ⟨fields, hfields, h⟩ := Option.bind_eq_some_iff.mp h
    obtain rfl := Option.some.inj h
    have hlen := length_flatten_mapM _ (fun t : Option CharPtr × UInt16 => t.2.toNat + 2) (by
      intro t bytes ht
      rw [length_writeUtf8String ht]
      omega) topics fields hfields
    rw [List.length_append, hlen, remainingLength]
    simp [writeUint16]
    omega

/-! ## What the serializers store -/

/-- An accepted packet: what `storePacketWith` makes of its body. -/
def outcome (txBufLen width : Nat) (header : UInt8) (p : OutgoingPacket) :
    Option (Except IoTError Nat × Cursor) :=
  let remLen := p.remainingLength % 2 ^ 32
  if getFinalPacketLengthFromRemainingLength remLen > txBufLen then
    some (.error .mqttTxBufferTooShortError, .start)
  else p.body.map fun b =>
    (.ok ((packetOf header remLen b).length % 2 ^ width),
      Cursor.start.advance (packetOf header remLen b))

theorem writes_publishBody (qos : QoS) (packetId : UInt16) (topicName : Option CharPtr)
    (topicNameLen : UInt16) (payload : CharPtr) (payloadLen : Nat) :
    Writes (do
      storeUtf8String topicName topicNameLen
      if qos.toByte > 0 then storeUint16 packetId
      storeAll (payload.take payloadLen))
      (publish 0 qos 0 packetId topicName topicNameLen (some payload) payloadLen).body () := by
  have htail : Writes (if qos.toByte > 0 then do
        storeUint16 packetId
        storeAll (payload.take payloadLen)
      else storeAll (payload.take payloadLen))
      (some ((if qos.toByte > 0 then writeUint16 packetId else []) ++ payload.take payloadLen))
      () := by
    split
    · exact Writes.congr ((writes_storeUint16 packetId).bind (Writes.storeAll _)) rfl
    · exact Writes.storeAll _
  apply Writes.congr ((writes_storeUtf8String topicName topicNameLen).bind htail)
  rw [body]
  cases writeUtf8String topicName topicNameLen <;> rfl

theorem writes_subscribeBody (packetId : UInt16) (topics : List TopicRequest) :
    Writes (do
      storeUint16 packetId
      forEach (fun t => do
        storeUtf8String t.topicName t.topicNameLen
        Writer.store t.requestedQoS.toByte) topics)
      (subscribe 0 packetId topics).body () := by
  have hfield : ∀ t : TopicRequest, Writes (do
        storeUtf8String t.topicName t.topicNameLen
        Writer.store t.requestedQoS.toByte)
      (do let topic ← writeUtf8String t.topicName t.topicNameLen
          return topic ++ [t.requestedQoS.toByte]) () := by
    intro t
    apply Writes.congr ((writes_storeUtf8String _ _).bind (Writes.store _))
    cases writeUtf8String t.topicName t.topicNameLen <;> rfl
  apply Writes.congr ((writes_storeUint16 packetId).bind (Writes.forEach hfield topics))
  rw [body, Option.bind_some, Option.map_map, Option.map_eq_bind]
  rfl

theorem writes_unsubscribeBody (packetId : UInt16) (topics : List (Option CharPtr × UInt16)) :
    Writes (do
      storeUint16 packetId
      forEach (fun t => storeUtf8String t.1 t.2) topics)
      (unsubscribe 0 packetId topics).body () := by
  have hfield : ∀ t : Option CharPtr × UInt16,
      Writes (storeUtf8String t.1 t.2) (writeUtf8String t.1 t.2) () := fun t =>
    writes_storeUtf8String t.1 t.2
  apply Writes.congr ((writes_storeUint16 packetId).bind (Writes.forEach hfield topics))
  rw [body, Option.bind_some, Option.map_map, Option.map_eq_bind]
  rfl

theorem writes_storeClientID (params : ConnectParams) :
    Writes (storeClientID params) (writeClientID params) () := by
  unfold storeClientID writeClientID
  cases params.pClientID with
  | none => exact writes_storeUint16 0
  | some id => exact writes_storeUtf8String (some id) params.clientIDLen

theorem writes_storeWill (params : ConnectParams) :
    Writes (storeWill params) (writeWill params) () := by
  unfold storeWill writeWill
  split
  · apply Writes.congr ((writes_storeUtf8String _ _).bind (writes_storeUtf8String _ _))
    cases writeUtf8String params.will.pTopicName params.will.topicNameLen with
    | none => rfl
    | some topic => cases writeUtf8String params.will.pMessage params.will.msgLen <;> rfl
  · exact Writes.pure ()

theorem writes_storeCredential (string : Option CharPtr) (len : UInt16) :
    Writes (storeCredential string len) (writeCredential string len) () := by
  unfold storeCredential writeCredential
  split
  · exact writes_storeUtf8String string len
  · exact Writes.pure ()

theorem writes_connectBody (params : ConnectParams) :
    Writes (do
      storeUtf8String (some protocolName) 4
      Writer.store params.mqttVersion.toByte
      Writer.store (connectFlags params)
      storeUint16 params.keepAliveIntervalInSec
      storeClientID params
      storeWill params
      storeCredential params.pUsername params.usernameLen
      storeCredential params.pPassword params.passwordLen)
      (connectBody params) () := by
  refine Writes.congr ((writes_storeUtf8String _ _).bind ((Writes.store _).bind
    ((Writes.store _).bind ((writes_storeUint16 _).bind ((writes_storeClientID params).bind
      ((writes_storeWill params).bind ((writes_storeCredential _ _).bind
        (writes_storeCredential _ _)))))))) ?_
  unfold connectBody
  cases writeUtf8String (some protocolName) 4 with
  | none => rfl
  | some name => cases writeClientID params with
    | none => rfl
    | some clientID => cases writeWill params with
      | none => rfl
      | some will => cases writeCredential params.pUsername params.usernameLen with
        | none => rfl
        | some username =>
          cases writeCredential params.pPassword params.passwordLen <;> rfl

/-- The accepted packet as `Mqtt/Packet.lean` gives it. -/
def accepted (txBufLen : Nat) (header : UInt8) (p : OutgoingPacket) : Serialized :=
  let remLen := p.remainingLength % 2 ^ 32
  if getFinalPacketLengthFromRemainingLength remLen > txBufLen then
    .error .mqttTxBufferTooShortError
  else .ofBytes (p.body.map (packetOf header remLen))

/-- How a serializer runs that does not turn its arguments down. -/
structure Accepts (txBufLen : Nat) (p : OutgoingPacket) (header : UInt8) (width : Nat) : Prop where
  /-- `*pSerializedLen` has at least 32 bits, and more only where they are not needed. -/
  wide : width = 32 ∨ 32 ≤ width ∧ p.remainingLength < 128 ^ 4
  /-- What it stores. -/
  run : (p.store txBufLen).run .start = p.outcome txBufLen width header
  /-- The packet it is modelled by. -/
  serialized : p.serialized txBufLen = p.accepted txBufLen header

theorem accepts_connect {txBufLen : Nat} {params : ConnectParams}
    (hr : ¬ (connect params).Refused) : Accepts txBufLen (connect params) 0x10 64 := by
  have hlt := getConnectPacketLength_lt params
  have hmod : getConnectPacketLength params % 2 ^ 32 = getConnectPacketLength params :=
    Nat.mod_eq_of_lt (by omega)
  have hid : ¬ (params.pClientID.isNone ∧ params.clientIDLen ≠ 0 ∨
      params.pClientID.isSome ∧ params.clientIDLen = 0) :=
    fun h => hr (h.imp_right .inl)
  have hversion : params.mqttVersion = .mqtt311 :=
    not_not.mp fun h => hr (.inr (.inr h))
  have hheader : initHeader .connect .qos0 0 0 = .ok 0x10 := rfl
  refine ⟨.inr ⟨by decide, by rw [remainingLength]; omega⟩, ?_, ?_⟩
  · rw [store, storeConnect, if_neg hid]
    simp only [hversion]
    apply (run_storePacketWith (hversion ▸ writes_connectBody params)).trans
    rw [outcome, remainingLength, hmod]
    rfl
  · rw [serialized, serializeConnect, if_neg hid, accepted, remainingLength, hmod]
    simp only [hversion, hheader, body]
    cases connectBody params <;> rfl

theorem accepts_publish {txBufLen : Nat} (dup : UInt8) (qos : QoS) (retained : UInt8)
    (packetId : UInt16) (topicName : Option CharPtr) (topicNameLen : UInt16) (payload : CharPtr)
    (payloadLen : Nat) : ∃ header, initHeader .publish qos dup retained = .ok header ∧
      Accepts txBufLen (publish dup qos retained packetId topicName topicNameLen (some payload)
        payloadLen) header 32 := by
  obtain ⟨header, hheader⟩ := initHeader_ok (t := .publish) (by decide) qos dup retained
  have hmod : (if qos.toByte > 0 then
        ((topicNameLen.toNat + payloadLen + 2) % 2 ^ 32 + 2) % 2 ^ 32
      else (topicNameLen.toNat + payloadLen + 2) % 2 ^ 32) =
      (publish dup qos retained packetId topicName topicNameLen (some payload)
        payloadLen).remainingLength % 2 ^ 32 := by
    rw [remainingLength]
    split <;> omega
  refine ⟨header, hheader, .inl rfl, ?_, ?_⟩
  · rw [store, storePublish, hheader]
    dsimp only
    rw [hmod]
    exact run_storePacketWith
      (writes_publishBody qos packetId topicName topicNameLen payload payloadLen)
  · rw [serialized, serializePublish, hheader]
    dsimp only
    rw [hmod, accepted, body]
    cases writeUtf8String topicName topicNameLen with
    | none => rfl
    | some topic => simp [packetOf]

theorem accepts_subscribe {txBufLen : Nat} (dup : UInt8) (packetId : UInt16)
    (topics : List TopicRequest) :
    ∃ header, initHeader .subscribe .qos1 dup 0 = .ok header ∧
      Accepts txBufLen (subscribe dup packetId topics) header 32 := by
  obtain ⟨header, hheader⟩ := initHeader_ok (t := .subscribe) (by decide) .qos1 dup 0
  have hmod : topics.foldl (fun n t => (n + (t.topicNameLen.toNat + 2 + 1)) % 2 ^ 32) 2 =
      (subscribe dup packetId topics).remainingLength % 2 ^ 32 := foldl_mod _ topics 2
  refine ⟨header, hheader, .inl rfl, ?_, ?_⟩
  · rw [store, storeSubscribe, hheader, hmod]
    exact run_storePacketWith (writes_subscribeBody packetId topics)
  · rw [serialized, serializeSubscribe, hheader, hmod, accepted, body]
    cases topics.mapM (fun t : TopicRequest => do
        let topic ← writeUtf8String t.topicName t.topicNameLen
        return topic ++ [t.requestedQoS.toByte]) with
    | none => rfl
    | some fields => simp [packetOf]

theorem accepts_unsubscribe {txBufLen : Nat} (dup : UInt8) (packetId : UInt16)
    (topics : List (Option CharPtr × UInt16)) :
    ∃ header, initHeader .unsubscribe .qos1 dup 0 = .ok header ∧
      Accepts txBufLen (unsubscribe dup packetId topics) header 32 := by
  obtain ⟨header, hheader⟩ := initHeader_ok (t := .unsubscribe) (by decide) .qos1 dup 0
  have hmod : topics.foldl (fun n t => (n + (t.2.toNat + 2)) % 2 ^ 32) 2 =
      (unsubscribe dup packetId topics).remainingLength % 2 ^ 32 := foldl_mod _ topics 2
  refine ⟨header, hheader, .inl rfl, ?_, ?_⟩
  · rw [store, storeUnsubscribe, hheader, hmod]
    exact run_storePacketWith (writes_unsubscribeBody packetId topics)
  · rw [serialized, serializeUnsubscribe, hheader, hmod, accepted, body]
    cases topics.mapM (fun t => writeUtf8String t.1 t.2) with
    | none => rfl
    | some fields => simp [packetOf]

theorem accepts_of_not_refused (txBufLen : Nat) {p : OutgoingPacket} (hr : ¬ p.Refused) :
    ∃ header width, Accepts txBufLen p header width := by
  cases p with
  | connect params => exact ⟨_, _, accepts_connect hr⟩
  | publish dup qos retained packetId topicName topicNameLen payload payloadLen =>
    cases payload with
    | none => exact absurd rfl hr
    | some payload =>
      obtain ⟨header, -, h⟩ := accepts_publish dup qos retained packetId topicName topicNameLen
        payload payloadLen
      exact ⟨header, 32, h⟩
  | subscribe dup packetId topics =>
    obtain ⟨header, -, h⟩ := accepts_subscribe dup packetId topics
    exact ⟨header, 32, h⟩
  | unsubscribe dup packetId topics =>
    obtain ⟨header, -, h⟩ := accepts_unsubscribe dup packetId topics
    exact ⟨header, 32, h⟩

theorem run_store_of_refused (txBufLen : Nat) {p : OutgoingPacket} (hr : p.Refused) :
    ∃ rc, (p.store txBufLen).run .start = some (.error rc, .start) ∧
      p.serialized txBufLen = .error rc := by
  cases p with
  | connect params =>
    rw [store, storeConnect, serialized, serializeConnect]
    by_cases hid : params.pClientID.isNone ∧ params.clientIDLen ≠ 0 ∨
        params.pClientID.isSome ∧ params.clientIDLen = 0
    · rw [if_pos hid, if_pos hid]
      exact ⟨_, rfl, rfl⟩
    · rw [if_neg hid, if_neg hid]
      have hversion : params.mqttVersion ≠ .mqtt311 := by
        rcases hr with h | h | h
        · exact absurd (.inl h) hid
        · exact absurd (.inr h) hid
        · exact h
      cases hv : params.mqttVersion with
      | other v => exact ⟨_, rfl, rfl⟩
      | mqtt311 => exact absurd hv hversion
  | publish dup qos retained packetId topicName topicNameLen payload payloadLen =>
    obtain rfl : payload = none := hr
    exact ⟨_, rfl, rfl⟩
  | subscribe => exact hr.elim
  | unsubscribe => exact hr.elim

/-- Store by store, the serializers do what `Mqtt/Packet.lean` says. -/
theorem store_refines (txBufLen : Nat) (p : OutgoingPacket) :
    (p.store txBufLen).run .start = (p.serialized txBufLen).outcome := by
  by_cases hr : p.Refused
  · obtain ⟨rc, hrun, hser⟩ := run_store_of_refused txBufLen hr
    rw [hrun, hser]
    rfl
  · obtain ⟨header, width, hwidth, hrun, hser⟩ := accepts_of_not_refused txBufLen hr
    rw [hrun, hser]
    unfold OutgoingPacket.outcome accepted
    dsimp only
    split
    · rfl
    cases hbody : p.body with
    | none => rfl
    | some b =>
      have hcut : (packetOf header (p.remainingLength % 2 ^ 32) b).length % 2 ^ width =
          (packetOf header (p.remainingLength % 2 ^ 32) b).length % 2 ^ 32 := by
        rcases hwidth with rfl | ⟨hle, hlt⟩
        · rfl
        · have hpow : 2 ^ 32 ≤ 2 ^ width := Nat.pow_le_pow_right (by omega) hle
          have hlen := length_body hr hbody
          have hdigits := length_writeLenDigits_le 5 (p.remainingLength % 2 ^ 32)
          have hsmall : (packetOf header (p.remainingLength % 2 ^ 32) b).length < 2 ^ 32 := by
            rw [packetOf, List.length_cons, List.length_append, hlen]
            unfold writeLenToBuffer
            omega
          rw [Nat.mod_eq_of_lt hsmall, Nat.mod_eq_of_lt (by omega)]
      simp only [Option.map_some, hcut]
      rfl

theorem selfDelimiting_outcome_iff {txBufLen width : Nat} {header : UInt8} {p : OutgoingPacket}
    (hr : ¬ p.Refused) (hwidth : 32 ≤ width) :
    SelfDelimiting txBufLen (p.outcome txBufLen width header) ↔
      p.body = none ∨ p.TooLong txBufLen ∨ p.remainingLength < 128 ^ 4 := by
  unfold outcome TooLong
  dsimp only
  split
  case isTrue hlong => exact ⟨fun _ => .inr (.inl hlong), fun _ => rfl⟩
  case isFalse hfit =>
    cases hbody : p.body with
    | none => exact ⟨fun _ => .inl rfl, fun _ => trivial⟩
    | some b =>
      have hiff := delimited_packetOf_iff header (length_body hr hbody) hwidth
        (Nat.le_of_not_lt hfit)
      simp only [Option.map_some, SelfDelimiting, Cursor.stores_start_advance]
      rw [hiff]
      constructor
      · exact fun h => .inr (.inr h)
      · rintro (h | h | h)
        · cases h
        · exact absurd h hfit
        · exact h

/-- The serializers of outgoing packets write self-delimiting packets inside the
transmit buffer, and on an error nothing, exactly as long as the remaining length does
not reach `128 ^ 4`, or the packet is turned down before the first store. -/
theorem selfDelimiting_iff (txBufLen : Nat) (p : OutgoingPacket) :
    SelfDelimiting txBufLen ((p.store txBufLen).run .start) ↔
      p.Refused ∨ p.body = none ∨ p.TooLong txBufLen ∨ p.remainingLength < 128 ^ 4 := by
  by_cases hr : p.Refused
  · obtain ⟨rc, hrun, -⟩ := run_store_of_refused txBufLen hr
    rw [hrun]
    exact ⟨fun _ => .inl hr, fun _ => rfl⟩
  · obtain ⟨header, width, hwidth, hrun, -⟩ := accepts_of_not_refused txBufLen hr
    rw [hrun, selfDelimiting_outcome_iff hr (hwidth.elim (fun h => Nat.le_of_eq h.symm) (·.1))]
    exact ⟨.inr, fun h => h.resolve_left hr⟩

/-- A QoS 0 publish of `2 ^ 32` bytes: the remaining length is cut to 3. -/
def hugePublish : OutgoingPacket :=
  publish 0 .qos0 0 0 (some ⟨[0x74]⟩) 1 (some ⟨[0x70]⟩) (2 ^ 32)

/-- The payload of `2 ^ 32` bytes passes the size check of a buffer of 512 bytes. -/
theorem not_selfDelimiting_hugePublish :
    ¬ SelfDelimiting 512 ((hugePublish.store 512).run .start) := by
  have hr : ¬ hugePublish.Refused := nofun
  have hremaining : hugePublish.remainingLength = 2 ^ 32 + 3 := rfl
  obtain ⟨header, width, hwidth, hrun, -⟩ := accepts_of_not_refused 512 hr
  rw [hrun, selfDelimiting_outcome_iff hr (hwidth.elim (fun h => Nat.le_of_eq h.symm) (·.1)),
    TooLong, hremaining]
  rintro (h | h | h)
  · cases h
  · exact absurd h (by decide)
  · exact absurd h (by decide)

end OutgoingPacket

end AwsIot.Mqtt
