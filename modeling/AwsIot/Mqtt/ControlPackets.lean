/-
  Mqtt/ControlPackets.lean --- what the packets of the client mean on the wire.

  `decodePacket` reads a packet by the layouts of MQTT 3.1.1 for CONNECT, PUBLISH,
  SUBSCRIBE and UNSUBSCRIBE.  What the client's serializers write reads back as what
  they were given exactly when the format can say it (`decodePacket_serialized_iff`):
  the remaining length takes at most four digits, a topic list is not empty, and
  SUBSCRIBE and UNSUBSCRIBE are not marked as duplicates.
-/
import AwsIot.Mqtt.ConnectPacket
import AwsIot.Mqtt.TransmitBuffer

set_option autoImplicit false

namespace AwsIot.Mqtt

open AwsIot.Foundation Reader

/-! ## The layouts -/

/-- What a control packet of a client means. -/
inductive ControlPacket where
  | connect (fields : ConnectFields)
  | publish (dup retain : Bool) (qos : UInt8) (packetId : Option UInt16)
      (topic payload : List UInt8)
  | subscribe (packetId : UInt16) (topics : List (List UInt8 × UInt8))
  | unsubscribe (packetId : UInt16) (topics : List (List UInt8))
  deriving DecidableEq, Repr

/-- Read what is behind the remaining length of a PUBLISH packet; `header` is its
first byte. -/
def readPublishBody (header : UInt8) : Reader ControlPacket := do
  let qos := (header >>> 1) &&& 3
  check (qos != 3)
  let topic ← readString
  let packetId ← readIf (qos != 0) uint16
  let payload ← rest
  return .publish (flagBit header 3) (flagBit header 0) qos packetId topic payload

/-- Read a topic filter and the quality of service asked for it. -/
def readTopicRequest : Reader (List UInt8 × UInt8) := do
  let filter ← readString
  let qos ← byte
  check (qos ≤ 2)
  return (filter, qos)

/-- Read a packet id and a list of topics that is not empty. -/
def readTopics {α : Type} (topic : Reader α) (packet : UInt16 → List α → ControlPacket) :
    Reader ControlPacket := do
  let packetId ← uint16
  let topics ← many topic
  check (!topics.isEmpty)
  return packet packetId topics

/-- Read what is behind the remaining length, as the first byte asks for it. -/
def readPacketBody (header : UInt8) : Reader ControlPacket :=
  if header == 0x10 then do return .connect (← readConnectBody)
  else if header >>> 4 == 3 then readPublishBody header
  else if header == 0x82 then readTopics readTopicRequest .subscribe
  else if header == 0xA2 then readTopics readString .unsubscribe
  else fun _ => none

/-- Read the fixed header of a control packet: the first byte and the remaining
length. -/
def readFixedHeader : Reader (UInt8 × Nat) := do
  let header ← byte
  let remainingLength ← base128 4
  return (header, remainingLength)

/-- Decode a whole control packet. -/
def decodePacket (packet : List UInt8) : Option ControlPacket :=
  match readFixedHeader.run packet with
  | some ((header, remainingLength), body) =>
      if remainingLength = body.length then (readPacketBody header).readAll body else none
  | none => none

/-- A packet is its body under the length of the body, if four digits can say that
length. -/
theorem decodePacket_packetOf (header : UInt8) {body : List UInt8} {n : Nat}
    (hn : body.length = n) : decodePacket (packetOf header (n % 2 ^ 32) body) =
      if n < 128 ^ 4 then (readPacketBody header).readAll body else none := by
  unfold decodePacket packetOf
  by_cases hfour : n % 2 ^ 32 < 128 ^ 4
  · have hheader : Reads readFixedHeader ([header] ++ writeLenToBuffer (n % 2 ^ 32))
        (header, n % 2 ^ 32) := by
      apply (Reads.byte header).bind
      have hlen := (reads_writeLenToBuffer hfour).bind (d := []) (f := fun remainingLength =>
        pure (header, remainingLength)) (Reads.pure _)
      rw [List.append_nil] at hlen
      exact hlen
    have hrun := hheader body
    rw [List.append_assoc, List.singleton_append] at hrun
    rw [hrun]
    dsimp only
    rw [hn]
    split
    · rw [if_pos (by omega)]
    · rw [if_neg (by omega)]
  · have hdigits : (base128 4).run (writeLenToBuffer (n % 2 ^ 32) ++ body) = none :=
      base128_writeLenDigits_none 4 5 _ body (Nat.le_of_not_lt hfour) (by omega)
    have hrun : readFixedHeader.run (header :: (writeLenToBuffer (n % 2 ^ 32) ++ body)) = none := by
      unfold readFixedHeader
      rw [StateT.run_bind]
      show Option.bind (some (header, _)) _ = none
      rw [Option.bind_some, StateT.run_bind, hdigits]
      rfl
    rw [hrun, if_neg (by omega)]

/-! ## What a packet is to say -/

namespace OutgoingPacket

/-- The header byte of a packet. -/
def header : OutgoingPacket → Except IoTError UInt8
  | connect _ => initHeader .connect .qos0 0 0
  | publish dup qos retained .. => initHeader .publish qos dup retained
  | subscribe dup .. => initHeader .subscribe .qos1 dup 0
  | unsubscribe dup .. => initHeader .unsubscribe .qos1 dup 0

/-- What a packet is to say. -/
def content : OutgoingPacket → ControlPacket
  | connect params => .connect params.asked
  | publish dup qos retained packetId topicName topicNameLen payload payloadLen =>
      .publish (dup == 1) (retained == 1) qos.toByte
        (if qos.toByte > 0 then some packetId else none) (stringAt topicName topicNameLen)
        ((payload.map (·.take payloadLen)).getD [])
  | subscribe _ packetId topics =>
      .subscribe packetId (topics.map fun t =>
        (stringAt t.topicName t.topicNameLen, t.requestedQoS.toByte))
  | unsubscribe _ packetId topics =>
      .unsubscribe packetId (topics.map fun t => stringAt t.1 t.2)

/-- The format has a topic list of this kind. -/
def HasTopics : OutgoingPacket → Prop
  | connect _ => True
  | publish .. => True
  | subscribe dup _ topics => dup ≠ 1 ∧ topics ≠ []
  | unsubscribe dup _ topics => dup ≠ 1 ∧ topics ≠ []

/-- The format can say it. -/
def Expressible (p : OutgoingPacket) : Prop := p.remainingLength < 128 ^ 4 ∧ p.HasTopics

theorem not_refused_of_packet {txBufLen : Nat} {p : OutgoingPacket} {bytes : List UInt8}
    (h : p.serialized txBufLen = .packet bytes) : ¬ p.Refused := by
  intro hr
  obtain ⟨rc, -, hser⟩ := run_store_of_refused txBufLen hr
  rw [hser] at h
  exact absurd h (by simp)

/-- The parts of an accepted packet. -/
theorem packet_parts {txBufLen : Nat} {p : OutgoingPacket} {bytes : List UInt8}
    (h : p.serialized txBufLen = .packet bytes) :
    ∃ first body, p.header = .ok first ∧ p.body = some body ∧
      bytes = packetOf first (p.remainingLength % 2 ^ 32) body := by
  have hr : ¬ p.Refused := not_refused_of_packet h
  have hparts : ∀ first width, Accepts txBufLen p first width → p.header = .ok first →
      ∃ first body, p.header = .ok first ∧ p.body = some body ∧
        bytes = packetOf first (p.remainingLength % 2 ^ 32) body := by
    intro first width haccepts hheader
    rw [haccepts.serialized, accepted] at h
    split at h
    · exact absurd h (by simp)
    cases hbody : p.body with
    | none => simp [hbody, Serialized.ofBytes] at h
    | some body =>
      rw [hbody] at h
      exact ⟨first, body, hheader, rfl, (Serialized.packet.inj h).symm⟩
  cases p with
  | connect params => exact hparts _ _ (accepts_connect hr) rfl
  | publish dup qos retained packetId topicName topicNameLen payload payloadLen =>
    cases payload with
    | none => exact absurd rfl hr
    | some payload =>
      obtain ⟨first, hheader, haccepts⟩ := accepts_publish dup qos retained packetId topicName
        topicNameLen payload payloadLen
      exact hparts _ _ haccepts hheader
  | subscribe dup packetId topics =>
    obtain ⟨first, hheader, haccepts⟩ := accepts_subscribe dup packetId topics
    exact hparts _ _ haccepts hheader
  | unsubscribe dup packetId topics =>
    obtain ⟨first, hheader, haccepts⟩ := accepts_unsubscribe dup packetId topics
    exact hparts _ _ haccepts hheader

/-! ## Reading back -/

/-- The bits of a PUBLISH header. -/
theorem publishHeader_bits {qos : QoS} {dup retained first : UInt8}
    (h : initHeader .publish qos dup retained = .ok first) :
    (first == 0x10) = false ∧ (first >>> 4 == 3) = true ∧ (first >>> 1) &&& 3 = qos.toByte ∧
      flagBit first 3 = (dup == 1) ∧ flagBit first 0 = (retained == 1) := by
  unfold initHeader at h
  rw [if_neg (by decide)] at h
  obtain rfl := Except.ok.inj h
  by_cases hdup : dup = 1
  · by_cases hretained : retained = 1
    · rw [hdup, hretained]
      cases qos <;> decide
    · rw [hdup, if_neg hretained, beq_false_of_ne hretained]
      cases qos <;> decide
  · by_cases hretained : retained = 1
    · rw [if_neg hdup, hretained, beq_false_of_ne hdup]
      cases qos <;> decide
    · rw [if_neg hdup, if_neg hretained, beq_false_of_ne hdup, beq_false_of_ne hretained]
      cases qos <;> decide

/-- A duplicate SUBSCRIBE or UNSUBSCRIBE has no header of the format. -/
theorem topicsHeader_eq {t : MessageType} (ht : t ≠ .unknown) {dup first : UInt8}
    (h : initHeader t .qos1 dup 0 = .ok first) :
    first = t.code <<< 4 ||| (if dup = 1 then 8 else 0) ||| 2 := by
  unfold initHeader at h
  rw [if_neg ht] at h
  obtain rfl := Except.ok.inj h
  by_cases hdup : dup = 1
  · rw [if_pos hdup, if_pos hdup]
    cases t <;> decide
  · rw [if_neg hdup, if_neg hdup]
    cases t <;> decide

theorem readAll_publish {first : UInt8} {qos : QoS} {dup retained : UInt8} {packetId : UInt16}
    {topicName payload : Option CharPtr} {topicNameLen : UInt16} {payloadLen : Nat}
    {body : List UInt8} (hheader : initHeader .publish qos dup retained = .ok first)
    (hbody : (publish dup qos retained packetId topicName topicNameLen payload payloadLen).body =
      some body) :
    (readPacketBody first).readAll body = some (publish dup qos retained packetId topicName
      topicNameLen payload payloadLen).content := by
  obtain ⟨hconnect, hpublish, hqos, hdup, hretained⟩ := publishHeader_bits hheader
  obtain ⟨topic, htopic, hbody⟩ := Option.bind_eq_some_iff.mp hbody
  obtain ⟨data, hdata, hbody⟩ := Option.bind_eq_some_iff.mp hbody
  obtain rfl := Option.some.inj hbody
  have hid : Reads (readIf (qos.toByte != 0) uint16)
      (if qos.toByte > 0 then writeUint16 packetId else [])
      (if qos.toByte > 0 then some packetId else none) := by
    cases qos with
    | qos0 => exact Reads.pure none
    | qos1 =>
      have hread := (reads_writeUint16 packetId).bind (d := []) (f := fun x => pure (some x))
        (Reads.pure _)
      rw [List.append_nil] at hread
      exact hread
  unfold readPacketBody
  rw [hconnect, hpublish, if_neg (by decide), if_pos rfl]
  apply ReadsAll.readAll
  unfold readPublishBody
  rw [hqos, hdup, hretained]
  apply Reads.bindAll (b := []) (Reads.check (by cases qos <;> decide))
  apply (reads_writeUtf8String htopic).bindAll
  apply hid.bindAll
  apply (ReadsAll.rest _).bind
  rw [content, hdata]
  rfl

/-- Topics written one by one are read one by one, unless there are none. -/
theorem readAll_topics {α β : Type} {topic : Reader β} {write : α → Option (List UInt8)}
    {value : α → β} (hreads : ∀ a bytes, write a = some bytes → Reads topic bytes (value a))
    (hne : ∀ a bytes, write a = some bytes → bytes ≠ []) {l : List α}
    {fields : List (List UInt8)} (hfields : l.mapM write = some fields) (packetId : UInt16)
    (packet : UInt16 → List β → ControlPacket) :
    (readTopics topic packet).readAll (writeUint16 packetId ++ fields.flatten) =
      if l = [] then none else some (packet packetId (l.map value)) := by
  have hmany := ReadsAll.many hreads hne hfields
  have hid := reads_writeUint16 packetId
  cases l with
  | nil =>
    obtain rfl := Option.some.inj hfields
    have hrun : (readTopics topic packet).run (writeUint16 packetId ++ [] ++ []) = none := by
      unfold readTopics
      rw [StateT.run_bind, List.append_nil, hid []]
      rfl
    rw [List.append_nil] at hrun
    rw [List.reverse_nil, List.flatten_nil, readAll, hrun]
    rfl
  | cons a l =>
    rw [if_neg (by simp)]
    apply ReadsAll.readAll
    unfold readTopics
    apply hid.bindAll
    apply hmany.bind
    apply Reads.bindAll (b := []) (Reads.check (by simp))
    rfl

/-- A topic filter and its quality of service. -/
theorem reads_topicRequest {t : TopicRequest} {bytes : List UInt8}
    (h : (do let topic ← writeUtf8String t.topicName t.topicNameLen
             return topic ++ [t.requestedQoS.toByte] : Option (List UInt8)) = some bytes) :
    Reads readTopicRequest bytes
      (stringAt t.topicName t.topicNameLen, t.requestedQoS.toByte) := by
  obtain ⟨topic, htopic, h⟩ := Option.bind_eq_some_iff.mp h
  obtain rfl := Option.some.inj h
  apply (reads_writeUtf8String htopic).bind
  have hqos := (Reads.byte t.requestedQoS.toByte).bind (d := []) (f := fun qos => do
    check (qos ≤ 2)
    return (stringAt t.topicName t.topicNameLen, qos)) (by
      apply Reads.bind (b := []) (Reads.check (by cases t.requestedQoS <;> decide))
      exact Reads.pure _)
  rw [List.append_nil] at hqos
  exact hqos

theorem ne_nil_of_writeUtf8String {p : Option CharPtr} {len : UInt16} {bytes : List UInt8}
    (h : writeUtf8String p len = some bytes) : bytes ≠ [] := by
  have hlen := length_writeUtf8String h
  rintro rfl
  rw [List.length_nil] at hlen
  omega

/-- The body of a packet with a topic list reads back, if it is no duplicate and the list
is not empty. -/
theorem readAll_topics_iff {α β : Type} {t : MessageType} (ht : t ≠ .unknown)
    {topic : Reader β} {packet : UInt16 → List β → ControlPacket}
    (hplain : readPacketBody (t.code <<< 4 ||| 0 ||| 2) = readTopics topic packet)
    (hduplicate : readPacketBody (t.code <<< 4 ||| 8 ||| 2) = fun _ => none)
    {write : α → Option (List UInt8)} {value : α → β}
    (hreads : ∀ a bytes, write a = some bytes → Reads topic bytes (value a))
    (hne : ∀ a bytes, write a = some bytes → bytes ≠ []) {l : List α}
    {fields : List (List UInt8)} (hfields : l.mapM write = some fields) {packetId : UInt16}
    {dup first : UInt8} (hheader : initHeader t .qos1 dup 0 = .ok first) :
    (readPacketBody first).readAll (writeUint16 packetId ++ fields.flatten) =
      some (packet packetId (l.map value)) ↔ dup ≠ 1 ∧ l ≠ [] := by
  rw [topicsHeader_eq ht hheader]
  by_cases hdup : dup = 1
  · rw [if_pos hdup, hduplicate]
    exact ⟨fun h => absurd h (by simp [readAll, StateT.run]), fun h => absurd hdup h.1⟩
  · rw [if_neg hdup, hplain, readAll_topics hreads hne hfields]
    by_cases hempty : l = []
    · rw [if_pos hempty]
      exact ⟨fun h => absurd h (by simp), fun h => absurd hempty h.2⟩
    · rw [if_neg hempty]
      exact ⟨fun _ => ⟨hdup, hempty⟩, fun _ => rfl⟩

/-- What is behind the remaining length reads back, if the format has such a topic
list. -/
theorem readAll_body_iff {p : OutgoingPacket} {first : UInt8} {body : List UInt8}
    (hr : ¬ p.Refused) (hheader : p.header = .ok first) (hbody : p.body = some body) :
    (readPacketBody first).readAll body = some p.content ↔ p.HasTopics := by
  cases p with
  | connect params =>
    obtain rfl := Except.ok.inj (show Except.ok 0x10 = .ok first from hheader)
    have hmqtt : params.mqttVersion = .mqtt311 := not_not.mp fun h => hr (.inr (.inr h))
    have hread := (reads_connectBody hmqtt hbody).bind (d := []) (f := fun fields =>
      pure (ControlPacket.connect fields)) (Reads.pure _)
    rw [List.append_nil] at hread
    exact ⟨fun _ => trivial, fun _ => hread.readAll⟩
  | publish dup qos retained packetId topicName topicNameLen payload payloadLen =>
    exact ⟨fun _ => trivial, fun _ => readAll_publish hheader hbody⟩
  | subscribe dup packetId topics =>
    obtain ⟨fields, hfields, hbody⟩ := Option.bind_eq_some_iff.mp hbody
    obtain rfl := Option.some.inj hbody
    apply readAll_topics_iff (by decide) rfl rfl (fun _ _ h => reads_topicRequest h) _ hfields
      hheader
    intro t bytes h
    obtain ⟨topic, htopic, h⟩ := Option.bind_eq_some_iff.mp h
    obtain rfl := Option.some.inj h
    simp
  | unsubscribe dup packetId topics =>
    obtain ⟨fields, hfields, hbody⟩ := Option.bind_eq_some_iff.mp hbody
    obtain rfl := Option.some.inj hbody
    exact readAll_topics_iff (by decide) rfl rfl (fun _ _ h => reads_writeUtf8String h)
      (fun _ _ h => ne_nil_of_writeUtf8String h) hfields hheader

/-- What the serializers of outgoing packets write reads back as what they were given,
exactly when the format can say it. -/
theorem decodePacket_serialized_iff {txBufLen : Nat} {p : OutgoingPacket} {bytes : List UInt8}
    (h : p.serialized txBufLen = .packet bytes) :
    decodePacket bytes = some p.content ↔ p.Expressible := by
  have hr := not_refused_of_packet h
  obtain ⟨first, body, hheader, hbody, rfl⟩ := packet_parts h
  rw [decodePacket_packetOf first (length_body hr hbody)]
  unfold Expressible
  split
  case isTrue hlt => rw [readAll_body_iff hr hheader hbody, and_iff_right hlt]
  case isFalse hge => exact ⟨fun h => absurd h (by simp), fun h => absurd h.1 hge⟩

/-- A SUBSCRIBE packet for two filters. -/
def twoFilters : OutgoingPacket :=
  subscribe 0 7 [⟨some ⟨[0x61]⟩, 1, .qos0⟩, ⟨some ⟨[0x62, 0x63]⟩, 2, .qos1⟩]

theorem decodePacket_twoFilters :
    decodePacket [0x82, 11, 0, 7, 0, 1, 0x61, 0, 0, 2, 0x62, 0x63, 1] =
      some (.subscribe 7 [([0x61], 0), ([0x62, 0x63], 1)]) := by
  have hser : twoFilters.serialized 512 =
      .packet [0x82, 11, 0, 7, 0, 1, 0x61, 0, 0, 2, 0x62, 0x63, 1] := by decide
  exact (decodePacket_serialized_iff hser).mpr ⟨by decide, by decide, by decide⟩

end OutgoingPacket

end AwsIot.Mqtt
