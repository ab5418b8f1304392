/-
  Mqtt/PublishPacket.lean --- which PUBLISH packets the client understands.

  `aws_iot_mqtt_internal_deserialize_publish` on a complete packet in memory.  It looks
  at the end of the packet before it reads the topic name, and not again before it reads
  the packet id, so a QoS 1 packet that ends in front of its id is accepted with a payload
  of almost 2^64 bytes (`understandsPublish_iff`).  What the client's own serializers write
  is read back as it was; a few PUBLISH packets that fit their buffer exactly are not written
  at all (`publish_ack_roundTrip_iff`).
-/
import AwsIot.Mqtt.ExactFit

set_option autoImplicit false

namespace AwsIot.Mqtt

open AwsIot.Foundation

/-! ## Fields -/

theorem initHeader_fields {t : MessageType} (ht : t ≠ .unknown) (qos : QoS) {dup retained : UInt8}
    (hdup : dup = 0 ∨ dup = 1) (hretained : retained = 0 ∨ retained = 1) :
    ∃ header, initHeader t qos dup retained = .ok header ∧ headerType header = t.code ∧
      headerDup header = dup ∧ headerQos header = qos.toByte ∧ headerRetain header = retained := by
  unfold initHeader
  rw [if_neg ht]
  refine ⟨_, rfl, ?_⟩
  rcases hdup with rfl | rfl
  all_goals
    rcases hretained with rfl | rfl
    all_goals
      cases t
      case unknown => exact absurd rfl ht
      all_goals cases qos <;> decide

theorem toNat_readUint16 (buf : Memory) (pos : Nat) :
    (readUint16 buf pos).toNat = (buf pos).toNat * 256 + (buf (pos + 1)).toNat := by
  have hhigh := (buf pos).toNat_lt
  have hlow := (buf (pos + 1)).toNat_lt
  unfold readUint16
  rw [UInt16.toNat_ofNat']
  omega

/-- The two bytes of an integer are written as they are read. -/
theorem writeUint16_readUint16 (buf : Memory) (pos : Nat) :
    writeUint16 (readUint16 buf pos) = buf.slice pos 2 := by
  have hhigh := (buf pos).toNat_lt
  have hlow := (buf (pos + 1)).toNat_lt
  have hdiv : ((buf pos).toNat * 256 + (buf (pos + 1)).toNat) / 256 = (buf pos).toNat := by omega
  have hmod : ((buf pos).toNat * 256 + (buf (pos + 1)).toNat) % 256 = (buf (pos + 1)).toNat := by
    omega
  unfold writeUint16
  rw [toNat_readUint16, hdiv, hmod, UInt8.ofNat_toNat, UInt8.ofNat_toNat]
  rfl

theorem writeUint16_injective {a b : UInt16} (h : writeUint16 a = writeUint16 b) : a = b := by
  obtain ⟨hhigh, htail⟩ := List.cons.inj h
  have hlow := (List.cons.inj htail).1
  have ha := a.toNat_lt
  have hb := b.toNat_lt
  have hhigh' := congrArg UInt8.toNat hhigh
  have hlow' := congrArg UInt8.toNat hlow
  rw [UInt8.toNat_ofNat', UInt8.toNat_ofNat'] at hhigh' hlow'
  exact UInt16.toNat_inj.mp (by omega)

/-! ## Frames in memory -/

/-- The frame stands at the start of the memory. -/
def WireFrame.HeldIn (f : WireFrame) (rxBuf : Memory) : Prop :=
  rxBuf.slice 0 f.bytes.length = f.bytes

instance (f : WireFrame) (rxBuf : Memory) : Decidable (f.HeldIn rxBuf) :=
  inferInstanceAs (Decidable (rxBuf.slice 0 f.bytes.length = f.bytes))

/-- Where the body of a frame starts. -/
def WireFrame.bodyStart (f : WireFrame) : Nat := 1 + f.lengthField.length

section Held

variable {f : WireFrame} {rxBuf : Memory} (h : f.HeldIn rxBuf)
include h

theorem WireFrame.HeldIn.parts : rxBuf 0 = f.header ∧
    rxBuf.slice 1 f.lengthField.length = f.lengthField ∧
    rxBuf.slice f.bodyStart f.body.length = f.body := by
  have hslice : rxBuf.slice 0 f.bytes.length = f.bytes := h
  rw [WireFrame.bytes, List.length_cons, Memory.slice_succ] at hslice
  obtain ⟨hheader, hrest⟩ := List.cons.inj hslice
  rw [List.length_append, Memory.slice_add] at hrest
  obtain ⟨hfield, hbody⟩ := List.append_inj hrest Memory.length_slice
  exact ⟨hheader, hfield, hbody⟩

end Held

/-- A field in memory that the format's reader accepts, the client's decoder reads too. -/
theorem decodeLenDigits_field {buf : Memory} : ∀ {left n pos multiplier decodedLen len : Nat}
    {field : List UInt8}, (Reader.base128 left).run field = some (n, []) →
    buf.slice pos field.length = field →
    decodeLenDigits buf left pos multiplier decodedLen len =
      some (decodedLen + n * multiplier, len + field.length) := by
  intro left
  induction left with
  | zero => intro n pos multiplier decodedLen len field h; cases h
  | succ left ih =>
    intro n pos multiplier decodedLen len field hrun hslice
    obtain ⟨left', b, rest, hleft, rfl, hdigit⟩ := base128_run hrun
    obtain rfl := Nat.succ.inj hleft
    rw [List.length_cons, Memory.slice_succ] at hslice
    obtain ⟨hbyte, hrest⟩ := List.cons.inj hslice
    rw [decodeLenDigits, hbyte, byte_and_127]
    rcases hdigit with ⟨hlast, rfl, rfl⟩ | ⟨hmore, high, hhigh, rfl⟩
    · rw [if_neg (fun h => absurd ((byte_and_128 b).mp h) (Nat.not_le.mpr hlast)),
        Nat.mod_eq_of_lt hlast]
      rfl
    · have hlow : b.toNat % 128 = b.toNat - 128 := by
        have := b.toNat_lt
        omega
      have hsum : (b.toNat - 128 + 128 * high) * multiplier =
          (b.toNat - 128) * multiplier + high * (multiplier * 128) := by
        rw [Nat.add_mul, Nat.mul_comm multiplier 128, ← Nat.mul_assoc, Nat.mul_comm high 128]
      rw [if_pos ((byte_and_128 b).mpr hmore), ih hhigh hrest, hlow, hsum, Nat.add_assoc,
        List.length_cons, Nat.add_assoc, Nat.add_comm 1]

theorem decodeRemainingLength_frame {f : WireFrame} {rxBuf : Memory} (h : f.HeldIn rxBuf) :
    decodeRemainingLengthFromBuffer rxBuf 1 = .ok (f.body.length, f.lengthField.length) := by
  have hdigits : decodeLenDigits rxBuf 4 1 1 0 0 = some (f.body.length, f.lengthField.length) := by
    rw [decodeLenDigits_field f.valid h.parts.2.1, Nat.zero_add, Nat.zero_add, Nat.mul_one]
  unfold decodeRemainingLengthFromBuffer maxNoOfRemainingLengthBytes
  rw [hdigits]

/-! ## The PUBLISH grammar -/

/-- The length in the first two bytes of the body. -/
def WireFrame.topicLen (f : WireFrame) : Nat :=
  (f.body.getD 0 0).toNat * 256 + (f.body.getD 1 0).toNat

/-- The length of the packet id: QoS 0 has none. -/
def WireFrame.idLen (f : WireFrame) : Nat := if headerQos f.header = 0 then 0 else 2

/-- The frame is a PUBLISH, and its body has room for what the format puts into it. -/
def WireFrame.IsPublish (f : WireFrame) : Prop :=
  headerType f.header = MessageType.publish.code ∧ 2 + f.topicLen + f.idLen ≤ f.body.length

/-- A complete packet: its remaining-length field is the shortest, and it has at least four
bytes. -/
structure WireFrame.IsComplete (f : WireFrame) : Prop where
  /-- No shorter field says the same. -/
  shortest : ∀ field, (Reader.base128 4).run field = some (f.body.length, []) →
    f.lengthField.length ≤ field.length
  /-- The whole packet. -/
  size : 4 ≤ f.bytes.length

/-- The two length bytes, the topic name, the packet id and the payload that `msg` points
to make up the body of the frame. -/
structure Partitions (f : WireFrame) (rxBuf : Memory) (msg : IncomingPublish) : Prop where
  /-- Byte for byte. -/
  body : f.body = writeUint16 msg.topicNameLen ++
    rxBuf.slice msg.topicName msg.topicNameLen.toNat ++
    (match msg.id with | none => [] | some id => writeUint16 id) ++
    rxBuf.slice msg.payload msg.payloadLen
  /-- There is a packet id unless the QoS is 0. -/
  id : msg.id.isSome = true ↔ headerQos f.header ≠ 0
  /-- The length of the topic name. -/
  topicNameLen : msg.topicNameLen.toNat = f.topicLen
  /-- The length of the payload. -/
  payloadLen : msg.payloadLen = f.body.length - 2 - f.topicLen - f.idLen

/-- The parser accepts the frame if and only if it is a PUBLISH, and then takes it apart
exactly. -/
structure UnderstandsPublish (f : WireFrame) (rxBuf : Memory) (rxBufLen : Nat) : Prop where
  /-- What it accepts. -/
  accepts : (∃ msg, deserializePublish rxBuf rxBufLen = .ok msg) ↔ f.IsPublish
  /-- What it makes of it. -/
  partitions : ∀ msg, deserializePublish rxBuf rxBufLen = .ok msg → Partitions f rxBuf msg

/-- A PUBLISH with a packet id that ends behind its topic name and in front of the end of
its id. -/
def WireFrame.EndsBeforeId (f : WireFrame) : Prop :=
  headerType f.header = MessageType.publish.code ∧ headerQos f.header ≠ 0 ∧
    2 + f.topicLen ≤ f.body.length ∧ f.body.length < 4 + f.topicLen

section Grammar

variable {f : WireFrame} {rxBuf : Memory} {rxBufLen : Nat}

theorem WireFrame.HeldIn.body_getD (h : f.HeldIn rxBuf) {i : Nat} (hi : i < f.body.length) :
    rxBuf (f.bodyStart + i) = f.body.getD i 0 := by
  have hbody := h.parts.2.2
  have hi' : i < (rxBuf.slice f.bodyStart f.body.length).length := by
    rw [Memory.length_slice]
    exact hi
  calc rxBuf (f.bodyStart + i)
      = (rxBuf.slice f.bodyStart f.body.length)[i] := (Memory.getElem_slice hi').symm
    _ = (rxBuf.slice f.bodyStart f.body.length).getD i 0 := by
        rw [List.getD_eq_getElem?_getD, List.getElem?_eq_getElem hi', Option.getD_some]
    _ = f.body.getD i 0 := by rw [hbody]

theorem WireFrame.HeldIn.toNat_topicLen (h : f.HeldIn rxBuf) (hbody : 2 ≤ f.body.length) :
    (readUint16 rxBuf f.bodyStart).toNat = f.topicLen := by
  have hhigh := h.body_getD (i := 0) (by omega)
  have hlow := h.body_getD (i := 1) (by omega)
  rw [Nat.add_zero] at hhigh
  rw [toNat_readUint16, hhigh, hlow]
  rfl

/-- A complete packet has room for the two length bytes. -/
theorem WireFrame.IsComplete.two_le_body (h : f.IsComplete) : 2 ≤ f.body.length := by
  by_contra hshort
  have hone : (Reader.base128 4).run [UInt8.ofNat f.body.length] = some (f.body.length, []) :=
    reads_lastDigit 3 (by omega) []
  have hfield := h.shortest _ hone
  have hsize := h.size
  rw [WireFrame.bytes, List.length_cons, List.length_append] at hsize
  rw [List.length_singleton] at hfield
  omega

/-- What the parser makes of a frame that it accepts. -/
def WireFrame.incomingPublish (f : WireFrame) (rxBuf : Memory) : IncomingPublish :=
  { isDup := headerDup f.header
    qos := headerQos f.header
    isRetained := headerRetain f.header
    id := if headerQos f.header ≠ 0 then
        some (readUint16 rxBuf (f.bodyStart + 2 + f.topicLen)) else none
    topicName := f.bodyStart + 2
    topicNameLen := readUint16 rxBuf f.bodyStart
    payload := f.bodyStart + 2 + f.topicLen + f.idLen
    payloadLen := (f.bodyStart + f.body.length + 2 ^ 64 -
      (f.bodyStart + 2 + f.topicLen + f.idLen)) % 2 ^ 64 }

theorem readStringWithLen_frame (h : f.HeldIn rxBuf) (hbody : 2 ≤ f.body.length) :
    readStringWithLen rxBuf f.bodyStart (f.bodyStart + f.body.length) =
      if 2 + f.topicLen ≤ f.body.length then
        some (readUint16 rxBuf f.bodyStart, f.bodyStart + 2 + f.topicLen)
      else none := by
  unfold readStringWithLen
  rw [if_pos (by omega)]
  simp only [h.toNat_topicLen hbody]
  by_cases hfits : 2 + f.topicLen ≤ f.body.length
  · rw [if_pos hfits, if_pos (by omega)]
  · rw [if_neg hfits, if_neg (by omega)]

theorem deserializePublish_frame (h : f.HeldIn rxBuf) (hroom : 4 ≤ rxBufLen)
    (hbody : 2 ≤ f.body.length) :
    deserializePublish rxBuf rxBufLen =
      if headerType f.header = MessageType.publish.code ∧ 2 + f.topicLen ≤ f.body.length then
        .ok (f.incomingPublish rxBuf)
      else .error .failure := by
  unfold deserializePublish
  rw [if_neg (by omega), h.parts.1, decodeRemainingLength_frame h]
  by_cases htype : headerType f.header = MessageType.publish.code
  · rw [if_neg (not_not.mpr htype)]
    have hstring := readStringWithLen_frame h hbody
    unfold WireFrame.bodyStart at hstring
    dsimp only
    rw [hstring]
    by_cases hfits : 2 + f.topicLen ≤ f.body.length
    · rw [if_pos hfits, if_pos ⟨htype, hfits⟩]
      unfold WireFrame.incomingPublish WireFrame.idLen WireFrame.bodyStart
      by_cases hqos : headerQos f.header = 0 <;> simp [hqos]
    · rw [if_neg hfits, if_neg (fun h => hfits h.2)]
  · rw [if_pos htype, if_neg (fun h => htype h.1)]

theorem WireFrame.incomingPublish_partitions (h : f.HeldIn rxBuf)
    (hfits : 2 + f.topicLen + f.idLen ≤ f.body.length) :
    Partitions f rxBuf (f.incomingPublish rxBuf) := by
  have hbody : 2 ≤ f.body.length := by omega
  have htopicLen := h.toNat_topicLen hbody
  have hbound : f.body.length < 128 ^ 4 := base128_lt f.valid
  have hpayloadLen : (f.incomingPublish rxBuf).payloadLen =
      f.body.length - 2 - f.topicLen - f.idLen := by
    show (f.bodyStart + f.body.length + 2 ^ 64 - (f.bodyStart + 2 + f.topicLen + f.idLen)) %
      2 ^ 64 = _
    omega
  have hid : (match (f.incomingPublish rxBuf).id with | none => [] | some id => writeUint16 id) =
      rxBuf.slice (f.bodyStart + 2 + f.topicLen) f.idLen := by
    unfold WireFrame.incomingPublish WireFrame.idLen
    by_cases hqos : headerQos f.header = 0
    · simp [hqos]
    · simp [hqos, writeUint16_readUint16]
  have hsplit : f.body.length =
      2 + f.topicLen + f.idLen + (f.body.length - 2 - f.topicLen - f.idLen) := by omega
  refine ⟨?_, ?_, htopicLen, hpayloadLen⟩
  · have hslice := h.parts.2.2
    rw [hsplit, Memory.slice_add, Memory.slice_add, Memory.slice_add] at hslice
    rw [hid, hpayloadLen]
    show f.body = writeUint16 (readUint16 rxBuf f.bodyStart) ++
      rxBuf.slice (f.bodyStart + 2) (readUint16 rxBuf f.bodyStart).toNat ++
      rxBuf.slice (f.bodyStart + 2 + f.topicLen) f.idLen ++
      rxBuf.slice (f.bodyStart + 2 + f.topicLen + f.idLen) _
    rw [writeUint16_readUint16, htopicLen]
    simp only [Nat.add_assoc] at hslice ⊢
    exact hslice.symm
  · unfold WireFrame.incomingPublish
    by_cases hqos : headerQos f.header = 0 <;> simp [hqos]

/-- For every complete packet in memory, whatever follows it: `deserialize_publish`
accepts exactly the PUBLISH grammar and takes the body apart exactly if and only if the
packet is not a PUBLISH with a non-zero QoS whose body ends behind its topic name and in
front of the end of its packet id. -/
theorem understandsPublish_iff (f : WireFrame) (rxBuf : Memory) (rxBufLen : Nat)
    (hcomplete : f.IsComplete) (hheld : f.HeldIn rxBuf) (hroom : f.bytes.length ≤ rxBufLen) :
    UnderstandsPublish f rxBuf rxBufLen ↔ ¬ f.EndsBeforeId := by
  have hbody := hcomplete.two_le_body
  have hparse := deserializePublish_frame hheld (Nat.le_trans hcomplete.size hroom) hbody
  constructor
  · rintro h ⟨htype, hqos, hfits, hends⟩
    rw [if_pos ⟨htype, hfits⟩] at hparse
    have hroomForId := (h.accepts.mp ⟨_, hparse⟩).2
    rw [WireFrame.idLen, if_neg hqos] at hroomForId
    omega
  · intro hends
    have hall : headerType f.header = MessageType.publish.code →
        2 + f.topicLen ≤ f.body.length → 2 + f.topicLen + f.idLen ≤ f.body.length := by
      intro htype hfits
      unfold WireFrame.idLen
      by_cases hqos : headerQos f.header = 0
      · rwa [if_pos hqos]
      · rw [if_neg hqos]
        by_contra hshort
        exact hends ⟨htype, hqos, hfits, by omega⟩
    by_cases hfits : headerType f.header = MessageType.publish.code ∧ 2 + f.topicLen ≤ f.body.length
    · rw [if_pos hfits] at hparse
      refine ⟨⟨fun _ => ⟨hfits.1, hall hfits.1 hfits.2⟩, fun _ => ⟨_, hparse⟩⟩, ?_⟩
      intro msg hmsg
      obtain rfl := Except.ok.inj (hparse.symm.trans hmsg)
      exact WireFrame.incomingPublish_partitions hheld (hall hfits.1 hfits.2)
    · rw [if_neg hfits] at hparse
      refine ⟨⟨?_, ?_⟩, ?_⟩
      · rintro ⟨msg, hmsg⟩
        cases hparse.symm.trans hmsg
      · rintro ⟨htype, hlen⟩
        exact absurd ⟨htype, by omega⟩ hfits
      · intro msg hmsg
        cases hparse.symm.trans hmsg

end Grammar

/-- A QoS 0 PUBLISH to the topic `a` with the payload `0x2A`. -/
def publishFrame : WireFrame := ⟨0x30, [4], [0, 1, 0x61, 0x2A], rfl⟩

/-- A PUBLISH to the topic `a` with QoS 1 that ends where its packet id is to stand. -/
def publishFrameWithoutId : WireFrame := ⟨0x32, [3], [0, 1, 0x61], rfl⟩

/-- A field of one byte cannot be shorter. -/
theorem WireFrame.isComplete_of_oneByte {f : WireFrame} (hfield : f.lengthField.length = 1)
    (hsize : 4 ≤ f.bytes.length) : f.IsComplete := by
  refine ⟨?_, hsize⟩
  intro field hrun
  obtain ⟨-, b, rest, -, rfl, -⟩ := base128_run hrun
  rw [hfield, List.length_cons]
  omega

theorem understandsPublish_publishFrame :
    UnderstandsPublish publishFrame (Memory.writeAt (fun _ => 0) 0 publishFrame.bytes) 6 :=
  (understandsPublish_iff publishFrame _ 6 (WireFrame.isComplete_of_oneByte rfl (by decide))
    (by decide) (by decide)).mpr (fun h => absurd h.2.1 (by decide))

/-- The parser accepts it, and its payload is said to have 2^64 - 2 bytes. -/
theorem not_understandsPublish_withoutId :
    publishFrameWithoutId.IsComplete ∧
    publishFrameWithoutId.HeldIn (Memory.writeAt (fun _ => 0) 0 publishFrameWithoutId.bytes) ∧
    publishFrameWithoutId.bytes.length ≤ 5 ∧
    ¬ UnderstandsPublish publishFrameWithoutId
      (Memory.writeAt (fun _ => 0) 0 publishFrameWithoutId.bytes) 5 := by
  refine ⟨WireFrame.isComplete_of_oneByte rfl (by decide), by decide, by decide, ?_⟩
  intro h
  have haccepts : ∃ msg, deserializePublish
      (Memory.writeAt (fun _ => 0) 0 publishFrameWithoutId.bytes) 5 = .ok msg := ⟨_, rfl⟩
  exact absurd (h.accepts.mp haccepts).2 (by decide)

/-! ## What the client writes -/

/-- `msg` is the PUBLISH that was sent; a packet id was sent with QoS 1. -/
structure SamePublish (rxBuf : Memory) (msg : IncomingPublish) (dup : UInt8) (sentQos : QoS)
    (retained : UInt8) (packetId : UInt16) (topic payload : List UInt8) : Prop where
  /-- The DUP flag. -/
  isDup : msg.isDup = dup
  /-- The quality of service. -/
  qos : msg.qos = sentQos.toByte
  /-- The retain flag. -/
  isRetained : msg.isRetained = retained
  /-- The packet id. -/
  id : msg.id = if sentQos.toByte > 0 then some packetId else none
  /-- The topic's bytes. -/
  topic : rxBuf.slice msg.topicName msg.topicNameLen.toNat = topic
  /-- The payload's bytes. -/
  payload : rxBuf.slice msg.payload msg.payloadLen = payload

section Written

variable {f : WireFrame} {rxBuf : Memory} {rxBufLen : Nat}

theorem WireFrame.topicLen_eq {len : UInt16} {rest : List UInt8}
    (h : f.body = writeUint16 len ++ rest) : f.topicLen = len.toNat := by
  have hlen := len.toNat_lt
  unfold WireFrame.topicLen
  rw [h]
  show (UInt8.ofNat (len.toNat / 256)).toNat * 256 + (UInt8.ofNat (len.toNat % 256)).toNat =
    len.toNat
  rw [UInt8.toNat_ofNat', UInt8.toNat_ofNat']
  omega

theorem WireFrame.two_add_body_le (f : WireFrame) : 2 + f.body.length ≤ f.bytes.length := by
  obtain ⟨-, b, rest, -, hcons, -⟩ := base128_run f.valid
  rw [WireFrame.bytes, hcons, List.length_cons, List.length_append, List.length_cons]
  omega

/-- A PUBLISH is taken apart into the fields that it was put together from. -/
theorem deserializePublish_fields {qos : QoS} {packetId topicNameLen : UInt16}
    {topic payload : List UInt8} (htype : headerType f.header = MessageType.publish.code)
    (hqos : headerQos f.header = qos.toByte) (htopic : topic.length = topicNameLen.toNat)
    (hbody : f.body = writeUint16 topicNameLen ++ (topic ++
      ((if qos.toByte > 0 then writeUint16 packetId else []) ++ payload)))
    (hheld : f.HeldIn rxBuf) (hroom : f.bytes.length ≤ rxBufLen) :
    ∃ msg, deserializePublish rxBuf rxBufLen = .ok msg ∧
      SamePublish rxBuf msg (headerDup f.header) qos (headerRetain f.header) packetId topic
        payload := by
  have htopicLen : f.topicLen = topicNameLen.toNat := WireFrame.topicLen_eq hbody
  have hidLen : (if qos.toByte > 0 then writeUint16 packetId else []).length = f.idLen := by
    unfold WireFrame.idLen
    rw [hqos]
    cases qos <;> rfl
  have hlen : f.body.length = 2 + f.topicLen + f.idLen + payload.length := by
    rw [hbody, List.length_append, List.length_append, List.length_append, hidLen, htopic,
      htopicLen]
    show 2 + _ = _
    omega
  have hbytes := f.two_add_body_le
  have hfour : 4 ≤ rxBufLen := by omega
  have hparse := deserializePublish_frame hheld hfour (by omega)
  rw [if_pos ⟨htype, by omega⟩] at hparse
  have hparts := WireFrame.incomingPublish_partitions hheld (by omega)
  -- both sides of `hbody` are cut at the same places
  have hcut := hbody.symm.trans hparts.body
  rw [List.append_assoc, List.append_assoc] at hcut
  obtain ⟨hlenBytes, hcut⟩ := List.append_inj hcut rfl
  have hmsgLen := writeUint16_injective hlenBytes
  obtain ⟨hmsgTopic, hcut⟩ := List.append_inj hcut (by
    rw [Memory.length_slice, htopic, hmsgLen])
  obtain ⟨hmsgId, hmsgPayload⟩ := List.append_inj' hcut (by
    rw [Memory.length_slice, hparts.payloadLen]
    omega)
  refine ⟨_, hparse, rfl, hqos, rfl, ?_, hmsgTopic.symm, hmsgPayload.symm⟩
  unfold WireFrame.incomingPublish at hmsgId ⊢
  cases qos with
  | qos0 => exact if_neg (not_not.mpr hqos)
  | qos1 =>
    have hne : headerQos f.header ≠ 0 := by rw [hqos]; decide
    dsimp only at hmsgId ⊢
    rw [if_pos hne] at hmsgId ⊢
    exact congrArg some (writeUint16_injective hmsgId).symm

/-- An ack is taken apart into the fields that it was put together from. -/
theorem deserializeAck_fields {packetId : UInt16} (hbody : f.body = writeUint16 packetId)
    (hheld : f.HeldIn rxBuf) (hroom : f.bytes.length ≤ rxBufLen) :
    deserializeAck rxBuf rxBufLen =
      .ok ⟨headerType f.header, headerDup f.header, packetId⟩ := by
  have hlen : f.body.length = 2 := by rw [hbody]; rfl
  have hbytes := f.two_add_body_le
  have hid : readUint16 rxBuf f.bodyStart = packetId := by
    apply writeUint16_injective
    rw [writeUint16_readUint16, ← hbody, ← hlen]
    exact hheld.parts.2.2
  unfold WireFrame.bodyStart at hid
  unfold deserializeAck
  rw [if_neg (by omega), decodeRemainingLength_frame hheld]
  dsimp only
  rw [if_neg (by omega), hheld.parts.1, hid]

end Written

/-- The frame that a serializer of the client writes for a header and a body. -/
def writtenFrame (header : UInt8) (body : List UInt8) (h : body.length < 128 ^ 4) : WireFrame where
  header := header
  lengthField := writeLenToBuffer body.length
  body := body
  valid := by
    have hreads := reads_writeLenToBuffer h []
    rwa [List.append_nil] at hreads

theorem bytes_writtenFrame {header : UInt8} {body : List UInt8} (h : body.length < 128 ^ 4) :
    (writtenFrame header body h).bytes = header :: (writeLenToBuffer body.length ++ body) := rfl

theorem writeUtf8String_some (p : CharPtr) (len : UInt16) :
    writeUtf8String (some p) len = some (writeUint16 len ++ p.take len.toNat) := by
  unfold writeUtf8String
  by_cases hpos : len > 0
  · rw [if_pos hpos]
  · have hzero : len.toNat = 0 := Nat.eq_zero_of_not_pos hpos
    have htake : p.take len.toNat = [] := by
      apply List.eq_nil_of_length_eq_zero
      rw [CharPtr.length_take, hzero]
    rw [if_neg hpos, htake, List.append_nil]

/-- The remaining length of a PUBLISH. -/
def publishRemainingLength (qos : QoS) (topicNameLen : UInt16) (payloadLen : Nat) : Nat :=
  topicNameLen.toNat + payloadLen + 2 + if qos.toByte > 0 then 2 else 0

theorem publishRemainingLength_lt {qos : QoS} {topicNameLen : UInt16} {payloadLen : Nat}
    (hsize : topicNameLen.toNat + payloadLen + 4 ≤ 268435455) :
    publishRemainingLength qos topicNameLen payloadLen < 128 ^ 4 := by
  unfold publishRemainingLength
  split <;> omega

/-- The serializer writes the frame of the message if its estimate is no longer than the
buffer, and reports the buffer as too short if it is longer. -/
theorem serializePublish_eq (txBufLen : Nat) {payloadLen : Nat} {dup retained header : UInt8}
    {qos : QoS} (packetId : UInt16) {topicNameLen : UInt16} (topicName payload : CharPtr)
    (hsize : topicNameLen.toNat + payloadLen + 4 ≤ 268435455)
    (hheader : initHeader .publish qos dup retained = .ok header) :
    ∃ h, serializePublish txBufLen dup qos retained packetId (some topicName) topicNameLen
      (some payload) payloadLen =
      if getFinalPacketLengthFromRemainingLength
          (publishRemainingLength qos topicNameLen payloadLen) > txBufLen then
        .error .mqttTxBufferTooShortError
      else .packet (writtenFrame header (writeUint16 topicNameLen ++
        (topicName.take topicNameLen.toNat ++ ((if qos.toByte > 0 then writeUint16 packetId else [])
          ++ payload.take payloadLen))) h).bytes := by
  have hlen : (writeUint16 topicNameLen ++ (topicName.take topicNameLen.toNat ++
      ((if qos.toByte > 0 then writeUint16 packetId else []) ++ payload.take payloadLen))).length =
      publishRemainingLength qos topicNameLen payloadLen := by
    rw [List.length_append, List.length_append, List.length_append, CharPtr.length_take,
      CharPtr.length_take]
    show 2 + _ = _
    cases qos
    · show 2 + (_ + (0 + _)) = _ + 0
      omega
    · show 2 + (_ + (2 + _)) = _ + 2
      omega
  have hremLen : (if qos.toByte > 0 then
      ((topicNameLen.toNat + payloadLen + 2) % 2 ^ 32 + 2) % 2 ^ 32
      else (topicNameLen.toNat + payloadLen + 2) % 2 ^ 32) =
      publishRemainingLength qos topicNameLen payloadLen := by
    unfold publishRemainingLength
    split <;> omega
  refine ⟨by rw [hlen]; exact publishRemainingLength_lt hsize, ?_⟩
  unfold serializePublish
  dsimp only
  rw [hremLen, hheader, writeUtf8String_some]
  rw [bytes_writtenFrame, hlen]
  split
  · rfl
  · show Serialized.packet _ = Serialized.packet _
    simp only [List.cons_append, List.append_assoc]

theorem length_writeUint16_lt {n : UInt16} : (writeUint16 n).length < 128 ^ 4 := by
  show 2 < 128 ^ 4
  decide

theorem serializeAck_written {txBufLen : Nat} {msgType : MessageType} {dup header : UInt8}
    (packetId : UInt16) (hroom : 4 ≤ txBufLen)
    (hheader : initHeader msgType (if msgType = .pubrel then .qos1 else .qos0) dup 0 = .ok header) :
    serializeAck txBufLen msgType dup packetId =
      .packet (writtenFrame header (writeUint16 packetId) length_writeUint16_lt).bytes := by
  unfold serializeAck
  dsimp only
  rw [if_neg (Nat.not_lt.mpr hroom), hheader]
  rw [bytes_writtenFrame]
  rfl

/-- The PUBLISH comes back: `serialize_publish` writes it, and what it wrote, at the start of a
receive buffer with anything behind it, `deserialize_publish` reads as the same message. -/
def PublishComesBack (txBufLen : Nat) (dup : UInt8) (qos : QoS) (retained : UInt8)
    (packetId : UInt16) (topicName : CharPtr) (topicNameLen : UInt16) (payload : CharPtr)
    (payloadLen : Nat) : Prop :=
  ∃ bytes, serializePublish txBufLen dup qos retained packetId (some topicName) topicNameLen
      (some payload) payloadLen = .packet bytes ∧
    ∀ (rxBuf : Memory) (rxBufLen : Nat), rxBuf.slice 0 bytes.length = bytes →
      bytes.length ≤ rxBufLen →
      ∃ msg, deserializePublish rxBuf rxBufLen = .ok msg ∧
        SamePublish rxBuf msg dup qos retained packetId (topicName.take topicNameLen.toNat)
          (payload.take payloadLen)

/-- The ack comes back: `serialize_ack` writes it, and what it wrote `deserialize_ack` reads as
the same ack, and `deserialize_unsuback` if it is an UNSUBACK. -/
def AckComesBack (txBufLen : Nat) (msgType : MessageType) (dup : UInt8) (packetId : UInt16) :
    Prop :=
  ∃ bytes, serializeAck txBufLen msgType dup packetId = .packet bytes ∧
    ∀ (rxBuf : Memory) (rxBufLen : Nat), rxBuf.slice 0 bytes.length = bytes →
      bytes.length ≤ rxBufLen →
      deserializeAck rxBuf rxBufLen = .ok ⟨msgType.code, dup, packetId⟩ ∧
        (msgType = .unsuback → deserializeUnsuback rxBuf rxBufLen = .ok packetId)

/-- A PUBLISH comes back exactly if the serializer does not take it to be too long. -/
theorem publishComesBack_iff {dup retained : UInt8} (hdup : dup = 0 ∨ dup = 1)
    (hretained : retained = 0 ∨ retained = 1) (packetId : UInt16) (txBufLen : Nat) (qos : QoS)
    (topicName : CharPtr) {topicNameLen : UInt16} (payload : CharPtr) {payloadLen : Nat}
    (hsize : topicNameLen.toNat + payloadLen + 4 ≤ 268435455) :
    PublishComesBack txBufLen dup qos retained packetId topicName topicNameLen payload
      payloadLen ↔
    getFinalPacketLengthFromRemainingLength
      (publishRemainingLength qos topicNameLen payloadLen) ≤ txBufLen := by
  obtain ⟨header, hheader, htype, hheaderDup, hheaderQos, hheaderRetain⟩ :=
    initHeader_fields (t := .publish) (by decide) qos hdup hretained
  obtain ⟨h, hwritten⟩ :=
    serializePublish_eq txBufLen packetId topicName payload hsize hheader
  constructor
  · rintro ⟨bytes, hbytes, -⟩
    by_contra hlong
    rw [hwritten, if_pos (Nat.lt_of_not_le hlong)] at hbytes
    cases hbytes
  · intro hroom
    rw [if_neg (Nat.not_lt.mpr hroom)] at hwritten
    refine ⟨_, hwritten, ?_⟩
    intro rxBuf rxBufLen hheld hlen
    obtain ⟨msg, hmsg, hsame⟩ := deserializePublish_fields (f := writtenFrame header _ h) htype
      hheaderQos (CharPtr.length_take topicName _) rfl hheld hlen
    refine ⟨msg, hmsg, ?_⟩
    rw [← hheaderDup, ← hheaderRetain]
    exact hsame

theorem ackComesBack {dup : UInt8} (hdup : dup = 0 ∨ dup = 1) (packetId : UInt16) {txBufLen : Nat}
    {msgType : MessageType} (htype : msgType ≠ .unknown) (hroom : 4 ≤ txBufLen) :
    AckComesBack txBufLen msgType dup packetId := by
  obtain ⟨header, hheader, hcode, hheaderDup, -, -⟩ :=
    initHeader_fields htype (if msgType = .pubrel then .qos1 else .qos0) hdup (.inl rfl)
  refine ⟨_, serializeAck_written packetId hroom hheader, ?_⟩
  intro rxBuf rxBufLen hheld hlen
  have hack := deserializeAck_fields (f := writtenFrame header (writeUint16 packetId) _) rfl
    hheld hlen
  have hack' : deserializeAck rxBuf rxBufLen = .ok ⟨msgType.code, dup, packetId⟩ := by
    rw [hack, ← hcode, ← hheaderDup]
    rfl
  refine ⟨hack', ?_⟩
  rintro rfl
  unfold deserializeUnsuback
  rw [hack']
  exact if_neg (not_not.mpr rfl)

/-- A message is sent from a buffer that it fits, and read back.  Every ack comes back, and
every PUBLISH but those that fill the buffer with a remaining length of 127, 16383 or 2097151,
for every topic and payload that a packet can hold. -/
theorem publish_ack_roundTrip_iff (dup retained : UInt8) (hdup : dup = 0 ∨ dup = 1)
    (hretained : retained = 0 ∨ retained = 1) (packetId : UInt16) (txBufLen : Nat) :
    (∀ (qos : QoS) (topicName : CharPtr) (topicNameLen : UInt16) (payload : CharPtr)
        (payloadLen : Nat),
      topicNameLen.toNat + payloadLen + 4 ≤ 268435455 →
      packetLength (publishRemainingLength qos topicNameLen payloadLen) ≤ txBufLen →
      (PublishComesBack txBufLen dup qos retained packetId topicName topicNameLen payload
          payloadLen ↔
        ¬ (EndsWidth (publishRemainingLength qos topicNameLen payloadLen) ∧
          txBufLen = packetLength (publishRemainingLength qos topicNameLen payloadLen)))) ∧
    (∀ msgType : MessageType, msgType ≠ .unknown → packetLength 2 ≤ txBufLen →
      AckComesBack txBufLen msgType dup packetId) := by
  constructor
  · intro qos topicName topicNameLen payload payloadLen hsize hfits
    exact (publishComesBack_iff hdup hretained packetId txBufLen qos topicName payload hsize).trans
      (estimate_le_iff (publishRemainingLength_lt hsize) hfits)
  · intro msgType htype hroom
    exact ackComesBack hdup packetId htype hroom

/-- The PUBLISH of `hi` to `a/b` with QoS 1 comes back from a buffer that it fills, and so does
its PUBACK. -/
theorem publish_ack_roundTrip_hi :
    PublishComesBack 11 1 .qos1 0 9 ⟨[0x61, 0x2F, 0x62]⟩ 3 ⟨[0x68, 0x69]⟩ 2 ∧
      AckComesBack 11 .puback 1 9 := by
  have hback := publish_ack_roundTrip_iff 1 0 (.inr rfl) (.inl rfl) 9 11
  refine ⟨(hback.1 .qos1 ⟨[0x61, 0x2F, 0x62]⟩ 3 ⟨[0x68, 0x69]⟩ 2 (by decide)
    (by decide)).mpr (by decide), hback.2 .puback (by decide) (by decide)⟩

/-- A PUBLISH of 129 bytes is turned down as too long for a buffer of 129 bytes. -/
theorem not_publishComesBack_fullBuffer :
    packetLength (publishRemainingLength .qos0 1 124) ≤ 129 ∧
      ¬ PublishComesBack 129 0 .qos0 0 9 ⟨[0x61]⟩ 1 ⟨List.replicate 124 0x2A⟩ 124 := by
  refine ⟨by decide, ?_⟩
  rintro ⟨bytes, hbytes, -⟩
  have hrefused : serializePublish 129 0 .qos0 0 9 (some ⟨[0x61]⟩) 1
      (some ⟨List.replicate 124 0x2A⟩) 124 = .error .mqttTxBufferTooShortError := by
    decide
  cases hrefused.symm.trans hbytes

end AwsIot.Mqtt
