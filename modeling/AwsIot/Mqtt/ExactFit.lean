/-
  Mqtt/ExactFit.lean --- which packets the transmit buffer has room for.

  A packet passes two gates.  Its serializer estimates its length from the remaining
  length, and `send_packet` compares the length with the size of the buffer.  The estimate
  is one too high at the ends of the length field's widths, and `send_packet` turns down a
  packet that fills the buffer: together they refuse exactly the packets that are as long as
  the buffer or longer (`exactFit_iff`).
-/
import AwsIot.Mqtt.LengthCodec

set_option autoImplicit false

namespace AwsIot.Mqtt

open AwsIot.Foundation Program

/-! ## Lengths -/

/-- The number of bytes of a packet with remaining length `remLen`. -/
def packetLength (remLen : Nat) : Nat := 1 + (writeLenToBuffer remLen).length + remLen

/-- A length from `128 ^ digits` on takes more than that many digits. -/
theorem lt_length_writeLenDigits : ∀ (digits fuel n : Nat), 128 ^ digits ≤ n → digits < fuel →
    digits < (writeLenDigits fuel n).length := by
  intro digits
  induction digits with
  | zero =>
    intro fuel n _ hfuel
    obtain ⟨fuel, rfl⟩ := Nat.exists_eq_add_of_lt hfuel
    exact length_writeLenDigits_pos (0 + fuel) n
  | succ digits ih =>
    intro fuel n hn hfuel
    obtain ⟨fuel, rfl⟩ := Nat.exists_eq_add_of_lt (Nat.lt_of_le_of_lt (Nat.zero_le _) hfuel)
    have hhigh : 128 ^ digits ≤ n / 128 := by
      rwa [Nat.le_div_iff_mul_le (by omega), ← Nat.pow_succ]
    have hdiv : n / 128 > 0 := Nat.lt_of_lt_of_le (Nat.pow_pos (by omega)) hhigh
    rw [writeLenDigits, if_pos hdiv, List.length_cons]
    exact Nat.succ_lt_succ (ih (0 + fuel) (n / 128) hhigh (by omega))

/-- The remaining length is the last before its field takes another byte. -/
def EndsWidth (remLen : Nat) : Prop := remLen = 127 ∨ remLen = 16383 ∨ remLen = 2097151

instance (remLen : Nat) : Decidable (EndsWidth remLen) :=
  inferInstanceAs (Decidable (remLen = 127 ∨ remLen = 16383 ∨ remLen = 2097151))

/-- The estimate counts the header as part of the length that the field states: it is one too
high where that byte alone would widen the field. -/
theorem estimate_eq {remLen : Nat} (h : remLen < 128 ^ 4) :
    getFinalPacketLengthFromRemainingLength remLen =
      packetLength remLen + if EndsWidth remLen then 1 else 0 := by
  have hmod : (remLen + 1) % 2 ^ 32 = remLen + 1 := Nat.mod_eq_of_lt (by omega)
  have hmod' : (remLen + 1 + 4) % 2 ^ 32 = remLen + 1 + 4 := Nat.mod_eq_of_lt (by omega)
  have hpos : 1 ≤ (writeLenDigits 5 remLen).length := length_writeLenDigits_pos 4 remLen
  have hone := length_writeLenDigits_of_lt 0 5 remLen
  have htwo := length_writeLenDigits_of_lt 1 5 remLen
  have hthree := length_writeLenDigits_of_lt 2 5 remLen
  have hfour := length_writeLenDigits_of_lt 3 5 remLen h
  have hlt₁ := lt_length_writeLenDigits 1 5 remLen
  have hlt₂ := lt_length_writeLenDigits 2 5 remLen
  have hlt₃ := lt_length_writeLenDigits 3 5 remLen
  unfold packetLength getFinalPacketLengthFromRemainingLength writeLenToBuffer
  rw [hmod]
  dsimp only
  rw [hmod']
  -- the estimate goes by the length with the header byte, the field by the length alone
  by_cases hends : EndsWidth remLen
  · rw [if_pos hends]
    rcases hends with rfl | rfl | rfl <;> rfl
  · rw [if_neg hends]
    unfold EndsWidth at hends
    split
    · omega
    split
    · omega
    split <;> omega

/-- The estimate is the length of the packet, or one more. -/
theorem estimate_bounds {remLen : Nat} (h : remLen < 128 ^ 4) :
    packetLength remLen ≤ getFinalPacketLengthFromRemainingLength remLen ∧
      getFinalPacketLengthFromRemainingLength remLen ≤ packetLength remLen + 1 := by
  rw [estimate_eq h]
  split <;> omega

/-- The estimate turns down a packet that fits only at the end of a width and of the buffer. -/
theorem estimate_le_iff {remLen txBufLen : Nat} (h : remLen < 128 ^ 4)
    (hfits : packetLength remLen ≤ txBufLen) :
    getFinalPacketLengthFromRemainingLength remLen ≤ txBufLen ↔
      ¬ (EndsWidth remLen ∧ txBufLen = packetLength remLen) := by
  rw [estimate_eq h]
  split
  case isTrue hends =>
    rw [and_iff_right hends]
    omega
  case isFalse hwithin => exact iff_of_true hfits fun hboth => hwithin hboth.1

/-! ## The two gates -/

/-- What every request does with its packet: store it, and send it. -/
def transmit (env : Env) (fuel : Nat) (timer : Timer) (s : Serialized) : M IoTError := do
  match ← storePacket s with
  | .error rc => return rc
  | .ok len => sendPacket env fuel len timer

namespace OutgoingPacket

/-- The packet can be sent: its strings can be read, and the format admits its length. -/
structure Sendable (p : OutgoingPacket) : Prop where
  /-- The arguments are in order. -/
  accepted : ¬ p.Refused
  /-- No string is NULL. -/
  readable : p.body.isSome = true
  /-- Four digits are enough for the remaining length. -/
  small : p.remainingLength < 128 ^ 4

/-- The serializer's gate: the packet of its length, or the error. -/
theorem serialized_cases {p : OutgoingPacket} (hp : p.Sendable) (txBufLen : Nat) :
    (txBufLen < getFinalPacketLengthFromRemainingLength p.remainingLength ∧
      p.serialized txBufLen = .error .mqttTxBufferTooShortError) ∨
    (getFinalPacketLengthFromRemainingLength p.remainingLength ≤ txBufLen ∧
      ∃ packet, p.serialized txBufLen = .packet packet ∧
        packet.length % 2 ^ 32 = packetLength p.remainingLength) := by
  obtain ⟨hr, hbody, hsmall⟩ := hp
  obtain ⟨header, width, -, -, hser⟩ := accepts_of_not_refused txBufLen hr
  obtain ⟨bytes, hbytes⟩ := Option.isSome_iff_exists.mp hbody
  have hmod : p.remainingLength % 2 ^ 32 = p.remainingLength := Nat.mod_eq_of_lt (by omega)
  rw [hser, OutgoingPacket.accepted, hmod, hbytes]
  split
  case isTrue hlong => exact .inl ⟨hlong, rfl⟩
  case isFalse hfit =>
    refine .inr ⟨Nat.le_of_not_lt hfit, _, rfl, ?_⟩
    have hlen := length_body hr hbytes
    have htotal : (packetOf header p.remainingLength bytes).length =
        packetLength p.remainingLength := by
      rw [packetOf, List.length_cons, List.length_append, hlen, packetLength]
      omega
    have hdigits := length_writeLenDigits_of_lt 3 5 p.remainingLength hsmall
    rw [htotal]
    apply Nat.mod_eq_of_lt
    unfold packetLength writeLenToBuffer
    omega

end OutgoingPacket

section Gates

variable {env : Env} {fuel length : Nat} {timer : Timer} {w : World}

/-- The gate of `send_packet`: no other error of it says that the buffer is too short. -/
theorem sendPacket_gate (length : Nat) (timer : Timer) (w : World) :
    (sendPacket env fuel length timer : M IoTError).Ends w
      (fun rc _ => rc = .mqttTxBufferTooShortError ↔ w.client.writeBufSize ≤ length)
      (fun _ => ¬ w.client.writeBufSize ≤ length) := by
  unfold sendPacket
  simp only [ends_bind, ends_getClient, ends_ite, ends_pure, ends_emit]
  split
  case isTrue hlong => exact iff_of_true trivial hlong
  case isFalse hfits =>
    refine ends_true.mono ?_ (fun _ _ => hfits)
    intro sent _ _
    split
    · exact iff_of_false (by decide) hfits
    · exact iff_of_false (by decide) hfits

/-- A result says that the buffer is too short exactly if `short` holds; a run that does not
return has passed the gates. -/
def Gates (short : Prop) (m : M IoTError) (w : World) : Prop :=
  m.Ends w (fun rc _ => rc = .mqttTxBufferTooShortError ↔ short) (fun _ => ¬ short)

/-- A packet that is sent and, with SUCCESS, followed by `k`. -/
theorem gates_send {k : M IoTError}
    (hk : ∀ w', k.Ends w' (fun rc _ => rc ≠ .mqttTxBufferTooShortError) (fun _ => True)) :
    Gates (w.client.writeBufSize ≤ length) (do
      let rc ← sendPacket env fuel length timer
      if rc ≠ .success then return rc
      k) w := by
  refine ends_bind.mpr ((sendPacket_gate length timer w).mono ?_ (fun _ h => h))
  intro rc w' hrc
  rw [ends_ite]
  split
  case isTrue => exact hrc
  case isFalse hsuccess =>
    have hfits : ¬ w.client.writeBufSize ≤ length := by
      rw [← hrc, not_not.mp hsuccess]
      decide
    exact (hk w').mono (fun _ _ h => iff_of_false h hfits) (fun _ _ => hfits)

variable {callbacks : Callbacks M}

/-- A wait for an answer never says that the buffer is too short. -/
theorem waitForRead_notShort (hwait : Cycling env callbacks (Keeps LogGrows)) {t : MessageType}
    (ht : t.isReported = true) (w : World) {k : M IoTError}
    (hk : ∀ w', k.Ends w' (fun rc _ => rc ≠ .mqttTxBufferTooShortError) (fun _ => True)) :
    (do let rc ← waitForRead env fuel callbacks t timer
        if rc ≠ .success then return rc
        k : M IoTError).Ends w (fun rc _ => rc ≠ .mqttTxBufferTooShortError) (fun _ => True) := by
  refine ends_bind.mpr ((waitForRead_answered hwait ht timer).mono ?_ (fun _ _ => trivial))
  rintro rc w' ⟨-, hanswer⟩
  rw [ends_ite]
  split
  case isTrue hne =>
    rcases hanswer with rfl | rfl | ⟨rfl, -⟩
    · exact IoTError.noConfusion
    · exact IoTError.noConfusion
    · exact absurd rfl hne
  case isFalse => exact hk w'

/-- A packet that is serialized and handed to `k`. -/
theorem gates_store {p : OutgoingPacket} (hp : p.Sendable) {k : Nat → M IoTError}
    (hk : ∀ packet, Gates (w.client.writeBufSize ≤ packetLength p.remainingLength)
      (k (packetLength p.remainingLength))
      (w.onClient fun c => { c with writeBuf := c.writeBuf.writeAt 0 packet })) :
    Gates (w.client.writeBufSize ≤ packetLength p.remainingLength) (do
      match ← storePacket (p.serialized w.client.writeBufSize) with
      | .error rc => return rc
      | .ok len => k len) w := by
  have hbounds := estimate_bounds hp.small
  unfold Gates
  rw [ends_bind, ends_storePacket]
  rcases OutgoingPacket.serialized_cases hp w.client.writeBufSize with
    ⟨hlong, hser⟩ | ⟨hfits, packet, hser, hlen⟩
  · rw [hser]
    exact iff_of_true rfl (by omega)
  · rw [hser]
    dsimp only
    rw [hlen]
    exact hk packet

theorem transmit_gates {p : OutgoingPacket} (hp : p.Sendable) :
    Gates (w.client.writeBufSize ≤ packetLength p.remainingLength)
      (transmit env fuel timer (p.serialized w.client.writeBufSize)) w :=
  gates_store hp fun _ => sendPacket_gate _ timer _

end Gates

/-! ## The requests -/

/-- The remaining length of the packet that asks for what a call wants. -/
def ApiCall.remainingLength : ApiCall → Option Nat
  | .publish _ topicNameLen (some params) =>
      some (topicNameLen.toNat + params.payloadLen + 2 + if params.qos.toByte > 0 then 2 else 0)
  | .subscribe _ topicNameLen .. => some (topicNameLen.toNat + 5)
  | .unsubscribe _ topicFilterLen => some (topicFilterLen.toNat + 4)
  | .publish _ _ none | .init _ | .connect _ | .resubscribe | .yield _ | .disconnect
  | .attemptReconnect | .autoreconnectSetStatus _ | .setDisconnectHandler _
  | .setConnectParams _ | .resetNetworkDisconnectedCount => none

/-- Nothing but its length keeps the packet of a call from being sent. -/
def ApiCall.Admitted (env : Env) (c : Client) (call : ApiCall) : Prop :=
  (c.clientState = .connectedIdle ∨ c.clientState = .connectedWaitForCbReturn) ∧
  match call with
  | .publish topicName topicNameLen (some params) =>
      topicName.isSome ∧ topicNameLen ≠ 0 ∧ params.payload.isSome
  | .subscribe topicName _ _ handler _ => topicName.isSome ∧ handler.isSome ∧
      firstFreeFrom c.messageHandlers env.config.numSubscribeHandlers 0 <
        env.config.numSubscribeHandlers
  | .unsubscribe topicFilter _ => ∃ filter ∈ topicFilter,
      (List.range env.config.numSubscribeHandlers).any fun i =>
        (c.messageHandlers i).topicName.any (·.strEq filter)
  | _ => False

theorem isSome_writeUtf8String (p : CharPtr) (len : UInt16) :
    (writeUtf8String (some p) len).isSome = true := by
  unfold writeUtf8String
  split <;> rfl

section Requests

variable {env : Env} {fuel : Nat} {callbacks : Callbacks M} {w : World}

theorem notShort_of_mem {rc : IoTError} (h : rc ∈ parseErrors) :
    rc ≠ .mqttTxBufferTooShortError := by
  rintro rfl
  exact absurd h (by decide)

theorem sendable_publish {topicName payload : CharPtr} {topicNameLen : UInt16}
    {qos : QoS} {retained : UInt8} {payloadLen : Nat} {id : UInt16}
    (hsmall : topicNameLen.toNat + payloadLen + 2 + (if qos.toByte > 0 then 2 else 0) < 128 ^ 4) :
    (OutgoingPacket.publish 0 qos retained id (some topicName) topicNameLen (some payload)
      payloadLen).Sendable := by
  refine ⟨nofun, ?_, hsmall⟩
  obtain ⟨topic, htopic⟩ :=
    Option.isSome_iff_exists.mp (isSome_writeUtf8String topicName topicNameLen)
  rw [OutgoingPacket.body, htopic]
  rfl

theorem sendable_subscribe (topicName : CharPtr) (topicNameLen : UInt16) (qos : QoS)
    (id : UInt16) :
    (OutgoingPacket.subscribe 0 id [⟨some topicName, topicNameLen, qos⟩]).Sendable := by
  have hlt := topicNameLen.toNat_lt
  refine ⟨nofun, ?_, ?_⟩
  · obtain ⟨topic, htopic⟩ :=
      Option.isSome_iff_exists.mp (isSome_writeUtf8String topicName topicNameLen)
    simp [OutgoingPacket.body, htopic]
  · simp only [OutgoingPacket.remainingLength, List.map_cons, List.map_nil, List.sum_cons,
      List.sum_nil]
    omega

theorem sendable_unsubscribe (topicFilter : CharPtr) (topicFilterLen : UInt16) (id : UInt16) :
    (OutgoingPacket.unsubscribe 0 id [(some topicFilter, topicFilterLen)]).Sendable := by
  have hlt := topicFilterLen.toNat_lt
  refine ⟨nofun, ?_, ?_⟩
  · obtain ⟨topic, htopic⟩ :=
      Option.isSome_iff_exists.mp (isSome_writeUtf8String topicFilter topicFilterLen)
    simp [OutgoingPacket.body, htopic]
  · simp only [OutgoingPacket.remainingLength, List.map_cons, List.map_nil, List.sum_cons,
      List.sum_nil]
    omega

/-- Taking a packet id does not touch the size of the transmit buffer. -/
theorem publishId_size (params : PublishParams) (w : World) :
    (publishId params : M UInt16).Ends w
      (fun _ w' => w'.client.writeBufSize = w.client.writeBufSize) (fun _ => False) := by
  unfold publishId storeReceivedId
  rw [ends_ite]
  split
  · simp only [ends_bind, ends_getNextPacketId]
    cases params.received with
    | none => rfl
    | some index => rfl
  · rfl

theorem internalPublish_gates (hwait : Cycling env callbacks (Keeps LogGrows))
    {topicName payload : CharPtr} {topicNameLen : UInt16} {params : PublishParams}
    (hpayload : params.payload = some payload)
    (hsmall : topicNameLen.toNat + params.payloadLen + 2 +
      (if params.qos.toByte > 0 then 2 else 0) < 128 ^ 4) :
    Gates (w.client.writeBufSize ≤ packetLength (topicNameLen.toNat + params.payloadLen + 2 +
        if params.qos.toByte > 0 then 2 else 0))
      (internalPublish env fuel callbacks topicName topicNameLen params) w := by
  unfold internalPublish Gates
  simp only [ends_bind, ends_getClient, ends_countdownMs]
  refine (publishId_size params w.tick).mono ?_ (fun _ h => h.elim)
  intro id w₁ hsize
  rw [hpayload, ← World.client_tick w, ← hsize]
  refine ends_bind.mp (gates_store (sendable_publish hsmall) fun _ => ?_)
  refine gates_send fun w₂ => ?_
  rw [ends_ite]
  split
  · refine waitForRead_notShort hwait rfl w₂ fun w₃ => ?_
    simp only [ends_bind, ends_getClient]
    split
    case h_1 herr => exact notShort_of_mem (deserializeAck_mem herr)
    case h_2 => exact IoTError.noConfusion
  · exact IoTError.noConfusion

theorem internalSubscribe_gates (hwait : Cycling env callbacks (Keeps LogGrows))
    (topicName : CharPtr) (topicNameLen : UInt16) (qos : QoS) (handler data : Nat)
    (hfree : firstFreeFrom w.client.messageHandlers env.config.numSubscribeHandlers 0 <
      env.config.numSubscribeHandlers) :
    Gates (w.client.writeBufSize ≤ packetLength (topicNameLen.toNat + 5))
      (internalSubscribe env fuel callbacks topicName topicNameLen qos handler data) w := by
  have hlen : (OutgoingPacket.subscribe 0 (followingPacketId w.tick.client.nextPacketId)
      [⟨some topicName, topicNameLen, qos⟩]).remainingLength = topicNameLen.toNat + 5 := by
    simp [OutgoingPacket.remainingLength]
  unfold internalSubscribe Gates
  simp only [ends_bind, ends_getClient, ends_countdownMs, ends_getNextPacketId]
  generalize hw₁ : (w.tick.onClient fun c => { c with
    nextPacketId := followingPacketId w.tick.client.nextPacketId }) = w₁
  have hsize : w.client.writeBufSize = w₁.client.writeBufSize := by rw [← hw₁]; rfl
  have htable : w₁.client.messageHandlers = w.client.messageHandlers := by rw [← hw₁]; rfl
  rw [← hlen, hsize]
  refine ends_bind.mp (gates_store (sendable_subscribe topicName topicNameLen qos _)
    fun packet => ?_)
  unfold Gates
  rw [ends_bind, ends_getFreeMessageHandlerIndex, World.client_onClient, htable, ends_ite,
    if_neg (Nat.not_le.mpr hfree)]
  refine gates_send fun w₂ => waitForRead_notShort hwait rfl w₂ fun w₃ => ?_
  simp only [ends_bind, ends_getClient, ends_ite, ends_registerHandler, ends_pure]
  have hmem := deserializeSuback_mem 1 w₃.client.readBuf w₃.client.readBufSize
  split
  case isTrue hne => exact notShort_of_mem ((List.mem_cons.mp hmem).resolve_left hne)
  case isFalse => exact IoTError.noConfusion

theorem internalUnsubscribe_gates (hwait : Cycling env callbacks (Keeps LogGrows))
    (topicFilter : CharPtr) (topicFilterLen : UInt16)
    (hexists : (List.range env.config.numSubscribeHandlers).any (fun i =>
      (w.client.messageHandlers i).topicName.any (·.strEq topicFilter)) = true) :
    Gates (w.client.writeBufSize ≤ packetLength (topicFilterLen.toNat + 4))
      (internalUnsubscribe env fuel callbacks topicFilter topicFilterLen) w := by
  have hlen : (OutgoingPacket.unsubscribe 0 (followingPacketId w.tick.client.nextPacketId)
      [(some topicFilter, topicFilterLen)]).remainingLength = topicFilterLen.toNat + 4 := by
    simp [OutgoingPacket.remainingLength]
  unfold internalUnsubscribe Gates
  simp only [ends_bind, ends_getClient, hexists]
  rw [ends_ite, if_neg (by simp)]
  simp only [ends_bind, ends_countdownMs, ends_getNextPacketId]
  generalize hw₁ : (w.tick.onClient fun c => { c with
    nextPacketId := followingPacketId w.tick.client.nextPacketId }) = w₁
  have hsize : w.client.writeBufSize = w₁.client.writeBufSize := by rw [← hw₁]; rfl
  rw [← hlen, hsize]
  refine ends_bind.mp (gates_store (sendable_unsubscribe topicFilter topicFilterLen _)
    fun packet => ?_)
  refine gates_send fun w₂ => waitForRead_notShort hwait rfl w₂ fun w₃ => ?_
  simp only [ends_bind, ends_getClient]
  split
  case h_1 herr => exact notShort_of_mem (deserializeUnsuback_mem herr)
  case h_2 => exact IoTError.noConfusion

/-- A state in which requests are admitted. -/
theorem ClientState.isConnected_of_admitted {s : ClientState}
    (hs : s = .connectedIdle ∨ s = .connectedWaitForCbReturn) :
    s.isConnected = true ∧ ¬ (s ≠ .connectedIdle ∧ s ≠ .connectedWaitForCbReturn) := by
  rcases hs with rfl | rfl <;> decide

section Outer

variable {short : Prop} {internal : M IoTError}
  (hs : w.client.clientState = .connectedIdle ∨ w.client.clientState = .connectedWaitForCbReturn)

theorem performRequest_gates (operation : Operation) (s : ClientState)
    (h : Gates short internal w) : Gates short (performRequest operation s internal) w := by
  unfold performRequest Gates
  simp only [ends_bind, ends_within, ends_pure, ends_setClientState]
  refine Ends.mono h ?_ (fun _ h => h)
  intro rc w' hrc
  split
  · rw [if_neg (by simp)]
    exact hrc
  · split
    case isTrue hsuccess =>
      rw [hsuccess.1] at hrc
      exact iff_of_false (by decide) fun h => absurd (hrc.mpr h) (by decide)
    case isFalse => exact hrc

include hs

theorem request_gates (operation : Operation)
    (h : Gates short internal (w.withState operation.inProgress)) :
    Gates short (request operation internal) w := by
  obtain ⟨hconnected, hidle⟩ := ClientState.isConnected_of_admitted hs
  unfold request Gates
  simp only [ends_bind, ends_getClientState, ends_ite, ends_pure, ends_setClientState]
  rw [if_neg (by simp [hconnected]), if_neg hidle, if_pos trivial, if_neg (by simp)]
  exact performRequest_gates operation _ h

theorem unsubscribeRequest_gates
    (h : Gates short internal (w.withState .connectedUnsubscribeInProgress)) :
    Gates short (unsubscribeRequest internal) w := by
  obtain ⟨hconnected, hidle⟩ := ClientState.isConnected_of_admitted hs
  unfold unsubscribeRequest Gates
  simp only [ends_bind, ends_getClientState, ends_ite, ends_pure, ends_setClientState]
  rw [if_neg (by simp [hconnected]), if_neg hidle, if_pos trivial, if_neg (by simp)]
  exact performRequest_gates .unsubscribe _ h

end Outer

/-- A call passes the gates exactly if its packet is shorter than the buffer. -/
theorem apiCall_gates {call : ApiCall} {remLen : Nat} (hadmitted : call.Admitted env w.client)
    (hlen : call.remainingLength = some remLen) (hsmall : remLen < 128 ^ 4) (depth : Nat) :
    Gates (w.client.writeBufSize ≤ packetLength remLen) (apiCall env fuel (depth + 1) call) w := by
  have hwait := (serving_logGrows env fuel depth).toCycling
  suffices h : Gates (w.client.writeBufSize ≤ packetLength remLen)
      (dispatch env fuel (applicationCallbacks env fuel (apiCall env fuel depth)) call)
      (w.push (.called call)) by
    unfold apiCall Gates
    simp only [ends_bind, ends_emit, ends_within, ends_pure]
    exact Ends.mono h (fun _ _ h => h) (fun _ h => h)
  have hclient : (w.push (.called call)).client = w.client := rfl
  revert hclient
  generalize w.push (.called call) = w₁
  intro hclient
  rw [← hclient] at hadmitted ⊢
  obtain ⟨hs, hadmitted⟩ := hadmitted
  cases call with
  | publish topicName topicNameLen params =>
    cases params with
    | none => cases hlen
    | some params =>
      obtain ⟨htopic, hne, hpayload⟩ := hadmitted
      obtain ⟨topicName, rfl⟩ := Option.isSome_iff_exists.mp htopic
      obtain ⟨payload, hpayload⟩ := Option.isSome_iff_exists.mp hpayload
      obtain rfl := Option.some.inj hlen
      rw [dispatch, publish]
      rw [if_neg hne]
      have h : Gates (w₁.client.writeBufSize ≤ packetLength _)
          (internalPublish env fuel _ topicName topicNameLen params)
          (w₁.withState Operation.publish.inProgress) :=
        internalPublish_gates hwait hpayload hsmall
      exact request_gates hs .publish h
  | subscribe topicName topicNameLen qos handler data =>
    obtain ⟨htopic, hhandler, hfree⟩ := hadmitted
    obtain ⟨topicName, rfl⟩ := Option.isSome_iff_exists.mp htopic
    obtain ⟨handler, rfl⟩ := Option.isSome_iff_exists.mp hhandler
    obtain rfl := Option.some.inj hlen
    have h : Gates (w₁.client.writeBufSize ≤ packetLength _)
        (internalSubscribe env fuel _ topicName topicNameLen qos handler data)
        (w₁.withState Operation.subscribe.inProgress) :=
      internalSubscribe_gates hwait topicName topicNameLen qos handler data hfree
    exact request_gates hs .subscribe h
  | unsubscribe topicFilter topicFilterLen =>
    obtain ⟨filter, hfilter, hexists⟩ := hadmitted
    obtain rfl : topicFilter = some filter := hfilter
    obtain rfl := Option.some.inj hlen
    have h : Gates (w₁.client.writeBufSize ≤ packetLength _)
        (internalUnsubscribe env fuel _ filter topicFilterLen)
        (w₁.withState .connectedUnsubscribeInProgress) :=
      internalUnsubscribe_gates hwait _ topicFilterLen hexists
    exact unsubscribeRequest_gates hs h
  | _ => cases hlen

end Requests

/-! ## Exact fit -/

/-- `m` fails for want of room, whatever fuel that takes, exactly if a packet with remaining
length `remLen` is longer than the transmit buffer. -/
def FitsExactly (m : Nat → M IoTError) (w : World) (remLen : Nat) : Prop :=
  (∃ fuel, ((m fuel).run w).value? = some .mqttTxBufferTooShortError) ↔
    w.client.writeBufSize < packetLength remLen

theorem fitsExactly_of_gates {m : Nat → M IoTError} {w : World} {remLen : Nat}
    (h : ∀ fuel, Gates (w.client.writeBufSize ≤ packetLength remLen) (m (fuel + 1)) w)
    (hzero : Gates (w.client.writeBufSize ≤ packetLength remLen) (m 0) w ∨
      ((m 0).run w).value? = none) :
    FitsExactly m w remLen ↔ w.client.writeBufSize ≠ packetLength remLen := by
  have hshort : (∃ fuel, ((m fuel).run w).value? = some .mqttTxBufferTooShortError) ↔
      w.client.writeBufSize ≤ packetLength remLen := by
    constructor
    · rintro ⟨fuel, hrun⟩
      have hgates : Gates (w.client.writeBufSize ≤ packetLength remLen) (m fuel) w := by
        cases fuel with
        | zero => exact hzero.resolve_right (by rw [hrun]; exact Option.some_ne_none _)
        | succ fuel => exact h fuel
      exact (Ends.of_run hgates (run_eq_done hrun)).mp rfl
    · intro hle
      exact ⟨1, value?_eq_some_iff.mpr ((h 0).mono (fun _ _ hrc => hrc.mpr hle)
        (fun _ hlt => hlt hle))⟩
  rw [FitsExactly, hshort]
  omega

/-- A publish, subscribe or unsubscribe that nothing else keeps from being sent, and any
packet that is serialized and sent, fails for want of room exactly if it is longer than the
transmit buffer, unless it is exactly as long. -/
theorem exactFit_iff (env : Env) (w : World) :
    (∀ call remLen, call.Admitted env w.client → call.remainingLength = some remLen →
      remLen ≤ 268435455 →
        (FitsExactly (fun fuel => apiCall env fuel fuel call) w remLen ↔
          w.client.writeBufSize ≠ packetLength remLen)) ∧
    ∀ (p : OutgoingPacket) timer, p.Sendable →
      (FitsExactly (fun fuel => transmit env fuel timer (p.serialized w.client.writeBufSize)) w
          p.remainingLength ↔
        w.client.writeBufSize ≠ packetLength p.remainingLength) := by
  refine ⟨fun call remLen hadmitted hlen hsmall => ?_, fun p timer hp => ?_⟩
  · exact fitsExactly_of_gates (fun fuel => apiCall_gates hadmitted hlen (by omega) fuel)
      (.inr rfl)
  · exact fitsExactly_of_gates (fun _ => transmit_gates hp) (.inl (transmit_gates hp))

/-- A subscribe to a filter of one character, on a buffer of 512 bytes. -/
theorem exactFit_subscribe :
    FitsExactly (fun fuel => apiCall (sessionEnv []) fuel fuel (subscribeTo 0x61))
      (World.connected (sessionEnv [])) 6 :=
  ((exactFit_iff (sessionEnv []) (World.connected (sessionEnv []))).1 (subscribeTo 0x61) 6
    ⟨.inl (by decide +kernel), rfl, rfl, by decide +kernel⟩ rfl (by decide)).mpr
    (by decide +kernel)

/-- A publish whose packet has 512 bytes. -/
def fullPublish : ApiCall :=
  .publish (some ⟨[0x74]⟩) 1 (some ⟨.qos0, 0, 0, some ⟨List.replicate 506 0x70⟩, 506, none⟩)

/-- A packet that fills the buffer is turned down. -/
theorem not_exactFit_fullPublish :
    fullPublish.remainingLength = some 509 ∧
    (World.connected (sessionEnv [])).client.writeBufSize = packetLength 509 ∧
    ¬ FitsExactly (fun fuel => apiCall (sessionEnv []) fuel fuel fullPublish)
      (World.connected (sessionEnv [])) 509 := by
  refine ⟨rfl, by decide +kernel, fun h => ?_⟩
  have hshort := h.mp ⟨8, by decide +kernel⟩
  exact absurd hshort (by decide +kernel)

end AwsIot.Mqtt
