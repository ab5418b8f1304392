/-
  Mqtt/RequestRules.lean --- how requests end.

  One rule for each internal function that exchanges a packet for an answer, and
  for each outer function: a request that returns SUCCESS has done so in its
  internal function, and the outer functions add nothing to the log.
-/
import AwsIot.Mqtt.Answer

set_option autoImplicit false

namespace AwsIot.Mqtt

open AwsIot.Foundation Program

/-! ## Serialized packets -/

theorem Serialized.ofBytes_ne_error (bytes : Option (List UInt8)) (rc : IoTError) :
    Serialized.ofBytes bytes ≠ .error rc := by
  cases bytes <;> simp [Serialized.ofBytes]

theorem initHeader_ok {t : MessageType} (ht : t ≠ .unknown) (qos : QoS) (dup retained : UInt8) :
    ∃ header, initHeader t qos dup retained = .ok header := by
  unfold initHeader
  rw [if_neg ht]
  exact ⟨_, rfl⟩

theorem serializePublish_error {txBufLen : Nat} {dup retained : UInt8} {qos : QoS}
    {packetId topicNameLen : UInt16} {topicName payload : Option CharPtr} {payloadLen : Nat}
    {rc : IoTError}
    (h : serializePublish txBufLen dup qos retained packetId topicName topicNameLen payload
      payloadLen = .error rc) : rc.isError = true := by
  unfold serializePublish at h
  obtain ⟨header, hheader⟩ := initHeader_ok (t := .publish) (by decide) qos dup retained
  rw [hheader] at h
  cases payload with
  | none => cases h; rfl
  | some payload =>
    dsimp only at h
    split at h
    all_goals
      split at h
      · cases h; rfl
      · exact absurd h (Serialized.ofBytes_ne_error _ _)

theorem serializeSubscribe_error {txBufLen : Nat} {dup : UInt8} {packetId : UInt16}
    {topics : List TopicRequest} {rc : IoTError}
    (h : serializeSubscribe txBufLen dup packetId topics = .error rc) : rc.isError = true := by
  unfold serializeSubscribe at h
  obtain ⟨header, hheader⟩ := initHeader_ok (t := .subscribe) (by decide) .qos1 dup 0
  rw [hheader] at h
  dsimp only at h
  split at h
  · cases h; rfl
  · exact absurd h (Serialized.ofBytes_ne_error _ _)

theorem serializeUnsubscribe_error {txBufLen : Nat} {dup : UInt8} {packetId : UInt16}
    {topics : List (Option CharPtr × UInt16)} {rc : IoTError}
    (h : serializeUnsubscribe txBufLen dup packetId topics = .error rc) : rc.isError = true := by
  unfold serializeUnsubscribe at h
  obtain ⟨header, hheader⟩ := initHeader_ok (t := .unsubscribe) (by decide) .qos1 dup 0
  rw [hheader] at h
  dsimp only at h
  split at h
  · cases h; rfl
  · exact absurd h (Serialized.ofBytes_ne_error _ _)

theorem deserializeAck_mem {rxBuf : Memory} {rxBufLen : Nat} {rc : IoTError}
    (h : deserializeAck rxBuf rxBufLen = .error rc) : rc ∈ parseErrors := by
  unfold deserializeAck at h
  split at h
  · cases h; decide
  · split at h
    case h_1 rc' herr =>
      cases h
      exact decodeRemainingLengthFromBuffer_mem herr
    case h_2 =>
      split at h
      · cases h; decide
      · cases h

theorem deserializeAck_error {rxBuf : Memory} {rxBufLen : Nat} {rc : IoTError}
    (h : deserializeAck rxBuf rxBufLen = .error rc) : rc.isError = true :=
  isError_of_mem_parseErrors rc (deserializeAck_mem h)

theorem deserializeUnsuback_mem {rxBuf : Memory} {rxBufLen : Nat} {rc : IoTError}
    (h : deserializeUnsuback rxBuf rxBufLen = .error rc) : rc ∈ parseErrors := by
  unfold deserializeUnsuback at h
  split at h
  case h_1 rc' herr =>
    cases h
    exact deserializeAck_mem herr
  case h_2 =>
    split at h
    · cases h; decide
    · cases h

theorem deserializeUnsuback_error {rxBuf : Memory} {rxBufLen : Nat} {rc : IoTError}
    (h : deserializeUnsuback rxBuf rxBufLen = .error rc) : rc.isError = true :=
  isError_of_mem_parseErrors rc (deserializeUnsuback_mem h)

theorem deserializeSuback_mem (maxExpectedQoSCount : Nat) (rxBuf : Memory) (rxBufLen : Nat) :
    (deserializeSuback maxExpectedQoSCount rxBuf rxBufLen).rc ∈ .success :: parseErrors := by
  have hloop : ∀ left curData stored,
      (readGrantedQoSs rxBuf maxExpectedQoSCount left curData stored).1 ∈
        .success :: parseErrors := by
    intro left
    induction left with
    | zero => intro _ _; exact List.mem_cons_self
    | succ left ih =>
      intro curData stored
      rw [readGrantedQoSs]
      split
      · simp [parseErrors]
      · exact ih _ _
  unfold deserializeSuback
  split
  · simp [parseErrors]
  split
  · simp [parseErrors]
  split
  case h_1 herr => exact List.mem_cons_of_mem _ (decodeRemainingLengthFromBuffer_mem herr)
  case h_2 =>
    dsimp only
    split
    · simp [parseErrors]
    · exact hloop _ _ _

theorem deserializeSuback_code (maxExpectedQoSCount : Nat) (rxBuf : Memory) (rxBufLen : Nat) :
    (deserializeSuback maxExpectedQoSCount rxBuf rxBufLen).rc = .success ∨
      (deserializeSuback maxExpectedQoSCount rxBuf rxBufLen).rc.isError = true :=
  (List.mem_cons.mp (deserializeSuback_mem maxExpectedQoSCount rxBuf rxBufLen)).imp_right
    (isError_of_mem_parseErrors _)

/-- The part of a serialized packet that is sent: its length is a `uint32_t`. -/
def sentPart (packet : List UInt8) : List UInt8 := packet.take (packet.length % 2 ^ 32)

theorem slice_storedPacket (m : Memory) (packet : List UInt8) :
    (Memory.writeAt m 0 packet).slice 0 (packet.length % 2 ^ 32) = sentPart packet :=
  Memory.slice_writeAt (Nat.mod_le _ _)

/-- The slot `slot` holds `handler` now. -/
def World.register (w : World) (slot : Nat) (handler : MessageHandlers) : World :=
  (w.onClient fun c => { c with
    messageHandlers := Function.update c.messageHandlers slot handler }).push
      (.registered slot handler)

@[simp] theorem World.log_register (w : World) (slot : Nat) (handler : MessageHandlers) :
    (w.register slot handler).log = .registered slot handler :: w.log := rfl

section Internal

variable {env : Env} {fuel : Nat} {callbacks : Callbacks M} {w : World}

@[simp] theorem ends_registerHandler {slot : Nat} {handler : MessageHandlers}
    {Q : Unit → World → Prop} {H : World → Prop} :
    (registerHandler slot handler : M Unit).Ends w Q H ↔ Q () (w.register slot handler) := Iff.rfl

@[simp] theorem ends_getNextPacketId {Q : UInt16 → World → Prop} {H : World → Prop} :
    (getNextPacketId : M UInt16).Ends w Q H ↔
      Q (followingPacketId w.client.nextPacketId) (w.onClient fun c => { c with
        nextPacketId := followingPacketId w.client.nextPacketId }) := Iff.rfl

@[simp] theorem ends_getFreeMessageHandlerIndex {Q : Nat → World → Prop} {H : World → Prop} :
    (getFreeMessageHandlerIndex env : M Nat).Ends w Q H ↔
      Q (firstFreeFrom w.client.messageHandlers env.config.numSubscribeHandlers 0) w := Iff.rfl

theorem Exchanged.of_suffix {t : MessageType} {request : List UInt8} {w₀ w' : World} {f : Frame}
    (h : Exchanged t request w₀ f w') (hgrows : w.log <:+ w₀.log) :
    Exchanged t request w f w' := by
  obtain ⟨mid, pre, hlog⟩ := h.log
  obtain ⟨before, hbefore⟩ := hgrows
  exact ⟨h.held, h.type, mid, pre ++ before, by rw [hlog, ← hbefore, List.append_assoc]⟩

theorem Exchanged.of_log {t : MessageType} {request : List UInt8} {w₀ w' : World} {f : Frame}
    (h : Exchanged t request w₀ f w') (hlog : w₀.log = w.log) : Exchanged t request w f w' :=
  ⟨h.held, h.type, hlog ▸ h.log⟩

theorem Unanswered.of_log {t : MessageType} {w₀ w' : World} (h : Unanswered t w₀ w')
    (hlog : w₀.log = w.log) : Unanswered t w w' := by
  obtain ⟨new, hnew, hnone⟩ := h
  exact ⟨new, hlog ▸ hnew, hnone⟩

theorem Unanswered.refl (t : MessageType) (w : World) : Unanswered t w w := ⟨[], rfl, rfl⟩

/-! ## Internal functions -/

/-- A QoS 1 publish that returns SUCCESS was answered. -/
theorem internalPublish_acked (hwait : Cycling env callbacks (Keeps LogGrows))
    (topicName : CharPtr) (topicNameLen : UInt16) (params : PublishParams)
    (hqos : params.qos = .qos1) :
    (internalPublish env fuel callbacks topicName topicNameLen params : M IoTError).Ends w
      (fun rc w' => rc = .success → ∃ txBufLen id packet f,
        serializePublish txBufLen 0 params.qos params.isRetained id (some topicName) topicNameLen
          params.payload params.payloadLen = .packet packet ∧
        Exchanged .puback (sentPart packet) w f w')
      (fun _ => True) := by
  unfold internalPublish
  simp only [ends_bind, ends_getClient, ends_countdownMs]
  refine (hwait.publishId params _).mono ?_ (fun _ _ => trivial)
  intro id w₁ hgrows
  simp only [ends_bind, if_pos hqos, ends_storePacket]
  split
  case h_1 => trivial
  case h_2 rc hser =>
    exact fun hsuccess => absurd hsuccess
      (IoTError.ne_success_of_isError (serializePublish_error hser))
  case h_3 packet hser =>
    refine ends_bind.mp (ends_exchange (t := .puback) hwait rfl ?_ ?_)
    · intro rc w' hrc _ hsuccess
      exact absurd hsuccess (IoTError.ne_success_of_isError hrc)
    · intro f w' hex
      rw [World.client_onClient, slice_storedPacket] at hex
      simp only [ends_bind, ends_getClient]
      split
      · exact fun _ => ⟨_, _, packet, f, hser, hex.of_suffix hgrows⟩
      · exact fun _ => ⟨_, _, packet, f, hser, hex.of_suffix hgrows⟩

/-- How `internal_subscribe` ends: without an answer and without SUCCESS, or as the
SUBACK parser judges the answer. -/
theorem internalSubscribe_judged (hwait : Cycling env callbacks (Keeps LogGrows))
    (topicName : CharPtr) (topicNameLen : UInt16) (qos : QoS) (handler data : Nat) :
    (internalSubscribe env fuel callbacks topicName topicNameLen qos handler data :
      M IoTError).Ends w
      (fun rc w' => rc.isError = true ∧ Unanswered .suback w w' ∨
        ∃ txBufLen id packet f w₁,
          serializeSubscribe txBufLen 0 id [⟨some topicName, topicNameLen, qos⟩] =
            .packet packet ∧
          firstFreeFrom w.client.messageHandlers env.config.numSubscribeHandlers 0 <
            env.config.numSubscribeHandlers ∧
          Exchanged .suback (sentPart packet) w f w₁ ∧
          rc = (deserializeSuback 1 w₁.client.readBuf w₁.client.readBufSize).rc ∧
          w' = if rc = .success then
              w₁.register (firstFreeFrom w.client.messageHandlers env.config.numSubscribeHandlers 0)
                ⟨some topicName, topicNameLen, qos, some handler, data⟩
            else w₁)
      (fun _ => True) := by
  unfold internalSubscribe
  simp only [ends_bind, ends_getClient, ends_countdownMs, ends_getNextPacketId, ends_storePacket]
  split
  case h_1 => trivial
  case h_2 rc hser => exact .inl ⟨serializeSubscribe_error hser, (Unanswered.refl _ _).of_log rfl⟩
  case h_3 packet hser =>
    simp only [ends_getFreeMessageHandlerIndex]
    rw [ends_ite]
    split
    · exact .inl ⟨rfl, (Unanswered.refl _ _).of_log rfl⟩
    rename_i hfree
    refine ends_exchange (t := .suback) hwait rfl ?_ ?_
    · intro rc w' hrc hun
      exact .inl ⟨hrc, hun.of_log rfl⟩
    · intro f w₁ hex
      rw [World.client_onClient, slice_storedPacket] at hex
      simp only [ends_bind, ends_getClient, ends_ite, ends_registerHandler, ends_pure]
      split
      case isTrue hrc =>
        exact .inr ⟨_, _, packet, f, w₁, hser, Nat.lt_of_not_le hfree, hex.of_log rfl, rfl, rfl⟩
      case isFalse hrc =>
        have hok := not_not.mp hrc
        exact .inr ⟨_, _, packet, f, w₁, hser, Nat.lt_of_not_le hfree, hex.of_log rfl, hok.symm,
          (if_pos trivial).symm⟩

/-- An unsubscribe that returns SUCCESS was answered, and then emptied slots. -/
theorem internalUnsubscribe_acked (hwait : Cycling env callbacks (Keeps LogGrows))
    (topicFilter : CharPtr) (topicFilterLen : UInt16) :
    (internalUnsubscribe env fuel callbacks topicFilter topicFilterLen : M IoTError).Ends w
      (fun rc w' => rc = .success → ∃ txBufLen id packet f w₁,
        serializeUnsubscribe txBufLen 0 id [(some topicFilter, topicFilterLen)] =
          .packet packet ∧
        Exchanged .unsuback (sentPart packet) w f w₁ ∧
        w'.log = .cleared topicFilter :: w₁.log)
      (fun _ => True) := by
  unfold internalUnsubscribe
  simp only [ends_bind, ends_getClient, ends_ite]
  split
  · exact fun hsuccess => absurd hsuccess (by decide)
  simp only [ends_bind, ends_countdownMs, ends_getNextPacketId, ends_storePacket]
  split
  case h_1 => trivial
  case h_2 rc hser =>
    exact fun hsuccess => absurd hsuccess
      (IoTError.ne_success_of_isError (serializeUnsubscribe_error hser))
  case h_3 packet hser =>
    refine ends_bind.mp (ends_exchange (t := .unsuback) hwait rfl ?_ ?_)
    · intro rc w' hrc _ hsuccess
      exact absurd hsuccess (IoTError.ne_success_of_isError hrc)
    · intro f w₁ hex
      rw [World.client_onClient, slice_storedPacket] at hex
      simp only [ends_bind, ends_getClient]
      split
      case h_1 rc herr =>
        exact fun hsuccess => absurd hsuccess
          (IoTError.ne_success_of_isError (deserializeUnsuback_error herr))
      case h_2 =>
        intro _
        exact ⟨_, _, packet, f, w₁, hser, hex.of_log rfl, rfl⟩

/-- How a pass of `internal_resubscribe` ends. -/
theorem resubscribeSlot_judged (hwait : Cycling env callbacks (Keeps LogGrows)) (itr : Nat) :
    (resubscribeSlot env fuel callbacks itr : M IoTError).Ends w
      (fun rc w' => rc.isError = true ∧
          Unanswered .suback (w.push (.resubscribing itr (w.client.messageHandlers itr))) w' ∨
        ∃ txBufLen id packet f,
          serializeSubscribe txBufLen 0 id [⟨(w.client.messageHandlers itr).topicName,
            (w.client.messageHandlers itr).topicNameLen, (w.client.messageHandlers itr).qos⟩] =
            .packet packet ∧
          Exchanged .suback (sentPart packet)
            (w.push (.resubscribing itr (w.client.messageHandlers itr))) f w' ∧
          rc = (deserializeSuback 1 w'.client.readBuf w'.client.readBufSize).rc)
      (fun _ => True) := by
  unfold resubscribeSlot
  simp only [ends_bind, ends_getClient, ends_countdownMs, ends_getNextPacketId, ends_emit,
    ends_storePacket]
  split
  case h_1 => trivial
  case h_2 rc hser => exact .inl ⟨serializeSubscribe_error hser, (Unanswered.refl _ _).of_log rfl⟩
  case h_3 packet hser =>
    refine ends_bind.mp (ends_exchange (t := .suback) hwait rfl ?_ ?_)
    · intro rc w' hrc hun
      exact .inl ⟨hrc, hun.of_log rfl⟩
    · intro f w₁ hex
      rw [World.client_onClient, slice_storedPacket] at hex
      simp only [ends_bind, ends_getClient, ends_pure]
      exact .inr ⟨_, _, packet, f, hser, hex.of_log rfl, trivial⟩

/-! ## Outer functions -/

variable {P : List Event → Prop} {internal : M IoTError}

theorem performRequest_success (operation : Operation) (s : ClientState)
    (hi : internal.Ends w (fun rc w' => rc = .success → P w'.log) (fun _ => True)) :
    (performRequest operation s internal : M IoTError).Ends w
      (fun rc w' => rc = .success → P w'.log) (fun _ => True) := by
  unfold performRequest
  simp only [ends_bind, ends_within]
  refine hi.mono ?_ (fun _ _ => trivial)
  intro opRc w₁ h
  simp only [ends_setClientState, ends_pure]
  split
  · rw [if_neg (by simp)]
    exact h
  · split
    case isTrue hfail => exact fun hsuccess => absurd hsuccess hfail.2
    case isFalse => exact h

/-- A publish or subscribe returns SUCCESS only if its internal function does. -/
theorem request_success (operation : Operation)
    (hi : ∀ s, internal.Ends (w.withState s) (fun rc w' => rc = .success → P w'.log)
      (fun _ => True)) :
    (request operation internal : M IoTError).Ends w (fun rc w' => rc = .success → P w'.log)
      (fun _ => True) := by
  unfold request
  simp only [ends_bind, ends_getClientState, ends_ite, ends_pure, ends_setClientState]
  split
  · exact fun h => absurd h (by decide)
  split
  · exact fun h => absurd h (by decide)
  rw [if_pos trivial, if_neg (by simp)]
  exact performRequest_success operation _ (hi _)

/-- An unsubscribe returns SUCCESS only if its internal function does. -/
theorem unsubscribeRequest_success
    (hi : ∀ s, internal.Ends (w.withState s) (fun rc w' => rc = .success → P w'.log)
      (fun _ => True)) :
    (unsubscribeRequest internal : M IoTError).Ends w (fun rc w' => rc = .success → P w'.log)
      (fun _ => True) := by
  unfold unsubscribeRequest
  simp only [ends_bind, ends_getClientState, ends_ite, ends_pure, ends_setClientState]
  split
  · exact fun h => absurd h (by decide)
  split
  · exact fun h => absurd h (by decide)
  rw [if_pos trivial, if_neg (by simp)]
  exact performRequest_success .unsubscribe _ (hi _)

/-- A resubscribe returns SUCCESS only if its internal function does. -/
theorem resubscribeRequest_success
    (hi : ∀ s, internal.Ends (w.withState s) (fun rc w' => rc = .success → P w'.log)
      (fun _ => True)) :
    (resubscribeRequest internal : M IoTError).Ends w (fun rc w' => rc = .success → P w'.log)
      (fun _ => True) := by
  unfold resubscribeRequest
  simp only [ends_bind, ends_getClientState, ends_ite, ends_pure, ends_setClientState]
  split
  · exact fun h => absurd h (by decide)
  split
  · exact fun h => absurd h (by decide)
  case isFalse hidle =>
    rw [if_pos (not_not.mp hidle).symm, if_neg (by simp)]
    exact performRequest_success .resubscribe _ (hi _)

end Internal

end AwsIot.Mqtt
