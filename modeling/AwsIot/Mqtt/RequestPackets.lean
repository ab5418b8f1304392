/-
  Mqtt/RequestPackets.lean --- what requests put on the wire.

  The first packet that a publish, subscribe or unsubscribe call sends decodes to what
  its caller asked for, under the next packet id, from any world and whatever the
  handlers do while it waits (`request_sends_asked`).
-/
import AwsIot.Mqtt.ControlPackets

set_option autoImplicit false

namespace AwsIot.Mqtt

open AwsIot.Foundation Program

/-! ## The packet that a call asks for -/

/-- The packet that a publish, subscribe or unsubscribe call asks for, under packet id
`id`. -/
def ApiCall.outgoing (id : UInt16) : ApiCall → Option OutgoingPacket
  | .publish (some topicName) topicNameLen (some params) =>
      some (.publish 0 params.qos params.isRetained (if params.qos = .qos1 then id else params.id)
        (some topicName) topicNameLen params.payload params.payloadLen)
  | .subscribe (some topicName) topicNameLen qos _ _ =>
      some (.subscribe 0 id [⟨some topicName, topicNameLen, qos⟩])
  | .unsubscribe (some topicFilter) topicFilterLen =>
      some (.unsubscribe 0 id [(some topicFilter, topicFilterLen)])
  | _ => none

/-! ## The first packet of a stretch -/

section Sending

variable {P : List UInt8 → Prop} {start w : World} {env : Env} {fuel : Nat}
  {callbacks : Callbacks M}

/-- The first packet sent since `start` has the property. -/
def SentFirst (P : List UInt8 → Prop) (start w : World) : Prop :=
  ∃ new packet, w.log = new ++ start.log ∧ firstSending new = some packet ∧ P packet

/-- Nothing was sent since `start`, or what was sent first has the property. -/
def SendsFirst (P : List UInt8 → Prop) (start w : World) : Prop :=
  NothingSent start w ∨ SentFirst P start w

theorem SentFirst.grows (h : SentFirst P start w) {w' : World} (hw : LogGrows w w') :
    SentFirst P start w' := by
  obtain ⟨new, packet, hlog, hfirst, hP⟩ := h
  obtain ⟨more, hmore⟩ := hw
  have hlog' : w'.log = (more ++ new) ++ start.log := by
    rw [← hmore, hlog, List.append_assoc]
  exact ⟨more ++ new, packet, hlog', firstSending_append more new hfirst, hP⟩

/-- Once a packet is out, whatever the client does keeps it the first. -/
theorem SentFirst.ends {α : Type} {m : M α} (hm : Keeps LogGrows m) (h : SentFirst P start w) :
    m.Ends w (fun _ => SendsFirst P start) (SendsFirst P start) :=
  (hm w).mono (fun _ _ hw => .inr (h.grows hw)) (fun _ hw => .inr (h.grows hw))

/-- A send that is turned down sends nothing; any other one sends its packet. -/
theorem sendPacket_sendsFirst {length : Nat} {timer : Timer} (h : NothingSent start w)
    (hP : P (w.client.writeBuf.slice 0 length)) :
    (sendPacket env fuel length timer : M IoTError).Ends w
      (fun rc w' => SentFirst P start w' ∨ rc ≠ .success ∧ NothingSent start w')
      (SendsFirst P start) := by
  by_cases hlen : length < w.client.writeBufSize
  · have hsent : SentFirst P start (w.push (sendingEvent length w)) := by
      obtain ⟨new, hlog, hnone⟩ := h
      have hnew : firstSending (sendingEvent length w :: new) =
          some (w.client.writeBuf.slice 0 length) := by
        simp [firstSending, hnone, sendingEvent]
      exact ⟨sendingEvent length w :: new, _, by simp [hlog], hnew, hP⟩
    have hloop := (logGrows env).loop ((logGrows env).sendPass env length timer) fuel 0
    rw [ends_sendPacket hlen]
    apply (hloop _).mono
    · intro sent w' hw
      split
      · exact .inl ((hsent.grows hw).grows (List.suffix_cons _ _))
      · exact .inl (hsent.grows hw)
    · exact fun w' hw => .inr (hsent.grows hw)
  · have hge : length ≥ w.client.writeBufSize := Nat.le_of_not_lt hlen
    simp [sendPacket, hge, h]

/-- The packet decodes to what `p` is to say. -/
def Conveys (p : OutgoingPacket) (packet : List UInt8) : Prop :=
  decodePacket packet = some p.content

theorem length_serialized_lt {p : OutgoingPacket} {txBufLen : Nat} {bytes : List UInt8}
    (hser : p.serialized txBufLen = .packet bytes) (hp : p.Expressible) :
    bytes.length < 2 ^ 32 := by
  have hr := OutgoingPacket.not_refused_of_packet hser
  obtain ⟨first, body, -, hbody, rfl⟩ := OutgoingPacket.packet_parts hser
  have hlen := OutgoingPacket.length_body hr hbody
  have hdigits := length_writeLenDigits_le 5 (p.remainingLength % 2 ^ 32)
  have hlt := hp.1
  simp only [packetOf, List.length_cons, List.length_append, writeLenToBuffer]
  omega

/-- A packet that was stored is sent as it is. -/
theorem sendStored_sendsFirst {p : OutgoingPacket} {txBufLen : Nat} {bytes : List UInt8}
    {timer : Timer} (hp : p.Expressible) (h : NothingSent start w)
    (hser : p.serialized txBufLen = .packet bytes) :
    (sendPacket env fuel (bytes.length % 2 ^ 32) timer : M IoTError).Ends
      (w.onClient fun c => { c with writeBuf := c.writeBuf.writeAt 0 bytes })
      (fun rc w' => SentFirst (Conveys p) start w' ∨ rc ≠ .success ∧ NothingSent start w')
      (SendsFirst (Conveys p) start) := by
  apply sendPacket_sendsFirst
  · exact h
  · rw [Nat.mod_eq_of_lt (length_serialized_lt hser hp), World.client_onClient]
    dsimp only
    rw [Memory.slice_writeAt_self]
    exact (OutgoingPacket.decodePacket_serialized_iff hser).mpr hp

/-- What follows a send is run when the packet is out. -/
theorem continue_sendsFirst {rc : IoTError} {next : M IoTError} (hnext : Keeps LogGrows next)
    (h : SentFirst P start w ∨ rc ≠ .success ∧ NothingSent start w) :
    (if rc ≠ .success then pure rc else next : M IoTError).Ends w
      (fun _ => SendsFirst P start) (SendsFirst P start) := by
  rw [ends_ite]
  split
  case isTrue => exact h.symm.imp_left And.right
  case isFalse hrc =>
    rcases h with h | h
    · exact h.ends hnext
    · exact absurd h.1 hrc

section Requests

variable (hwait : Cycling env callbacks (Keeps LogGrows)) (h : NothingSent start w) {id : UInt16}
  (hid : followingPacketId w.client.nextPacketId = id)
include hwait h hid

theorem internalPublish_sendsFirst (topicName : CharPtr) (topicNameLen : UInt16)
    (params : PublishParams) {p : OutgoingPacket}
    (hasked : (ApiCall.publish (some topicName) topicNameLen (some params)).outgoing
      id = some p) (hp : p.Expressible) :
    (internalPublish env fuel callbacks topicName topicNameLen params : M IoTError).Ends w
      (fun _ => SendsFirst (Conveys p) start) (SendsFirst (Conveys p) start) := by
  subst hid
  obtain rfl := Option.some.inj hasked
  have hpublishId : (publishId params : M UInt16).Ends w.tick
      (fun id w' => id = (if params.qos = .qos1 then followingPacketId w.client.nextPacketId
        else params.id) ∧ NothingSent start w')
      (fun _ => False) := by
    unfold publishId getNextPacketId
    simp only [ends_ite, ends_bind, ends_getClient, ends_modifyClient, ends_pure]
    split
    · unfold storeReceivedId
      cases params.received with
      | none => exact ⟨rfl, h⟩
      | some index =>
        simp only [ends_bind, ends_modifyClient, ends_emit]
        exact ⟨rfl, NothingSent.push h rfl⟩
    · exact ⟨rfl, h⟩
  unfold internalPublish
  simp only [ends_bind, ends_getClient, ends_countdownMs]
  apply hpublishId.mono
  · rintro id w₁ ⟨rfl, h₁⟩
    simp only [ends_storePacket]
    split
    case h_1 => exact .inl h₁
    case h_2 => exact .inl h₁
    case h_3 bytes hser =>
      rw [ends_bind]
      apply (sendStored_sendsFirst hp h₁ hser).mono
      · intro rc w₂ h₂
        apply continue_sendsFirst _ h₂
        apply hwait.ite _ (fun _ => hwait.pure _)
        intro _
        apply hwait.bind (hwait.waitForRead fuel .puback _)
        intro rc
        apply hwait.ite (fun _ => hwait.pure _)
        intro _
        apply hwait.bind hwait.getClient
        intro c
        split
        · exact hwait.pure _
        · exact hwait.pure _
      · exact fun _ h => h
  · exact fun _ h => h.elim

theorem internalSubscribe_sendsFirst
    (hregister : ∀ slot handler, Keeps LogGrows (registerHandler slot handler : M Unit))
    (topicName : CharPtr) (topicNameLen : UInt16) (qos : QoS) (handler data : Nat)
    {p : OutgoingPacket}
    (hasked : (ApiCall.subscribe (some topicName) topicNameLen qos (some handler) data).outgoing
      id = some p) (hp : p.Expressible) :
    (internalSubscribe env fuel callbacks topicName topicNameLen qos handler data :
      M IoTError).Ends w (fun _ => SendsFirst (Conveys p) start)
        (SendsFirst (Conveys p) start) := by
  subst hid
  obtain rfl := Option.some.inj hasked
  unfold internalSubscribe getNextPacketId getFreeMessageHandlerIndex
  simp only [ends_bind, ends_getClient, ends_countdownMs, ends_modifyClient, ends_pure,
    ends_storePacket]
  split
  case h_1 => exact .inl h
  case h_2 => exact .inl h
  case h_3 bytes hser =>
    rw [ends_ite]
    split
    · exact .inl h
    · rw [ends_bind]
      apply (sendStored_sendsFirst hp _ hser).mono
      · intro rc w₂ h₂
        apply continue_sendsFirst _ h₂
        apply hwait.bind (hwait.waitForRead fuel .suback _)
        intro rc
        apply hwait.ite (fun _ => hwait.pure _)
        intro _
        apply hwait.bind hwait.getClient
        intro c
        apply hwait.ite (fun _ => hwait.pure _)
        intro _
        exact hwait.bind (hregister _ _) fun _ => hwait.pure _
      · exact fun _ h => h
      · exact h

theorem internalUnsubscribe_sendsFirst
    (hclear : ∀ filter, Keeps LogGrows (clearHandlers env filter : M Unit))
    (topicFilter : CharPtr) (topicFilterLen : UInt16) {p : OutgoingPacket}
    (hasked : (ApiCall.unsubscribe (some topicFilter) topicFilterLen).outgoing id =
      some p) (hp : p.Expressible) :
    (internalUnsubscribe env fuel callbacks topicFilter topicFilterLen : M IoTError).Ends w
      (fun _ => SendsFirst (Conveys p) start) (SendsFirst (Conveys p) start) := by
  subst hid
  obtain rfl := Option.some.inj hasked
  unfold internalUnsubscribe getNextPacketId
  simp only [ends_bind, ends_getClient, ends_ite, ends_pure]
  split
  · exact .inl h
  simp only [ends_countdownMs, ends_modifyClient, ends_storePacket]
  split
  case h_1 => exact .inl h
  case h_2 => exact .inl h
  case h_3 bytes hser =>
    rw [ends_bind]
    apply (sendStored_sendsFirst hp _ hser).mono
    · intro rc w₂ h₂
      apply continue_sendsFirst _ h₂
      apply hwait.bind (hwait.waitForRead fuel .unsuback _)
      intro rc
      apply hwait.ite (fun _ => hwait.pure _)
      intro _
      apply hwait.bind hwait.getClient
      intro c
      split
      · exact hwait.pure _
      · exact hwait.bind (hclear _) fun _ => hwait.pure _
    · exact fun _ h => h
    · exact h

end Requests

/-- A request that is turned down sends nothing. -/
theorem request_sendsFirst {operation : Operation} {internal : M IoTError}
    (h : NothingSent start w)
    (hi : internal.Ends (w.withState operation.inProgress) (fun _ => SendsFirst P start)
      (SendsFirst P start)) :
    (request operation internal : M IoTError).Ends w (fun _ => SendsFirst P start)
      (SendsFirst P start) := by
  unfold request performRequest
  simp only [ends_bind, ends_getClientState, ends_ite, ends_pure, ends_setClientState, ends_within]
  split
  · exact .inl h
  split
  · exact .inl h
  rw [if_pos trivial, if_neg (by simp)]
  apply hi.mono
  · intro rc w₁ h₁
    split
    · exact h₁
    · exact h₁
  · exact fun _ h => h

theorem unsubscribeRequest_sendsFirst {internal : M IoTError} (h : NothingSent start w)
    (hi : internal.Ends (w.withState .connectedUnsubscribeInProgress) (fun _ => SendsFirst P start)
      (SendsFirst P start)) :
    (unsubscribeRequest internal : M IoTError).Ends w (fun _ => SendsFirst P start)
      (SendsFirst P start) := by
  unfold unsubscribeRequest performRequest
  simp only [ends_bind, ends_getClientState, ends_ite, ends_pure, ends_setClientState, ends_within]
  split
  · exact .inl h
  split
  · exact .inl h
  rw [if_pos trivial, if_neg (by simp)]
  apply hi.mono
  · intro rc w₁ h₁
    split
    · exact h₁
    · exact h₁
  · exact fun _ h => h

end Sending

/-! ## Calls -/

theorem expressible_subscribe (id : UInt16) (topicName : CharPtr) (topicNameLen : UInt16)
    (qos : QoS) :
    (OutgoingPacket.subscribe 0 id [⟨some topicName, topicNameLen, qos⟩]).Expressible := by
  have hlt := topicNameLen.toNat_lt
  refine ⟨?_, by decide, by simp⟩
  simp only [OutgoingPacket.remainingLength, List.map_cons, List.map_nil, List.sum_cons,
    List.sum_nil]
  omega

theorem expressible_unsubscribe (id : UInt16) (topicFilter : CharPtr) (topicFilterLen : UInt16) :
    (OutgoingPacket.unsubscribe 0 id [(some topicFilter, topicFilterLen)]).Expressible := by
  have hlt := topicFilterLen.toNat_lt
  refine ⟨?_, by decide, by simp⟩
  simp only [OutgoingPacket.remainingLength, List.map_cons, List.map_nil, List.sum_cons,
    List.sum_nil]
  omega

/-- What a request sends first is the packet that its caller asked for. -/
theorem dispatch_sendsFirst {env : Env} {fuel depth : Nat} {call : ApiCall} {p : OutgoingPacket}
    {start w : World} {id : UInt16} (hid : followingPacketId w.client.nextPacketId = id)
    (hasked : call.outgoing id = some p) (hlength : p.remainingLength < 128 ^ 4)
    (h : NothingSent start w) :
    (dispatch env fuel (applicationCallbacks env fuel (apiCall env fuel depth)) call :
      M IoTError).Ends w (fun _ => SendsFirst (Conveys p) start)
        (SendsFirst (Conveys p) start) := by
  have hserve := serving_logGrows env fuel depth
  have hlog := (logGrows_steps env).toPrimitiveSteps.primitives
  cases call with
  | publish topicName topicNameLen params =>
    cases topicName with
    | none => exact absurd hasked (by simp [ApiCall.outgoing])
    | some topicName =>
      cases params with
      | none => exact absurd hasked (by simp [ApiCall.outgoing])
      | some params =>
        have hp : p.Expressible := by
          obtain rfl := Option.some.inj hasked
          exact ⟨hlength, trivial⟩
        show (publish env fuel _ (some topicName) topicNameLen (some params) : M IoTError).Ends w
          _ _
        unfold publish
        rw [ends_ite]
        split
        · exact .inl h
        · apply request_sendsFirst h
          have hheld : NothingSent start (w.withState Operation.publish.inProgress) := h
          exact internalPublish_sendsFirst hserve.toCycling hheld hid _ _ _ hasked hp
  | subscribe topicName topicNameLen qos handler data =>
    cases topicName with
    | none => exact absurd hasked (by simp [ApiCall.outgoing])
    | some topicName =>
      have hp : p.Expressible := by
        obtain rfl := Option.some.inj hasked
        exact expressible_subscribe _ _ _ _
      show (subscribe env fuel _ (some topicName) topicNameLen qos handler data : M IoTError).Ends
        w _ _
      cases handler with
      | none => exact .inl h
      | some handler =>
        apply request_sendsFirst h
        have hheld : NothingSent start (w.withState Operation.subscribe.inProgress) := h
        exact internalSubscribe_sendsFirst hserve.toCycling hheld hid
          hlog.registerHandler _ _ _ _ _ hasked hp
  | unsubscribe topicFilter topicFilterLen =>
    cases topicFilter with
    | none => exact absurd hasked (by simp [ApiCall.outgoing])
    | some topicFilter =>
      have hp : p.Expressible := by
        obtain rfl := Option.some.inj hasked
        exact expressible_unsubscribe _ _ _
      apply unsubscribeRequest_sendsFirst h
      have hheld : NothingSent start (w.withState .connectedUnsubscribeInProgress) := h
      exact internalUnsubscribe_sendsFirst hserve.toCycling hheld hid
        hlog.clearHandlers _ _ hasked hp
  | _ => exact absurd hasked (by simp [ApiCall.outgoing])

/-- From any world, whatever its handlers do, the first packet of a publish, subscribe or
unsubscribe call decodes to what the caller asked for, under the next packet id, if four
digits can say the packet's length. -/
theorem request_sends_asked (env : Env) (fuel depth : Nat) (call : ApiCall) (w : World)
    (p : OutgoingPacket)
    (hasked : call.outgoing (followingPacketId w.client.nextPacketId) = some p)
    (hlength : p.remainingLength < 128 ^ 4) (packet : List UInt8)
    (hsent : firstSending (w.since ((apiCall env fuel (depth + 1) call : M IoTError).run w).state) =
      some packet) :
    decodePacket packet = some p.content := by
  have hends : (apiCall env fuel (depth + 1) call : M IoTError).Ends w
      (fun _ => SendsFirst (Conveys p) w) (SendsFirst (Conveys p) w) := by
    unfold apiCall
    simp only [ends_bind, ends_emit, ends_within, ends_pure]
    have hstart : NothingSent w (w.push (.called call)) := (NothingSent.refl w).push rfl
    apply (dispatch_sendsFirst (w := w.push _) rfl hasked hlength hstart).mono
    · intro rc w₁ h₁
      exact h₁.imp (fun h => h.push rfl) fun h => h.grows (List.suffix_cons _ _)
    · exact fun _ h => h
  rcases ends_state_iff.mp hends with h | h
  · obtain ⟨new, hlog, hnone⟩ := h
    rw [World.since_of_append hlog, hnone] at hsent
    exact absurd hsent (by simp)
  · obtain ⟨new, sent, hlog, hfirst, hconveys⟩ := h
    rw [World.since_of_append hlog, hfirst] at hsent
    rw [← Option.some.inj hsent]
    exact hconveys

/-- A subscribe to filter `a`, on a client that has just connected. -/
theorem subscribe_sends_filter :
    decodePacket [0x82, 6, 0, 2, 0, 1, 0x61, 1] = some (.subscribe 2 [([0x61], 1)]) := by
  have hid : followingPacketId (World.connected (sessionEnv [])).client.nextPacketId = 2 := by
    decide +kernel
  apply request_sends_asked quietEnv 8 7 (subscribeTo 0x61) (World.connected (sessionEnv []))
    (.subscribe 0 2 [⟨some ⟨[0x61]⟩, 1, .qos1⟩])
  · rw [hid]
    rfl
  · decide
  · decide +kernel

end AwsIot.Mqtt
