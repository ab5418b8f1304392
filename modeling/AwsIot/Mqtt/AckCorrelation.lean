/-
  Mqtt/AckCorrelation.lean --- requests and their acknowledgements.

  A QoS 1 publish, a subscribe or an unsubscribe that returns SUCCESS has read an
  acknowledgement of its own type after its packet was sent
  (`acknowledged_of_success`).  The packet identifiers are never compared: an
  acknowledgement with another identifier is taken for the answer
  (`not_ackCorrelated`).
-/
import AwsIot.Mqtt.RequestRules

set_option autoImplicit false

namespace AwsIot.Mqtt

open AwsIot.Foundation Reader Program

/-! ## Requests -/

/-- The type of packet that acknowledges a call. -/
def ApiCall.awaitedAck : ApiCall → Option MessageType
  | .publish _ _ (some params) => if params.qos = .qos1 then some .puback else none
  | .subscribe .. => some .suback
  | .unsubscribe .. => some .unsuback
  | .publish _ _ none | .init _ | .connect _ | .resubscribe | .yield _ | .disconnect
  | .attemptReconnect | .autoreconnectSetStatus _ | .setDisconnectHandler _
  | .setConnectParams _ | .resetNetworkDisconnectedCount => none

/-- The packet that asks for what a call wants, under packet id `id`. -/
def ApiCall.serialize (txBufLen : Nat) (id : UInt16) : ApiCall → Serialized
  | .publish topicName topicNameLen (some params) =>
      serializePublish txBufLen 0 params.qos params.isRetained id topicName topicNameLen
        params.payload params.payloadLen
  | .subscribe topicName topicNameLen qos _ _ =>
      serializeSubscribe txBufLen 0 id [⟨topicName, topicNameLen, qos⟩]
  | .unsubscribe topicFilter topicFilterLen =>
      serializeUnsubscribe txBufLen 0 id [(topicFilter, topicFilterLen)]
  | .publish _ _ none | .init _ | .connect _ | .resubscribe | .yield _ | .disconnect
  | .attemptReconnect | .autoreconnectSetStatus _ | .setDisconnectHandler _
  | .setConnectParams _ | .resetNetworkDisconnectedCount => .fault

/-- `request` is what a call sends, under some packet id. -/
def ApiCall.IsRequest (call : ApiCall) (request : List UInt8) : Prop :=
  ∃ txBufLen id packet, call.serialize txBufLen id = .packet packet ∧ request = sentPart packet

/-- In a stretch of the log, newest event first, `ack` was read after `request` was
sent. -/
def ReadAfterSent (request ack : List UInt8) (new : List Event) : Prop :=
  ∃ post mid pre, new = post ++ .packetRead ack :: (mid ++ .sent request :: pre)

/-- Read the packet id of a PUBLISH or of a packet that starts with it. -/
def readPacketId : Reader UInt16 := do
  let header ← byte
  let _ ← base128 4
  if headerType header = MessageType.publish.code then
    let _ ← readString
  uint16

/-- The packet id that a packet carries. -/
def packetIdOf (packet : List UInt8) : Option UInt16 := (readPacketId.run packet).map (·.1)

/-! ## Success means acknowledged -/

section Acknowledged

variable {env : Env} {fuel : Nat} {callbacks : Callbacks M} {w : World}

/-- The call's request was sent since `old`, and then a packet of type `t` was
read. -/
def AcknowledgedSince (call : ApiCall) (t : MessageType) (old log : List Event) : Prop :=
  ∃ request f new, call.IsRequest request ∧ headerType f.header = t.code ∧
    ReadAfterSent request (Frame.bytes f) new ∧ log = new ++ old

theorem Exchanged.readAfterSent {t : MessageType} {request : List UInt8} {f : Frame}
    {w' : World} (h : Exchanged t request w f w') :
    ∃ new, w'.log = new ++ w.log ∧ ReadAfterSent request f.bytes new := by
  obtain ⟨mid, pre, hlog⟩ := h.log
  exact ⟨.waited t .success :: .packetRead f.bytes :: (mid ++ .sent request :: pre),
    by simp [hlog], [.waited t .success], mid, pre, rfl⟩

theorem ReadAfterSent.cons {request ack : List UInt8} {new : List Event}
    (h : ReadAfterSent request ack new) (e : Event) : ReadAfterSent request ack (e :: new) := by
  obtain ⟨post, mid, pre, rfl⟩ := h
  exact ⟨e :: post, mid, pre, rfl⟩

theorem ReadAfterSent.append {request ack : List UInt8} {new : List Event}
    (h : ReadAfterSent request ack new) (old : List Event) :
    ReadAfterSent request ack (new ++ old) := by
  obtain ⟨post, mid, pre, rfl⟩ := h
  exact ⟨post, mid, pre ++ old, by simp⟩

theorem dispatch_acknowledged (hwait : Cycling env callbacks (Keeps LogGrows)) {call : ApiCall}
    {t : MessageType} (hawait : call.awaitedAck = some t) :
    (dispatch env fuel callbacks call : M IoTError).Ends w
      (fun rc w' => rc = .success → AcknowledgedSince call t w.log w'.log) (fun _ => True) := by
  cases call with
  | publish topicName topicNameLen params =>
    cases params with
    | none => simp [ApiCall.awaitedAck] at hawait
    | some params =>
      have hqos : params.qos = .qos1 := by
        by_contra hne
        simp [ApiCall.awaitedAck, hne] at hawait
      obtain rfl : .puback = t := by simpa [ApiCall.awaitedAck, hqos] using hawait
      cases topicName with
      | none => exact fun h => absurd h (by decide)
      | some topicName =>
        simp only [dispatch, publish, ends_ite]
        split
        · exact fun h => absurd h (by decide)
        refine request_success .publish fun s =>
          (internalPublish_acked hwait topicName topicNameLen params hqos).mono ?_
            (fun _ _ => trivial)
        intro rc w' h hrc
        obtain ⟨txBufLen, id, packet, f, hser, hex⟩ := h hrc
        obtain ⟨new, hlog, hread⟩ := hex.readAfterSent
        exact ⟨_, f, new, ⟨txBufLen, id, packet, hser, rfl⟩, hex.type, hread, hlog⟩
  | subscribe topicName topicNameLen qos handler data =>
    obtain rfl : .suback = t := by simpa [ApiCall.awaitedAck] using hawait
    cases topicName with
    | none => exact fun h => absurd h (by decide)
    | some topicName =>
      cases handler with
      | none => exact fun h => absurd h (by decide)
      | some handler =>
        refine request_success .subscribe fun s =>
          (internalSubscribe_judged hwait topicName topicNameLen qos handler data).mono ?_
            (fun _ _ => trivial)
        rintro rc w' (⟨hfail, -⟩ | ⟨txBufLen, id, packet, f, w₁, hser, -, hex, -, rfl⟩) hrc
        · exact absurd hrc (IoTError.ne_success_of_isError hfail)
        · obtain ⟨new, hlog, hread⟩ := hex.readAfterSent
          rw [if_pos hrc, World.log_register, hlog]
          exact ⟨_, f, _ :: new, ⟨txBufLen, id, packet, hser, rfl⟩, hex.type, hread.cons _, rfl⟩
  | unsubscribe topicFilter topicFilterLen =>
    obtain rfl : .unsuback = t := by simpa [ApiCall.awaitedAck] using hawait
    cases topicFilter with
    | none => exact fun h => absurd h (by decide)
    | some topicFilter =>
      refine unsubscribeRequest_success fun s =>
        (internalUnsubscribe_acked hwait topicFilter topicFilterLen).mono ?_ (fun _ _ => trivial)
      intro rc w' h hrc
      obtain ⟨txBufLen, id, packet, f, w₁, hser, hex, hlog'⟩ := h hrc
      obtain ⟨new, hlog, hread⟩ := hex.readAfterSent
      rw [hlog', hlog]
      exact ⟨_, f, _ :: new, ⟨txBufLen, id, packet, hser, rfl⟩, hex.type, hread.cons _, rfl⟩
  | _ => simp [ApiCall.awaitedAck] at hawait

end Acknowledged

/-- In every run, a call that awaits an acknowledgement and returns SUCCESS has read
one, of the right type, after its request was sent. -/
theorem acknowledged_of_success (env : Env) (fuel depth : Nat) (call : ApiCall) (t : MessageType)
    (hawait : call.awaitedAck = some t) (w w' : World)
    (hrun : (apiCall env fuel depth call : M IoTError).run w = .done .success w') :
    ∃ request ack, call.IsRequest request ∧ headerType (ack.headD 0) = t.code ∧
      ReadAfterSent request ack (w.since w') := by
  obtain ⟨w₁, hack, rfl⟩ := apiCall_done hrun fun depth =>
    dispatch_acknowledged (serving_logGrows env fuel depth).toCycling hawait
  obtain ⟨request, f, new, hreq, htype, hread, hlog⟩ := hack rfl
  have hsince : w.since (w₁.push (.returned call .success)) =
      .returned call .success :: (new ++ [.called call]) :=
    World.since_of_append (by rw [World.log_push, hlog]; simp)
  rw [hsince]
  exact ⟨request, f.bytes, hreq, htype, (hread.append _).cons _⟩

/-! ## A late acknowledgement -/

/-- A QoS 1 publish of one byte to topic `t`. -/
def plainPublish : ApiCall :=
  .publish (some ⟨[0x74]⟩) 1 (some ⟨.qos1, 0, 0, some ⟨[0x70]⟩, 1, none⟩)

/-- The publish is sent under packet id 2, and the next packet to arrive is a PUBACK
for packet id `id`. -/
def pubackEnv (id : UInt8) : Env := sessionEnv [(15, [0x40, 2, 0, id])]

/-- The publish, on a client that has just connected. -/
def publishRun (id : UInt8) : Outcome World IoTError :=
  (apiCall (pubackEnv id) 8 8 plainPublish : M IoTError).run (World.connected (pubackEnv id))

/-- With a PUBACK for its own packet id the publish is acknowledged. -/
theorem acknowledged_of_success_puback :
    ∃ request ack, plainPublish.IsRequest request ∧ headerType (ack.headD 0) = 4 ∧
      ReadAfterSent request ack ((World.connected (pubackEnv 2)).since (publishRun 2).state) :=
  acknowledged_of_success (pubackEnv 2) 8 8 plainPublish .puback (by decide) _ _
    (run_eq_done (by decide +kernel))

/-- The acknowledgement that was read carries the packet id of the request. -/
def AckCorrelated (call : ApiCall) (t : MessageType) (new : List Event) : Prop :=
  ∃ request ack, call.IsRequest request ∧ headerType (ack.headD 0) = t.code ∧
    ReadAfterSent request ack new ∧ packetIdOf ack = packetIdOf request

/-- What the log of the publish says about packet ids. -/
def hasIds (sentId readId : UInt16) : Event → Bool
  | .sent packet => packetIdOf packet == some sentId
  | .packetRead packet => packetIdOf packet == some readId
  | _ => true

/-- With a PUBACK for packet id 9 the publish under packet id 2 returns SUCCESS. -/
theorem not_ackCorrelated :
    (publishRun 9).value? = some .success ∧
    ¬ AckCorrelated plainPublish .puback
      ((World.connected (pubackEnv 9)).since (publishRun 9).state) := by
  have hids : ((World.connected (pubackEnv 9)).since (publishRun 9).state).all (hasIds 2 9) =
      true := by decide +kernel
  refine ⟨by decide +kernel, ?_⟩
  rintro ⟨request, ack, -, -, ⟨post, mid, pre, hnew⟩, heq⟩
  rw [hnew, List.all_eq_true] at hids
  have hsent : packetIdOf request = some 2 := by
    simpa [hasIds] using hids (.sent request) (by simp)
  have hread : packetIdOf ack = some 9 := by
    simpa [hasIds] using hids (.packetRead ack) (by simp)
  rw [hsent, hread] at heq
  exact absurd heq (by decide)

end AwsIot.Mqtt
