/-
  Mqtt/AnswerKept.lean --- an answer that arrived.

  The answer to a publish, subscribe or unsubscribe is delivered in time, together
  with any other packets.  The request returns SUCCESS if no handler takes the
  answer, the client comes back to the stream before the timer expires, and no
  other packet of the answer's type is refused first (`success_of_unhindered`).
  A handler's own wait drops the answer (`not_answerKept`).
-/
import AwsIot.Mqtt.AckCorrelation
import AwsIot.Mqtt.AnswerDelivered

set_option autoImplicit false

namespace AwsIot.Mqtt

open AwsIot.Foundation Program

/-! ## Steps that send and read nothing -/

/-- The packet that the event has sent. -/
def sentOf : Event → Option (List UInt8)
  | .sent packet => some packet
  | _ => none

/-- From `w` to `w'` nothing was sent or read, and no handler was called. -/
structure Silent (w w' : World) : Prop where
  along : Along w w'
  unsent : Shows sentOf [] w w'
  unread : ∀ t, Sees t [] w w'
  taken : takenBytes w'.history = takenBytes w.history
  size : w'.client.readBufSize = w.client.readBufSize

/-- What halted had not sent or read anything. -/
structure SilentHalted (w w' : World) : Prop where
  unsent : ShowsHalted sentOf [] w w'
  unread : ∀ t, SeesNoneHalted t w w'

section Silent

variable {w w₁ w' : World}

theorem Silent.of_same (htime : w.time ≤ w'.time) (hlog : w'.log = w.log)
    (hhistory : w'.history = w.history) (hsize : w'.client.readBufSize = w.client.readBufSize) :
    Silent w w' where
  along := ⟨⟨htime, [], hhistory, hlog⟩, nests_of_log hlog, ⟨[], hlog.symm⟩, .inl hsize⟩
  unsent := .of_log hlog
  unread _ := .of_log hlog
  taken := by rw [hhistory]
  size := hsize

instance : IsPreorder World Silent where
  refl _ := .of_same (Nat.le_refl _) rfl rfl rfl
  trans _ _ _ h h' :=
    ⟨trans_of Along h.along h'.along, h.unsent.trans h'.unsent,
      fun t => (h.unread t).trans (h'.unread t), h'.taken.trans h.taken, h'.size.trans h.size⟩

theorem silent_halted : HaltsAfter Silent SilentHalted where
  refl w := ⟨(showsHalted_after _).refl w, fun _ => (showsHalted_after _).refl w⟩
  trans h h' := ⟨h.unsent.halted h'.unsent, fun t => (h.unread t).halted (h'.unread t)⟩

theorem silent_push {e : Event} (he : e.kind ≠ .handler) (he' : e.kind ≠ .packet)
    (hsent : sentOf e = none) (htakes : e.takes = 0) (w : World) : Silent w (w.push e) where
  along := along_push he w
  unsent := by
    have hpush := shows_push sentOf he w
    rw [hsent] at hpush
    exact hpush
  unread _ := sees_push he he' w
  taken := by
    show takenBytes w.history + e.takes = _
    rw [htakes, Nat.add_zero]
  size := rfl

theorem silent_tick (w : World) : Silent w w.tick := .of_same (Nat.le_succ _) rfl rfl rfl

theorem silent_onClient (w : World) {f : Client → Client}
    (hf : (f w.client).readBufSize = w.client.readBufSize) : Silent w (w.onClient f) :=
  .of_same (Nat.le_refl _) rfl rfl hf

theorem silent_withState (w : World) (s : ClientState) : Silent w (w.withState s) :=
  .of_same (Nat.le_refl _) rfl rfl rfl

/-- Starting the timer and taking a packet id. -/
theorem silent_nextPacketId (w : World) : Silent w (w.tick.onClient fun c => { c with
    nextPacketId := followingPacketId c.nextPacketId }) :=
  trans_of Silent (silent_tick w) (silent_onClient _ rfl)

theorem silent_storePacket (w : World) (packet : List UInt8) :
    Silent w (w.onClient fun c => { c with writeBuf := c.writeBuf.writeAt 0 packet }) :=
  silent_onClient w rfl

/-- Choosing a packet id. -/
theorem publishId_silent (params : PublishParams) :
    Tracks Silent SilentHalted (publishId params : M UInt16) := by
  have hcomp := tracks_compositional silent_halted
  unfold publishId
  refine hcomp.ite (fun _ => ?_) fun _ => hcomp.pure _
  refine hcomp.bind ?_ fun id => hcomp.bind ?_ fun _ => hcomp.pure _
  · exact fun w => silent_onClient w rfl
  · cases params.received with
    | none => exact hcomp.pure _
    | some index =>
      refine hcomp.bind (fun w => silent_onClient w rfl) fun _ w => ?_
      exact silent_push (by simp [Event.kind]) (by simp [Event.kind]) rfl rfl w

theorem sendPass_silent (env : Env) (length : Nat) (timer : Timer) (sent : Nat) :
    Tracks Silent SilentHalted (sendPass env length timer sent : M (Step Nat Nat)) := by
  intro w
  rw [ends_sendPass]
  have hasked : Silent w w.tick.tick := trans_of Silent (silent_tick w) (silent_tick _)
  have hwritten : Silent w (w.tick.tick.push (writeEvent env length sent w)) :=
    trans_of Silent hasked
      (silent_push (by simp [writeEvent, Event.kind]) (by simp [writeEvent, Event.kind]) rfl rfl _)
  split
  case isFalse => exact refl_of Silent w
  split
  · exact silent_tick w
  · split
    · exact hwritten
    · exact hwritten

/-- `send_packet` sends its packet last, or fails and sends nothing. -/
theorem sendPacket_silent (env : Env) (fuel length : Nat) (timer : Timer) (w : World) :
    (sendPacket env fuel length timer : M IoTError).Ends w
      (fun rc w' => rc ≠ .success ∧ Silent w w' ∨
        rc = .success ∧ ∃ packet w₁, Silent w w₁ ∧ w' = w₁.push (.sent packet))
      (SilentHalted w) := by
  have hcomp := tracks_compositional silent_halted
  unfold sendPacket
  refine ends_bind.mpr (ends_getClient.mpr ?_)
  split
  · exact .inl ⟨by decide, refl_of Silent w⟩
  refine ends_bind.mpr (ends_emit.mpr (ends_bind.mpr ?_))
  have hsending : Silent w (w.push (.sending (w.client.writeBuf.slice 0 length))) :=
    silent_push (by simp [Event.kind]) (by simp [Event.kind]) rfl rfl w
  refine (hcomp.loop (sendPass_silent env length timer) fuel 0 _).mono ?_
    (fun _ h => silent_halted.trans hsending h)
  intro sent w₁ h₁
  have hw₁ : Silent w w₁ := trans_of Silent hsending h₁
  rw [ends_ite]
  split
  · exact .inl ⟨by decide, hw₁⟩
  · exact ends_bind.mpr (ends_emit.mpr (.inr ⟨rfl, _, w₁, hw₁, rfl⟩))

end Silent

/-! ## Exchanges -/

/-- When the timer of a request that begins in `w` expires. -/
def World.deadline (env : Env) (w : World) : Nat := env.clock w.time + w.client.commandTimeoutMs

/-- Since `w` the request read the answers `seen`, and if its own was delivered it read one, or
had not sent its packet. -/
structure HasRead (env : Env) (fuel latest : Nat) (d : Delivery) (t : MessageType)
    (seen : List (List UInt8)) (w w' : World) : Prop where
  sees : Sees t seen w w'
  found : Provided env fuel latest (w.deadline env) d t w →
    d.Fair env.clock (w.deadline env) w w' → seen = [] → Shows sentOf [] w w'

/-- The request that began in `w` did not return: it read no answer, and if its own was
delivered it halted in a handler, or before its packet was sent. -/
structure Interrupted (env : Env) (fuel latest : Nat) (d : Delivery) (t : MessageType)
    (w w' : World) : Prop where
  sees : SeesNoneHalted t w w'
  found : Provided env fuel latest (w.deadline env) d t w →
    d.Fair env.clock (w.deadline env) w w' →
    ShowsHalted sentOf [] w w' ∨ ∃ new, Extends w new w' ∧ 0 < depthAfter 0 new

section Exchanges

variable {env : Env} {fuel latest : Nat} {callbacks : Callbacks M} {d : Delivery}
  {t : MessageType} {w₀ w w₁ w' : World}

theorem Silent.hasRead (h : Silent w w') : HasRead env fuel latest d t [] w w' :=
  ⟨h.unread t, fun _ _ _ => h.unsent⟩

theorem SilentHalted.interrupted (h : SilentHalted w w') :
    Interrupted env fuel latest d t w w' :=
  ⟨h.unread t, fun _ _ => .inl h.unsent⟩

theorem Received.hasRead {f : Frame} (h : Received t w f w') :
    HasRead env fuel latest d t [f.bytes] w w' :=
  ⟨h.sees, fun _ _ hnil => absurd hnil (List.cons_ne_nil _ _)⟩

variable (hmessage : ∀ call, Tracks Along Grows (callbacks.message call))
  (hnests : ∀ call, Tracks Nests NestsHalted (callbacks.message call))
  (ht : t.isReported = true)
include hmessage hnests ht

/-- The rule of an exchange: `k` looks at the answer that the request's own wait received.
Nothing was sent or read between the start `w₀` of the request and the exchange. -/
theorem ends_received (hstart : Silent w₀ w) {length : Nat} {k : M IoTError}
    {Q : IoTError → World → Prop}
    (hfail : ∀ rc w', rc ≠ .success → HasRead env fuel latest d t [] w₀ w' → Q rc w')
    (hk : ∀ f w', Received t w₀ f w' → k.Ends w' Q (Interrupted env fuel latest d t w₀)) :
    (do let rc ← sendPacket env fuel length (w₀.deadline env)
        if rc ≠ .success then return rc
        let rc ← waitForRead env fuel callbacks t (w₀.deadline env)
        if rc ≠ .success then return rc
        k : M IoTError).Ends w Q (Interrupted env fuel latest d t w₀) := by
  refine ends_bind.mpr ((sendPacket_silent env fuel length _ w).mono ?_
    (fun _ h => (silent_halted.trans hstart h).interrupted))
  rintro rc w₁ (⟨hrc, hsilent⟩ | ⟨rfl, packet, w₂, hsilent, rfl⟩)
  · rw [if_pos hrc]
    exact hfail rc w₁ hrc (trans_of Silent hstart hsilent).hasRead
  rw [if_neg (by simp)]
  have hunsent : Silent w₀ w₂ := trans_of Silent hstart hsilent
  have halong : Along w₀ (w₂.push (.sent packet)) :=
    trans_of Along hunsent.along (along_push (by simp [Event.kind]) w₂)
  have hsees : Sees t [] w₀ (w₂.push (.sent packet)) :=
    (hunsent.unread t).trans (sees_push (by simp [Event.kind]) (by simp [Event.kind]) w₂)
  have hwait : Waiting env callbacks (d.feed env.clock (w₀.deadline env) w₀).Moves :=
    waiting_along hmessage
  have hfound : Provided env fuel latest (w₀.deadline env) d t w₀ →
      (d.feed env.clock (w₀.deadline env) w₀).Ends
        (waitForRead env fuel callbacks t (w₀.deadline env)) (w₂.push (.sent packet))
        fun rc _ => rc = .success := by
    intro hp
    refine Feed.Ends.of_fair (hwait.cycling.waitForRead fuel t _) halong fun hfair => ?_
    have hfront : d.InFront (takenBytes w₀.history) (takenBytes w₂.history) :=
      ⟨0, Nat.zero_le _, by rw [hunsent.taken]; rfl⟩
    exact waitForRead_onTheWay hp hmessage hnests ht halong
      (OnTheWay.push hp hunsent.along.1 hfront rfl rfl rfl hfair)
  refine ends_bind.mpr (((waitForRead_sees (delivering_sees hnests) ht _).and
    (ends_imp hfound)).mono ?_ ?_)
  · rintro rc w' ⟨⟨rfl, f, hf⟩ | ⟨hrc, hnone⟩, hown⟩
    · rw [if_neg (by simp)]
      exact hk f w' (hf.after hsees)
    · rw [if_pos hrc]
      exact hfail rc w' hrc ⟨hsees.trans hnone, fun hp hfair => absurd ((hown hp).2 hfair) hrc⟩
  · exact fun w' h => ⟨hsees.halted h.1, fun hp hfair => .inr (h.2 hp hfair)⟩

end Exchanges

/-! ## The requests -/

/-- The request that began in `w` returned `rc`: SUCCESS exactly if the parser for `t` accepts
the first answer that it read. -/
def Judged (env : Env) (fuel latest : Nat) (d : Delivery) (t : MessageType) (rc : IoTError)
    (w w' : World) : Prop :=
  ∃ seen, HasRead env fuel latest d t seen w w' ∧
    (rc = .success ↔ ∃ packet, seen.head? = some packet ∧
      accepts t w'.client.readBufSize packet = true)

/-- What a request does before its internal function: the timer is still to be started. -/
structure Begins (w w' : World) : Prop where
  silent : Silent w w'
  time : w'.time = w.time
  timeout : w'.client.commandTimeoutMs = w.client.commandTimeoutMs

theorem begins_push {e : Event} (he : e.kind ≠ .handler) (he' : e.kind ≠ .packet)
    (hsent : sentOf e = none) (htakes : e.takes = 0) (w : World) : Begins w (w.push e) :=
  ⟨silent_push he he' hsent htakes w, rfl, rfl⟩

theorem begins_withState (w : World) (s : ClientState) : Begins w (w.withState s) :=
  ⟨silent_withState w s, rfl, rfl⟩

section Judged

variable {env : Env} {fuel latest : Nat} {d : Delivery} {t : MessageType} {rc : IoTError}
  {w w₁ w' : World}

theorem HasRead.judged_of_none (h : HasRead env fuel latest d t [] w w') (hrc : rc ≠ .success) :
    Judged env fuel latest d t rc w w' :=
  ⟨[], h, iff_of_false hrc (by simp)⟩

theorem Received.judged {f : Frame} (h : Received t w f w')
    (hrc : rc = .success ↔ parserAccepts t w'.client.readBuf w'.client.readBufSize = true) :
    Judged env fuel latest d t rc w w' := by
  refine ⟨[f.bytes], h.hasRead, ?_⟩
  rw [hrc, parserAccepts_eq_accepts h.held h.type]
  simp

theorem HasRead.before {seen : List (List UInt8)} (h : HasRead env fuel latest d t seen w w₁)
    (h' : Silent w₁ w') : HasRead env fuel latest d t seen w w' where
  sees := by simpa using h.sees.trans (h'.unread t)
  found hp hfair hnil :=
    (h.found hp (Delivery.Fair.of_grows h'.along.1 hfair) hnil).trans h'.unsent

theorem Judged.before (h : Judged env fuel latest d t rc w w₁) (h' : Silent w₁ w') :
    Judged env fuel latest d t rc w w' := by
  obtain ⟨seen, hread, hrc⟩ := h
  exact ⟨seen, hread.before h', by rw [h'.size]; exact hrc⟩

theorem Begins.deadline_eq (h : Begins w w₁) : w₁.deadline env = w.deadline env := by
  rw [World.deadline, World.deadline, h.time, h.timeout]

theorem Begins.provided (h : Begins w w₁)
    (hp : Provided env fuel latest (w.deadline env) d t w) :
    Provided env fuel latest (w₁.deadline env) d t w₁ where
  clock := hp.clock
  arrives := by
    rw [h.deadline_eq]
    exact ⟨hp.arrives.arrived, by rw [h.silent.taken]; exact hp.arrives.stream,
      by rw [h.silent.taken]; exact hp.arrives.inTime, hp.arrives.type, hp.arrives.length⟩
  passes := by rw [h.deadline_eq]; exact hp.passes
  lasts := by rw [h.time]; exact hp.lasts
  frames := hp.frames
  fits := by rw [h.silent.size]; exact hp.fits

theorem Begins.fair (h : Begins w w₁) (hfair : d.Fair env.clock (w.deadline env) w w') :
    d.Fair env.clock (w₁.deadline env) w₁ w' := by
  rw [h.deadline_eq]
  exact hfair.after h.silent.along.1 h.silent.taken

theorem Judged.after (h : Begins w w₁) (h' : Judged env fuel latest d t rc w₁ w') :
    Judged env fuel latest d t rc w w' := by
  obtain ⟨seen, hread, hrc⟩ := h'
  refine ⟨seen, ⟨(h.silent.unread t).trans hread.sees, fun hp hfair hnil => ?_⟩, hrc⟩
  exact h.silent.unsent.trans (hread.found (h.provided hp) (h.fair hfair) hnil)

theorem Interrupted.after (h : Begins w w₁) (h' : Interrupted env fuel latest d t w₁ w') :
    Interrupted env fuel latest d t w w' := by
  refine ⟨(h.silent.unread t).halted h'.sees, fun hp hfair => ?_⟩
  rcases h'.found (h.provided hp) (h.fair hfair) with hunsent | ⟨new, hnew, hrunning⟩
  · exact .inl (h.silent.unsent.halted hunsent)
  · obtain ⟨before, hbefore, hbalanced⟩ := h.silent.along.2.1
    exact .inr ⟨before ++ new, hbefore.trans hnew, by
      rw [depthAfter_append, hbalanced.depth]; exact hrunning⟩

end Judged

section Requests

variable {env : Env} {fuel latest : Nat} {callbacks : Callbacks M} {d : Delivery}
  (hmessage : ∀ call, Tracks Along Grows (callbacks.message call))
  (hnests : ∀ call, Tracks Nests NestsHalted (callbacks.message call))
  (w : World)
include hmessage hnests

theorem internalPublish_sees (topicName : CharPtr) (topicNameLen : UInt16)
    (params : PublishParams) (hqos : params.qos = .qos1) :
    (internalPublish env fuel callbacks topicName topicNameLen params : M IoTError).Ends w
      (fun rc w' => Judged env fuel latest d .puback rc w w')
      (Interrupted env fuel latest d .puback w) := by
  unfold internalPublish
  simp only [ends_bind, ends_getClient, ends_countdownMs]
  refine (publishId_silent params _).mono ?_
    (fun _ h => (silent_halted.trans (silent_tick w) h).interrupted)
  intro id w₁ hid
  have h₁ : Silent w w₁ := trans_of Silent (silent_tick w) hid
  simp only [ends_bind, if_pos hqos, ends_storePacket]
  split
  case h_1 => exact (silent_halted.trans h₁ (silent_halted.refl w₁)).interrupted
  case h_2 rc hser =>
    exact h₁.hasRead.judged_of_none (IoTError.ne_success_of_isError (serializePublish_error hser))
  case h_3 packet hser =>
    have hstored := trans_of Silent h₁ (silent_storePacket w₁ packet)
    refine ends_bind.mp (ends_received hmessage hnests rfl hstored ?_ ?_)
    · exact fun rc w' hrc h => h.judged_of_none hrc
    · intro f w' hf
      simp only [ends_bind, ends_getClient]
      cases hack : deserializeAck w'.client.readBuf w'.client.readBufSize with
      | error rc =>
        refine hf.judged (iff_of_false ?_ ?_)
        · exact IoTError.ne_success_of_isError (deserializeAck_error hack)
        · simp [parserAccepts, hack, Except.isOk, Except.toBool]
      | ok ack =>
        refine hf.judged (iff_of_true rfl ?_)
        simp [parserAccepts, hack, Except.isOk, Except.toBool]

theorem internalSubscribe_sees (topicName : CharPtr) (topicNameLen : UInt16) (qos : QoS)
    (handler data : Nat) :
    (internalSubscribe env fuel callbacks topicName topicNameLen qos handler data :
      M IoTError).Ends w (fun rc w' => Judged env fuel latest d .suback rc w w')
      (Interrupted env fuel latest d .suback w) := by
  unfold internalSubscribe
  simp only [ends_bind, ends_getClient, ends_countdownMs, ends_getNextPacketId, ends_storePacket]
  have hid := silent_nextPacketId w
  split
  case h_1 => exact (silent_halted.trans hid (silent_halted.refl _)).interrupted
  case h_2 rc hser =>
    exact hid.hasRead.judged_of_none
      (IoTError.ne_success_of_isError (serializeSubscribe_error hser))
  case h_3 packet hser =>
    have hstored := trans_of Silent hid (silent_storePacket _ packet)
    simp only [ends_getFreeMessageHandlerIndex]
    rw [ends_ite]
    split
    · exact hstored.hasRead.judged_of_none (by decide)
    refine ends_received hmessage hnests rfl hstored ?_ ?_
    · exact fun rc w' hrc h => h.judged_of_none hrc
    · intro f w' hf
      simp only [ends_bind, ends_getClient, ends_ite, ends_registerHandler, ends_pure]
      split
      case isTrue hrc => exact hf.judged (by simp [parserAccepts])
      case isFalse hrc =>
        refine (hf.judged (by simp [parserAccepts, not_not.mp hrc])).before ?_
        exact trans_of Silent (silent_onClient w' rfl)
          (silent_push (by simp [Event.kind]) (by simp [Event.kind]) rfl rfl _)

theorem internalUnsubscribe_sees (topicFilter : CharPtr) (topicFilterLen : UInt16) :
    (internalUnsubscribe env fuel callbacks topicFilter topicFilterLen : M IoTError).Ends w
      (fun rc w' => Judged env fuel latest d .unsuback rc w w')
      (Interrupted env fuel latest d .unsuback w) := by
  unfold internalUnsubscribe
  simp only [ends_bind, ends_getClient, ends_ite]
  split
  · exact (refl_of Silent w).hasRead.judged_of_none (by decide)
  simp only [ends_bind, ends_countdownMs, ends_getNextPacketId, ends_storePacket]
  have hid := silent_nextPacketId w
  split
  case h_1 => exact (silent_halted.trans hid (silent_halted.refl _)).interrupted
  case h_2 rc hser =>
    exact hid.hasRead.judged_of_none
      (IoTError.ne_success_of_isError (serializeUnsubscribe_error hser))
  case h_3 packet hser =>
    have hstored := trans_of Silent hid (silent_storePacket _ packet)
    refine ends_bind.mp (ends_received hmessage hnests rfl hstored ?_ ?_)
    · exact fun rc w' hrc h => h.judged_of_none hrc
    · intro f w' hf
      simp only [ends_bind, ends_getClient]
      cases hack : deserializeUnsuback w'.client.readBuf w'.client.readBufSize with
      | error rc =>
        refine hf.judged (iff_of_false ?_ ?_)
        · exact IoTError.ne_success_of_isError (deserializeUnsuback_error hack)
        · simp [parserAccepts, hack, Except.isOk, Except.toBool]
      | ok id =>
        have hjudged : Judged env fuel latest d .unsuback .success w w' := hf.judged
          (iff_of_true rfl (by simp [parserAccepts, hack, Except.isOk, Except.toBool]))
        refine hjudged.before ?_
        exact trans_of Silent (silent_onClient w' rfl)
          (silent_push (by simp [Event.kind]) (by simp [Event.kind]) rfl rfl _)

omit hmessage hnests in
/-- A request whose client state is kept returns what its internal function does. -/
theorem performRequest_sees {t : MessageType} {operation : Operation}
    (hop : operation.inProgress.isHeld = true) {internal : M IoTError}
    (hi : ∀ w, internal.Ends w (fun rc w' => Judged env fuel latest d t rc w w')
      (Interrupted env fuel latest d t w))
    (hkeeps : Returns KeepsHeld internal) (s : ClientState) :
    (performRequest operation s internal : M IoTError).Ends (w.withState operation.inProgress)
      (fun rc w' => Judged env fuel latest d t rc w w' ∨ Touched w w')
      (Interrupted env fuel latest d t w) := by
  have hstart : Begins w (w.withState operation.inProgress) := begins_withState w _
  unfold performRequest
  simp only [ends_bind, ends_within, ends_pure]
  refine ((hi _).and (hkeeps _)).mono ?_ (fun _ h => h.1.after hstart)
  rintro opRc w₁ ⟨hjudged, hkept⟩
  have hw₁ : Judged env fuel latest d t opRc w w₁ := hjudged.after hstart
  rw [ends_setClientState]
  split
  · rw [if_neg (by simp)]
    exact .inl (hw₁.before (silent_withState w₁ _))
  case isFalse hleft =>
    obtain ⟨new, hnew, hnot⟩ := (hkept.2 hop).resolve_left fun hsame => hleft hsame.symm
    exact .inr ⟨new, hnew, hnot⟩

omit hmessage hnests in
theorem request_sees {t : MessageType} {operation : Operation}
    (hop : operation.inProgress.isHeld = true) {internal : M IoTError}
    (hi : ∀ w, internal.Ends w (fun rc w' => Judged env fuel latest d t rc w w')
      (Interrupted env fuel latest d t w))
    (hkeeps : Returns KeepsHeld internal) :
    (request operation internal : M IoTError).Ends w
      (fun rc w' => Judged env fuel latest d t rc w w' ∨ Touched w w')
      (Interrupted env fuel latest d t w) := by
  unfold request
  simp only [ends_bind, ends_getClientState, ends_ite, ends_pure, ends_setClientState]
  split
  · exact .inl ((refl_of Silent w).hasRead.judged_of_none (by decide))
  split
  · exact .inl ((refl_of Silent w).hasRead.judged_of_none (by decide))
  rw [if_pos trivial, if_neg (by simp)]
  exact performRequest_sees w hop hi hkeeps _

omit hmessage hnests in
theorem unsubscribeRequest_sees {t : MessageType} {internal : M IoTError}
    (hi : ∀ w, internal.Ends w (fun rc w' => Judged env fuel latest d t rc w w')
      (Interrupted env fuel latest d t w))
    (hkeeps : Returns KeepsHeld internal) :
    (unsubscribeRequest internal : M IoTError).Ends w
      (fun rc w' => Judged env fuel latest d t rc w w' ∨ Touched w w')
      (Interrupted env fuel latest d t w) := by
  unfold unsubscribeRequest
  simp only [ends_bind, ends_getClientState, ends_ite, ends_pure, ends_setClientState]
  split
  · exact .inl ((refl_of Silent w).hasRead.judged_of_none (by decide))
  split
  · exact .inl ((refl_of Silent w).hasRead.judged_of_none (by decide))
  rw [if_pos trivial, if_neg (by simp)]
  have hop : Operation.unsubscribe.inProgress.isHeld = true := rfl
  exact performRequest_sees w hop hi hkeeps _

/-- A call that awaits an answer. -/
theorem dispatch_sees (hkeeps : Waiting env callbacks (Returns KeepsHeld)) {call : ApiCall}
    {t : MessageType} (hawait : call.awaitedAck = some t) :
    (dispatch env fuel callbacks call : M IoTError).Ends w
      (fun rc w' => Judged env fuel latest d t rc w w' ∨ Touched w w')
      (Interrupted env fuel latest d t w) := by
  have hrefused : Judged env fuel latest d t .nullValueError w w :=
    (refl_of Silent w).hasRead.judged_of_none (by decide)
  cases call with
  | publish topicName topicNameLen params =>
    cases params with
    | none => simp [ApiCall.awaitedAck] at hawait
    | some params =>
      have hqos : params.qos = .qos1 := by
        by_contra hne
        simp [ApiCall.awaitedAck, hne] at hawait
      obtain rfl : .puback = t := by simpa [ApiCall.awaitedAck, hqos] using hawait
      cases topicName with
      | none => exact .inl hrefused
      | some topicName =>
        simp only [dispatch, publish, ends_ite]
        split
        · exact .inl hrefused
        · exact request_sees w rfl
            (fun w => internalPublish_sees hmessage hnests w _ _ _ hqos)
            (hkeeps.cycling.internalPublish fuel _ _ _)
  | subscribe topicName topicNameLen qos handler data =>
    obtain rfl : .suback = t := by simpa [ApiCall.awaitedAck] using hawait
    cases topicName with
    | none => exact .inl hrefused
    | some topicName =>
      cases handler with
      | none => exact .inl hrefused
      | some handler =>
        exact request_sees w rfl
          (fun w => internalSubscribe_sees hmessage hnests w _ _ _ _ _)
          (hkeeps.internalSubscribe fuel _ _ _ _ _)
  | unsubscribe topicFilter topicFilterLen =>
    obtain rfl : .unsuback = t := by simpa [ApiCall.awaitedAck] using hawait
    cases topicFilter with
    | none => exact .inl hrefused
    | some topicFilter =>
      exact unsubscribeRequest_sees w
        (fun w => internalUnsubscribe_sees hmessage hnests w _ _)
        (hkeeps.internalUnsubscribe fuel _ _)
  | _ => simp [ApiCall.awaitedAck] at hawait

end Requests

theorem apiCall_sees (env : Env) (fuel depth latest : Nat) (d : Delivery) {call : ApiCall}
    {t : MessageType} (hawait : call.awaitedAck = some t) (w : World) :
    (apiCall env fuel depth call : M IoTError).Ends w
      (fun rc w' => Judged env fuel latest d t rc w w' ∨ Touched w w')
      (Interrupted env fuel latest d t w) := by
  cases depth with
  | zero => exact (silent_halted.refl w).interrupted
  | succ depth =>
    have hcalled : Begins w (w.push (.called call)) :=
      begins_push (by simp [Event.kind]) (by simp [Event.kind]) rfl rfl w
    unfold apiCall
    simp only [ends_bind, ends_emit, ends_within, ends_pure]
    refine (dispatch_sees (along_message env fuel depth) (nests_message env fuel depth)
      (w.push (.called call)) (waiting_keepsHeld_calls env fuel depth) hawait).mono ?_
      (fun _ h => h.after hcalled)
    rintro rc w' (hjudged | htouched)
    · exact .inl ((hjudged.after hcalled).before
        (silent_push (by simp [Event.kind]) (by simp [Event.kind]) rfl rfl w'))
    · exact .inr ((htouched.after (logGrows_push w _)).before (logGrows_push w' _))

/-! ## Answers that arrive -/

/-- The packet as it stands in the read buffer. -/
def WireFrame.frame (f : WireFrame) : Frame := ⟨f.header, f.body⟩

/-- In the call that began in `w`, the request's packet was sent, and the network delivers its
answer, whole, behind other packets and before the request's timer expires.  The client stays
connected, and handlers and loops come to an end. -/
structure AnswerDelivered (env : Env) (fuel : Nat) (call : ApiCall) (t : MessageType)
    (d : Delivery) (w w' : World) : Prop where
  /-- The clock does not go back. -/
  clock : Monotone env.clock
  /-- The packets arrive. -/
  arrives : d.Arrives env.clock (w.deadline env) t w
  /-- A read takes what has arrived. -/
  reads : ∀ p ∈ w.passed w', d.Serves p.1 (takenBytes p.2)
  /-- The answer is for the packet that was sent. -/
  sent : ∃ request ∈ shown sentOf (w.stretch w'),
    call.IsRequest request ∧ packetIdOf d.answer.frame.bytes = packetIdOf request
  /-- Nothing happens to the connection. -/
  calm : Calm (w.stretch w')
  /-- Every handler returns. -/
  returned : depthAfter 0 (w.stretch w') = 0
  /-- Fuel until the timer expires. -/
  lasts : ∃ latest, w.deadline env ≤ env.clock latest ∧ latest < w.time + fuel
  /-- Fuel for every packet. -/
  frames : ∀ f ∈ d.packets, f.bytes.length ≤ fuel

/-- The request can take its answer: no handler has taken it, the client is back at the stream
before the timer expires, the read buffer can hold the answer, and any other packet of its type
that the request reads is accepted by the parser. -/
structure Unhindered (env : Env) (t : MessageType) (d : Delivery) (w w' : World) : Prop where
  left : ∀ p ∈ w.passed w', d.LeftBy (takenBytes w.history) p.1 (takenBytes p.2)
  prompt : ∀ p ∈ w.passed w',
    d.Prompt env.clock (w.deadline env) (takenBytes w.history) p.1 (takenBytes p.2)
  fits : d.answer.body.length + 2 ≤ w.client.readBufSize
  others : ∀ packet ∈ shown (ackOf t) (w.stretch w'),
    packet = d.answer.frame.bytes ∨ accepts t w.client.readBufSize packet = true

/-- The parser for an answer accepts a complete one. -/
theorem Delivery.Arrives.accepts {d : Delivery} {clock : Nat → Nat} {deadline : Nat}
    {t : MessageType} {w : World} (h : d.Arrives clock deadline t w) {size : Nat}
    (hfits : d.answer.body.length + 2 ≤ size) :
    accepts t size d.answer.frame.bytes = true := by
  have hheld : d.answer.frame.HeldBy { zeroedClient with
      readBuf := Memory.writeAt (fun _ => 0) 0 d.answer.frame.bytes, readBufSize := size } := by
    show (Memory.writeAt _ 0 d.answer.frame.bytes).slice 0 d.answer.frame.bytes.length = _
    exact Memory.slice_writeAt_self
  refine (parserAccepts_iff hheld h.type).mpr ?_
  have hlength := h.length
  have hsmall : d.answer.body.length % 2 ^ 32 = d.answer.body.length :=
    Nat.mod_eq_of_lt (by split at hlength <;> omega)
  cases t with
  | suback =>
    replace hlength : d.answer.body.length = 3 := hlength
    have hcodes : subackCodes d.answer.frame.bytes = some ((d.answer.body.take 3).drop 2) := by
      unfold subackCodes
      rw [readSubackHeader_frame h.type]
      simp [WireFrame.frame, hlength]
    exact ⟨show 5 ≤ size by omega, _, hcodes, by simp [hlength]⟩
  | _ =>
    replace hlength : d.answer.body.length = 2 := hlength
    refine ⟨show 4 ≤ size by omega, ?_⟩
    show d.answer.body.length % 2 ^ 32 < 128 ^ 4 ∧ 2 ≤ d.answer.body.length % 2 ^ 32
    omega

/-- A publish is sent under packet id 3; while it waits, a message arrives whose handler makes
`call`, and then, behind question `t`, the PUBACK for packet id 3 and a SUBACK. -/
def interruptedEnv (call : ApiCall) (t : Nat) : Env :=
  { sessionEnv [(15, [0x90, 3, 0, 2, 1]), (23, [0x30, 4, 0, 1, 0x61, 0x70]),
      (t, [0x40, 2, 0, 3]), (37, [0x90, 3, 0, 4, 1])] with
    clock := fun n => if n < 44 then n else n + 30000
    messageHandler := fun n => if n = 27 then some call else none }

/-- The remaining length of the message to topic `a`. -/
theorem messageLength_valid : (Reader.base128 4).run [4] = some ([0, 1, 0x61, 0x70].length, []) :=
  rfl

/-- The remaining length of the PUBACK. -/
theorem pubackLength_valid : (Reader.base128 4).run [2] = some ([0, 3].length, []) := rfl

/-- What the network delivers to the publish. -/
def interruptedDelivery (t : Nat) : Delivery where
  stream := Memory.writeAt (fun _ => 0) 9
    [0x30, 4, 0, 1, 0x61, 0x70, 0x40, 2, 0, 3, 0x90, 3, 0, 4, 1]
  arrived n := if n < 24 then 9 else if n ≤ t then 15 else 24
  before := [⟨0x30, [4], [0, 1, 0x61, 0x70], messageLength_valid⟩]
  answer := ⟨0x40, [2], [0, 3], pubackLength_valid⟩

/-- A client that subscribed to `a`. -/
def World.subscribedA (call : ApiCall) (t : Nat) : World :=
  World.after (interruptedEnv call t) 60 (sessionCalls [subscribeTo 0x61])

/-- The publish. -/
def interruptedRun (call : ApiCall) (t : Nat) : Outcome World IoTError :=
  (apiCall (interruptedEnv call t) 60 8 plainPublish : M IoTError).run (World.subscribedA call t)

/-- A publish with QoS 0, which waits for nothing. -/
def unacknowledgedPublish : ApiCall :=
  .publish (some ⟨[0x62]⟩) 1 (some ⟨.qos0, 0, 0, some ⟨[0x70]⟩, 1, none⟩)

theorem interruptedEnv_clock (call : ApiCall) (t : Nat) :
    Monotone (interruptedEnv call t).clock := by
  intro n m hle
  show (if n < 44 then n else n + 30000) ≤ if m < 44 then m else m + 30000
  split <;> split <;> omega

theorem interruptedDelivery_arrived (t : Nat) : Monotone (interruptedDelivery t).arrived := by
  intro n m hle
  show (if n < 24 then 9 else if n ≤ t then 15 else 24) ≤
    if m < 24 then 9 else if m ≤ t then 15 else 24
  repeat' split
  all_goals omega

theorem plainPublish_request : plainPublish.IsRequest [0x32, 6, 0, 1, 0x74, 0, 3, 0x70] :=
  ⟨512, 3, [0x32, 6, 0, 1, 0x74, 0, 3, 0x70], by decide +kernel, by decide +kernel⟩

end AwsIot.Mqtt
