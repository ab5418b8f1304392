/-
  Mqtt/PublishAck.lean --- the acknowledgement of a message.

  `handle_publish` keeps the message it parsed in a local structure, calls the handlers
  with a pointer to it, and acknowledges the packet id it finds there afterwards.  What
  the handlers do to the buffers and to the connection does not reach that id.  A publish
  does: it stores its own packet id in the structure it is given, and a handler may give
  it the message it was called with.  While no publish does so, each message is
  acknowledged once, behind its handlers and with its own id (`handlePublish_acknowledges`).
-/
import AwsIot.Mqtt.Nesting
import AwsIot.Mqtt.RequestRules

set_option autoImplicit false

namespace AwsIot.Mqtt

open AwsIot.Foundation Program

/-! ## Messages under way -/

/-- A publish stored its packet id in the message of a running handler. -/
def Event.storesId : Event → Bool
  | .idStored .. => true
  | _ => false

/-- No publish stored its packet id in the message of a running handler. -/
def Unstored (new : List Event) : Prop := ∀ e ∈ new, e.storesId = false

instance (new : List Event) : Decidable (Unstored new) :=
  inferInstanceAs (Decidable (∀ e ∈ new, e.storesId = false))

theorem Unstored.left {new more : List Event} (h : Unstored (new ++ more)) : Unstored new :=
  fun e he => h e (List.mem_append_left more he)

theorem Unstored.right {new more : List Event} (h : Unstored (new ++ more)) : Unstored more :=
  fun e he => h e (List.mem_append_right new he)

/-- Since `w` the messages under way are the same and have the same ids, unless a publish
stored one. -/
def KeepsMessages (w w' : World) : Prop :=
  ∃ new, Extends w new w' ∧ (Unstored new → w'.client.receivedIds = w.client.receivedIds)

instance : IsPreorder World KeepsMessages where
  refl w := ⟨[], Extends.refl w, fun _ => rfl⟩
  trans := by
    rintro w w₁ w' ⟨new, hnew, hids⟩ ⟨more, hmore, hids'⟩
    exact ⟨new ++ more, hnew.trans hmore, fun hunstored =>
      (hids' hunstored.right).trans (hids hunstored.left)⟩

theorem keepsMessages_onClient {f : Client → Client}
    (hf : ∀ c, (f c).receivedIds = c.receivedIds) (w : World) : KeepsMessages w (w.onClient f) :=
  ⟨[], Extends.of_log rfl, fun _ => hf w.client⟩

theorem keepsMessages_push (w : World) (e : Event) : KeepsMessages w (w.push e) :=
  ⟨[e], (Extends.refl w).push e, fun _ => rfl⟩

theorem keepsMessages_update {f : Client → Client}
    (hf : ∀ c, (f c).receivedIds = c.receivedIds) (w : World) (e : Event) :
    KeepsMessages w ((w.onClient f).push e) :=
  trans_of KeepsMessages (keepsMessages_onClient hf w) (keepsMessages_push _ e)

/-- Every primitive keeps the messages under way. -/
theorem keepsMessages_primitives (env : Env) :
    Primitives (m := M) env (Returns KeepsMessages) where
  toCompositional := returns_compositional KeepsMessages
  getClient w := refl_of KeepsMessages w
  modifyClient hf w := keepsMessages_onClient hf.received.2 w
  ask _ _ := ⟨[], Extends.of_log rfl, fun _ => rfl⟩
  emit _ w := keepsMessages_push w _
  -- the one update of an id leaves its mark
  storeReceivedId index id w :=
    ⟨[.idStored index id], (Extends.of_log rfl).push _,
      fun hunstored => absurd (hunstored _ List.mem_cons_self) (by simp [Event.storesId])⟩
  emitPacket _ w := keepsMessages_push w _
  emitConnection _ w := keepsMessages_push w _
  getClientState w := refl_of KeepsMessages w
  setClientState site old new w := by
    rw [ends_setClientState]
    split
    · exact keepsMessages_onClient (fun _ => rfl) w
    · exact refl_of KeepsMessages w
  assignClientState _ w := keepsMessages_onClient (fun _ => rfl) w
  within hx := hx
  startInterval w := keepsMessages_update (fun _ => rfl) w _
  doubleInterval w := trans_of KeepsMessages (keepsMessages_push w _)
    (keepsMessages_onClient (fun _ => rfl) _)
  registerHandler _ _ w := keepsMessages_update (fun _ => rfl) w _
  clearHandlers _ w := keepsMessages_update (fun _ => rfl) w _
  resetHandlers w := keepsMessages_update (fun _ => rfl) w _
  modifyTable _ hf w := keepsMessages_onClient hf w

theorem keepsMessages_modifyTimer {f : Client → Client} (hf : KeepsReceived f) :
    Returns KeepsMessages (modifyClient f : M Unit) := keepsMessages_onClient hf.2

theorem keepsMessages_everything (env : Env) :
    Everything (m := M) env (Returns KeepsMessages) :=
  (keepsMessages_primitives env).toSteering.everything keepsMessages_modifyTimer
    fun fuel hcycle => hcycle.internalResubscribe fuel fun _ w => keepsMessages_push w _

/-- The message of a `handle_publish` is under way only while it delivers. -/
theorem deliverReceived_keepsMessages {env : Env} {callbacks : Callbacks M} {msg : IncomingPublish}
    (hdeliver : Returns KeepsMessages (deliverMessage env callbacks msg : M IoTError)) :
    Returns KeepsMessages (deliverReceived env callbacks msg : M (IoTError × Option UInt16)) := by
  intro w
  rw [ends_deliverReceived]
  refine (hdeliver (w.receiving msg)).mono ?_ (fun _ h => h)
  rintro rc w₁ ⟨new, hnew, hids⟩
  refine ⟨new, hnew, fun hunstored => ?_⟩
  show w₁.client.receivedIds.tail = w.client.receivedIds
  rw [hids hunstored]
  rfl

theorem serving_of_keepsMessages {env : Env} {callbacks : Callbacks M}
    (hmessage : ∀ call, Returns KeepsMessages (callbacks.message call)) :
    Serving env callbacks (Returns KeepsMessages) :=
  (keepsMessages_primitives env).serving (fun _ w => keepsMessages_push w _) hmessage
    deliverReceived_keepsMessages

theorem keepsMessages_apiCall (env : Env) (fuel depth : Nat) (call : ApiCall) :
    Returns KeepsMessages (apiCall env fuel depth call : M IoTError) :=
  (keepsMessages_everything env).apiCall fuel (fun _ w => keepsMessages_push w _)
    (fun _ ih =>
      serving_of_keepsMessages ((keepsMessages_everything env).applicationCallbacks fuel ih).1)
    depth call

/-- Handlers that call the client keep the messages under way. -/
theorem keepsMessages_message (env : Env) (fuel depth : Nat) :
    ∀ call, Returns KeepsMessages
      ((applicationCallbacks env fuel (apiCall env fuel depth)).message call) :=
  ((keepsMessages_everything env).applicationCallbacks fuel
    (keepsMessages_apiCall env fuel depth)).1

/-! ## Outside the handlers -/

theorem outside_of_kind {new : List Event} (h : ∀ e ∈ new, e.kind ≠ .handler) :
    Balanced new ∧ outside 0 new = new := by
  induction new with
  | nil => exact ⟨Balanced.nil, rfl⟩
  | cons e new ih =>
    obtain ⟨hbalanced, houtside⟩ := ih fun e he => h e (List.mem_cons_of_mem _ he)
    have he := Balanced.single (h e List.mem_cons_self)
    refine ⟨he.append hbalanced, ?_⟩
    have hcons := he.outside_append new
    rw [houtside] at hcons
    exact hcons

/-- Since `w` the client called handlers and did nothing else outside them. -/
def OnlyCalls (w w' : World) : Prop :=
  ∃ calls : List HandlerCall, Shows some (calls.map .handlerCalled) w w'

instance : IsPreorder World OnlyCalls where
  refl _ := ⟨[], Shows.of_log rfl⟩
  trans := by
    rintro w w₁ w' ⟨calls, hcalls⟩ ⟨more, hmore⟩
    exact ⟨calls ++ more, by rw [List.map_append]; exact hcalls.trans hmore⟩

/-- A delivery calls handlers and does nothing else outside them. -/
theorem deliverMessage_onlyCalls {callbacks : Callbacks M}
    (hmessage : ∀ call, Tracks Nests NestsHalted (callbacks.message call)) (env : Env)
    (msg : IncomingPublish) :
    Returns OnlyCalls (deliverMessage env callbacks msg : M IoTError) := by
  have hcomp := returns_compositional OnlyCalls
  have hslot : ∀ itr, Returns OnlyCalls (deliverToSlot callbacks msg itr : M Unit) := by
    intro itr w
    refine (deliverToSlot_shows hmessage some msg itr w).mono ?_ (fun _ _ => trivial)
    intro _ w' hshows
    refine ⟨(slotCall w.client msg itr).toList, ?_⟩
    cases hcall : slotCall w.client msg itr with
    | none => simpa [hcall] using hshows
    | some call => simpa [hcall] using hshows
  have hset : ∀ site old new, Returns OnlyCalls (setClientState site old new : M IoTError) := by
    intro site old new w
    rw [ends_setClientState]
    split
    · exact ⟨[], Shows.of_log rfl⟩
    · exact refl_of OnlyCalls w
  refine hcomp.bind (fun w => refl_of OnlyCalls w) fun s => hcomp.bind (hset _ _ _) fun _ => ?_
  exact hcomp.bind (hcomp.forEach hslot _) fun _ => hset _ _ _

/-! ## Whole writes -/

/-- If the event is a write, the network took it whole. -/
def Event.isWhole : Event → Bool
  | .netWrite _ offered rc sentLen => rc = .success && sentLen = offered.length
  | _ => true

/-- The network took every write of a stretch whole. -/
def WritesWhole (new : List Event) : Prop := ∀ e ∈ new, e.isWhole = true

instance (new : List Event) : Decidable (WritesWhole new) :=
  inferInstanceAs (Decidable (∀ e ∈ new, e.isWhole = true))

theorem WritesWhole.left {new more : List Event} (h : WritesWhole (new ++ more)) :
    WritesWhole new :=
  fun e he => h e (List.mem_append_left more he)

theorem WritesWhole.right {new more : List Event} (h : WritesWhole (new ++ more)) :
    WritesWhole more :=
  fun e he => h e (List.mem_append_right new he)

section Sends

variable {env : Env} {length : Nat} {w w' : World}

/-- What the log shows of a packet that was sent in one write. -/
def packetSent (packet : List UInt8) : List Event :=
  [.sending packet, .netWrite 0 packet .success packet.length, .sent packet]

/-- The send loop of a packet at `w` has put `sent` bytes on the wire: while writes are whole,
nothing or everything. -/
structure SendsWhole (length : Nat) (w : World) (sent : Nat) (w' : World) : Prop where
  /-- The client is as it was. -/
  client : w'.client = w.client
  /-- The log shows the start of the packet, and its write if there was one. -/
  log : ∃ new, Extends w new w' ∧ (∀ e ∈ new, e.kind ≠ .handler) ∧ (WritesWhole new →
    sent = 0 ∧ new = [sendingEvent length w] ∨
    sent = length ∧ new = [sendingEvent length w,
      .netWrite 0 (w.client.writeBuf.slice 0 length) .success length])

theorem SendsWhole.tick {sent : Nat} (h : SendsWhole length w sent w') :
    SendsWhole length w sent w'.tick := ⟨h.client, h.log⟩

theorem SendsWhole.start : SendsWhole length w 0 (w.push (sendingEvent length w)) :=
  ⟨rfl, [_], (Extends.refl w).push _, by simp [sendingEvent, Event.kind],
    fun _ => .inl ⟨rfl, rfl⟩⟩

/-- A write that is taken whole takes the whole packet, because it is the first one. -/
theorem SendsWhole.write {sent n : Nat} (h : SendsWhole length w sent w') (hlt : sent < length)
    (hn : ∀ k, taken env length (w'.time + 1) = some k → n = sent + k) :
    SendsWhole length w n (w'.tick.tick.push (writeEvent env length sent w')) := by
  obtain ⟨hclient, new, hnew, hkind, hwhole⟩ := h
  refine ⟨hclient, new ++ [writeEvent env length sent w'], hnew.push _, ?_, fun hwrites => ?_⟩
  · intro e he
    rcases List.mem_append.mp he with he | he
    · exact hkind e he
    · rw [List.mem_singleton.mp he]
      simp [writeEvent, Event.kind]
  have htaken := hwrites.right _ List.mem_cons_self
  simp only [writeEvent, Event.isWhole, Memory.length_slice, Bool.and_eq_true,
    decide_eq_true_eq] at htaken
  rcases hwhole hwrites.left with ⟨rfl, rfl⟩ | ⟨rfl, -⟩
  · have hall : n = length := by
      rw [hn length (by rw [taken, if_pos htaken.1, htaken.2]), Nat.zero_add]
    refine .inr ⟨hall, ?_⟩
    rw [writeEvent, htaken.1, htaken.2, hclient]
    rfl
  · exact absurd hlt (Nat.lt_irrefl sent)

theorem sendPass_sendsWhole {timer : Timer} {sent : Nat} (h : SendsWhole length w sent w') :
    (sendPass env length timer sent : M (Step Nat Nat)).Ends w'
      (fun r w'' => match r with
        | .again sent' => SendsWhole length w sent' w''
        | .stop sent' => SendsWhole length w sent' w'')
      (fun _ => True) := by
  rw [ends_sendPass]
  split
  case isFalse => exact h
  case isTrue hlt =>
    split
    case isTrue => exact h.tick
    case isFalse =>
      cases htaken : taken env length (w'.time + 1) with
      | none =>
        refine h.write hlt fun k hk => ?_
        rw [htaken] at hk
        cases hk
      | some k =>
        refine h.write hlt fun k' hk' => ?_
        rw [htaken] at hk'
        rw [Option.some.inj hk']

/-- A packet that was sent over whole writes was sent in one write. -/
theorem sendPacket_whole {fuel : Nat} {timer : Timer} {packet : List UInt8} (hpos : packet ≠ [])
    (hheld : w.client.writeBuf.slice 0 length = packet) :
    (sendPacket env fuel length timer : M IoTError).Ends w
      (fun rc w' => ∃ new, Extends w new w' ∧ (∀ e ∈ new, e.kind ≠ .handler) ∧
        (rc = .success → WritesWhole new → new = packetSent packet))
      (fun _ => True) := by
  have hlength : length = packet.length := by rw [← hheld, Memory.length_slice]
  by_cases hlen : length < w.client.writeBufSize
  · rw [ends_sendPacket hlen]
    have hloop : (loop (sendPass env length timer) fuel 0 : M Nat).Ends
        (w.push (sendingEvent length w)) (SendsWhole length w) (fun _ => True) := by
      refine ends_loop (I := SendsWhole length w) (fun sent w₁ h => ?_) (fun _ _ _ => trivial)
        fuel 0 _ SendsWhole.start
      refine (sendPass_sendsWhole h).mono ?_ (fun _ h => h)
      intro r
      cases r with
      | again sent' => exact fun _ h => h
      | stop sent' => exact fun _ h => h
    refine hloop.mono ?_ (fun _ h => h)
    rintro sent w₁ ⟨hclient, new, hnew, hkind, hwhole⟩
    split
    case isFalse => exact ⟨new, hnew, hkind, fun hrc => absurd hrc (by decide)⟩
    case isTrue hall =>
      refine ⟨new ++ [sentEvent length w₁], hnew.push _, ?_, fun _ hwrites => ?_⟩
      · intro e he
        rcases List.mem_append.mp he with he | he
        · exact hkind e he
        · rw [List.mem_singleton.mp he]
          simp [sentEvent, Event.kind]
      · rcases hwhole hwrites.left with ⟨hnone, -⟩ | ⟨-, rfl⟩
        · exact absurd (List.length_eq_zero_iff.mp (by omega)) hpos
        · rw [sentEvent, sendingEvent, hclient, hheld, packetSent, hlength]
          rfl
  · have hge : length ≥ w.client.writeBufSize := Nat.le_of_not_lt hlen
    unfold sendPacket
    simp only [ends_bind, ends_getClient, if_pos hge, ends_pure]
    exact ⟨[], Extends.refl w, by simp, fun hrc => absurd hrc (by decide)⟩

end Sends

/-! ## The acknowledgement -/

/-- The PUBACK for packet id `id`. -/
def pubackFor (id : UInt16) : List UInt8 := 0x40 :: 0x02 :: writeUint16 id

theorem serializeAck_puback (txBufLen : Nat) (id : UInt16) :
    serializeAck txBufLen .puback 0 id =
      if 4 > txBufLen then .error .mqttTxBufferTooShortError else .packet (pubackFor id) := by
  unfold serializeAck
  split
  · rfl
  · rfl

/-- A message that is to be acknowledged has a packet id. -/
theorem deserializePublish_id {rxBuf : Memory} {rxBufLen : Nat} {msg : IncomingPublish}
    (h : deserializePublish rxBuf rxBufLen = .ok msg) (hqos : msg.qos ≠ 0) :
    ∃ id, msg.id = some id := by
  unfold deserializePublish at h
  split at h
  · cases h
  split at h
  · cases h
  split at h
  · cases h
  dsimp only at h
  split at h
  · cases h
  · cases h
    exact ⟨_, if_pos hqos⟩

/-- Outside its handlers, the work on the message `msg` consists of their calls and, for a
QoS above 0, of one PUBACK behind them with the packet id of `msg`. -/
def Acknowledges (msg : IncomingPublish) (new : List Event) : Prop :=
  ∃ calls : List HandlerCall,
    if msg.qos = 0 then outside 0 new = calls.map .handlerCalled
    else ∃ id, msg.id = some id ∧
      outside 0 new = calls.map .handlerCalled ++ packetSent (pubackFor id)

/-- What `handle_publish` does behind a delivery. -/
theorem acknowledge_packetSent {env : Env} {fuel : Nat} {timer : Timer} {id : UInt16}
    (w : World) :
    (do let c ← getClient
        match ← storePacket (serializeAck c.writeBufSize .puback 0 id) with
        | .error rc => return rc
        | .ok len => sendPacket env fuel len timer : M IoTError).Ends w
      (fun rc w' => ∃ new, Extends w new w' ∧ (∀ e ∈ new, e.kind ≠ .handler) ∧
        (rc = .success → WritesWhole new → new = packetSent (pubackFor id)))
      (fun _ => True) := by
  simp only [ends_bind, ends_getClient, ends_storePacket, serializeAck_puback]
  by_cases hroom : 4 > w.client.writeBufSize
  · rw [if_pos hroom]
    exact ⟨[], Extends.refl w, by simp, fun hrc => absurd hrc (by decide)⟩
  · rw [if_neg hroom]
    apply sendPacket_whole (by simp [pubackFor])
    show (Memory.writeAt w.client.writeBuf 0 (pubackFor id)).slice 0 (pubackFor id).length = _
    exact Memory.slice_writeAt_self

/-- The rule of `handle_publish`: a call that returns SUCCESS over whole writes acknowledges
its message, unless a publish stored its packet id in a message. -/
theorem handlePublish_rule {env : Env} {fuel : Nat} {callbacks : Callbacks M}
    (hnests : ∀ call, Tracks Nests NestsHalted (callbacks.message call))
    (hkeeps : ∀ call, Returns KeepsMessages (callbacks.message call)) {timer : Timer} {w : World}
    {msg : IncomingPublish}
    (hread : deserializePublish w.client.readBuf w.client.readBufSize = .ok msg) :
    (handlePublish env fuel callbacks timer : M IoTError).Ends w
      (fun rc w' => rc = .success → ∃ new, Extends w new w' ∧
        (WritesWhole new → Unstored new → Acknowledges msg new))
      (fun _ => True) := by
  have hdeliver : Returns KeepsMessages (deliverMessage env callbacks msg : M IoTError) :=
    (keepsMessages_primitives env).deliverMessage (fun _ w => keepsMessages_push w _) hkeeps msg
  unfold handlePublish
  simp only [ends_bind, ends_getClient, hread, ends_deliverReceived]
  refine ((deliverMessage_onlyCalls hnests env msg (w.receiving msg)).and
    (hdeliver (w.receiving msg))).mono ?_ (fun _ _ => trivial)
  rintro rc w₁ ⟨⟨calls, new, hnew, hbalanced, hcalls⟩, new', hnew', hids⟩
  obtain rfl : new = new' := by
    have hlog : new.reverse ++ w.log = new'.reverse ++ w.log := hnew.symm.trans hnew'
    exact List.reverse_injective (List.append_cancel_right hlog)
  have hdelivered : Extends w new w₁.received := hnew
  have houtside : outside 0 new = calls.map .handlerCalled := by
    rw [← hcalls, shown, List.filterMap_some]
  simp only [ends_ite, ends_pure]
  split
  case isTrue hfailed => exact fun hrc => absurd hrc hfailed
  case isFalse =>
    split
    case isTrue hqos =>
      exact fun _ => ⟨new, hdelivered, fun _ _ => ⟨calls, by rw [if_pos hqos, houtside]⟩⟩
    case isFalse hqos =>
      obtain ⟨id, hid⟩ := deserializePublish_id hread hqos
      refine (acknowledge_packetSent w₁.received).mono ?_ (fun _ _ => trivial)
      rintro rc w₂ ⟨more, hmore, hkind, hsent⟩ hrc
      refine ⟨new ++ more, hdelivered.trans hmore, fun hwrites hunstored => ⟨calls, ?_⟩⟩
      have hsame : (w₁.client.receivedIds.headD msg.id).getD 0 = id := by
        rw [hids hunstored.left]
        show msg.id.getD 0 = id
        rw [hid]
        rfl
      rw [hsent hrc hwrites.right, hsame] at hkind ⊢
      rw [if_neg hqos]
      exact ⟨id, hid, by rw [hbalanced.outside_append, houtside, (outside_of_kind hkind).2]⟩

/-- Every call of `handle_publish` that returns SUCCESS over whole writes calls the handlers
of its message and then sends, outside all handlers, one PUBACK with the packet id of the
message as it was read, or none for QoS 0, if no publish stored its own packet id in the
message that a handler was given.  The handlers may call the client to any depth, and the
law holds of the messages they have it read as well. -/
theorem handlePublish_acknowledges (env : Env) (fuel depth : Nat) (timer : Timer) (w w' : World)
    (msg : IncomingPublish)
    (hread : deserializePublish w.client.readBuf w.client.readBufSize = .ok msg)
    (hrun : (handlePublish env fuel (applicationCallbacks env fuel (apiCall env fuel depth)) timer :
      M IoTError).run w = .done .success w')
    (hwhole : WritesWhole (w.stretch w')) (hunstored : Unstored (w.stretch w')) :
    Acknowledges msg (w.stretch w') := by
  obtain ⟨new, hnew, hacks⟩ := (handlePublish_rule (nests_message env fuel depth)
    (keepsMessages_message env fuel depth) hread).of_run hrun rfl
  rw [hnew.stretch] at hwhole hunstored ⊢
  exact hacks hwhole hunstored

/-! ## A handler that answers a message -/

/-- A publish of `p` to topic `b` with QoS 1, from the structure `received`. -/
def answerB (received : Option Nat) : ApiCall :=
  .publish (some ⟨[0x62]⟩) 1 (some ⟨.qos1, 0, 7, some ⟨[0x70]⟩, 1, received⟩)

/-- A subscriber to topic `a` gets a message with packet id 7, and its handler publishes. -/
def answeringEnv (received : Option Nat) : Env :=
  { sessionEnv [(15, [0x90, 3, 0, 2, 1]), (19, [0x32, 6, 0, 1, 0x61, 0, 7, 0x70]),
      (28, [0x40, 2, 0, 3])] with
    messageHandler := fun n => if n = 23 then some (answerB received) else none }

/-- A yield has read the message. -/
def World.questionRead (received : Option Nat) : World :=
  ((do
      let _ ← setClientState .yieldEnter .connectedIdle .connectedYieldInProgress
      readPacket (answeringEnv received) 8 0 : M (IoTError × UInt8)).run
    (World.after (answeringEnv received) 8 (sessionCalls [subscribeTo 0x61]))).state

/-- The message with packet id 7. -/
def question7 : IncomingPublish := ⟨0, 1, 0, some 7, 4, 1, 7, 1⟩

/-- `handle_publish` of that message. -/
def World.questionHandled (received : Option Nat) : Outcome World IoTError :=
  (handlePublish (answeringEnv received) 8 (applicationCallbacks (answeringEnv received) 8
    (apiCall (answeringEnv received) 8 8)) 1000 : M IoTError).run (World.questionRead received)

/-- A handler that answers from a structure of its own has its message acknowledged. -/
theorem acknowledges_ownStructure :
    Acknowledges question7
      ((World.questionRead none).stretch (World.questionHandled none).state) :=
  handlePublish_acknowledges (answeringEnv none) 8 8 1000 (World.questionRead none)
    (World.questionHandled none).state question7 (by decide +kernel)
    (run_eq_done (by decide +kernel)) (by decide +kernel) (by decide +kernel)

/-- A handler that answers from the message it was given has the publish put its own packet
id there: `handle_publish` returns SUCCESS and the PUBACK carries id 3. -/
theorem not_acknowledges_receivedStructure :
    deserializePublish (World.questionRead (some 0)).client.readBuf
      (World.questionRead (some 0)).client.readBufSize = .ok question7 ∧
    (World.questionHandled (some 0)).value? = some .success ∧
    WritesWhole ((World.questionRead (some 0)).stretch (World.questionHandled (some 0)).state) ∧
    ¬ Acknowledges question7
      ((World.questionRead (some 0)).stretch (World.questionHandled (some 0)).state) := by
  refine ⟨by decide +kernel, by decide +kernel, by decide +kernel, ?_⟩
  rintro ⟨calls, hacks⟩
  rw [if_neg (by decide)] at hacks
  obtain ⟨id, hid, houtside⟩ := hacks
  obtain rfl : id = 7 := (Option.some.inj hid).symm
  have hlast : (outside 0 ((World.questionRead (some 0)).stretch
      (World.questionHandled (some 0)).state)).getLast? = some (.sent (pubackFor 3)) := by
    decide +kernel
  rw [houtside] at hlast
  simp [packetSent, pubackFor, writeUint16] at hlast

end AwsIot.Mqtt
