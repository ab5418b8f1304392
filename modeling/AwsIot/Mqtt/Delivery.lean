/-
  Mqtt/Delivery.lean --- what a handler sees of the message that arrived.

  `handle_publish` passes the topic and the payload to the handlers as pointers into
  the read buffer, and compares the filters of the table with the bytes it finds
  there.  A handler that makes a request has the client read further packets into the
  same buffer.  The handlers behind it are called, once and with the message that
  arrived, exactly if its bytes are still there (`calledWithMessage_iff`).
-/
import AwsIot.Mqtt.Nesting

set_option autoImplicit false

namespace AwsIot.Mqtt

open AwsIot.Foundation Program

/-! ## Topic and payload in the read buffer -/

/-- The topic and the payload of `msg` are the same in both buffers. -/
structure SameMessage (msg : IncomingPublish) (readBuf readBuf' : Memory) : Prop where
  /-- The bytes of the topic name. -/
  topicName : readBuf'.slice msg.topicName msg.topicNameLen.toNat =
    readBuf.slice msg.topicName msg.topicNameLen.toNat
  /-- The bytes of the payload. -/
  payload : readBuf'.slice msg.payload msg.payloadLen = readBuf.slice msg.payload msg.payloadLen

theorem strncmpEq_congr {a a' b : Nat → UInt8} {n i : Nat}
    (h : ∀ k, i ≤ k → k < i + n → a k = a' k) : strncmpEq a b n i = strncmpEq a' b n i := by
  induction n generalizing i with
  | zero => rfl
  | succ n ih =>
    rw [strncmpEq, strncmpEq, h i (Nat.le_refl i) (by omega),
      ih fun k hk hlt => h k (by omega) (by omega)]

/-- The test on a slot looks only at the bytes of the topic name. -/
theorem slotMatches_congr {msg : IncomingPublish} {readBuf readBuf' : Memory}
    (h : SameMessage msg readBuf readBuf') (slot : MessageHandlers) (filter : CharPtr) :
    slotMatches readBuf' msg.topicName msg.topicNameLen slot filter =
      slotMatches readBuf msg.topicName msg.topicNameLen slot filter := by
  unfold slotMatches
  rw [h.topicName, strncmpEq_congr fun k _ hk =>
    Memory.eq_of_slice_eq h.topicName (by omega : k < msg.topicNameLen.toNat)]

/-! ## The call of one slot -/

theorem slotCall_slot {c : Client} {msg : IncomingPublish} {itr : Nat} {call : HandlerCall}
    (h : slotCall c msg itr = some call) : call.slot = itr := by
  unfold slotCall at h
  split at h
  · split at h
    · cases h
      rfl
    · cases h
  · cases h

/-- A slot that matched a message when it was read and still holds the same handler is
called with the message exactly if the message is still in the read buffer. -/
theorem slotCall_iff {c c' : Client} {msg : IncomingPublish} {itr : Nat} {call : HandlerCall}
    (hread : slotCall c msg itr = some call)
    (hslot : c'.messageHandlers itr = c.messageHandlers itr) :
    slotCall c' msg itr = some call ↔ SameMessage msg c.readBuf c'.readBuf := by
  unfold slotCall at hread ⊢
  rw [hslot]
  cases hfilter : (c.messageHandlers itr).topicName with
  | none => simp [hfilter] at hread
  | some filter =>
    cases hhandler : (c.messageHandlers itr).pApplicationHandler with
    | none => simp [hfilter, hhandler] at hread
    | some handler =>
      simp only [hfilter, hhandler, Option.ite_none_right_eq_some, Option.some.injEq] at hread ⊢
      obtain ⟨hmatch, rfl⟩ := hread
      constructor
      · rintro ⟨-, hcall⟩
        obtain ⟨-, -, -, -, htopic, hpayload⟩ := HandlerCall.mk.inj hcall
        exact ⟨htopic, hpayload⟩
      · intro hsame
        rw [slotMatches_congr hsame]
        exact ⟨hmatch, by rw [handlerCall, handlerCall, hsame.topicName, hsame.payload]⟩

/-! ## One delivery -/

/-- The event calls the handler of slot `itr`. -/
def callOfSlot (itr : Nat) : Event → Option HandlerCall
  | .handlerCalled call => if call.slot = itr then some call else none
  | _ => none

theorem callOfSlot_traffic (itr : Nat) (e : Event) (he : e.kind = .traffic) :
    callOfSlot itr e = none := by
  cases e <;> first | rfl | cases he

/-- The calls of slot `itr`'s handler in a stretch, outside other handlers. -/
def callsOfSlot (itr : Nat) : List Event → List HandlerCall := shown (callOfSlot itr)

section Delivery

variable {env : Env} {fuel : Nat} {callbacks : Callbacks M}
  (hmessage : ∀ call, Tracks Nests NestsHalted (callbacks.message call)) (msg : IncomingPublish)
include hmessage

/-- The pass over slot `itr` makes the call of that slot. -/
theorem deliverToSlot_slotCall (itr : Nat) (w : World) :
    (deliverToSlot callbacks msg itr : M Unit).Ends w
      (fun _ w' => Shows (callOfSlot itr) (slotCall w.client msg itr).toList w w')
      (ShowsHalted (callOfSlot itr) (slotCall w.client msg itr).toList w) := by
  have hown : (slotCall w.client msg itr).bind
      (fun call => callOfSlot itr (.handlerCalled call)) = slotCall w.client msg itr := by
    cases hcall : slotCall w.client msg itr with
    | none => rfl
    | some call => simp [callOfSlot, slotCall_slot hcall]
  have hshows := deliverToSlot_shows hmessage (callOfSlot itr) msg itr w
  rw [hown] at hshows
  exact hshows

/-- A pass over another slot makes no call of slot `itr`. -/
theorem deliverToSlot_other {itr other : Nat} (hne : other ≠ itr) :
    Tracks (Shows (callOfSlot itr) []) (ShowsHalted (callOfSlot itr) [])
      (deliverToSlot callbacks msg other : M Unit) := by
  intro w
  have hnone : (slotCall w.client msg other).bind
      (fun call => callOfSlot itr (.handlerCalled call)) = none := by
    cases hcall : slotCall w.client msg other with
    | none => rfl
    | some call => simp [callOfSlot, slotCall_slot hcall, hne]
  have hshows := deliverToSlot_shows hmessage (callOfSlot itr) msg other w
  rw [hnone] at hshows
  exact hshows

/-- Passes over other slots make no call of slot `itr`. -/
theorem deliverSlots_other {itr : Nat} : ∀ {slots : List Nat}, itr ∉ slots →
    Tracks (Shows (callOfSlot itr) []) (ShowsHalted (callOfSlot itr) [])
      (forEach (deliverToSlot callbacks msg) slots) := by
  have hcomp := tracks_compositional (showsHalted_after (callOfSlot itr))
  intro slots
  induction slots with
  | nil => exact fun _ => hcomp.pure ()
  | cons slot slots ih =>
    intro hout
    have hne : slot ≠ itr := fun heq => hout (heq ▸ List.mem_cons_self)
    exact hcomp.bind (deliverToSlot_other hmessage msg hne) fun _ =>
      ih fun hmem => hout (List.mem_cons_of_mem _ hmem)

/-- The delivery of a message makes the call of slot `itr` that the world in which it
reaches the slot asks for, and no other call of it. -/
theorem deliverMessage_calls {itr : Nat} {w w' : World}
    (hitr : itr < env.config.numSubscribeHandlers)
    (hreach : (forEach (deliverToSlot callbacks msg) (List.range itr) : M Unit).run
      (w.withState .connectedWaitForCbReturn) = .done () w') :
    (deliverMessage env callbacks msg : M IoTError).Ends w
      (fun _ w₁ => Shows (callOfSlot itr) (slotCall w'.client msg itr).toList w w₁)
      (ShowsHalted (callOfSlot itr) (slotCall w'.client msg itr).toList w) := by
  have hbefore : Shows (callOfSlot itr) [] w w' := by
    have hcalls := (deliverSlots_other hmessage msg (List.not_mem_range_self (n := itr)) _).of_run
      hreach
    exact (Shows.of_log (w.log_withState .connectedWaitForCbReturn)).trans hcalls
  obtain ⟨left, hleft⟩ := Nat.exists_eq_add_of_lt hitr
  have hsplit : List.range env.config.numSubscribeHandlers =
      List.range itr ++ itr :: (List.range left).map fun k => itr + (k + 1) := by
    rw [hleft, Nat.add_assoc, List.range_add, List.range_succ_eq_map]
    simp [Function.comp_def]
  have hafter : itr ∉ (List.range left).map fun k => itr + (k + 1) := by simp
  unfold deliverMessage
  simp only [ends_bind, ends_getClientState, ends_setClientState, if_true]
  rw [hsplit, ends_forEach_append, ends_of_run_eq hreach]
  refine ends_bind.mpr ((deliverToSlot_slotCall hmessage msg itr w').mono ?_ ?_)
  · intro _ w₁ hcall
    have hdone : Shows (callOfSlot itr) (slotCall w'.client msg itr).toList w w₁ :=
      hbefore.trans hcall
    refine (deliverSlots_other hmessage msg hafter w₁).mono ?_ ?_
    · intro _ w₂ hrest
      have hall : Shows (callOfSlot itr) (slotCall w'.client msg itr).toList w w₂ := by
        simpa using hdone.trans hrest
      split
      · exact hall.congr rfl
      · exact hall
    · intro w₂ hrest
      simpa using hdone.halted hrest
  · intro w₁ hcall
    exact hbefore.halted hcall

/-- What `handle_publish` does behind the delivery calls no handler. -/
theorem handlePublish_calls {itr : Nat} {w w' : World} (timer : Timer)
    (hread : deserializePublish w.client.readBuf w.client.readBufSize = .ok msg)
    (hitr : itr < env.config.numSubscribeHandlers)
    (hreach : (forEach (deliverToSlot callbacks msg) (List.range itr) : M Unit).run
      ((w.receiving msg).withState .connectedWaitForCbReturn) = .done () w') :
    callsOfSlot itr (w.stretch
      ((handlePublish env fuel callbacks timer : M IoTError).run w).state) =
        (slotCall w'.client msg itr).toList := by
  have hquiet := (shows_steps (callOfSlot_traffic itr)).tracking (showsHalted_after _)
  refine ends_state_iff (P := fun w₁ => callsOfSlot itr (w.stretch w₁) = _).mp ?_
  unfold handlePublish
  simp only [ends_bind, ends_getClient, hread, ends_deliverReceived]
  refine (deliverMessage_calls hmessage msg hitr hreach).mono ?_ (fun _ h => h.stretch)
  intro rc w₁ hdelivered
  have hcalls : Shows (callOfSlot itr) (slotCall w'.client msg itr).toList w w₁.received :=
    hdelivered
  have htail : Tracks (Shows (callOfSlot itr) []) (ShowsHalted (callOfSlot itr) []) (do
      if rc ≠ .success then return rc
      if msg.qos = 0 then return .success
      acknowledgeReceived env fuel timer
        ((w₁.client.receivedIds.headD msg.id).getD 0) : M IoTError) := by
    refine hquiet.ite (fun _ => hquiet.pure _) fun _ => ?_
    exact hquiet.ite (fun _ => hquiet.pure _) fun _ => hquiet.acknowledgeReceived env fuel timer _
  refine (htail w₁.received).mono ?_ ?_
  · intro _ w₂ hrest
    simpa [callsOfSlot] using (hcalls.trans hrest).stretch
  · intro w₂ hrest
    simpa [callsOfSlot] using (hcalls.halted hrest).stretch

end Delivery

/-- A handler whose filter matched a PUBLISH when it was read, and which is still registered
when its slot is reached, is called exactly once with the topic and the payload of that
PUBLISH exactly if their bytes still stand in the read buffer then, whatever the handlers
before it did and whatever becomes of the delivery. -/
theorem calledWithMessage_iff (env : Env) (fuel depth : Nat) (timer : Timer) (w w' : World)
    (msg : IncomingPublish) (itr : Nat) (call : HandlerCall)
    (hread : deserializePublish w.client.readBuf w.client.readBufSize = .ok msg)
    (hitr : itr < env.config.numSubscribeHandlers)
    (hmatched : slotCall w.client msg itr = some call)
    (hreached : (forEach (deliverToSlot
        (applicationCallbacks env fuel (apiCall env fuel depth)) msg) (List.range itr) : M Unit).run
      ((w.receiving msg).withState .connectedWaitForCbReturn) = .done () w')
    (hregistered : w'.client.messageHandlers itr = w.client.messageHandlers itr) :
    callsOfSlot itr (w.stretch ((handlePublish env fuel
        (applicationCallbacks env fuel (apiCall env fuel depth)) timer : M IoTError).run w).state) =
      [call] ↔ SameMessage msg w.client.readBuf w'.client.readBuf := by
  rw [handlePublish_calls (nests_message env fuel depth) msg timer hread hitr hreached,
    ← slotCall_iff hmatched hregistered]
  cases slotCall w'.client msg itr with
  | none => simp
  | some call' => simp

/-! ## A handler that makes a request -/

/-- Two handlers subscribe to topic `a`, and a message for it arrives; the first handler
makes `call`. -/
def twoHandlersEnv (call : Option ApiCall) : Env :=
  { sessionEnv [(15, [0x90, 3, 0, 2, 1]), (23, [0x90, 3, 0, 3, 1]),
      (27, [0x30, 4, 0, 1, 0x61, 0x70]), (36, [0x90, 3, 0, 4, 1])] with
    messageHandler := fun n => if n = 31 then call else none }

/-- A yield has read the message. -/
def World.messageRead (call : Option ApiCall) : World :=
  ((do
      let _ ← setClientState .yieldEnter .connectedIdle .connectedYieldInProgress
      readPacket (twoHandlersEnv call) 8 0 : M (IoTError × UInt8)).run
    (World.after (twoHandlersEnv call) 8
      (sessionCalls [subscribeTo 0x61, subscribeTo 0x61]))).state

/-- The application's handlers. -/
def twoHandlers (call : Option ApiCall) : Callbacks M :=
  applicationCallbacks (twoHandlersEnv call) 8 (apiCall (twoHandlersEnv call) 8 8)

/-- The topic `a` starts behind the header and two length bytes, the payload `p` behind
it. -/
def messageA : IncomingPublish := ⟨0, 0, 0, none, 4, 1, 5, 1⟩

/-- What the second handler is to be called with. -/
def callA : HandlerCall := ⟨1, 1, 0, 4, [0x61], [0x70]⟩

/-- The delivery has reached the second handler. -/
def World.secondReached (call : Option ApiCall) : World :=
  ((forEach (deliverToSlot (twoHandlers call) messageA) (List.range 1) : M Unit).run
    (((World.messageRead call).receiving messageA).withState .connectedWaitForCbReturn)).state

/-- The calls of the second handler in the delivery. -/
def secondCalls (call : Option ApiCall) : List HandlerCall :=
  callsOfSlot 1 ((World.messageRead call).stretch
    ((handlePublish (twoHandlersEnv call) 8 (twoHandlers call) 1000 : M IoTError).run
      (World.messageRead call)).state)

/-- When the first handler makes no call, the second one is called with the message. -/
theorem calledWithMessage_quiet : secondCalls none = [callA] :=
  (calledWithMessage_iff (twoHandlersEnv none) 8 8 1000 (World.messageRead none)
    (World.secondReached none) messageA 1 callA (by decide +kernel) (by decide)
    (by decide +kernel) (run_eq_done (by decide +kernel)) (by decide +kernel)).mpr
    ⟨by decide +kernel, by decide +kernel⟩

/-- When the first handler subscribes to another topic, the SUBACK overwrites the topic name
of the message, and the second handler is not called. -/
theorem not_called_nestedSubscribe :
    slotCall (World.messageRead (some (subscribeTo 0x62))).client messageA 1 = some callA ∧
    (World.secondReached (some (subscribeTo 0x62))).client.messageHandlers 1 =
      (World.messageRead (some (subscribeTo 0x62))).client.messageHandlers 1 ∧
    secondCalls (some (subscribeTo 0x62)) = [] := by
  decide +kernel

end AwsIot.Mqtt
