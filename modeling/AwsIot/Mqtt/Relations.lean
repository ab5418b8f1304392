/-
  Mqtt/Relations.lean --- relations that a run moves along.

  Instances of the traversal for programs of one thread: a preorder on worlds
  that every primitive respects is respected by every function, in every run, up
  to every moment.  The first such relation is that the log only grows.
-/
import AwsIot.Mqtt.Traversal

set_option autoImplicit false

namespace AwsIot.Mqtt

open AwsIot.Foundation Program

/-! ## From primitives to programs -/

section

variable {R : World → World → Prop} [IsPreorder World R]

/-- The worlds that the traffic primitives reach are related to where they
start. -/
structure TrafficSteps (R : World → World → Prop) : Prop where
  /-- Updating the client outside its core. -/
  onClient : ∀ w f, KeepsCore f → R w (w.onClient f)
  /-- Asking a question. -/
  tick : ∀ w : World, R w w.tick
  /-- Logging traffic. -/
  push : ∀ (w : World) (e : Event), e.kind = .traffic → R w (w.push e)

/-- The worlds that the packet primitives reach are related to where they start. -/
structure PacketSteps (R : World → World → Prop) : Prop extends TrafficSteps R where
  /-- Logging a packet. -/
  pushPacket : ∀ (w : World) (e : Event), e.kind = .packet → R w (w.push e)

/-- The worlds that the primitives reach outside the resubscribe loop are related to
where they start. -/
structure PrimitiveSteps (env : Env) (R : World → World → Prop) : Prop extends PacketSteps R where
  /-- Logging something about the connection. -/
  pushConnection : ∀ (w : World) (e : Event), e.kind = .connection → R w (w.push e)
  /-- Changing the client state. -/
  withState : ∀ (w : World) (s : ClientState), R w (w.withState s)
  /-- Storing a handler. -/
  register : ∀ (w : World) (slot : Nat) (handler : MessageHandlers),
    R w ((w.onClient fun c => { c with
      messageHandlers := Function.update c.messageHandlers slot handler }).push
        (.registered slot handler))
  /-- Emptying slots. -/
  clear : ∀ (w : World) (filter : CharPtr),
    R w ((w.onClient fun c => { c with
      messageHandlers := clearEqual env.config.numSubscribeHandlers filter c.messageHandlers }).push
        (.cleared filter))
  /-- Emptying the table. -/
  reset : ∀ w : World,
    R w ((w.onClient fun c => { c with
      messageHandlers := emptyHandlers env.config.numSubscribeHandlers c.messageHandlers }).push
        .tableReset)
  /-- Setting the client up. -/
  onTable : ∀ w f, KeepsTable f → R w (w.onClient f)
  /-- Starting to back off. -/
  start : ∀ w : World,
    R w ((w.onClient fun c => { c with
      currentReconnectWaitInterval := env.config.minReconnectWaitInterval }).push
        (.reconnectStarted w.client.isAutoReconnectEnabled))
  /-- Backing off. -/
  double : ∀ w : World,
    R w ((w.push (.attemptFailed w.client.currentReconnectWaitInterval)).onClient fun c =>
      { c with currentReconnectWaitInterval := c.currentReconnectWaitInterval * 2 % 2 ^ 32 })

/-- The worlds that all primitives reach are related to where they start. -/
structure AllSteps (env : Env) (R : World → World → Prop) : Prop extends PrimitiveSteps env R where
  /-- Logging a turn of the resubscribe loop. -/
  pushTurn : ∀ (w : World) (e : Event), e.kind = .turn → R w (w.push e)
  /-- Logging the start or the end of a handler. -/
  pushHandler : ∀ (w : World) (e : Event), e.kind = .handler → R w (w.push e)

theorem TrafficSteps.tracking {H : World → World → Prop} (h : TrafficSteps R)
    (hhalt : HaltsAfter R H) : Traffic (m := M) (Tracks R H) where
  toCompositional := tracks_compositional hhalt
  getClient w := refl_of R w
  modifyClient hf w := h.onClient w _ hf.core
  ask _ w := h.tick w
  emit he w := h.push w _ (he w.client)
  storeReceivedId index id w :=
    trans_of R (h.onClient w (fun c => { c with receivedIds := c.receivedIds.set index (some id) })
      fun _ => ⟨rfl, rfl, rfl, rfl⟩) (h.push _ (.idStored index id) rfl)

omit [IsPreorder World R] in
theorem TrafficSteps.modifyTimer {H : World → World → Prop} (h : TrafficSteps R)
    {f : Client → Client} (hf : KeepsReceived f) :
    Tracks R H (modifyClient f : M Unit) := fun w => h.onClient w _ hf.1

/-- A relation that updates outside the core respect is respected by a delivery. -/
theorem TrafficSteps.deliverReceived {H : World → World → Prop} (h : TrafficSteps R)
    (hhalt : HaltsAfter R H) {env : Env} {callbacks : Callbacks M} {msg : IncomingPublish}
    (hdeliver : Tracks R H (deliverMessage env callbacks msg : M IoTError)) :
    Tracks R H (deliverReceived env callbacks msg : M (IoTError × Option UInt16)) :=
  (h.tracking hhalt).deliverReceived (fun hf w => h.onClient w _ hf.1) hdeliver

theorem TrafficSteps.traffic (h : TrafficSteps R) : Traffic (m := M) (Keeps R) :=
  h.tracking (haltsAfter_self R)

theorem TrafficSteps.returning (h : TrafficSteps R) : Traffic (m := M) (Returns R) :=
  h.tracking (haltsAfter_any R)

theorem PacketSteps.tracking {H : World → World → Prop} (h : PacketSteps R)
    (hhalt : HaltsAfter R H) : Packets (m := M) (Tracks R H) where
  toTraffic := h.toTrafficSteps.tracking hhalt
  emitPacket he w := h.pushPacket w _ (he w.client)

theorem PacketSteps.packets (h : PacketSteps R) : Packets (m := M) (Keeps R) :=
  h.tracking (haltsAfter_self R)

theorem PacketSteps.returning (h : PacketSteps R) : Packets (m := M) (Returns R) :=
  h.tracking (haltsAfter_any R)

theorem PrimitiveSteps.tracking {H : World → World → Prop} {env : Env}
    (h : PrimitiveSteps env R) (hhalt : HaltsAfter R H) : Primitives (m := M) env (Tracks R H) where
  toPackets := h.toPacketSteps.tracking hhalt
  emitConnection he w := h.pushConnection w _ (he w.client)
  getClientState w := refl_of R w
  setClientState site old new w := by
    rw [ends_setClientState]
    split
    · exact h.withState w new
    · exact refl_of R w
  assignClientState new w := h.withState w new
  within hx := hx
  registerHandler slot handler w := h.register w slot handler
  clearHandlers filter w := h.clear w filter
  resetHandlers w := h.reset w
  modifyTable hf _ w := h.onTable w _ hf
  startInterval w := h.start w
  doubleInterval w := h.double w

theorem PrimitiveSteps.primitives {env : Env} (h : PrimitiveSteps env R) :
    Primitives (m := M) env (Keeps R) :=
  h.tracking (haltsAfter_self R)

/-- A relation that the primitives and a delivery respect is respected by every wait. -/
theorem PrimitiveSteps.waiting {H : World → World → Prop} {env : Env} (h : PrimitiveSteps env R)
    (hhalt : HaltsAfter R H) {callbacks : Callbacks M}
    (hdeliver : ∀ msg, Tracks R H (deliverMessage env callbacks msg : M IoTError)) :
    Waiting env callbacks (Tracks R H) where
  toPackets := h.toPacketSteps.tracking hhalt
  deliverReceived msg := h.toTrafficSteps.deliverReceived hhalt (hdeliver msg)
  registerHandler slot handler w := h.register w slot handler
  clearHandlers filter w := h.clear w filter
  modifyTimer := h.toTrafficSteps.modifyTimer

section All

variable {env : Env} (h : AllSteps env R)
include h

theorem AllSteps.tracking {H : World → World → Prop} (hhalt : HaltsAfter R H) :
    Everything (m := M) env (Tracks R H) :=
  (h.toPrimitiveSteps.tracking hhalt).toSteering.everything h.toTrafficSteps.modifyTimer
    fun fuel hcycle => hcycle.internalResubscribe fuel fun he w => h.pushTurn w _ (he w.client)

theorem AllSteps.servingTracking {H : World → World → Prop} (hhalt : HaltsAfter R H)
    {callbacks : Callbacks M} (hmessage : ∀ call, Tracks R H (callbacks.message call)) :
    Serving env callbacks (Tracks R H) :=
  (h.toPrimitiveSteps.tracking hhalt).serving (fun he w => h.pushHandler w _ (he w.client)) hmessage
    fun hdeliver => h.toTrafficSteps.deliverReceived hhalt hdeliver

theorem AllSteps.everything : Everything (m := M) env (Keeps R) := h.tracking (haltsAfter_self R)

theorem AllSteps.serving {callbacks : Callbacks M}
    (hmessage : ∀ call, Keeps R (callbacks.message call)) :
    Serving env callbacks (Keeps R) :=
  h.servingTracking (haltsAfter_self R) hmessage

variable (hcall : ∀ (w : World) (e : Event), e.kind = .call → R w (w.push e))
include hcall

theorem AllSteps.apiCall (fuel depth : Nat) (call : ApiCall) :
    Keeps R (apiCall env fuel depth call : M IoTError) :=
  h.everything.apiCall fuel (fun he w => hcall w _ (he w.client))
    (fun _ ih => h.serving (h.everything.applicationCallbacks fuel ih).1) depth call

theorem AllSteps.application (fuel : Nat) (calls : List ApiCall) :
    Keeps R (application env fuel calls : M Unit) :=
  h.everything.application fuel (fun he w => hcall w _ (he w.client))
    (fun _ ih => h.serving (h.everything.applicationCallbacks fuel ih).1) calls

end All

end

/-! ## The log grows -/

/-- Nothing is ever taken from the log. -/
def LogGrows (w w' : World) : Prop := w.log <:+ w'.log

instance : IsPreorder World LogGrows where
  refl w := List.suffix_refl w.log
  trans _ _ _ h₁ h₂ := List.IsSuffix.trans h₁ h₂

theorem logGrows_push (w : World) (e : Event) : LogGrows w (w.push e) := List.suffix_cons e _

theorem logGrows_steps (env : Env) : AllSteps env LogGrows where
  onClient w _ _ := List.suffix_refl w.log
  tick w := List.suffix_refl w.log
  push _ e _ := List.suffix_cons e _
  pushPacket _ e _ := List.suffix_cons e _
  pushConnection _ e _ := List.suffix_cons e _
  pushTurn _ e _ := List.suffix_cons e _
  pushHandler _ e _ := List.suffix_cons e _
  withState w _ := List.suffix_refl w.log
  register _ _ _ := List.suffix_cons _ _
  clear _ _ := List.suffix_cons _ _
  reset _ := List.suffix_cons _ _
  onTable w _ _ := List.suffix_refl w.log
  start _ := List.suffix_cons _ _
  double _ := List.suffix_cons _ _

/-- Every program of the client only adds to the log. -/
theorem logGrows (env : Env) : Everything (m := M) env (Keeps LogGrows) :=
  (logGrows_steps env).everything

theorem logGrows_apiCall (env : Env) (fuel depth : Nat) (call : ApiCall) :
    Keeps LogGrows (apiCall env fuel depth call : M IoTError) :=
  (logGrows_steps env).apiCall (fun _ e _ => List.suffix_cons e _) fuel depth call

/-- Handlers that call the client only add to the log. -/
theorem serving_logGrows (env : Env) (fuel depth : Nat) :
    Serving (m := M) env (applicationCallbacks env fuel (apiCall env fuel depth))
      (Keeps LogGrows) :=
  (logGrows_steps env).serving
    ((logGrows env).applicationCallbacks fuel (logGrows_apiCall env fuel depth)).1

/-! ## One API call -/

/-- An API call logs its start and its end around the function behind it. -/
theorem apiCall_done {env : Env} {fuel depth : Nat} {call : ApiCall} {rc : IoTError}
    {w w' : World} {Q : IoTError → World → Prop}
    (hrun : (apiCall env fuel depth call : M IoTError).run w = .done rc w')
    (h : ∀ depth, (dispatch env fuel (applicationCallbacks env fuel (apiCall env fuel depth))
      call : M IoTError).Ends (w.push (.called call)) Q (fun _ => True)) :
    ∃ w₁, Q rc w₁ ∧ w' = w₁.push (.returned call rc) := by
  cases depth with
  | zero => cases hrun
  | succ depth =>
    have hends : (apiCall env fuel (depth + 1) call : M IoTError).Ends w
        (fun rc w' => ∃ w₁, Q rc w₁ ∧ w' = w₁.push (.returned call rc)) (fun _ => True) := by
      unfold apiCall
      simp only [ends_bind, ends_emit, ends_within, ends_pure]
      exact (h depth).mono (fun rc w₁ hQ => ⟨w₁, hQ, rfl⟩) (fun _ _ => trivial)
    exact hends.of_run hrun

end AwsIot.Mqtt
