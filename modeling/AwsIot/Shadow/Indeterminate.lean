/-
  Shadow/Indeterminate.lean --- what the shadow layer reads before it is assigned.

  The parameter structures that the shadow layer hands to the client are automatic variables,
  filled field by field, and one variable is assigned on two of three paths.  What they hold
  before is indeterminate.  Four of these values are read: the retain flag of a message, the
  data for the disconnect handler and the locking mode of a client, and a status.  Runs that
  agree in these are the same runs.
-/
import AwsIot.Shadow.Api
import AwsIot.Shadow.Document

set_option autoImplicit false

namespace AwsIot.Shadow

open AwsIot.Foundation AwsIot.Mqtt Program

/-! ## Initial values -/

/-- What the automatic variables of the shadow layer hold before they are assigned, by the
question at which they are read first, or the length of the log. -/
structure Locals where
  /-- `msgParams` of `publishToShadowAction`. -/
  msgParams : Nat → PublishParams
  /-- `mqttInitParams` of `aws_iot_shadow_init`. -/
  mqttInitParams : Nat → InitParams
  /-- `status` of `AckStatusCallback`. -/
  status : Nat → AckStatus

/-- Surroundings in which the automatic variables hold these values. -/
def ShadowEnv.withLocals (env : ShadowEnv) (locals : Locals) : ShadowEnv :=
  { env with
    msgParams := locals.msgParams
    mqttInitParams := locals.mqttInitParams
    indeterminateStatus := locals.status }

/-- Two choices of initial values agree in what is read before it is assigned. -/
structure Agree (l l' : Locals) : Prop where
  /-- `isRetained` is 1 in both or in neither. -/
  retained : ∀ n, (l.msgParams n).isRetained = 1 ↔ (l'.msgParams n).isRetained = 1
  /-- The data for the disconnect handler. -/
  handlerData : ∀ n, (l.mqttInitParams n).disconnectHandlerData =
    (l'.mqttInitParams n).disconnectHandlerData
  /-- The locking mode. -/
  locking : ∀ n, (l.mqttInitParams n).isBlockOnThreadLockEnabled =
    (l'.mqttInitParams n).isBlockOnThreadLockEnabled
  /-- The status. -/
  status : ∀ n, l.status n = l'.status n

/-! ## A message -/

/-- A message with QoS 0 is put together from its topic and payload, and from whether the
retain flag is 1. -/
theorem serializePublish_congr {dup retained retained' : UInt8} {id id' : UInt16}
    (hretained : retained = 1 ↔ retained' = 1) (txBufLen : Nat) (topicName : Option CharPtr)
    (topicNameLen : UInt16) (payload : Option CharPtr) (payloadLen : Nat) :
    serializePublish txBufLen dup .qos0 retained id topicName topicNameLen payload payloadLen =
      serializePublish txBufLen dup .qos0 retained' id' topicName topicNameLen payload
        payloadLen := by
  have hheader : initHeader .publish .qos0 dup retained =
      initHeader .publish .qos0 dup retained' := by
    unfold initHeader
    simp only [hretained]
  unfold serializePublish
  rw [hheader]
  rfl

theorem pure_then {α β : Type} (a : α) (f : α → M β) : (pure a >>= f : M β) = f a := rfl

theorem ask_then {α β : Type} (f : Nat → α) (g : α → M β) (w : World) :
    (ask f >>= g : M β) w = g (f w.time) { w with time := w.time + 1 } := rfl

/-- Programs that go on in the same way are the same. -/
theorem bind_congr_right {α β : Type} {x : M α} {f g : α → M β} (h : ∀ a, f a = g a) :
    x >>= f = x >>= g := by
  rw [funext h]

section
variable {p p' : PublishParams} (hqos : p.qos = .qos0) (hqos' : p'.qos = .qos0)
  (hretained : p.isRetained = 1 ↔ p'.isRetained = 1) (hpayload : p.payload = p'.payload)
  (hlen : p.payloadLen = p'.payloadLen)
include hqos hqos' hretained hpayload hlen

theorem internalPublish_congr (env : Env) (fuel : Nat) (callbacks : Callbacks M)
    (topicName : CharPtr) (topicNameLen : UInt16) :
    (internalPublish env fuel callbacks topicName topicNameLen p : M IoTError) =
      internalPublish env fuel callbacks topicName topicNameLen p' := by
  have hid : ∀ params : PublishParams, params.qos = .qos0 →
      (publishId params : M UInt16) = pure params.id := fun params h =>
    if_neg (by rw [h]; decide)
  unfold internalPublish
  rw [hid p hqos, hid p' hqos', hqos, hqos', hpayload, hlen]
  refine bind_congr_right fun c => bind_congr_right fun timer => ?_
  rw [pure_then, pure_then]
  dsimp only
  rw [serializePublish_congr hretained c.writeBufSize (some topicName) topicNameLen p'.payload
    p'.payloadLen]

theorem publish_congr (env : Env) (fuel : Nat) (callbacks : Callbacks M)
    (topicName : Option CharPtr) (topicNameLen : UInt16) :
    (publish env fuel callbacks topicName topicNameLen (some p) : M IoTError) =
      publish env fuel callbacks topicName topicNameLen (some p') := by
  cases topicName with
  | none => rfl
  | some topicName =>
    unfold publish
    dsimp only
    rw [internalPublish_congr hqos hqos' hretained hpayload hlen]

end

/-! ## Deltas

`shadow_delta_callback` reads no initial value. -/

theorem dispatchFrom_withLocals (env : ShadowEnv) (l l' : Locals) (handlers : Handlers M)
    (received tokenCount left index : Nat) :
    dispatchFrom (env.withLocals l) handlers received tokenCount left index =
      dispatchFrom (env.withLocals l') handlers received tokenCount left index := by
  induction left generalizing index with
  | zero => rfl
  | succ left ih =>
    unfold dispatchFrom
    rw [ih]
    rfl

theorem shadowDeltaCallback_withLocals (env : ShadowEnv) (l l' : Locals) (handlers : Handlers M)
    (call : HandlerCall) :
    shadowDeltaCallback (env.withLocals l) handlers call =
      shadowDeltaCallback (env.withLocals l') handlers call := by
  have hdispatch := dispatchFrom_withLocals env l l' handlers
  unfold shadowDeltaCallback
  simp only [hdispatch]
  rfl

/-! ## Where the initial values are read -/

section
variable (env : ShadowEnv) {l l' : Locals} (hagree : Agree l l')
include hagree

theorem publishToShadowAction_congr (fuel : Nat) (handlers : Handlers M) (thingName : List UInt8)
    (action : ShadowActions) (document : CharPtr) :
    publishToShadowAction (env.withLocals l) fuel handlers thingName action document =
      publishToShadowAction (env.withLocals l') fuel handlers thingName action document := by
  funext w
  have hpublish : ∀ topicName topicNameLen,
      (publish env.mqtt fuel handlers.toCallbacks topicName topicNameLen
        (some (fillMsgParams (l.msgParams w.time) document)) : M IoTError) =
      publish env.mqtt fuel handlers.toCallbacks topicName topicNameLen
        (some (fillMsgParams (l'.msgParams w.time) document)) :=
    @publish_congr (fillMsgParams (l.msgParams w.time) document)
      (fillMsgParams (l'.msgParams w.time) document) rfl rfl (hagree.retained w.time) rfl rfl
      env.mqtt fuel handlers.toCallbacks
  unfold publishToShadowAction
  rw [ask_then, ask_then]
  refine congrFun (bind_congr_right fun s => ?_) _
  dsimp only [ShadowEnv.withLocals]
  rw [hpublish]

theorem shadowInit_congr (params : ShadowInitParameters) :
    (shadowInit (env.withLocals l) params : M IoTError) =
      shadowInit (env.withLocals l') params := by
  have hparams : ∀ n, fillMqttInitParams (l.mqttInitParams n) params =
      fillMqttInitParams (l'.mqttInitParams n) params := by
    intro n
    simp only [fillMqttInitParams, hagree.handlerData n, hagree.locking n]
  refine bind_congr_right fun s => ?_
  exact congrArg (fun mqttInitParams => (init env.mqtt mqttInitParams : M IoTError) >>= _)
    (hparams s.log.length)

theorem ackStatus_congr (topicName : List UInt8) :
    (ackStatus (env.withLocals l) topicName : M AckStatus) =
      ackStatus (env.withLocals l') topicName := by
  have hstatus : (env.withLocals l).indeterminateStatus = (env.withLocals l').indeterminateStatus :=
    funext hagree.status
  unfold ackStatus
  rw [hstatus]

/-! ## Requests -/

theorem trackedAction_congr (fuel : Nat) (handlers : Handlers M) (index : Nat)
    (thingName : List UInt8) (action : ShadowActions) (document : CharPtr)
    (clientToken : List UInt8) (params : ActionParams) :
    trackedAction (env.withLocals l) fuel handlers index thingName action document clientToken
        params =
      trackedAction (env.withLocals l') fuel handlers index thingName action document clientToken
        params := by
  unfold trackedAction
  rw [publishToShadowAction_congr env hagree]
  rfl

theorem internalAction_congr (fuel : Nat) (handlers : Handlers M) (action : ShadowActions)
    (params : ActionParams) (document : Option CharPtr) :
    internalAction (env.withLocals l) fuel handlers action params document =
      internalAction (env.withLocals l') fuel handlers action params document := by
  cases hthing : params.pThingName with
  | none =>
    unfold internalAction
    rw [hthing]
  | some pThingName =>
    cases document with
    | none =>
      unfold internalAction
      rw [hthing]
    | some document =>
      have htracked := trackedAction_congr env hagree fuel handlers
      unfold internalAction
      rw [hthing]
      dsimp only
      rw [publishToShadowAction_congr env hagree]
      simp only [htracked]
      rfl

/-! ## Answers -/

theorem resolveRecord_congr (fuel : Nat) (handlers : Handlers M)
    (topicName clientToken : List UInt8) (index : Nat) :
    resolveRecord (env.withLocals l) fuel handlers topicName clientToken index =
      resolveRecord (env.withLocals l') fuel handlers topicName clientToken index := by
  unfold resolveRecord
  rw [ackStatus_congr env hagree]
  rfl

theorem resolveFrom_congr (fuel : Nat) (handlers : Handlers M) (topicName clientToken : List UInt8)
    (left i : Nat) :
    resolveFrom (env.withLocals l) fuel handlers topicName clientToken left i =
      resolveFrom (env.withLocals l') fuel handlers topicName clientToken left i := by
  induction left generalizing i with
  | zero => rfl
  | succ left ih =>
    unfold resolveFrom
    rw [resolveRecord_congr env hagree, ih]

theorem ackStatusCallback_congr (fuel : Nat) (handlers : Handlers M) (call : HandlerCall) :
    ackStatusCallback (env.withLocals l) fuel handlers call =
      ackStatusCallback (env.withLocals l') fuel handlers call := by
  have hresolve := resolveFrom_congr env hagree fuel handlers
  unfold ackStatusCallback
  simp only [hresolve]
  rfl

/-! ## The interface -/

theorem shadowDispatch_congr (fuel : Nat) (handlers : Handlers M) (call : ShadowCall) :
    shadowDispatch (env.withLocals l) fuel handlers call =
      shadowDispatch (env.withLocals l') fuel handlers call := by
  have haction := internalAction_congr env hagree fuel handlers
  cases call with
  | init params => exact shadowInit_congr env hagree params
  | update params pJsonString => exact congrArg whenConnected (haction .update params pJsonString)
  | get params =>
    exact congrArg whenConnected (bind_congr_right fun document => haction .get params _)
  | delete params =>
    exact congrArg whenConnected (bind_congr_right fun document => haction .delete params _)
  | connect params => rfl
  | disconnect => rfl
  | yield timeoutMs => rfl
  | setAutoreconnectStatus newStatus => rfl
  | registerDelta pStruct => rfl
  | resetLastReceivedVersion => rfl
  | enableDiscardOldDeltaMsgs => rfl
  | disableDiscardOldDeltaMsgs => rfl

theorem shadowCall_congr (fuel : Nat) (handlers : Handlers M) (call : ShadowCall) :
    shadowCall (env.withLocals l) fuel handlers call =
      shadowCall (env.withLocals l') fuel handlers call := by
  unfold shadowCall
  rw [shadowDispatch_congr env hagree]

theorem runCallback_congr (fuel : Nat) (handlers : Handlers M) :
    runCallback (env.withLocals l) fuel handlers =
      runCallback (env.withLocals l') fuel handlers := by
  have hcall := shadowCall_congr env hagree fuel handlers
  unfold runCallback
  simp only [hcall]
  rfl

/-- What is reached through a callback or a handler is the same, to any depth. -/
theorem handlersAt_congr (fuel depth : Nat) :
    (handlersAt (env.withLocals l) fuel depth : Handlers M) =
      handlersAt (env.withLocals l') fuel depth := by
  induction depth with
  | zero => rfl
  | succ depth ih =>
    have hack := ackStatusCallback_congr env hagree fuel
    have hrun := runCallback_congr env hagree fuel
    have hdelta := shadowDeltaCallback_withLocals env l l'
    unfold handlersAt
    simp only [ih, hack, hdelta, hrun]

theorem shadowApplication_congr (fuel : Nat) (calls : List ShadowCall) :
    (shadowApplication (env.withLocals l) fuel calls : M Unit) =
      shadowApplication (env.withLocals l') fuel calls := by
  have hcall := shadowCall_congr env hagree fuel
  unfold shadowApplication
  simp only [handlersAt_congr env hagree, hcall]

end

/-! ## What a run shows -/

/-- What is seen of a run of the shadow layer. -/
structure Observed where
  /-- The MQTT packets given to `send_packet`, newest first. -/
  packets : List (List UInt8)
  /-- The calls that returned, and their return codes. -/
  returnCodes : List (ShadowCall × IoTError)
  /-- The status arguments of the callbacks. -/
  statuses : List AckStatus
  /-- The client's locking mode. -/
  isBlockOnThreadLockEnabled : Bool
  /-- The data for the client's disconnect handler. -/
  disconnectHandlerData : Nat
  deriving DecidableEq, Repr

/-- The packet that `send_packet` starts on. -/
def packetOf? : Event → Option (List UInt8)
  | .sending packet => some packet
  | _ => none

/-- The call that returned, and its return code. -/
def ShadowEvent.returned? : ShadowEvent → Option (ShadowCall × IoTError)
  | .returned call rc => some (call, rc)
  | _ => none

/-- The status argument of the callback that was called. -/
def ShadowEvent.status? : ShadowEvent → Option AckStatus
  | .callbackCalled _ _ status => some status
  | _ => none

/-- What is seen of a run that has got to `w`. -/
def observed (w : World) : Observed where
  packets := w.log.filterMap packetOf?
  returnCodes := w.shadow.log.filterMap ShadowEvent.returned?
  statuses := w.shadow.log.filterMap ShadowEvent.status?
  isBlockOnThreadLockEnabled := w.client.isBlockOnThreadLockEnabled
  disconnectHandlerData := w.client.disconnectHandlerData

/-- Two runs from one world, one with each choice of initial values, show the same. -/
def ShowTheSame (env : ShadowEnv) (l l' : Locals) (fuel : Nat) (calls : List ShadowCall)
    (w : World) : Prop :=
  observed ((shadowApplication (env.withLocals l) fuel calls : M Unit).run w).state =
    observed ((shadowApplication (env.withLocals l') fuel calls : M Unit).run w).state

/-- The runs of a program show the same whatever the initial values are, as long as they agree
in what is read before it is assigned. -/
theorem showTheSame_of_agree {l l' : Locals} (hagree : Agree l l') (env : ShadowEnv) (fuel : Nat)
    (calls : List ShadowCall) (w : World) : ShowTheSame env l l' fuel calls w := by
  unfold ShowTheSame
  rw [shadowApplication_congr env hagree]

/-! ### One connection and one update -/

/-- Surroundings in which the server accepts the connection. -/
def acceptingEnv : ShadowEnv :=
  { quietShadowEnv (fun _ => ⟨none, []⟩) with
    mqtt := quietEnv.receiving [(6, [0x20, 2, 0, 0])] }

/-- Automatic variables that held `retained` where the retain flag of a message is, and
`blocking` where the locking mode of a client is; they have `id` and `port` elsewhere. -/
def localsOf (retained : UInt8) (blocking : Bool) (id port : UInt16) : Locals where
  msgParams _ := { (default : PublishParams) with isRetained := retained, id := id }
  mqttInitParams _ :=
    { (default : InitParams) with isBlockOnThreadLockEnabled := blocking, port := port }
  status _ := .timeout

/-- An application that updates the shadow of the thing `a`. -/
def updatingCalls : List ShadowCall :=
  [.init ⟨true, 8883, true, true, true, false, false⟩,
    .connect ⟨⟨ascii "a"⟩, some ⟨ascii "c"⟩, 1, false⟩,
    .update ⟨some ⟨ascii "a"⟩, false, 0, false⟩ (some ⟨ascii "\x7b\x7d"⟩)]

/-- A retain flag that is not 1 is like one that is 0, and what is assigned before it is read
does not matter. -/
theorem showTheSame_updating :
    ShowTheSame acceptingEnv (localsOf 0 false 0 0) (localsOf 2 false 7 80) 8 updatingCalls
      World.start := by
  have hagree : Agree (localsOf 0 false 0 0) (localsOf 2 false 7 80) :=
    { retained := fun _ =>
        iff_of_false (show (0 : UInt8) ≠ 1 by decide) (show (2 : UInt8) ≠ 1 by decide)
      handlerData := fun _ => rfl
      locking := fun _ => rfl
      status := fun _ => rfl }
  exact showTheSame_of_agree hagree acceptingEnv 8 updatingCalls World.start

/-- The update goes out as a retained message or not, and the client waits for a mutex or
not. -/
theorem not_always_showTheSame :
    ¬ ∀ (env : ShadowEnv) (l l' : Locals) (fuel : Nat) (calls : List ShadowCall) (w : World),
      ShowTheSame env l l' fuel calls w := by
  intro h
  have hsame := h acceptingEnv (localsOf 0 false 0 0) (localsOf 1 true 0 0) 8 updatingCalls
    World.start
  have hpackets : (observed ((shadowApplication
      (acceptingEnv.withLocals (localsOf 0 false 0 0)) 8 updatingCalls : M Unit).run
        World.start).state).packets.head?.bind List.head? = some 0x30 := by
    decide +kernel
  have hpackets' : (observed ((shadowApplication
      (acceptingEnv.withLocals (localsOf 1 true 0 0)) 8 updatingCalls : M Unit).run
        World.start).state).packets.head?.bind List.head? = some 0x31 := by
    decide +kernel
  unfold ShowTheSame at hsame
  rw [hsame, hpackets'] at hpackets
  exact absurd hpackets (by decide)

end AwsIot.Shadow
