/-
  Shadow/Traversal.lean --- what holds of the primitives holds of the shadow layer.

  As in `Mqtt/Traversal.lean`, a property of programs that sequencing preserves is had by
  every function of the shadow layer, if the functions of the client have it and the
  primitives on the static storage.  What touches the version received last is left to the
  property: the two handlers of messages, and the calls that set it.
-/
import AwsIot.Mqtt.Relations
import AwsIot.Shadow.Api

set_option autoImplicit false

namespace AwsIot.Shadow

open AwsIot.Foundation AwsIot.Mqtt Program

/-- An update of the static storage that leaves the log and the version received last
alone. -/
def KeepsVersion (f : Records → Records) : Prop :=
  ∀ s, (f s).log = s.log ∧ (f s).shadowJsonVersionNum = s.shadowJsonVersionNum ∧
    (f s).shadowDiscardOldDeltaFlag = s.shadowDiscardOldDeltaFlag

/-- An update of the static storage that leaves the topics alone. -/
def KeepsTopics (f : Records → Records) : Prop := ∀ s, (f s).topicIn = s.topicIn

/-- An update of the static storage that leaves the awaited answers alone. -/
def KeepsAnswers (f : Records → Records) : Prop :=
  ∀ s, (f s).ackWaitList = s.ackWaitList ∧ (f s).requests = s.requests

/-- An update of the static storage that leaves the ack topics alone. -/
def KeepsSubscriptions (f : Records → Records) : Prop :=
  ∀ s, (f s).subscriptionList = s.subscriptionList

/-- An update of the static storage that leaves both tables alone. -/
def KeepsTables (f : Records → Records) : Prop :=
  ∀ s, (f s).ackWaitList = s.ackWaitList ∧ (f s).requests = s.requests ∧
    (f s).subscriptionList = s.subscriptionList

theorem keepsTopics_updateSubscription (index : Nat)
    {f : SubscriptionRecord → SubscriptionRecord} (hf : ∀ r, (f r).topic = r.topic) :
    KeepsTopics fun s => { s with
      subscriptionList :=
        Function.update s.subscriptionList index (f (s.subscriptionList index)) } := by
  intro s
  funext buffer
  cases buffer with
  | shadowDeltaTopic => rfl
  | subscription i =>
    by_cases hi : i = index
    · subst hi
      simp only [Records.topicIn, Function.update_self, hf]
    · simp only [Records.topicIn, Function.update_of_ne hi]

variable {m : Type → Type} [Monad m] [Halting m] [ClientOps m] [ShadowOps m]

theorem keepsVersion_storeTopic (buffer : TopicBuffer) (topic : List UInt8) :
    KeepsVersion fun s => s.storeTopic buffer topic := by
  cases buffer with
  | subscription index => exact fun _ => ⟨rfl, rfl, rfl⟩
  | shadowDeltaTopic => exact fun _ => ⟨rfl, rfl, rfl⟩

/-- The handlers and callbacks have the property. -/
structure Handled (Ok : ∀ {α : Type}, m α → Prop) (handlers : Handlers m) : Prop where
  /-- Message handlers. -/
  message : ∀ call, Ok (handlers.message call)
  /-- The disconnect handler. -/
  disconnect : Ok handlers.disconnect
  /-- The callback of a request. -/
  action : Ok handlers.action
  /-- The callback of a registered key. -/
  delta : Ok handlers.delta

/-- The client does not touch the static storage of the shadow layer: a relation that holds
where it stays is respected by every primitive. -/
theorem allSteps_of_shadow {R : World → World → Prop} [IsPreorder World R]
    (h : ∀ {w w' : World}, w'.shadow = w.shadow → R w w') (env : Env) : AllSteps env R where
  onClient _ _ _ := h rfl
  tick _ := h rfl
  push _ _ _ := h rfl
  pushPacket _ _ _ := h rfl
  pushConnection _ _ _ := h rfl
  pushTurn _ _ _ := h rfl
  pushHandler _ _ _ := h rfl
  withState _ _ := h rfl
  register _ _ _ := h rfl
  clear _ _ := h rfl
  reset _ := h rfl
  onTable _ _ _ := h rfl
  start _ := h rfl
  double _ := h rfl

/-- The functions of the client have the property, and the primitives on the static storage
that leave both tables alone. -/
structure Storing (env : ShadowEnv) (Ok : ∀ {α : Type}, m α → Prop) :
    Prop extends Everything (m := m) env.mqtt Ok where
  /-- Serving the application. -/
  serving : ∀ {callbacks : Callbacks m}, (∀ call, Ok (callbacks.message call)) →
    Serving env.mqtt callbacks Ok
  /-- Reading the static storage. -/
  getRecords : Ok (getRecords : m Records)
  /-- Updating the static storage apart from the topics and the tables. -/
  modifyRecords : ∀ {f : Records → Records}, KeepsVersion f → KeepsTopics f → KeepsTables f →
    Ok (modifyRecords f : m Unit)
  /-- Writing the topic of the delta messages. -/
  storeDeltaTopic : ∀ topic, Ok (storeTopic .shadowDeltaTopic topic : m Unit)
  /-- Passing a topic to the client. -/
  passing : ∀ {α : Type} (buffer topic) {x : CharPtr → m α}, (∀ topicName, Ok (x topicName)) →
    Ok (passing buffer topic x)
  /-- Emptying the tables. -/
  initializeRecords : Ok (initializeRecords env.config : m Unit)
  /-- Logging a call. -/
  note : ∀ {e : ShadowEvent}, e.kind = .call → Ok (note e : m Unit)

namespace Storing

variable {Ok : ∀ {α : Type}, m α → Prop} {env : ShadowEnv} (h : Storing (m := m) env Ok)
include h

/-! ## The client -/

section Handlers

variable (fuel : Nat) {handlers : Handlers m} (hhandlers : Handled Ok handlers)
include hhandlers

theorem mqttSubscribe (buffer : Option TopicBuffer) (topic : List UInt8) (qos : QoS)
    (handler : Nat) : Ok (mqttSubscribe env fuel handlers buffer topic qos handler) :=
  h.passing buffer topic fun _ => h.subscribe fuel (h.serving hhandlers.message) _ _ _ _ _

theorem publishToShadowAction (thingName : List UInt8) (action : ShadowActions)
    (document : CharPtr) :
    Ok (publishToShadowAction env fuel handlers thingName action document) := by
  have hend : ∀ rc, Ok (do
      Shadow.note (.published rc)
      return rc : m IoTError) := fun rc => h.bind (h.note rfl) fun _ => h.pure _
  refine h.bind (h.ask _) fun _ => h.bind h.getRecords fun s => ?_
  refine h.ite (fun _ => ?_) fun _ => h.bind (h.pure _) hend
  exact h.bind (h.publish fuel (h.serving hhandlers.message).toCycling _ _ _) hend

end Handlers

theorem settle (fuel : Nat) : Ok (settle env fuel : m Unit) := by
  refine h.bind (h.countdownSec _ _) fun timer => h.loop (fun _ => ?_) fuel ()
  exact h.bind (h.hasTimerExpired _ _) fun _ => h.ite (fun _ => h.pure _) fun _ => h.pure _

theorem ackThingName (r : ToBeReceivedAckRecord) : Ok (ackThingName env r : m (List UInt8)) :=
  h.ite (fun _ => h.pure _) fun _ => h.bind (h.ask _) fun _ => h.pure _

/-! ## Documents -/

theorem parseObject (json : List UInt8) : Ok (parseObject env json : m (Option Nat)) :=
  h.bind (h.modifyRecords (fun _ => ⟨rfl, rfl, rfl⟩) (fun _ => rfl)
    fun _ => ⟨rfl, rfl, rfl⟩) fun _ =>
    h.bind h.getRecords fun _ => h.pure _

theorem extractClientToken (json : List UInt8) (size : Nat) :
    Ok (extractClientToken env json size : m (Option (List UInt8))) := by
  refine h.bind (h.parseObject json) fun tokenCount => ?_
  cases tokenCount with
  | none => exact h.pure _
  | some tokenCount =>
    refine h.bind h.getRecords fun s => ?_
    dsimp only
    split
    · exact h.pure _
    · exact h.ite (fun _ => h.bind h.halt fun _ => h.pure _) fun _ => h.pure _

theorem fillWithClientToken : Ok (fillWithClientToken : m (List UInt8)) :=
  h.bind h.getRecords fun _ =>
    h.bind (h.modifyRecords (fun _ => ⟨rfl, rfl, rfl⟩) (fun _ => rfl)
      fun _ => ⟨rfl, rfl, rfl⟩) fun _ => h.pure _

theorem whenConnected {action : m IoTError} (haction : Ok action) : Ok (whenConnected action) :=
  h.bind h.getClientState fun _ => h.ite (fun _ => h.pure _) fun _ => haction

end Storing

/-! ## Ack topics of a request -/

/-- Besides, the primitives on the ack topics have the property. -/
structure Subscribing (env : ShadowEnv) (Ok : ∀ {α : Type}, m α → Prop) :
    Prop extends Storing (m := m) env Ok where
  /-- Updating the static storage apart from the topics and the awaited answers. -/
  modifySubscriptions : ∀ {f : Records → Records}, KeepsVersion f → KeepsTopics f →
    KeepsAnswers f → Ok (ShadowOps.modifyRecords f : m Unit)
  /-- Writing a topic. -/
  storeTopic : ∀ buffer topic, Ok (storeTopic buffer topic : m Unit)
  /-- Logging something about an ack topic. -/
  noteSubscription : ∀ {e : ShadowEvent}, e.kind = .subscription → Ok (Shadow.note e : m Unit)

/-- The end of `clearEntries`: the topic of the record that was freed is unsubscribed from, if
it was subscribed to once. -/
def clearLast (env : ShadowEnv) (fuel : Nat) (handlers : Handlers m) (index : Option Nat) :
    m Unit := do
  let s ← ShadowOps.getRecords
  let r ← match index with
    | some i => pure (s.subscriptionList i)
    | none => ClientOps.ask env.beforeSubscriptionList
  if r.count = 1 then
    let _ ← unsubscribeAck env fuel handlers r.topic

namespace Subscribing

variable {Ok : ∀ {α : Type}, m α → Prop} {env : ShadowEnv} (h : Subscribing (m := m) env Ok)
include h

theorem updateSubscription (index : Nat) {f : SubscriptionRecord → SubscriptionRecord}
    (hf : ∀ r, (f r).topic = r.topic) : Ok (updateSubscription index f : m Unit) :=
  h.modifySubscriptions (fun _ => ⟨rfl, rfl, rfl⟩) (keepsTopics_updateSubscription index hf)
    fun _ => ⟨rfl, rfl⟩

theorem getNextFreeIndexOfSubscriptionList (config : ShadowConfig) :
    Ok (getNextFreeIndexOfSubscriptionList config : m (Option Nat)) := by
  refine h.bind h.getRecords fun s => ?_
  dsimp only
  split
  · exact h.pure _
  · refine h.bind (h.updateSubscription _ fun _ => rfl) fun _ => ?_
    exact h.bind (h.noteSubscription rfl) fun _ => h.pure _

theorem findIndexOfSubscriptionList (config : ShadowConfig) (topic : List UInt8) :
    Ok (findIndexOfSubscriptionList config topic : m (Option Nat)) := by
  refine h.bind h.getRecords fun s => ?_
  dsimp only
  split
  · exact h.pure _
  · exact h.bind (h.noteSubscription rfl) fun _ => h.pure _

theorem writeTopic (config : ShadowConfig) (index : Nat) (topic : List UInt8) :
    Ok (writeTopic config index topic : m Unit) :=
  h.bind h.getRecords fun _ => h.bind (h.storeTopic _ _) fun _ => h.noteSubscription rfl

theorem incrementSubscriptionCnt (config : ShadowConfig) (accepted rejected : List UInt8)
    (isSticky : Bool) :
    Ok (incrementSubscriptionCnt config accepted rejected isSticky : m Unit) := by
  refine h.forEach (fun i => h.bind h.getRecords fun s => ?_) _
  refine h.ite (fun _ => ?_) fun _ => h.pure _
  exact h.bind (h.noteSubscription rfl) fun _ => h.updateSubscription _ fun _ => rfl

section Handlers

variable (fuel : Nat) {handlers : Handlers m} (hhandlers : Handled Ok handlers)
include hhandlers

theorem subscribeAck (index : Nat) (topic : List UInt8) :
    Ok (subscribeAck env fuel handlers index topic) := by
  have hend : ∀ rc, Ok (do
      Shadow.note (.subscribed topic rc)
      return rc : m IoTError) := fun rc =>
    h.bind (h.noteSubscription rfl) fun _ => h.pure _
  refine h.bind h.getRecords fun s => h.ite (fun _ => ?_) fun _ => h.bind (h.pure _) hend
  exact h.bind (h.mqttSubscribe fuel hhandlers _ _ _ _) hend

theorem unsubscribeAck (topic : List UInt8) : Ok (unsubscribeAck env fuel handlers topic) := by
  have hend : ∀ rc, Ok (do
      Shadow.note (.unsubscribed topic rc)
      return rc : m IoTError) := fun rc =>
    h.bind (h.noteSubscription rfl) fun _ => h.pure _
  refine h.bind (h.noteSubscription rfl) fun _ => h.bind h.getRecords fun s => ?_
  refine h.ite (fun _ => ?_) fun _ => h.bind (h.pure _) hend
  exact h.bind (h.unsubscribe fuel (h.serving hhandlers.message) _ _) hend

theorem lowerSubscription (topic : List UInt8) :
    Ok (lowerSubscription env fuel handlers topic) := by
  refine h.bind (h.findIndexOfSubscriptionList _ topic) fun found => ?_
  cases found with
  | none => exact h.pure _
  | some i =>
    refine h.bind h.getRecords fun s => h.ite (fun _ => ?_) fun _ => ?_
    · refine h.bind (h.noteSubscription rfl) fun _ => ?_
      refine h.bind (h.unsubscribeAck fuel hhandlers topic) fun rc => ?_
      exact h.ite (fun _ => h.bind (h.updateSubscription _ fun _ => rfl) fun _ =>
        h.noteSubscription rfl)
        fun _ => h.noteSubscription rfl
    · exact h.ite (fun _ => h.updateSubscription _ fun _ => rfl) fun _ => h.pure _

theorem unsubscribeFromAcceptedAndRejected (index : Nat) :
    Ok (unsubscribeFromAcceptedAndRejected env fuel handlers index) := by
  refine h.bind h.getRecords fun s => h.bind (h.ackThingName _) fun thingName => ?_
  exact h.bind (h.lowerSubscription fuel hhandlers _) fun _ => h.lowerSubscription fuel hhandlers _

theorem clearEntries (i j : Option Nat) : Ok (clearEntries env fuel handlers i j) := by
  have htail : ∀ r : SubscriptionRecord, Ok (do
      if r.count = 1 then
        let _ ← Shadow.unsubscribeAck env fuel handlers r.topic : m Unit) := fun r =>
    h.ite (fun _ => h.bind (h.unsubscribeAck fuel hhandlers _) fun _ => h.pure _) fun _ => h.pure _
  have hrecord : Ok (clearLast env fuel handlers i) := by
    refine h.bind h.getRecords fun s => ?_
    cases i with
    | some i => exact h.bind (h.pure _) htail
    | none => exact h.bind (h.ask _) htail
  unfold Shadow.clearEntries
  cases i with
  | some i => exact h.bind (h.updateSubscription _ fun _ => rfl) fun _ => hrecord
  | none =>
    cases j with
    | some j => exact h.bind (h.updateSubscription _ fun _ => rfl) fun _ => hrecord
    | none => exact hrecord

omit fuel hhandlers in
theorem loseRecords (i j : Nat) : Ok (loseRecords i j : m Unit) :=
  h.bind (h.noteSubscription rfl) fun _ => h.noteSubscription rfl

theorem subscribeToShadowActionAcks (accepted rejected : List UInt8) (isSticky : Bool) :
    Ok (subscribeToShadowActionAcks env fuel handlers accepted rejected isSticky) := by
  have hclear := h.clearEntries fuel hhandlers
  refine h.bind (h.getNextFreeIndexOfSubscriptionList _) fun i => ?_
  refine h.bind (h.getNextFreeIndexOfSubscriptionList _) fun j => ?_
  split
  · rename_i i j
    have hlost : ∀ rc, Ok (do
        Shadow.loseRecords i j
        Shadow.clearEntries env fuel handlers (some i) (some j)
        return rc : m IoTError) := fun rc =>
      h.bind (h.loseRecords i j) fun _ => h.bind (hclear _ _) fun _ => h.pure _
    refine h.bind (h.writeTopic _ _ _) fun _ => ?_
    refine h.bind (h.subscribeAck fuel hhandlers _ _) fun rc => ?_
    refine h.ite (fun _ => hlost rc) fun _ => ?_
    refine h.bind (h.updateSubscription _ fun _ => rfl) fun _ => ?_
    refine h.bind (h.writeTopic _ _ _) fun _ => ?_
    refine h.bind (h.subscribeAck fuel hhandlers _ _) fun rc => ?_
    refine h.ite (fun _ => hlost rc) fun _ => ?_
    refine h.bind (h.updateSubscription _ fun _ => rfl) fun _ => ?_
    refine h.bind (h.noteSubscription rfl) fun _ => ?_
    exact h.bind (h.noteSubscription rfl) fun _ => h.bind (h.settle fuel) fun _ => h.pure _
  · exact h.bind (h.noteSubscription rfl) fun _ => h.bind (hclear _ _) fun _ => h.pure _

/-- An action that is to be tracked, if its answer may be awaited. -/
theorem trackedAction (index : Nat) (thingName : List UInt8) (action : ShadowActions)
    (document : CharPtr) (clientToken : List UInt8) (params : ActionParams)
    (hadd : Ok (addToAckWaitList env index thingName action clientToken params.callback
      params.timeoutSeconds.toNat : m Unit)) :
    Ok (trackedAction env fuel handlers index thingName action document clientToken params) := by
  have hend : ∀ rc : IoTError, Ok (do
      if rc ≠ .success then return rc
      let rc ← Shadow.publishToShadowAction env fuel handlers thingName action document
      if rc ≠ .success then return rc
      Shadow.addToAckWaitList env index thingName action clientToken params.callback
        params.timeoutSeconds.toNat
      if bothOnRecord env.config (← ShadowOps.getRecords)
          (topicNameFromThingAndAction env.config thingName action .accepted)
          (topicNameFromThingAndAction env.config thingName action .rejected) then
        Shadow.note (.granted (topicNameFromThingAndAction env.config thingName action .accepted)
          (topicNameFromThingAndAction env.config thingName action .rejected)
          params.isPersistentSubscribe)
      return .success : m IoTError) := by
    intro rc
    refine h.ite (fun _ => h.pure _) fun _ => ?_
    refine h.bind (h.publishToShadowAction fuel hhandlers _ _ _) fun rc => ?_
    refine h.ite (fun _ => h.pure _) fun _ => h.bind hadd fun _ => ?_
    refine h.bind h.getRecords fun s => h.ite (fun _ => ?_) fun _ => h.pure _
    exact h.bind (h.noteSubscription rfl) fun _ => h.pure _
  refine h.bind h.getRecords fun s => h.bind (h.noteSubscription rfl) fun _ => ?_
  refine h.ite (fun _ => ?_) fun _ => ?_
  · exact h.bind (h.incrementSubscriptionCnt _ _ _ _) fun _ => h.bind (h.pure _) hend
  · exact h.bind (h.subscribeToShadowActionAcks fuel hhandlers _ _ _) hend

end Handlers

end Subscribing

/-! ## Awaited answers -/

/-- Besides, the primitives on the awaited answers have the property. -/
structure Answering (env : ShadowEnv) (Ok : ∀ {α : Type}, m α → Prop) :
    Prop extends Storing (m := m) env Ok where
  /-- Updating the static storage apart from the topics and their table. -/
  modifyAnswers : ∀ {f : Records → Records}, KeepsVersion f → KeepsTopics f →
    KeepsSubscriptions f → Ok (ShadowOps.modifyRecords f : m Unit)
  /-- Logging something about an awaited answer. -/
  noteAnswer : ∀ {e : ShadowEvent}, e.kind = .answer → Ok (Shadow.note e : m Unit)

namespace Answering

variable {Ok : ∀ {α : Type}, m α → Prop} {env : ShadowEnv} (h : Answering (m := m) env Ok)
include h

theorem updateAckWait (index : Nat) (f : ToBeReceivedAckRecord → ToBeReceivedAckRecord) :
    Ok (updateAckWait index f : m Unit) :=
  h.modifyAnswers (fun _ => ⟨rfl, rfl, rfl⟩) (fun _ => rfl) fun _ => rfl

theorem freeAckWait (index : Nat) : Ok (freeAckWait index : m Unit) :=
  h.bind (h.updateAckWait index _) fun _ => h.noteAnswer rfl

theorem addToAckWaitList (index : Nat) (thingName : List UInt8) (action : ShadowActions)
    (clientToken : List UInt8) (callback : Bool) (timeoutSeconds : Nat) :
    Ok (addToAckWaitList env index thingName action clientToken callback timeoutSeconds :
      m Unit) := by
  refine h.bind (h.countdownSec _ _) fun timer => h.bind h.getRecords fun s => ?_
  refine h.bind (h.updateAckWait _ _) fun _ => ?_
  refine h.bind (h.modifyAnswers (fun _ => ⟨rfl, rfl, rfl⟩) (fun _ => rfl) fun _ => rfl) ?_
  exact fun _ => h.noteAnswer rfl

section Handlers

variable (fuel : Nat) {handlers : Handlers m} (hhandlers : Handled Ok handlers)
include hhandlers

omit fuel in
theorem callBack (index : Nat) (status : AckStatus) : Ok (callBack handlers index status) := by
  refine h.bind h.getRecords fun s => h.bind (h.noteAnswer rfl) fun _ => ?_
  refine h.ite (fun _ => ?_) fun _ => h.pure _
  exact h.bind (h.noteAnswer rfl) fun _ => hhandlers.action

variable (hunsubscribe : ∀ index,
    Ok (unsubscribeFromAcceptedAndRejected env fuel handlers index))
include hunsubscribe

theorem handleExpired (index : Nat) : Ok (handleExpired env fuel handlers index) := by
  refine h.bind h.getRecords fun s => h.ite (fun _ => ?_) fun _ => h.pure _
  refine h.bind (h.hasTimerExpired _ _) fun _ => h.ite (fun _ => ?_) fun _ => h.pure _
  refine h.bind (h.callBack hhandlers _ _) fun _ => h.bind (h.freeAckWait _) fun _ => ?_
  exact hunsubscribe index

theorem resolve (index : Nat) (status : AckStatus) :
    Ok (resolve env fuel handlers index status) := by
  refine h.bind (h.callBack hhandlers _ _) fun _ => ?_
  exact h.bind (hunsubscribe _) fun _ => h.freeAckWait _

theorem resolveRecord (topicName clientToken : List UInt8) (index : Nat) :
    Ok (resolveRecord env fuel handlers topicName clientToken index) := by
  refine h.bind h.getRecords fun s => h.ite (fun _ => h.pure _) fun _ => ?_
  refine h.bind ?_ fun status => h.ite (fun _ => h.pure _) fun _ => ?_
  · exact h.ite (fun _ => h.pure _) fun _ => h.ite (fun _ => h.pure _) fun _ => h.ask _
  · exact h.bind (h.resolve fuel hhandlers hunsubscribe _ _) fun _ => h.pure _

end Handlers

end Answering

/-! ## Requests -/

/-- Besides the primitives that leave both tables alone, what uses the tables has the
property. -/
structure Recording (env : ShadowEnv) (Ok : ∀ {α : Type}, m α → Prop) :
    Prop extends Storing (m := m) env Ok where
  /-- An action that is to be tracked. -/
  trackedAction : ∀ {handlers : Handlers m} (fuel : Nat), Handled Ok handlers →
    ∀ index thingName action document clientToken {params : ActionParams}, params.callback = true →
      Ok (trackedAction env fuel handlers index thingName action document clientToken params)
  /-- An answer that may be overdue. -/
  handleExpired : ∀ {handlers : Handlers m} (fuel : Nat), Handled Ok handlers → ∀ index,
    Ok (handleExpired env fuel handlers index)
  /-- An answer. -/
  resolveRecord : ∀ {handlers : Handlers m} (fuel : Nat), Handled Ok handlers →
    ∀ topicName clientToken index,
      Ok (resolveRecord env fuel handlers topicName clientToken index)

/-- The end of `AckStatusCallback`. -/
def answerAck (env : ShadowEnv) (fuel : Nat) (handlers : Handlers m)
    (topicName document : List UInt8) (size : Nat) : m Unit := do
  match ← extractClientToken env document size with
  | none => return ()
  | some clientToken =>
      resolveFrom env fuel handlers topicName clientToken
        env.config.maxAcksToComeinAtAnyGivenTime 0

namespace Recording

variable {Ok : ∀ {α : Type}, m α → Prop} {env : ShadowEnv} (h : Recording (m := m) env Ok)
include h

section Handlers

variable (fuel : Nat) {handlers : Handlers m} (hhandlers : Handled Ok handlers)
include hhandlers

theorem handleExpiredResponseCallbacks :
    Ok (handleExpiredResponseCallbacks env fuel handlers) :=
  h.forEach (h.handleExpired fuel hhandlers) _

theorem resolveFrom (topicName clientToken : List UInt8) : ∀ left i,
    Ok (resolveFrom env fuel handlers topicName clientToken left i) := by
  intro left
  induction left with
  | zero => exact fun _ => h.pure _
  | succ left ih =>
    intro i
    refine h.bind (h.resolveRecord fuel hhandlers _ _ _) fun _ => ?_
    exact h.ite (fun _ => h.pure _) fun _ => ih (i + 1)

theorem answer (topicName document : List UInt8) (size : Nat) :
    Ok (answerAck env fuel handlers topicName document size : m Unit) := by
  refine h.bind (h.extractClientToken document size) fun token => ?_
  cases token with
  | none => exact h.pure _
  | some clientToken => exact h.resolveFrom fuel hhandlers _ _ _ _

/-- The handler of acks, if the message may be logged and its version stored. -/
theorem ackStatusCallback
    (hnote : ∀ mine document, Ok (Shadow.note (.ackReceived mine document) : m Unit))
    (hstore : ∀ version, Ok (ShadowOps.modifyRecords fun s =>
      { s with shadowJsonVersionNum := max s.shadowJsonVersionNum version } : m Unit))
    (call : HandlerCall) : Ok (ackStatusCallback env fuel handlers call) := by
  unfold Shadow.ackStatusCallback
  refine h.ite (fun _ => h.pure _) fun _ => ?_
  refine h.bind (h.modifyRecords (fun _ => ⟨rfl, rfl, rfl⟩) (fun _ => rfl)
    fun _ => ⟨rfl, rfl, rfl⟩) fun _ => ?_
  refine h.bind h.getRecords fun s => h.bind (h.parseObject _) fun result => ?_
  cases result with
  | none => exact h.pure _
  | some tokenCount =>
    refine h.bind h.getClient fun c => h.bind h.getRecords fun s' => h.bind (hnote _ _) fun _ => ?_
    have hend := h.answer fuel hhandlers (topicString c call.topicNameAt)
      (rxDocument env.config s) env.config.maxSizeClientTokenClientSequence
    refine h.ite (fun _ => ?_) fun _ => hend
    refine h.bind (h.bind h.getRecords fun _ => h.pure _) fun version => ?_
    cases version with
    | none => exact hend
    | some version => exact h.bind (hstore version) fun _ => hend

theorem internalAction (action : ShadowActions) (params : ActionParams)
    (document : Option CharPtr) :
    Ok (internalAction env fuel handlers action params document) := by
  unfold Shadow.internalAction
  split
  · refine h.bind (h.extractClientToken _ _) fun token => ?_
    split
    · exact h.publishToShadowAction fuel hhandlers _ _ _
    · rename_i clientToken htoken
      have hcallback : params.callback = true := (Option.filter_eq_some_iff.mp htoken).2
      refine h.bind h.getRecords fun s => ?_
      split
      · exact h.pure _
      · exact h.trackedAction fuel hhandlers _ _ _ _ _ hcallback
  · exact h.pure _

theorem requestWithToken (action : ShadowActions) (params : ActionParams) :
    Ok (requestWithToken env fuel handlers action params) := by
  refine h.whenConnected (h.bind ?_ fun document => h.internalAction fuel hhandlers _ _ _)
  exact h.bind h.fillWithClientToken fun _ => h.pure _

theorem shadowConnect (params : ShadowConnectParameters) :
    Ok (shadowConnect env fuel handlers params) := by
  unfold Shadow.shadowConnect
  split
  · exact h.pure _
  · refine h.bind (h.modifyRecords (fun _ => ⟨rfl, rfl, rfl⟩) (fun _ => rfl)
    fun _ => ⟨rfl, rfl, rfl⟩) fun _ => ?_
    refine h.bind (h.connect fuel _ (h.serving hhandlers.message).toCycling) fun rc => ?_
    have hend : Ok (do
        if params.deleteActionHandler then
          let s ← ShadowOps.getRecords
          Shadow.mqttSubscribe env fuel handlers none
            (topicNameFromThingAndAction env.config s.myThingName .delete .accepted) .qos1
            deleteActionHandler
        else return rc : m IoTError) := by
      refine h.ite (fun _ => h.bind h.getRecords fun s => ?_) fun _ => h.pure _
      exact h.mqttSubscribe fuel hhandlers _ _ _ _
    exact h.ite (fun _ => h.bind h.initializeRecords fun _ => hend) fun _ => hend

theorem shadowYield (timeoutMs : Nat) : Ok (shadowYield env fuel handlers timeoutMs) :=
  h.bind (h.handleExpiredResponseCallbacks fuel hhandlers) fun _ =>
    h.yield fuel (h.serving hhandlers.message).toCycling hhandlers.disconnect _

/-! ## Registered keys -/

theorem registerJsonTokenOnDelta (pStruct : JsonStruct) :
    Ok (registerJsonTokenOnDelta env fuel handlers pStruct) := by
  have hsubscribed : ∀ rc : IoTError, Ok (do
      ShadowOps.modifyRecords fun s => { s with deltaTopicSubscribedFlag := true }
      return rc : m IoTError) := fun rc =>
    h.bind (h.modifyRecords (fun _ => ⟨rfl, rfl, rfl⟩) (fun _ => rfl)
      fun _ => ⟨rfl, rfl, rfl⟩) fun _ => h.pure _
  have hsubscribe : Ok (subscribeDelta env fuel handlers) := by
    refine h.bind h.getRecords fun s => h.ite (fun _ => h.pure _) fun _ => ?_
    refine h.bind (h.storeDeltaTopic _) fun _ => h.ite (fun _ => ?_) fun _ => ?_
    · exact h.bind (h.mqttSubscribe fuel hhandlers _ _ _ _) hsubscribed
    · exact h.bind (h.pure _) hsubscribed
  refine h.bind hsubscribe fun rc => h.bind h.getRecords fun s => h.ite (fun _ => h.pure _) ?_
  exact fun _ => h.bind (h.modifyRecords (fun _ => ⟨rfl, rfl, rfl⟩) (fun _ => rfl)
    fun _ => ⟨rfl, rfl, rfl⟩) fun _ => h.pure _

theorem registerDelta (pStruct : Option JsonStruct) :
    Ok (registerDelta env fuel handlers pStruct) := by
  cases pStruct with
  | none => exact h.pure _
  | some pStruct => exact h.whenConnected (h.registerJsonTokenOnDelta fuel hhandlers pStruct)

end Handlers

end Recording

/-! ## All primitives -/

/-- The functions of the client and the primitives on the static storage have the
property. -/
structure Shadowing (env : ShadowEnv) (Ok : ∀ {α : Type}, m α → Prop) :
    Prop extends Everything (m := m) env.mqtt Ok where
  /-- Serving the application. -/
  serving : ∀ {callbacks : Callbacks m}, (∀ call, Ok (callbacks.message call)) →
    Serving env.mqtt callbacks Ok
  /-- Reading the static storage. -/
  getRecords : Ok (getRecords : m Records)
  /-- Updating the static storage apart from the topics. -/
  modifyRecords : ∀ {f : Records → Records}, KeepsVersion f → KeepsTopics f →
    Ok (modifyRecords f : m Unit)
  /-- Writing a topic. -/
  storeTopic : ∀ buffer topic, Ok (storeTopic buffer topic : m Unit)
  /-- Passing a topic to the client. -/
  passing : ∀ {α : Type} (buffer topic) {x : CharPtr → m α}, (∀ topicName, Ok (x topicName)) →
    Ok (passing buffer topic x)
  /-- Emptying the tables. -/
  initializeRecords : Ok (initializeRecords env.config : m Unit)
  /-- Logging something else than a delta message. -/
  note : ∀ {e : ShadowEvent}, e.kind ≠ .delta → Ok (note e : m Unit)

namespace Shadowing

variable {Ok : ∀ {α : Type}, m α → Prop} {env : ShadowEnv} (h : Shadowing (m := m) env Ok)
include h

theorem storing : Storing (m := m) env Ok where
  toEverything := h.toEverything
  serving := h.serving
  getRecords := h.getRecords
  modifyRecords hversion htopics _ := h.modifyRecords hversion htopics
  storeDeltaTopic := h.storeTopic _
  passing := h.passing
  initializeRecords := h.initializeRecords
  note hkind := h.note fun hdelta => by cases hkind.symm.trans hdelta

theorem subscribing : Subscribing (m := m) env Ok where
  toStoring := h.storing
  modifySubscriptions hversion htopics _ := h.modifyRecords hversion htopics
  storeTopic := h.storeTopic
  noteSubscription hkind := h.note fun hdelta => by cases hkind.symm.trans hdelta

theorem answering : Answering (m := m) env Ok where
  toStoring := h.storing
  modifyAnswers hversion htopics _ := h.modifyRecords hversion htopics
  noteAnswer hkind := h.note fun hdelta => by cases hkind.symm.trans hdelta

theorem recording : Recording (m := m) env Ok where
  toStoring := h.storing
  trackedAction fuel hhandlers _ _ _ _ _ _ _ :=
    h.subscribing.trackedAction fuel hhandlers _ _ _ _ _ _
      (h.answering.addToAckWaitList _ _ _ _ _ _)
  handleExpired fuel hhandlers := h.answering.handleExpired fuel hhandlers
    (h.subscribing.unsubscribeFromAcceptedAndRejected fuel hhandlers)
  resolveRecord fuel hhandlers := h.answering.resolveRecord fuel hhandlers
    (h.subscribing.unsubscribeFromAcceptedAndRejected fuel hhandlers)

end Shadowing

/-! ## Dispatching a message -/

/-- What the loop of `shadow_delta_callback` consists of has the property. -/
structure Dispatching (handlers : Handlers m) (received : Nat) (Ok : ∀ {α : Type}, m α → Prop) :
    Prop extends Compositional (m := m) Ok where
  /-- Reading the static storage. -/
  getRecords : Ok (getRecords : m Records)
  /-- Updating the variables. -/
  modifyRecords : ∀ {f : Records → Records}, KeepsVersion f → KeepsTopics f → KeepsTables f →
    Ok (modifyRecords f : m Unit)
  /-- Logging the update of a variable. -/
  updated : ∀ index data, Ok (note (.deltaUpdated received index data) : m Unit)
  /-- Logging the call of a callback. -/
  calledBack : ∀ index value, Ok (note (.deltaCalledBack received index value) : m Unit)
  /-- Logging its return. -/
  returned : ∀ index kept, Ok (note (.deltaReturned received index kept) : m Unit)
  /-- The callbacks. -/
  delta : Ok handlers.delta

namespace Dispatching

variable {Ok : ∀ {α : Type}, m α → Prop} {env : ShadowEnv} {handlers : Handlers m} {received : Nat}
  (h : Dispatching (m := m) handlers received Ok)
include h

omit [ClientOps m] in
theorem dispatchEntry (tokenCount index : Nat) :
    Ok (dispatchEntry env handlers received tokenCount index) := by
  refine h.bind h.getRecords fun s => h.ite (fun _ => ?_) fun _ => h.pure _
  dsimp only
  split
  · exact h.pure _
  · refine h.bind (h.modifyRecords (fun _ => ⟨rfl, rfl, rfl⟩) (fun _ => rfl)
      fun _ => ⟨rfl, rfl, rfl⟩) fun _ => ?_
    refine h.bind (h.updated index _) fun _ => h.ite (fun _ => ?_) fun _ => h.pure _
    refine h.bind (h.calledBack index _) fun _ => h.bind h.delta fun _ => ?_
    exact h.bind h.getRecords fun _ => h.returned index _

omit [ClientOps m] in
theorem dispatchFrom (tokenCount : Nat) : ∀ left index,
    Ok (dispatchFrom env handlers received tokenCount left index) := by
  intro left
  induction left with
  | zero => exact fun _ => h.pure _
  | succ left ih =>
    intro index
    refine h.bind h.getRecords fun s => h.ite (fun _ => h.pure _) fun _ => ?_
    exact h.bind (h.dispatchEntry tokenCount index) fun _ => ih (index + 1)

end Dispatching

/-! ## The whole API -/

/-- Besides the functions around them, the handlers of messages and the calls that set the
version received last have the property. -/
structure Versioned (env : ShadowEnv) (fuel : Nat) (Ok : ∀ {α : Type}, m α → Prop) :
    Prop extends Recording (m := m) env Ok where
  /-- The handler of acks. -/
  ackStatusCallback : ∀ {handlers : Handlers m}, Handled Ok handlers → ∀ call,
    Ok (ackStatusCallback env fuel handlers call)
  /-- The handler of delta messages. -/
  shadowDeltaCallback : ∀ {handlers : Handlers m}, Handled Ok handlers → ∀ call,
    Ok (shadowDeltaCallback env handlers call)
  /-- Forgetting the version received last. -/
  resetLastReceivedVersion : Ok (resetLastReceivedVersion : m Unit)
  /-- Ignoring old delta messages, or not. -/
  setDiscardOldDeltaMsgs : ∀ flag, Ok (setDiscardOldDeltaMsgs flag : m Unit)

/-- What asks nothing of versions asks nothing of the handlers of messages. -/
theorem Recording.versioned {Ok : ∀ {α : Type}, m α → Prop} {env : ShadowEnv}
    (h : Recording (m := m) env Ok)
    (hstore : ∀ {f : Records → Records}, (∀ s, (f s).log = s.log) → KeepsTopics f →
      KeepsTables f → Ok (ShadowOps.modifyRecords f : m Unit))
    (hnote : ∀ {e : ShadowEvent}, e.kind = .delta → Ok (Shadow.note e : m Unit))
    (hreset : Ok (resetLastReceivedVersion : m Unit))
    (hdiscard : ∀ flag, Ok (setDiscardOldDeltaMsgs flag : m Unit))
    (fuel : Nat) : Versioned (m := m) env fuel Ok where
  toRecording := h
  ackStatusCallback hhandlers := h.ackStatusCallback fuel hhandlers (fun _ _ => hnote rfl)
    fun _ => hstore (fun _ => rfl) (fun _ => rfl) fun _ => ⟨rfl, rfl, rfl⟩
  shadowDeltaCallback hhandlers call := by
    refine h.ite (fun _ => h.pure _) fun _ => ?_
    refine h.bind (hstore (fun _ => rfl) (fun _ => rfl) fun _ => ⟨rfl, rfl, rfl⟩) fun _ => ?_
    refine h.bind h.getRecords fun s => h.bind (h.parseObject _) fun tokenCount => ?_
    cases tokenCount with
    | none => exact h.pure _
    | some tokenCount =>
      refine h.bind h.getRecords fun s' => h.bind (hnote rfl) fun _ => ?_
      refine h.bind (h.bind h.getRecords fun _ => h.pure _) fun version => ?_
      refine h.bind h.getRecords fun s'' => ?_
      split
      · exact h.pure _
      · refine h.bind (hstore (fun _ => rfl) (fun _ => rfl) fun _ => ⟨rfl, rfl, rfl⟩) fun _ => ?_
        refine Dispatching.dispatchFrom ?_ tokenCount _ _
        exact {
          toCompositional := h.toCompositional
          getRecords := h.getRecords
          modifyRecords := fun hversion => hstore fun s => (hversion s).1
          updated := fun _ _ => hnote rfl
          calledBack := fun _ _ => hnote rfl
          returned := fun _ _ => hnote rfl
          delta := hhandlers.delta }
  resetLastReceivedVersion := hreset
  setDiscardOldDeltaMsgs := hdiscard

namespace Versioned

variable {Ok : ∀ {α : Type}, m α → Prop} {env : ShadowEnv} {fuel : Nat}
  (h : Versioned (m := m) env fuel Ok)
include h

theorem shadowInit (params : ShadowInitParameters) :
    Ok (shadowInit env params : m IoTError) := by
  have hserving : Serving env.mqtt (⟨fun _ => pure (), pure ()⟩ : Callbacks m) Ok :=
    h.serving fun _ => h.pure _
  refine h.bind h.getRecords fun s => h.bind (hserving.init _) fun rc => ?_
  refine h.ite (fun _ => h.pure _) fun _ => ?_
  refine h.bind (h.modifyRecords (fun _ => ⟨rfl, rfl, rfl⟩) (fun _ => rfl)
    fun _ => ⟨rfl, rfl, rfl⟩) fun _ => ?_
  refine h.bind h.resetLastReceivedVersion fun _ => ?_
  exact h.bind (h.modifyRecords (fun _ => ⟨rfl, rfl, rfl⟩) (fun _ => rfl)
    fun _ => ⟨rfl, rfl, rfl⟩) fun _ => h.pure _

variable {handlers : Handlers m} (hhandlers : Handled Ok handlers)
include hhandlers

theorem shadowDispatch (call : ShadowCall) : Ok (shadowDispatch env fuel handlers call) := by
  cases call with
  | init params => exact h.shadowInit params
  | connect params => exact h.shadowConnect fuel hhandlers params
  | disconnect => exact h.disconnect fuel
  | update params pJsonString =>
    exact h.whenConnected (h.internalAction fuel hhandlers _ params pJsonString)
  | get params => exact h.requestWithToken fuel hhandlers _ params
  | delete params => exact h.requestWithToken fuel hhandlers _ params
  | yield timeoutMs => exact h.shadowYield fuel hhandlers timeoutMs
  | setAutoreconnectStatus newStatus => exact h.autoreconnectSetStatus newStatus
  | registerDelta pStruct => exact h.registerDelta fuel hhandlers pStruct
  | resetLastReceivedVersion => exact h.bind h.resetLastReceivedVersion fun _ => h.pure _
  | enableDiscardOldDeltaMsgs => exact h.bind (h.setDiscardOldDeltaMsgs true) fun _ => h.pure _
  | disableDiscardOldDeltaMsgs => exact h.bind (h.setDiscardOldDeltaMsgs false) fun _ => h.pure _

theorem shadowCall (call : ShadowCall) : Ok (shadowCall env fuel handlers call) := by
  refine h.bind (h.note rfl) fun _ => h.bind (h.shadowDispatch hhandlers call) fun rc => ?_
  exact h.bind (h.note rfl) fun _ => h.pure _

theorem runCallback : Ok (runCallback env fuel handlers) := by
  refine h.loop (fun _ => h.bind (h.ask _) fun next => ?_) fuel ()
  cases next with
  | none => exact h.pure _
  | some call => exact h.bind (h.shadowCall hhandlers call) fun _ => h.pure _

omit hhandlers in
/-- What is behind the client and the shadow layer has the property, at every depth. -/
theorem handlersAt (depth : Nat) : Handled Ok (handlersAt env fuel depth : Handlers m) := by
  induction depth with
  | zero => exact ⟨fun _ => h.halt, h.halt, h.halt, h.halt⟩
  | succ depth ih =>
    have hcallback := h.runCallback ih
    refine ⟨fun call => ?_, hcallback, hcallback, hcallback⟩
    refine h.ite (fun _ => h.ackStatusCallback ih call) fun _ => ?_
    exact h.ite (fun _ => h.shadowDeltaCallback ih call) fun _ => hcallback

omit hhandlers in
theorem shadowApplication (calls : List ShadowCall) :
    Ok (shadowApplication env fuel calls : m Unit) :=
  h.forEach (fun call => h.bind (h.shadowCall (h.handlersAt fuel) call) fun _ => h.pure _) calls

end Versioned

end AwsIot.Shadow
