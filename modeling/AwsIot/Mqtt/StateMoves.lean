/-
  Mqtt/StateMoves.lean --- how a call may move the client state.

  Two properties of a run are about the client state alone: whether it tells the
  truth about the network, and whether a call ever leaves the client between two
  operations.  Both rest on the same fact: a call either leaves the client state
  and the network as it found them, or puts the client to rest.  What rest means,
  and which runs are looked at, is a `Discipline`; the walk through the operations
  that take a state and give it back is made here, for every discipline.
-/
import AwsIot.Mqtt.Relations

set_option autoImplicit false

namespace AwsIot.Mqtt

open AwsIot.Foundation Program

/-! ## Disciplines -/

/-- The states that an operation takes and gives back before it returns. -/
def ClientState.isHeld : ClientState → Bool
  | .connecting | .disconnecting | .connectedPublishInProgress | .connectedSubscribeInProgress
  | .connectedUnsubscribeInProgress | .connectedResubscribeInProgress
  | .connectedWaitForCbReturn => true
  | .invalid | .initialized | .connectedIdle | .connectedYieldInProgress | .disconnectedError
  | .disconnectedManually | .pendingReconnect => false

/-- The return codes after which `aws_iot_mqtt_yield` does not go back to idle. -/
def IoTError.isLost : IoTError → Bool
  | .networkDisconnectedError | .networkAttemptingReconnect => true
  | _ => false

/-- A notion of rest: which logs are looked at, what a log says about the network, and in
which client states over such a network a client is at rest.  The laws are what the
operations that touch the connection ask for. -/
structure Discipline where
  /-- The logs that are looked at. -/
  Ok : List Event → Prop
  /-- What a log says about the network. -/
  up : List Event → Bool
  /-- A client in this state, over such a network, is at rest. -/
  Rest : ClientState → Bool → Prop
  /-- What comes before is looked at as well. -/
  ok_tail : ∀ {e : Event} {log : List Event}, Ok (e :: log) → Ok log
  /-- Only the connection's events say something about the network. -/
  up_cons : ∀ {e : Event} {log : List Event}, e.kind ≠ .connection → up (e :: log) = up log
  /-- No operation is under way at rest. -/
  rest_held : ∀ {s : ClientState} {b : Bool}, Rest s b → s.isHeld = false
  /-- A client that has connected is at rest. -/
  connected : ∀ {log : List Event}, Rest .connectedIdle (up (.netConnect .success :: log))
  /-- A client that has given up its connection is at rest. -/
  dropped : ∀ {rc : IoTError} {log : List Event},
    Rest .disconnectedError (up (.netDestroy rc :: .netDisconnect :: log))
  /-- A client that has disconnected is at rest. -/
  disconnected : ∀ {log : List Event}, Rest .disconnectedManually
    (up (.disconnectDestroyed .success :: .netDestroy .success :: .netDisconnect :: log))
  /-- A connect that fails leaves a client at rest at rest. -/
  cleanup : ∀ {s : ClientState} {rc : IoTError} {log : List Event},
    Ok (.connectCleanup s :: log) → Rest s (up log) →
      Rest s (up (.netDestroy rc :: .netDisconnect :: .connectCleanup s :: log))
  /-- The disconnect handler leaves a client at rest. -/
  handled : ∀ {s : ClientState} {log : List Event}, Ok (.disconnectHandled s :: log) →
    Rest s (up log) → Rest .disconnectedError (up (.disconnectHandled s :: log))
  /-- A disconnect that fails to destroy the network says what it did. -/
  destroyFailed : ∀ {rc rc' : IoTError} {log : List Event}, rc ≠ .success →
    Ok (.returned .disconnect rc' :: .disconnectDestroyed rc :: .netDestroy rc ::
      .netDisconnect :: log) →
    up (.disconnectDestroyed rc :: .netDestroy rc :: .netDisconnect :: log) = up log
  /-- A client is at rest after its initialisation failed. -/
  invalid : ∀ {rc : IoTError} {log : List Event}, Ok (.tlsInit rc :: log) → rc ≠ .success →
    Rest .invalid (up (.tlsInit rc :: log))
  /-- A client is at rest after its initialisation. -/
  initialized : ∀ {log : List Event}, Ok (.tlsInit .success :: log) →
    Rest .initialized (up (.tlsInit .success :: log))
  /-- The end of a connect that succeeded leaves a client at rest at rest. -/
  connectDone : ∀ {s : ClientState} {log : List Event}, Rest s (up log) →
    Rest s (up (.connectDone s :: log))
  /-- A client that a yield lost the connection of waits to reconnect at rest. -/
  started : ∀ {log : List Event}, Rest .disconnectedError (up log) →
    Rest .pendingReconnect (up (.reconnectStarted true :: log))
  /-- A client that failed to reconnect waits at rest. -/
  pending : ∀ {enabled : Bool} {log : List Event}, Ok (.reconnectPending .success enabled :: log) →
    Rest .disconnectedError (up log) →
    Rest .pendingReconnect (up (.reconnectPending .success enabled :: log))
  /-- A client that failed to reconnect and cannot wait is still at rest. -/
  notPending : ∀ {s : ClientState} {rc : IoTError} {enabled : Bool} {log : List Event},
    rc ≠ .success → Rest s (up log) → Rest s (up (.reconnectPending rc enabled :: log))
  /-- Counting attempts says nothing about the network. -/
  due : ∀ {s : ClientState} {interval : Nat} {log : List Event},
    up (.reconnectDue s interval :: log) = up log
  /-- Counting attempts says nothing about the network. -/
  failed : ∀ {interval : Nat} {log : List Event}, up (.attemptFailed interval :: log) = up log
  /-- What a yield that goes back to idle leaves. -/
  idle : ∀ {b : Bool}, Rest .connectedYieldInProgress b → Rest .connectedIdle b
  /-- What a yield does not give back. -/
  stuck : ∀ {offset len readLen : Nat} {bytes : List UInt8} {rc : IoTError} {log : List Event}
    {b : Bool}, rc.isLost = true →
    Ok (.netRead .remainingLength .connectedYieldInProgress offset len rc readLen bytes :: log) →
    Rest .connectedIdle b → Rest .connectedYieldInProgress b

namespace Discipline

variable (D : Discipline)

/-- The client is at rest. -/
def RestsAt (w : World) : Prop := D.Rest w.client.clientState (D.up w.log)

/-- Client state and network are as they were. -/
def Same (w w' : World) : Prop :=
  w'.client.clientState = w.client.clientState ∧ D.up w'.log = D.up w.log

/-- Where a stretch of a run starts. -/
inductive Start where
  /-- Anywhere. -/
  | anywhere
  /-- Where a handler runs: in WAIT_FOR_CB_RETURN or at rest. -/
  | handler
  /-- At rest. -/
  | rest

/-- The start condition. -/
def From : Start → World → Prop
  | .anywhere, _ => True
  | .handler, w => w.client.clientState = .connectedWaitForCbReturn ∨ D.RestsAt w
  | .rest, w => D.RestsAt w

/-- From `start` on, client state and network are left alone or the client is put to
rest, in every run that is looked at. -/
def Moves (start : Start) (w w' : World) : Prop :=
  D.Ok w'.log → D.Ok w.log ∧ (D.From start w → D.Same w w' ∨ D.RestsAt w')

variable {D} {start : Start} {w w' w₁ : World}

theorem Same.refl (w : World) : D.Same w w := ⟨rfl, rfl⟩

theorem Same.trans (h : D.Same w w₁) (h' : D.Same w₁ w') : D.Same w w' :=
  ⟨h'.1.trans h.1, h'.2.trans h.2⟩

theorem Same.rests (h : D.Same w w') (hw : D.RestsAt w) : D.RestsAt w' := by
  unfold RestsAt
  rw [h.1, h.2]
  exact hw

theorem RestsAt.from (h : D.RestsAt w) : D.From start w := by
  cases start with
  | anywhere => trivial
  | handler => exact .inr h
  | rest => exact h

theorem Same.from (h : D.Same w w') (hw : D.From start w) : D.From start w' := by
  cases start with
  | anywhere => trivial
  | handler => exact hw.imp (fun hs => h.1.trans hs) h.rests
  | rest => exact h.rests hw

instance : IsPreorder World (D.Moves start) where
  refl w hok := ⟨hok, fun _ => .inl (.refl w)⟩
  trans w w₁ w' h h' hok := by
    obtain ⟨hok₁, h'⟩ := h' hok
    obtain ⟨hok, h⟩ := h hok₁
    refine ⟨hok, fun hfrom => ?_⟩
    rcases h hfrom with hsame | hrest
    · exact (h' (hsame.from hfrom)).imp_left hsame.trans
    · exact (h' hrest.from).elim (fun hsame => .inr (hsame.rests hrest)) .inr

theorem Moves.of_same (hok : D.Ok w'.log → D.Ok w.log) (h : D.Same w w') :
    D.Moves start w w' := fun hw' => ⟨hok hw', fun _ => .inl h⟩

/-- What holds from anywhere holds from everywhere. -/
theorem Moves.weaken (h : D.Moves .anywhere w w') : D.Moves start w w' := fun hok =>
  ⟨(h hok).1, fun _ => (h hok).2 trivial⟩

/-- At rest, a move ends at rest. -/
theorem Moves.rests (h : D.Moves start w w') (hok : D.Ok w'.log) (hw : D.RestsAt w) :
    D.RestsAt w' :=
  ((h hok).2 hw.from).elim (fun hsame => hsame.rests hw) id

theorem moves_push {e : Event} (he : e.kind ≠ .connection) (w : World) :
    D.Moves start w (w.push e) :=
  .of_same D.ok_tail ⟨rfl, D.up_cons he⟩

variable (D start) in
theorem moves_steps : PacketSteps (D.Moves start) where
  onClient w f hf := .of_same id ⟨(hf w.client).1, rfl⟩
  tick w := .of_same id ⟨rfl, rfl⟩
  push w e he := moves_push (by rw [he]; decide) w
  pushPacket w e he := moves_push (by rw [he]; decide) w

/-! ## Taking a state and giving it back -/

/-- An operation that holds the state `t` gives back the state it found, or finds the
client at rest. -/
theorem Moves.leave {t : ClientState} (h : D.Moves start (w.withState t) w₁)
    (hfrom : D.From start (w.withState t)) (ht : t.isHeld = true) :
    if t = w₁.client.clientState then
      D.Moves .anywhere w (w₁.withState w.client.clientState)
    else D.Moves .anywhere w w₁ := by
  split
  case isTrue hheld =>
    intro hok
    obtain ⟨hok', hmove⟩ := h hok
    refine ⟨hok', fun _ => .inl ⟨rfl, ?_⟩⟩
    rcases hmove hfrom with hsame | hrest
    · exact hsame.2
    · have hnot := D.rest_held hrest
      rw [← hheld, ht] at hnot
      cases hnot
  case isFalse hleft =>
    intro hok
    obtain ⟨hok', hmove⟩ := h hok
    refine ⟨hok', fun _ => .inr ?_⟩
    rcases hmove hfrom with hsame | hrest
    · exact absurd hsame.1.symm hleft
    · exact hrest

section Requests

variable {env : Env} {fuel : Nat} {callbacks : Callbacks M}

/-- The handlers of a delivery move as each of them does. -/
theorem deliverSlots_moves (hmessage : ∀ call, Returns (D.Moves .handler) (callbacks.message call))
    (msg : IncomingPublish) (slots : List Nat) :
    Returns (D.Moves .handler) (forEach (deliverToSlot callbacks msg) slots) := by
  have hcomp := (D.moves_steps .handler).returning
  refine hcomp.forEach (fun itr => hcomp.bind hcomp.getClient fun c => ?_) slots
  dsimp only
  split
  · refine hcomp.ite (fun _ => ?_) fun _ => hcomp.pure _
    refine hcomp.bind (fun w => moves_push (by simp [Event.kind]) w) fun _ => ?_
    exact hcomp.bind (hmessage _) fun _ w => moves_push (by simp [Event.kind]) w
  · exact hcomp.pure _

/-- A delivery gives back the state it found. -/
theorem deliverMessage_moves
    (hmessage : ∀ call, Returns (D.Moves .handler) (callbacks.message call))
    (msg : IncomingPublish) :
    Returns (D.Moves .anywhere) (deliverMessage env callbacks msg) := by
  intro w
  unfold deliverMessage
  simp only [ends_bind, ends_getClientState, ends_setClientState, if_true]
  refine (deliverSlots_moves hmessage msg _ _).mono ?_ (fun _ _ => trivial)
  intro _ w₁ hmove
  exact hmove.leave (.inl rfl) rfl

/-- Waiting for packets gives back the state it found. -/
theorem waiting_moves (hmessage : ∀ call, Returns (D.Moves .handler) (callbacks.message call)) :
    Waiting env callbacks (Returns (D.Moves .anywhere)) where
  toPackets := (D.moves_steps .anywhere).returning
  deliverReceived msg := (D.moves_steps .anywhere).toTrafficSteps.deliverReceived
    (haltsAfter_any _) (deliverMessage_moves hmessage msg)
  modifyTimer := (D.moves_steps .anywhere).toTrafficSteps.modifyTimer
  registerHandler slot handler w := .of_same D.ok_tail ⟨rfl, D.up_cons (by simp [Event.kind])⟩
  clearHandlers filter w := .of_same D.ok_tail ⟨rfl, D.up_cons (by simp [Event.kind])⟩

theorem performRequest_moves {operation : Operation} (hop : operation.inProgress.isHeld = true)
    {internal : M IoTError} (hi : Returns (D.Moves .anywhere) internal) (w : World) :
    (performRequest operation w.client.clientState internal : M IoTError).Ends
      (w.withState operation.inProgress) (fun _ w' => D.Moves .anywhere w w')
      (fun _ => True) := by
  unfold performRequest
  simp only [ends_bind, ends_within, ends_pure]
  refine (hi _).mono ?_ (fun _ _ => trivial)
  intro opRc w₁ hmove
  exact ends_setClientState.mpr (hmove.leave trivial hop)

theorem request_moves {operation : Operation} (hop : operation.inProgress.isHeld = true)
    {internal : M IoTError} (hi : Returns (D.Moves .anywhere) internal) :
    Returns (D.Moves .anywhere) (request operation internal) := by
  intro w
  unfold request
  simp only [ends_bind, ends_getClientState, ends_ite, ends_pure, ends_setClientState]
  split
  · exact refl_of (D.Moves .anywhere) w
  split
  · exact refl_of (D.Moves .anywhere) w
  rw [if_pos trivial, if_neg (by simp)]
  exact performRequest_moves hop hi w

theorem unsubscribeRequest_moves {internal : M IoTError}
    (hi : Returns (D.Moves .anywhere) internal) :
    Returns (D.Moves .anywhere) (unsubscribeRequest internal) := by
  intro w
  unfold unsubscribeRequest
  simp only [ends_bind, ends_getClientState, ends_ite, ends_pure, ends_setClientState]
  split
  · exact refl_of (D.Moves .anywhere) w
  split
  · exact refl_of (D.Moves .anywhere) w
  rw [if_pos trivial, if_neg (by simp)]
  exact performRequest_moves rfl hi w

theorem resubscribeRequest_moves {internal : M IoTError}
    (hi : Returns (D.Moves .anywhere) internal) :
    Returns (D.Moves .anywhere) (resubscribeRequest internal) := by
  intro w
  unfold resubscribeRequest
  simp only [ends_bind, ends_getClientState, ends_ite, ends_pure, ends_setClientState]
  split
  · exact refl_of (D.Moves .anywhere) w
  split
  · exact refl_of (D.Moves .anywhere) w
  case isFalse hidle =>
    have hs := not_not.mp hidle
    rw [if_pos hs.symm, if_neg (by simp), ← hs]
    exact performRequest_moves rfl hi w

variable (hmessage : ∀ call, Returns (D.Moves .handler) (callbacks.message call))
include hmessage

theorem publish_moves (topicName : Option CharPtr) (topicNameLen : UInt16)
    (params : Option PublishParams) : Returns (D.Moves .anywhere)
      (publish env fuel callbacks topicName topicNameLen params) := by
  have hcomp := returns_compositional (D.Moves .anywhere)
  unfold publish
  split
  · refine hcomp.ite (fun _ => hcomp.pure _) fun _ => ?_
    exact request_moves rfl ((waiting_moves hmessage).cycling.internalPublish fuel _ _ _)
  · exact hcomp.pure _

theorem subscribe_moves (topicName : Option CharPtr) (topicNameLen : UInt16) (qos : QoS)
    (handler : Option Nat) (data : Nat) : Returns (D.Moves .anywhere)
      (subscribe env fuel callbacks topicName topicNameLen qos handler data) := by
  unfold subscribe
  split
  · exact request_moves rfl ((waiting_moves hmessage).internalSubscribe fuel _ _ _ _ _)
  · exact (returns_compositional _).pure _

theorem unsubscribe_moves (topicFilter : Option CharPtr) (topicFilterLen : UInt16) :
    Returns (D.Moves .anywhere)
      (unsubscribe env fuel callbacks topicFilter topicFilterLen) := by
  unfold unsubscribe
  split
  · exact unsubscribeRequest_moves ((waiting_moves hmessage).internalUnsubscribe fuel _ _)
  · exact (returns_compositional _).pure _

theorem resubscribe_moves :
    Returns (D.Moves .anywhere) (resubscribe env fuel callbacks) :=
  resubscribeRequest_moves ((waiting_moves hmessage).cycling.internalResubscribe fuel
    fun he w => moves_push (by rw [he w.client]; decide) w)

end Requests

end Discipline

end AwsIot.Mqtt
