/-
  Mqtt/HeldState.lean --- a client state that an operation holds.

  While an operation holds the client, handlers may call the client again.  Such a
  call leaves the client state as it is, unless it touches the connection: every
  function that moves a held state gives it back, and those that would not refuse a
  client that is held.
-/
import AwsIot.Mqtt.Nesting
import AwsIot.Mqtt.RestingState

set_option autoImplicit false

namespace AwsIot.Mqtt

open AwsIot.Foundation Program

/-! ## Stretches that touch the connection -/

/-- Nothing in a stretch is about the connection. -/
def Calm (new : List Event) : Prop := ∀ e ∈ new, e.kind ≠ .connection

instance (new : List Event) : Decidable (Calm new) :=
  inferInstanceAs (Decidable (∀ e ∈ new, e.kind ≠ .connection))

/-- The connection was touched since `w`. -/
def Touched (w w' : World) : Prop := ∃ new, Extends w new w' ∧ ¬ Calm new

section Touched

variable {w w₁ w' : World}

theorem Extends.of_grows (h : LogGrows w w') : ∃ new, Extends w new w' := by
  obtain ⟨new, hnew⟩ := h
  exact ⟨new.reverse, by rw [Extends, List.reverse_reverse, hnew]⟩

theorem Extends.grows {new : List Event} (h : Extends w new w') : LogGrows w w' :=
  ⟨new.reverse, h.symm⟩

theorem Touched.after (h : LogGrows w w₁) (h' : Touched w₁ w') : Touched w w' := by
  obtain ⟨new, hnew⟩ := Extends.of_grows h
  obtain ⟨more, hmore, htouched⟩ := h'
  exact ⟨new ++ more, hnew.trans hmore, fun hcalm =>
    htouched fun e he => hcalm e (List.mem_append_right _ he)⟩

theorem Touched.before (h : Touched w w₁) (h' : LogGrows w₁ w') : Touched w w' := by
  obtain ⟨new, hnew, htouched⟩ := h
  obtain ⟨more, hmore⟩ := Extends.of_grows h'
  exact ⟨new ++ more, hnew.trans hmore, fun hcalm =>
    htouched fun e he => hcalm e (List.mem_append_left _ he)⟩

theorem touched_push {e : Event} (he : e.kind = .connection) (w : World) :
    Touched w (w.push e) :=
  ⟨[e], (Extends.refl w).push e, fun hcalm => hcalm e (List.mem_singleton_self e) he⟩

theorem Touched.not_calm (h : Touched w w') : ¬ Calm (w.stretch w') := by
  obtain ⟨new, hnew, htouched⟩ := h
  rw [hnew.stretch]
  exact htouched

/-- A client state that is held is kept unless the connection is touched. -/
def KeepsHeld (w w' : World) : Prop :=
  LogGrows w w' ∧ (w.client.clientState.isHeld = true →
    w'.client.clientState = w.client.clientState ∨ Touched w w')

instance : IsPreorder World KeepsHeld where
  refl w := ⟨refl_of LogGrows w, fun _ => .inl rfl⟩
  trans := by
    rintro w w₁ w' ⟨hgrows, hkeeps⟩ ⟨hgrows', hkeeps'⟩
    refine ⟨trans_of LogGrows hgrows hgrows', fun hheld => ?_⟩
    rcases hkeeps hheld with hsame | htouched
    · rcases hkeeps' (hsame ▸ hheld) with hsame' | htouched
      · exact .inl (hsame'.trans hsame)
      · exact .inr (htouched.after hgrows)
    · exact .inr (htouched.before hgrows')

theorem keepsHeld_same (hgrows : LogGrows w w')
    (hstate : w'.client.clientState = w.client.clientState) : KeepsHeld w w' :=
  ⟨hgrows, fun _ => .inl hstate⟩

theorem keepsHeld_push (w : World) (e : Event) : KeepsHeld w (w.push e) :=
  keepsHeld_same (List.suffix_cons e _) rfl

theorem keepsHeld_steps : PacketSteps KeepsHeld where
  onClient w _ hf := keepsHeld_same (List.suffix_refl w.log) (hf w.client).1
  tick w := keepsHeld_same (List.suffix_refl w.log) rfl
  push w e _ := keepsHeld_push w e
  pushPacket w e _ := keepsHeld_push w e

/-- What an operation that took the state `t` gives back. -/
theorem KeepsHeld.leave {t : ClientState} (ht : t.isHeld = true)
    (h : KeepsHeld (w.withState t) w₁) :
    if t = w₁.client.clientState then KeepsHeld w (w₁.withState w.client.clientState)
    else KeepsHeld w w₁ := by
  split
  case isTrue => exact keepsHeld_same h.1 rfl
  case isFalse hleft =>
    refine ⟨h.1, fun _ => .inr ?_⟩
    exact (h.2 ht).resolve_left fun hsame => hleft hsame.symm

end Touched

/-! ## Operations -/

section Operations

variable {env : Env} {fuel : Nat} {callbacks : Callbacks M}

theorem deliverMessage_keepsHeld (hmessage : ∀ call, Returns KeepsHeld (callbacks.message call))
    (msg : IncomingPublish) : Returns KeepsHeld (deliverMessage env callbacks msg) := by
  have hcomp := keepsHeld_steps.returning
  have hslot : ∀ itr, Returns KeepsHeld (deliverToSlot callbacks msg itr) := by
    intro itr w
    rw [ends_deliverToSlot]
    cases slotCall w.client msg itr with
    | none => exact refl_of KeepsHeld w
    | some call =>
      refine (hmessage _ _).mono ?_ (fun _ _ => trivial)
      intro _ w' h
      exact trans_of KeepsHeld (keepsHeld_push w _) (trans_of KeepsHeld h (keepsHeld_push w' _))
  intro w
  unfold deliverMessage
  simp only [ends_bind, ends_getClientState, ends_setClientState, if_true]
  refine (hcomp.forEach hslot _ _).mono ?_ (fun _ _ => trivial)
  intro _ w₁ h
  exact h.leave rfl

theorem waiting_keepsHeld (hmessage : ∀ call, Returns KeepsHeld (callbacks.message call)) :
    Waiting env callbacks (Returns KeepsHeld) where
  toPackets := keepsHeld_steps.returning
  deliverReceived msg := keepsHeld_steps.toTrafficSteps.deliverReceived (haltsAfter_any _)
    (deliverMessage_keepsHeld hmessage msg)
  modifyTimer := keepsHeld_steps.toTrafficSteps.modifyTimer
  registerHandler _ _ w := keepsHeld_same (List.suffix_cons _ w.log) rfl
  clearHandlers _ w := keepsHeld_same (List.suffix_cons _ w.log) rfl

theorem performRequest_keepsHeld {operation : Operation}
    (hop : operation.inProgress.isHeld = true) {internal : M IoTError}
    (hi : Returns KeepsHeld internal) (w : World) :
    (performRequest operation w.client.clientState internal : M IoTError).Ends
      (w.withState operation.inProgress) (fun _ w' => KeepsHeld w w') (fun _ => True) := by
  unfold performRequest
  simp only [ends_bind, ends_within, ends_pure]
  refine (hi _).mono ?_ (fun _ _ => trivial)
  intro opRc w₁ h
  exact ends_setClientState.mpr (h.leave hop)

theorem request_keepsHeld {operation : Operation} (hop : operation.inProgress.isHeld = true)
    {internal : M IoTError} (hi : Returns KeepsHeld internal) :
    Returns KeepsHeld (request operation internal) := by
  intro w
  unfold request
  simp only [ends_bind, ends_getClientState, ends_ite, ends_pure, ends_setClientState]
  split
  · exact refl_of KeepsHeld w
  split
  · exact refl_of KeepsHeld w
  rw [if_pos trivial, if_neg (by simp)]
  exact performRequest_keepsHeld hop hi w

theorem unsubscribeRequest_keepsHeld {internal : M IoTError} (hi : Returns KeepsHeld internal) :
    Returns KeepsHeld (unsubscribeRequest internal) := by
  intro w
  unfold unsubscribeRequest
  simp only [ends_bind, ends_getClientState, ends_ite, ends_pure, ends_setClientState]
  split
  · exact refl_of KeepsHeld w
  split
  · exact refl_of KeepsHeld w
  rw [if_pos trivial, if_neg (by simp)]
  exact performRequest_keepsHeld rfl hi w

/-! ## What refuses a client that is held -/

theorem ClientState.isHeld_refused {s : ClientState} (h : s.isHeld = true) :
    s.isValidForConnect = false ∧ s ≠ .connectedIdle ∧ s ≠ .disconnectedManually ∧
      s ≠ .pendingReconnect ∧ s ≠ .disconnectedError := by
  cases s <;> first | exact absurd h (by decide) | decide

variable {w : World} (hheld : w.client.clientState.isHeld = true)
include hheld

theorem connect_held (params : Option ConnectParams) :
    (connect env fuel callbacks params : M IoTError).Ends w (fun _ w' => w' = w)
      (fun _ => False) := by
  unfold connect connectRequest
  simp only [ends_bind, ends_getClientState, ends_ite, ends_pure]
  rw [if_pos (by simp [(ClientState.isHeld_refused hheld).1])]
  trivial

theorem resubscribe_held :
    (resubscribe env fuel callbacks : M IoTError).Ends w (fun _ w' => w' = w)
      (fun _ => True) := by
  unfold resubscribe resubscribeRequest
  simp only [ends_bind, ends_getClientState, ends_ite, ends_pure]
  split
  · trivial
  · rw [if_pos (ClientState.isHeld_refused hheld).2.1]
    trivial

theorem yield_held (timeoutMs : Nat) :
    (yield env fuel callbacks timeoutMs : M IoTError).Ends w (fun _ w' => w' = w)
      (fun _ => False) := by
  obtain ⟨-, hidle, hmanual, hpending, -⟩ := ClientState.isHeld_refused hheld
  unfold yield yieldRequest
  simp only [ends_bind, ends_getClientState, ends_ite, ends_pure]
  simp [hmanual, hpending, hidle]

/-- An attempt to reconnect leaves the state alone. -/
theorem attemptReconnect_held :
    (attemptReconnect env fuel callbacks : M IoTError).Ends w
      (fun _ w' => w'.client.clientState = w.client.clientState) (fun _ => True) := by
  obtain ⟨-, hidle, -, -, herror⟩ := ClientState.isHeld_refused hheld
  unfold attemptReconnect
  simp only [ends_bind, ends_getClientState, ends_ite, ends_pure]
  split
  · trivial
  · refine (connect_held hheld none).mono ?_ (fun _ _ => trivial)
    rintro rc w' rfl
    rw [if_pos hidle]
    unfold enterPending
    simp only [ends_bind, ends_setClientState, ends_emit]
    rw [if_neg (Ne.symm herror)]
    rfl

omit hheld in
/-- An initialisation that changes anything touches the connection. -/
theorem init_touches (params : InitParams) :
    (init env params : M IoTError).Ends w (fun _ w' => w' = w ∨ Touched w w')
      (fun _ => True) := by
  have htouched : ∀ rc, Touched w ((w.push .tableReset).push (.tlsInit rc)) := fun rc =>
    (touched_push rfl _).after (logGrows_push w _)
  unfold init setConnectParams resetHandlers
  simp only [ends_bind, ends_ite, ends_pure, ends_modifyClient, ends_emit, ends_ask,
    ends_assignClientState]
  split
  · exact .inl trivial
  rw [if_neg (by simp)]
  split
  · obtain ⟨new, hnew, hnot⟩ := htouched (env.tlsInit w.time)
    exact .inr ⟨new, hnew, hnot⟩
  · obtain ⟨new, hnew, hnot⟩ := htouched (env.tlsInit w.time)
    exact .inr ⟨new, hnew, hnot⟩

omit hheld in
/-- A disconnect that succeeds touches the connection. -/
theorem internalDisconnect_touches (w : World) :
    (internalDisconnect env fuel : M IoTError).Ends w
      (fun rc w' => rc = .success → Touched w w') (fun _ => True) := by
  have hgrows := (logGrows env).toTraffic
  have hclean : ∀ w₁ : World, LogGrows w w₁ → (do
      netDisconnect
      let rc ← netDestroy env
      emit fun _ => .disconnectDestroyed rc
      if rc ≠ .success then return .failure
      return .success : M IoTError).Ends w₁ (fun rc w' => rc = .success → Touched w w')
        (fun _ => True) := by
    intro w₁ hw₁
    simp only [ends_bind, ends_netDisconnect, ends_netDestroy, ends_emit, ends_ite, ends_pure]
    have htouched : Touched w₁ ((w₁.push .netDisconnect).tick.push
        (.netDestroy (env.destroy w₁.time))) :=
      (touched_push rfl _).after (logGrows_push w₁ _)
    split
    · exact fun h => absurd h (by decide)
    · exact fun _ => (htouched.before (logGrows_push _ _)).after hw₁
  unfold internalDisconnect
  refine ends_bind.mpr (ends_getClient.mpr (ends_bind.mpr (ends_storePacket.mpr ?_)))
  split
  case h_1 => trivial
  case h_2 rc hser =>
    obtain rfl := serializeZero_error (by decide) hser
    exact fun h => absurd h (by decide)
  case h_3 packet _ =>
    dsimp only
    simp only [ends_bind, ends_getClient, ends_countdownMs]
    rw [ends_ite]
    split
    · refine ends_bind.mpr ((hgrows.sendPacket env fuel _ _ _).mono ?_ (fun _ _ => trivial))
      intro rc w₁ hw₁
      rw [ends_ite]
      split
      case isTrue hfail => exact fun h => absurd h hfail
      case isFalse => exact hclean w₁ hw₁
    · exact hclean _ (List.suffix_refl w.log)

omit hheld in
/-- A disconnect gives back the state it found, or touches the connection. -/
theorem disconnect_keepsHeld : Returns KeepsHeld (disconnect env fuel : M IoTError) := by
  intro w
  unfold disconnect
  simp only [ends_bind, ends_getClientState, ends_ite, ends_pure, ends_setClientState]
  split
  · exact refl_of KeepsHeld w
  rw [if_pos trivial, if_neg (by simp)]
  have hgrows : Keeps LogGrows (internalDisconnect env fuel : M IoTError) :=
    (logGrows env).internalDisconnect env fuel
  refine ((internalDisconnect_touches (w.withState .disconnecting)).and
    (hgrows (w.withState .disconnecting)).onReturn).mono ?_ (fun _ _ => trivial)
  rintro rc w₁ ⟨htouched, hw₁⟩
  split
  case isTrue => exact keepsHeld_same hw₁ rfl
  case isFalse hok => exact ⟨hw₁, fun _ => .inr (htouched (not_not.mp hok))⟩

end Operations

/-! ## Calls -/

section Calls

variable {env : Env} {fuel : Nat} {callbacks : Callbacks M}

/-- A function that adds to the log keeps a held state if it does so where one is held. -/
theorem keepsHeld_of {α : Type} {m : M α} (hgrows : Keeps LogGrows m)
    (hheld : ∀ w : World, w.client.clientState.isHeld = true → m.Ends w
      (fun _ w' => w'.client.clientState = w.client.clientState ∨ Touched w w')
      (fun _ => True)) : Returns KeepsHeld m := by
  intro w
  by_cases h : w.client.clientState.isHeld = true
  · refine ((hheld w h).and (hgrows w).onReturn).mono ?_ (fun _ _ => trivial)
    exact fun _ w' hw' => ⟨hw'.2, fun _ => hw'.1⟩
  · exact (hgrows w).mono (fun _ _ hw' => ⟨hw', fun hw => absurd hw h⟩) (fun _ _ => trivial)

theorem dispatch_keepsHeld (hgrows : Serving env callbacks (Keeps LogGrows))
    (hdisconnect : Keeps LogGrows callbacks.disconnect)
    (hmessage : ∀ call, Returns KeepsHeld (callbacks.message call)) (call : ApiCall) :
    Returns KeepsHeld (dispatch env fuel callbacks call) := by
  have hlog := (logGrows env).dispatch fuel hgrows hdisconnect
  have hcomp := keepsHeld_steps.returning
  have hwait : Waiting env callbacks (Returns KeepsHeld) := waiting_keepsHeld hmessage
  cases call with
  | init params =>
    refine keepsHeld_of (hlog (.init params)) fun w _ => (init_touches params).mono ?_
      (fun _ _ => trivial)
    exact fun _ w' h => h.imp_left fun heq => by rw [heq]
  | connect params =>
    refine keepsHeld_of (hlog (.connect params)) fun w h => (connect_held h params).mono ?_
      (fun _ _ => trivial)
    exact fun _ w' heq => .inl (by rw [heq])
  | publish topicName topicNameLen params =>
    show Returns KeepsHeld (publish env fuel callbacks topicName topicNameLen params)
    unfold publish
    split
    · refine hcomp.ite (fun _ => hcomp.pure _) fun _ => ?_
      exact request_keepsHeld rfl (hwait.cycling.internalPublish fuel _ _ _)
    · exact hcomp.pure _
  | subscribe topicName topicNameLen qos handler data =>
    show Returns KeepsHeld (subscribe env fuel callbacks topicName topicNameLen qos handler data)
    unfold subscribe
    split
    · exact request_keepsHeld rfl (hwait.internalSubscribe fuel _ _ _ _ _)
    · exact hcomp.pure _
  | unsubscribe topicFilter topicFilterLen =>
    show Returns KeepsHeld (unsubscribe env fuel callbacks topicFilter topicFilterLen)
    unfold unsubscribe
    split
    · exact unsubscribeRequest_keepsHeld (hwait.internalUnsubscribe fuel _ _)
    · exact hcomp.pure _
  | resubscribe =>
    refine keepsHeld_of (hlog .resubscribe) fun w h => (resubscribe_held h).mono ?_
      (fun _ _ => trivial)
    exact fun _ w' heq => .inl (by rw [heq])
  | yield timeoutMs =>
    refine keepsHeld_of (hlog (.yield timeoutMs)) fun w h => (yield_held h timeoutMs).mono ?_
      (fun _ _ => trivial)
    exact fun _ w' heq => .inl (by rw [heq])
  | disconnect => exact disconnect_keepsHeld
  | attemptReconnect =>
    refine keepsHeld_of (hlog .attemptReconnect) fun w h => (attemptReconnect_held h).mono ?_
      (fun _ _ => trivial)
    exact fun _ w' => .inl
  | autoreconnectSetStatus newStatus => exact hcomp.autoreconnectSetStatus newStatus
  | setDisconnectHandler given => exact hcomp.setDisconnectHandler given
  | setConnectParams params => exact hcomp.setConnectParams params
  | resetNetworkDisconnectedCount => exact hcomp.resetNetworkDisconnectedCount

theorem runHandler_keepsHeld (nextCall : Nat → Option ApiCall) {call : ApiCall → M IoTError}
    (hcall : ∀ c, Returns KeepsHeld (call c)) :
    Returns KeepsHeld (runHandler fuel nextCall call) := by
  have hcomp := keepsHeld_steps.returning
  refine hcomp.loop (fun _ => hcomp.bind (hcomp.ask nextCall) fun next => ?_) fuel ()
  cases next with
  | none => exact hcomp.pure _
  | some c => exact hcomp.bind (hcall c) fun _ => hcomp.pure _

/-- Every call, at any depth, keeps a client state that is held. -/
theorem keepsHeld_apiCall (env : Env) (fuel : Nat) : ∀ depth call,
    Returns KeepsHeld (apiCall env fuel depth call : M IoTError) := by
  have hcomp := keepsHeld_steps.returning
  intro depth
  induction depth with
  | zero => intro call; exact hcomp.halt
  | succ depth ih =>
    intro call
    have hlog := (logGrows env).applicationCallbacks fuel (logGrows_apiCall env fuel depth)
    refine hcomp.bind (fun w => keepsHeld_push w _) fun _ => ?_
    refine hcomp.bind ?_ fun rc => hcomp.bind (fun w => keepsHeld_push w _) fun _ => hcomp.pure _
    exact dispatch_keepsHeld (serving_logGrows env fuel depth) hlog.2
      (fun _ => runHandler_keepsHeld env.messageHandler ih) call

/-- Handlers that call the client keep a client state that is held. -/
theorem waiting_keepsHeld_calls (env : Env) (fuel depth : Nat) :
    Waiting (m := M) env (applicationCallbacks env fuel (apiCall env fuel depth))
      (Returns KeepsHeld) :=
  waiting_keepsHeld fun _ =>
    runHandler_keepsHeld env.messageHandler (keepsHeld_apiCall env fuel depth)

end Calls

end AwsIot.Mqtt
