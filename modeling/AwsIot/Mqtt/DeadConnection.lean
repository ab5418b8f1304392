/-
  Mqtt/DeadConnection.lean --- a connection whose ping has no answer is given up.

  A PINGREQ that is still outstanding when `pingTimer` has expired means that the connection
  is dead.  A yield looks at the timer behind every `cycle_read` that returned SUCCESS.  A
  call whose first one does so therefore ends with the client out of every connected state,
  unless auto reconnect connected it again (`deadConnection_givenUp`).  A `cycle_read` that
  fails takes the call past the timer, and the client stays connected.
-/
import AwsIot.Mqtt.BagDelivery
import AwsIot.Mqtt.KeepAlive

set_option autoImplicit false

namespace AwsIot.Mqtt

open AwsIot.Foundation Program

/-! ## A dead connection -/

/-- The client waits for the answer to a PINGREQ, and `pingTimer` has expired. -/
structure Dead (env : Env) (w : World) : Prop where
  /-- There is a keep-alive. -/
  interval : w.client.keepAliveInterval ≠ 0
  /-- A PINGREQ has had no answer. -/
  outstanding : w.client.isPingOutstanding = true
  /-- The timer has expired from now on. -/
  expired : ∀ t, w.time ≤ t → w.client.pingTimer ≤ env.clock t

/-- A yield up to the end of the first `cycle_read` in its loop: what that returned, or
`none` if the loop body does not run. -/
def firstCycle (env : Env) (fuel : Nat) (callbacks : Callbacks M) (timeoutMs : Nat) :
    M (Option (IoTError × UInt8)) := do
  emit fun _ => .called (.yield timeoutMs)
  if timeoutMs = 0 then return none
  let clientState ← getClientState
  if clientState ≠ .connectedIdle then return none
  let _ ← setClientState .yieldEnter .connectedIdle .connectedYieldInProgress
  let timer ← countdownMs env timeoutMs
  if ← hasTimerExpired env timer then return none
  let r ← cycleRead env fuel callbacks timer 0
  return some r

/-- The event happened from `w` to `w'`. -/
def Happened (e : Event) (w w' : World) : Prop := ∃ new, w'.log = new ++ w.log ∧ e ∈ new

/-- From `w` to `w'` the client, with auto reconnect enabled, lost its connection and
connected again. -/
def Reconnected (w w' : World) : Prop :=
  Happened (.reconnectStarted true) w w' ∧ ∃ s, Happened (.connectDone s) w w'

/-- The client is out of every connected state, or it connected again since `w`. -/
def GivenUp (w w' : World) : Prop :=
  w'.client.clientState = .disconnectedError ∨ w'.client.clientState = .pendingReconnect ∨
    Reconnected w w'

/-- Since `w` the client, with auto reconnect enabled, lost its connection, and it waits to
reconnect or connected again. -/
def Recovering (w w' : World) : Prop :=
  Happened (.reconnectStarted true) w w' ∧
    (w'.client.clientState = .pendingReconnect ∨ ∃ s, Happened (.connectDone s) w w')

theorem Recovering.givenUp {w w' : World} (h : Recovering w w') : GivenUp w w' :=
  .inr (h.2.imp_right fun hdone => ⟨h.1, hdone⟩)

section Happened

variable {e : Event} {w w₁ w' : World}

theorem happened_push (h : LogGrows w w₁) (e : Event) : Happened e w (w₁.push e) := by
  obtain ⟨new, hnew⟩ := h
  exact ⟨e :: new, by rw [World.log_push, ← hnew, List.cons_append], List.mem_cons_self⟩

/-- What has happened stays so. -/
theorem Happened.grows (h : Happened e w w₁) (hgrows : LogGrows w₁ w') : Happened e w w' := by
  obtain ⟨new, hlog, hmem⟩ := h
  obtain ⟨later, hlater⟩ := hgrows
  exact ⟨later ++ new, by rw [← hlater, hlog, List.append_assoc],
    List.mem_append_right later hmem⟩

theorem Happened.since (h : Happened e w₁ w') (hgrows : LogGrows w w₁) : Happened e w w' := by
  obtain ⟨new, hlog, hmem⟩ := h
  obtain ⟨earlier, hearlier⟩ := hgrows
  exact ⟨new ++ earlier, by rw [hlog, ← hearlier, List.append_assoc],
    List.mem_append_left earlier hmem⟩

theorem Happened.logGrows (h : Happened e w w') : LogGrows w w' := by
  obtain ⟨new, hlog, -⟩ := h
  exact ⟨new, hlog.symm⟩

theorem Recovering.since (h : Recovering w₁ w') (hgrows : LogGrows w w₁) : Recovering w w' :=
  ⟨h.1.since hgrows, h.2.imp_right fun ⟨s, hdone⟩ => ⟨s, hdone.since hgrows⟩⟩

theorem GivenUp.push (h : GivenUp w w') (e : Event) : GivenUp w (w'.push e) :=
  h.imp_right fun h => h.imp_right fun ⟨hstarted, s, hdone⟩ =>
    ⟨hstarted.grows (logGrows_push w' e), s, hdone.grows (logGrows_push w' e)⟩

theorem GivenUp.since (h : GivenUp w₁ w') (hgrows : LogGrows w w₁) : GivenUp w w' :=
  h.imp_right fun h => h.imp_right fun ⟨hstarted, s, hdone⟩ =>
    ⟨hstarted.since hgrows, s, hdone.since hgrows⟩

end Happened

/-! ## Reading without a PINGRESP -/

/-- The keep-alive of the client is as it was, and so is its state. -/
structure PingKept (w w' : World) : Prop where
  /-- The client state is the same. -/
  state : w'.client.clientState = w.client.clientState
  /-- The timer is the same. -/
  pingTimer : w'.client.pingTimer = w.client.pingTimer
  /-- The keep-alive interval is the same. -/
  interval : w'.client.keepAliveInterval = w.client.keepAliveInterval
  /-- The client waits for an answer as before. -/
  outstanding : w'.client.isPingOutstanding = w.client.isPingOutstanding
  /-- Time went on. -/
  time : w.time ≤ w'.time

instance : IsPreorder World PingKept where
  refl _ := ⟨rfl, rfl, rfl, rfl, Nat.le_refl _⟩
  trans _ _ _ h h' := ⟨h'.state.trans h.state, h'.pingTimer.trans h.pingTimer,
    h'.interval.trans h.interval, h'.outstanding.trans h.outstanding, h.time.trans h'.time⟩

theorem pingKept_onClient {f : Client → Client} (w : World) (h : (f w.client).outline =
    w.client.outline) : PingKept w (w.onClient f) where
  state := congrArg Outline.clientState h
  pingTimer := congrArg Outline.pingTimer h
  interval := congrArg Outline.keepAliveInterval h
  outstanding := congrArg Outline.isPingOutstanding h
  time := Nat.le_refl _

theorem pingKept_push (w : World) (e : Event) : PingKept w (w.push e) :=
  ⟨rfl, rfl, rfl, rfl, Nat.le_refl _⟩

/-- The packet primitives leave the keep-alive alone. -/
theorem pingKept_packets : Packets (m := M) (Returns PingKept) where
  toCompositional := returns_compositional PingKept
  getClient w := refl_of PingKept w
  modifyClient hf w := pingKept_onClient w (hf w.client)
  ask _ _ := ⟨rfl, rfl, rfl, rfl, Nat.le_succ _⟩
  emit _ w := pingKept_push w _
  storeReceivedId _ _ _ := ⟨rfl, rfl, rfl, rfl, Nat.le_refl _⟩
  emitPacket _ w := pingKept_push w _

theorem Dead.pingKept {env : Env} {w w' : World} (hdead : Dead env w)
    (h : PingKept w w') : Dead env w' where
  interval := by rw [h.interval]; exact hdead.interval
  outstanding := by rw [h.outstanding]; exact hdead.outstanding
  expired t ht := by rw [h.pingTimer]; exact hdead.expired t (h.time.trans ht)

/-- Time only goes on. -/
def TimeGrows (w w' : World) : Prop := w.time ≤ w'.time

instance : IsPreorder World TimeGrows where
  refl w := Nat.le_refl w.time
  trans _ _ _ h h' := Nat.le_trans h h'

theorem timeGrows_steps (env : Env) : AllSteps env TimeGrows where
  onClient w _ _ := Nat.le_refl w.time
  tick w := Nat.le_succ w.time
  push w _ _ := Nat.le_refl w.time
  pushPacket w _ _ := Nat.le_refl w.time
  pushConnection w _ _ := Nat.le_refl w.time
  pushTurn w _ _ := Nat.le_refl w.time
  pushHandler w _ _ := Nat.le_refl w.time
  withState w _ := Nat.le_refl w.time
  register w _ _ := Nat.le_refl w.time
  clear w _ := Nat.le_refl w.time
  reset w := Nat.le_refl w.time
  onTable w _ _ := Nat.le_refl w.time
  start w := Nat.le_refl w.time
  double w := Nat.le_refl w.time

section Quiet

variable {env : Env} {fuel : Nat} {callbacks : Callbacks M}
  (hmessage : ∀ call, Keeps Idles (callbacks.message call))
  (htime : ∀ call, Keeps TimeGrows (callbacks.message call))
include hmessage htime

/-- A delivery to handlers that make no calls leaves the client as it was. -/
theorem deliverReceived_pingKept (msg : IncomingPublish) :
    Returns PingKept (deliverReceived env callbacks msg : M (IoTError × Option UInt16)) := by
  intro w
  refine ends_deliverReceived.mpr (((deliverMessage_invokes hmessage msg env
    (w.receiving msg)).onReturn.and ((timeGrows_steps env).primitives.deliverMessage
      (fun _ w => Nat.le_refl w.time) htime msg (w.receiving msg)).onReturn).mono ?_
        (fun _ _ => trivial))
  rintro _ w₁ ⟨⟨-, hclient, -⟩, hlater⟩
  have hsame : w₁.received.client = w.client := by
    show { w₁.client with receivedIds := w₁.client.receivedIds.tail } = w.client
    rw [hclient]
    rfl
  exact ⟨by rw [hsame], by rw [hsame], by rw [hsame], by rw [hsame], hlater⟩

theorem delivering_pingKept : Delivering env callbacks (Returns PingKept) where
  toTraffic := pingKept_packets.toTraffic
  deliverReceived := deliverReceived_pingKept hmessage htime

/-- A `cycle_read` that finds no PINGRESP leaves the keep-alive alone. -/
theorem cycleRead_pingKept (timer : Timer) (packetType : UInt8) (w : World) :
    (cycleRead env fuel callbacks timer packetType : M (IoTError × UInt8)).Ends w
      (fun r w' => r.2 ≠ MessageType.pingresp.code → PingKept w w') (fun _ => True) := by
  unfold cycleRead
  refine ends_bind.mpr ((pingKept_packets.readPacket env fuel packetType w).mono ?_
    (fun _ _ => trivial))
  rintro ⟨rc, readType⟩ w₁ h₁
  simp only [ends_ite, ends_pure, ends_bind]
  split
  · exact fun _ => h₁
  split
  · exact fun _ => h₁
  split
  · exact fun _ => h₁
  split
  · refine ((delivering_pingKept hmessage htime).handlePublish fuel timer w₁).mono ?_
      (fun _ _ => trivial)
    exact fun _ w₂ h₂ _ => trans_of PingKept h₁ h₂
  split
  case isTrue hpingresp =>
    simp only [ends_getClient, ends_countdownSec, ends_modifyClient]
    exact fun htype => absurd hpingresp htype
  · exact fun _ => h₁

/-- What waits for packets leaves the client state alone. -/
theorem waiting_sameState : Waiting env callbacks (Returns SameState) where
  toTraffic := sameState_steps.returning
  emitPacket _ _ := rfl
  deliverReceived msg w := (deliverReceived_pingKept hmessage htime msg w).mono
    (fun _ _ h => h.state) (fun _ _ => trivial)
  registerHandler _ _ _ := rfl
  clearHandlers _ _ := rfl
  modifyTimer hf w := (hf.1 w.client).1

end Quiet

/-! ## Waiting to reconnect -/

/-- A client that waits to reconnect goes on waiting, or it connects. -/
def StaysPending (w w' : World) : Prop :=
  LogGrows w w' ∧ (w.client.clientState = .pendingReconnect →
    w'.client.clientState = .pendingReconnect ∨ ∃ s, Happened (.connectDone s) w w')

theorem StaysPending.of_same {w w' : World} (hgrows : LogGrows w w') (hsame : SameState w w') :
    StaysPending w w' :=
  ⟨hgrows, fun hpending => .inl (Eq.trans hsame hpending)⟩

instance : IsPreorder World StaysPending where
  refl w := .of_same (refl_of LogGrows w) rfl
  trans := by
    rintro w w₁ w' ⟨hgrows, hstay⟩ ⟨hgrows', hstay'⟩
    refine ⟨trans_of LogGrows hgrows hgrows', fun hpending => ?_⟩
    rcases hstay hpending with hpending₁ | ⟨s, hdone⟩
    · exact (hstay' hpending₁).imp_right fun ⟨s, hdone⟩ => ⟨s, hdone.since hgrows⟩
    · exact .inr ⟨s, hdone.grows hgrows'⟩

/-- Backing off leaves the client state alone. -/
theorem backOff_staysPending {env : Env} (rc : IoTError) :
    Returns StaysPending (backOff env rc : M IoTError) := by
  have hsame : Returns SameState (backOff env rc : M IoTError) := by
    intro w
    simp only [backOff, doubleInterval, ends_bind, ends_emit, ends_modifyClient, ends_getClient,
      ends_ite, ends_pure, ends_countdownMs]
    split
    · rfl
    · rfl
  intro w
  exact (((logGrows env).backOff rc w).onReturn.and (hsame w)).mono
    (fun _ _ h => .of_same h.1 h.2) (fun _ _ => trivial)

theorem Recovering.stays {w w₁ w' : World} (h : Recovering w w₁) (hstay : StaysPending w₁ w') :
    Recovering w w' := by
  obtain ⟨hstarted, hpending | ⟨s, hdone⟩⟩ := h
  · exact ⟨hstarted.grows hstay.1, (hstay.2 hpending).imp_right fun ⟨s, hdone⟩ =>
      ⟨s, hdone.since hstarted.logGrows⟩⟩
  · exact ⟨hstarted.grows hstay.1, .inr ⟨s, hdone.grows hstay.1⟩⟩

section Pending

variable {env : Env} {fuel : Nat} {callbacks : Callbacks M}
  (hcycle : Cycling env callbacks (Keeps LogGrows))
  (hsame : Cycling env callbacks (Returns SameState))
include hcycle hsame

/-- A connect that is not refused ends in DISCONNECTED_ERROR, or it succeeds. -/
theorem connect_ends (params : Option ConnectParams) {w : World}
    (hstart : w.client.clientState.isValidForConnect = true) :
    (connect env fuel callbacks params : M IoTError).Ends w
      (fun _ w' => LogGrows w w' ∧ (w'.client.clientState = .disconnectedError ∨
        ∃ s, Happened (.connectDone s) w w')) (fun _ => True) := by
  have hexchange := hsame.exchangeConnect fuel fun hf w => (hf.1 w.client).1
  have hstate := sameState_network.internalConnect env fuel hexchange params
  have hgrows := (logGrows env).toNetwork.internalConnect env fuel
    (hcycle.exchangeConnect fuel fun _ w => refl_of LogGrows w) params
  unfold connect connectRequest
  simp only [ends_bind, ends_getClientState, ends_ite, ends_pure, ends_setClientState,
    ends_within]
  rw [if_neg (by simp [hstart]), if_pos trivial]
  refine ((hgrows (w.withState .connecting)).onReturn.and
    (hstate (w.withState .connecting))).mono ?_ (fun _ _ => trivial)
  rintro rc w₁ ⟨hgrows₁, hstate₁⟩
  have hconnecting : ClientState.connecting = w₁.client.clientState := hstate₁.symm
  have hlog : LogGrows w w₁ := hgrows₁
  split
  case isTrue =>
    simp only [ends_emit, ends_netDisconnect, ends_netDestroy]
    split
    case isFalse hleft => exact absurd hconnecting hleft
    exact ⟨trans_of LogGrows hlog ⟨[_, _, _], rfl⟩, .inl rfl⟩
  case isFalse =>
    simp only [ends_emit]
    exact ⟨trans_of LogGrows hlog (logGrows_push _ _), .inr ⟨_, happened_push hlog _⟩⟩

theorem attemptReconnect_staysPending (w : World) :
    (attemptReconnect env fuel callbacks : M IoTError).Ends w
      (fun _ w' => StaysPending w w') (fun _ => True) := by
  have hgrows := (logGrows env).attemptReconnect fuel hcycle w
  by_cases hpending : w.client.clientState = .pendingReconnect
  case neg =>
    exact hgrows.mono (fun _ _ h => ⟨h, fun hw => absurd hw hpending⟩) (fun _ _ => trivial)
  have hstart : w.client.clientState.isValidForConnect = true := by rw [hpending]; rfl
  unfold attemptReconnect
  simp only [ends_bind, ends_getClientState, ends_ite, ends_pure]
  rw [if_neg (by rw [hpending]; decide)]
  refine (connect_ends hcycle hsame none hstart).mono ?_ (fun _ _ => trivial)
  rintro _ w₁ ⟨hlog, hend⟩
  split
  case isTrue =>
    simp only [enterPending, ends_bind, ends_setClientState, ends_emit]
    rcases hend with hlost | ⟨s, hdone⟩
    · rw [if_pos hlost.symm]
      exact ⟨trans_of LogGrows hlog (logGrows_push _ _), fun _ => .inl rfl⟩
    · split
      · have hpush := logGrows_push (w₁.withState .pendingReconnect)
        exact ⟨trans_of LogGrows hlog (hpush _), fun _ => .inr ⟨s, hdone.grows (hpush _)⟩⟩
      · have hpush := logGrows_push w₁
        exact ⟨trans_of LogGrows hlog (hpush _), fun _ => .inr ⟨s, hdone.grows (hpush _)⟩⟩
  case isFalse hidle =>
    have hdone : ∃ s, Happened (.connectDone s) w w₁ := hend.resolve_left fun hlost => by
      rw [hlost] at hidle
      exact hidle (by decide)
    refine ((logGrows env).resubscribe fuel hcycle w₁).onReturn.mono ?_ (fun _ _ => trivial)
    intro rc w₂ hlog'
    have hdone' := hdone.imp fun _ h => h.grows hlog'
    split
    · exact ⟨trans_of LogGrows hlog hlog', fun _ => .inr hdone'⟩
    · exact ⟨trans_of LogGrows hlog hlog', fun _ => .inr hdone'⟩

theorem handleReconnect_staysPending :
    Returns StaysPending (handleReconnect env fuel callbacks : M IoTError) := by
  have hcomp := returns_compositional StaysPending
  have hask : ∀ {α : Type} (f : Nat → α), Returns StaysPending (ask f : M α) := fun _ w =>
    .of_same (List.suffix_refl w.log) rfl
  unfold handleReconnect
  refine hcomp.bind (fun w => refl_of StaysPending w) fun c => ?_
  refine hcomp.bind (hcomp.bind (hask _) fun _ => hcomp.pure _) fun _ => ?_
  refine hcomp.ite (fun _ => hcomp.pure _) fun _ => hcomp.bind (hask _) fun physicalLayer => ?_
  refine hcomp.ite (fun _ => ?_) fun _ => backOff_staysPending _
  refine hcomp.bind (attemptReconnect_staysPending hcycle hsame) fun rc => ?_
  refine hcomp.ite (fun _ => ?_) fun _ => backOff_staysPending rc
  refine hcomp.bind ?_ fun rc => hcomp.ite (fun _ => hcomp.pure _) fun _ => hcomp.pure _
  intro w
  rw [ends_setClientState]
  split
  case isTrue hidle =>
    refine ⟨List.suffix_refl w.log, fun hpending => ?_⟩
    rw [hpending] at hidle
    cases hidle
  case isFalse => exact refl_of StaysPending w

/-- A pass of the yield loop from a client that waits to reconnect. -/
theorem yieldPass_staysPending (hdisconnect : Keeps LogGrows callbacks.disconnect) (timer : Timer)
    (yieldRc : IoTError) :
    Returns StaysPending (yieldPass env fuel callbacks timer yieldRc :
      M (Step IoTError IoTError)) := by
  intro w
  by_cases hpending : w.client.clientState = .pendingReconnect
  case neg =>
    exact ((logGrows env).yieldPass fuel hcycle hdisconnect timer yieldRc w).mono
      (fun _ _ h => ⟨h, fun hw => absurd hw hpending⟩) (fun _ _ => trivial)
  unfold yieldPass
  simp only [ends_bind, ends_hasTimerExpired, ends_ite, ends_pure, ends_getClientState,
    ends_getClient, ends_emit]
  split
  · exact .of_same (List.suffix_refl w.log) rfl
  split
  case isFalse hother => exact absurd hpending hother
  have hdue : StaysPending w (w.tick.push
      (.reconnectDue w.client.clientState w.client.currentReconnectWaitInterval)) :=
    .of_same (logGrows_push w.tick _) rfl
  split
  · exact hdue
  · exact (handleReconnect_staysPending hcycle hsame _).mono
      (fun _ _ h => trans_of StaysPending hdue h) (fun _ _ => trivial)

end Pending

/-! ## Giving the connection up -/

section GivenUp

variable {env : Env} {fuel : Nat} {callbacks : Callbacks M}

theorem handleDisconnect_ends (w : World) :
    (handleDisconnect env fuel callbacks : M IoTError).Ends w
      (fun rc w' => rc = .networkDisconnectedError ∧ w'.client.clientState = .disconnectedError)
      (fun _ => True) := by
  have hend : ∀ w₁, (do
      let c ← getClient
      if c.disconnectHandler then within .callback callbacks.disconnect
      emit fun c => .disconnectHandled c.clientState
      assignClientState .disconnectedError
      return .networkDisconnectedError : M IoTError).Ends w₁
        (fun rc w' => rc = .networkDisconnectedError ∧
          w'.client.clientState = .disconnectedError) (fun _ => True) := by
    intro w₁
    simp only [ends_bind, ends_getClient, ends_ite, ends_within, ends_emit,
      ends_assignClientState, ends_pure]
    split
    · exact ends_true.mono (fun _ _ _ => ⟨trivial, rfl⟩) (fun _ _ => trivial)
    · exact ⟨trivial, rfl⟩
  unfold handleDisconnect
  refine ends_bind.mpr (ends_true.mono (fun rc w₁ _ => ?_) (fun _ _ => trivial))
  rw [ends_ite]
  split
  · exact ends_bind.mpr (ends_true.mono (fun _ w₂ _ => hend w₂) (fun _ _ => trivial))
  · exact hend w₁

/-- A keep-alive that finds the connection dead gives it up. -/
theorem keepAlive_dead {w : World} (hdead : Dead env w) :
    (keepAlive env fuel callbacks : M IoTError).Ends w
      (fun rc w' => rc = .networkDisconnectedError ∧ w'.client.clientState = .disconnectedError)
      (fun _ => True) := by
  unfold keepAlive
  simp only [ends_bind, ends_getClient, ends_ite, ends_hasTimerExpired]
  rw [if_neg hdead.interval, if_neg (by simpa using hdead.expired _ (Nat.le_refl _)),
    if_pos hdead.outstanding]
  exact handleDisconnect_ends _

theorem startReconnecting_ends {w : World} (hlost : w.client.clientState = .disconnectedError) :
    (startReconnecting env .networkDisconnectedError : M (Step IoTError IoTError)).Ends w
      (fun r w' => match r with
        | .again _ => w'.client.clientState = .pendingReconnect ∧
            Happened (.reconnectStarted true) w w'
        | .stop _ => w'.client.clientState = .disconnectedError) (fun _ => True) := by
  unfold startReconnecting startInterval
  simp only [ends_bind, ends_modifyClient, ends_getClient, ends_ite, ends_setClientState,
    ends_emit, ends_countdownMs, ends_pure]
  split
  case isFalse => exact hlost
  case isTrue henabled =>
    split
    case isFalse hother => exact absurd hlost.symm hother
    rw [if_neg (by simp)]
    refine ⟨rfl, [_], rfl, ?_⟩
    rw [List.mem_singleton]
    exact congrArg Event.reconnectStarted henabled.symm

variable (hdisconnect : Keeps LogGrows callbacks.disconnect)
include hdisconnect

/-- What a pass of the yield loop does with a dead connection, behind its `cycle_read`. -/
theorem lostPass_ends {w : World} (hdead : Dead env w) :
    (do
      let yieldRc ← keepAlive env fuel callbacks
      if yieldRc = .networkDisconnectedError then startReconnecting env yieldRc
      else if yieldRc ≠ .success then return .stop yieldRc
      else return .again yieldRc : M (Step IoTError IoTError)).Ends w
        (fun r w' => match r with
          | .again _ => Recovering w w'
          | .stop _ => GivenUp w w') (fun _ => True) := by
  have hgrows := (logGrows env).keepAlive fuel hdisconnect w
  refine ends_bind.mpr (((keepAlive_dead hdead).and hgrows.onReturn).mono ?_
    (fun _ _ => trivial))
  rintro _ w₁ ⟨⟨rfl, hlost⟩, hlog⟩
  rw [if_pos rfl]
  refine (startReconnecting_ends hlost).mono ?_ (fun _ _ => trivial)
  intro r w₂ h
  cases r with
  | again rc => exact ⟨h.2.since hlog, .inl h.1⟩
  | stop rc => exact .inl h

variable (hmessage : ∀ call, Keeps Idles (callbacks.message call))
  (htime : ∀ call, Keeps TimeGrows (callbacks.message call))
  (hcycle : Cycling env callbacks (Keeps LogGrows))
include hmessage htime hcycle

/-- The yield loop gives up a connection that its first pass finds dead. -/
theorem yieldLoop_givesUp (n : Nat) {timer : Timer} {w w₁ : World} {type : UInt8}
    (hdead : Dead env w) (hstate : w.client.clientState ≠ .pendingReconnect)
    (hlate : ¬ timer ≤ env.clock w.time)
    (hcycled : (cycleRead env fuel callbacks timer 0 : M (IoTError × UInt8)).run w.tick =
      .done (.success, type) w₁)
    (htype : type ≠ MessageType.pingresp.code) :
    (loop (yieldPass env fuel callbacks timer) n .success : M IoTError).Ends w
      (fun _ w' => GivenUp w w') (fun _ => True) := by
  have hsame : Cycling env callbacks (Returns SameState) :=
    (waiting_sameState hmessage htime).cycling
  have htick : PingKept w w.tick := ⟨rfl, rfl, rfl, rfl, Nat.le_succ _⟩
  have hpingKept : PingKept w w₁ := trans_of PingKept htick
    ((cycleRead_pingKept hmessage htime timer 0 w.tick).of_run hcycled htype)
  have hlog : LogGrows w w₁ := (hcycle.cycleRead fuel timer 0 w.tick).of_run hcycled
  have hfirst : (yieldPass env fuel callbacks timer .success : M (Step IoTError IoTError)).Ends w
      (fun r w' => match r with
        | .again _ => Recovering w w'
        | .stop _ => GivenUp w w') (fun _ => True) := by
    unfold yieldPass
    have hother : ¬ w.tick.client.clientState = .pendingReconnect := hstate
    rw [ends_bind, ends_hasTimerExpired, ends_ite, if_neg (by simpa using hlate), ends_bind,
      ends_getClientState, ends_ite, if_neg hother, ends_bind, ends_of_run_eq hcycled, ends_ite,
      if_neg (by simp)]
    refine (lostPass_ends hdisconnect (hdead.pingKept hpingKept)).mono ?_
      (fun _ _ => trivial)
    intro r w₂ h₂
    cases r with
    | again _ => exact h₂.since hlog
    | stop _ => exact h₂.since hlog
  cases n with
  | zero => trivial
  | succ n =>
    refine ends_bind.mpr (hfirst.mono ?_ (fun _ _ => trivial))
    intro r w₂ h₂
    cases r with
    | stop rc => exact h₂
    | again rc =>
      refine ends_loop (I := fun _ w' => Recovering w w') ?_ (fun _ _ _ => trivial) n rc w₂ h₂
      intro rc' w₃ h₃
      refine (yieldPass_staysPending hcycle hsame hdisconnect timer rc' w₃).mono ?_
        (fun _ _ => trivial)
      intro r' w₄ h₄
      cases r' with
      | again _ => exact h₃.stays h₄
      | stop _ => exact (h₃.stays h₄).givenUp

end GivenUp

/-! ## A yield over a dead connection -/

section Yield

variable {env : Env} {fuel : Nat} {callbacks : Callbacks M} {timeoutMs : Nat}

/-- The world in which a yield turns to its loop. -/
def World.yielding (timeoutMs : Nat) (w : World) : World :=
  ((w.push (.called (.yield timeoutMs))).withState .connectedYieldInProgress).tick

/-- The way back to CONNECTED_IDLE is closed to a client whose connection was given up. -/
theorem performYield_givesUp {internal : M IoTError} {w₀ w : World}
    (h : internal.Ends w (fun _ w' => GivenUp w₀ w') (fun _ => True)) :
    (performYield internal).Ends w (fun _ w' => GivenUp w₀ w') (fun _ => True) := by
  unfold performYield
  refine ends_bind.mpr (h.mono ?_ (fun _ _ => trivial))
  intro yieldRc w₁ h₁
  simp only [ends_ite, ends_bind, ends_setClientState, ends_pure]
  split
  · split
    case isFalse => exact h₁
    case isTrue hyielding =>
      rcases h₁ with hlost | hpending | hreconnected
      · rw [hlost] at hyielding
        cases hyielding
      · rw [hpending] at hyielding
        cases hyielding
      · exact .inr (.inr hreconnected)
  · exact h₁

/-- What a yield does up to the end of its first `cycle_read`, if that returns. -/
theorem firstCycle_some {r : IoTError × UInt8} {w w₁ : World}
    (hfirst : (firstCycle env fuel callbacks timeoutMs).run w = .done (some r) w₁) :
    timeoutMs ≠ 0 ∧ w.client.clientState = .connectedIdle ∧
      ¬ env.clock w.time + timeoutMs ≤ env.clock (w.time + 1) ∧
      (cycleRead env fuel callbacks (env.clock w.time + timeoutMs) 0 :
        M (IoTError × UInt8)).run (w.yielding timeoutMs).tick = .done r w₁ := by
  rw [run_eq_done_iff] at hfirst
  unfold firstCycle at hfirst
  simp only [ends_bind, ends_emit, ends_ite, ends_pure, ends_getClientState, ends_setClientState,
    ends_countdownMs, ends_hasTimerExpired] at hfirst
  split at hfirst
  · cases hfirst.1
  case isFalse hpositive =>
    split at hfirst
    · cases hfirst.1
    case isFalse hother =>
      have hidle := not_not.mp hother
      rw [if_pos hidle.symm] at hfirst
      split at hfirst
      · cases hfirst.1
      case isFalse hlate =>
        refine ⟨hpositive, hidle, fun h => hlate (decide_eq_true h), run_eq_done_iff.mpr ?_⟩
        exact hfirst.mono (fun _ _ h => ⟨Option.some.inj h.1, h.2⟩) (fun _ h => h)

end Yield

/-- A yield whose first `cycle_read` returned SUCCESS without a PINGRESP gives up a dead
connection. -/
theorem deadConnection_givenUp {env : Env} {fuel depth timeoutMs : Nat} {w w₁ w' : World}
    {type : UInt8} {rc : IoTError} (hquiet : env.Quiet) (hdead : Dead env w)
    (hfirst : (firstCycle env fuel (applicationCallbacks env fuel (apiCall env fuel depth))
      timeoutMs).run w = .done (some (.success, type)) w₁)
    (htype : type ≠ MessageType.pingresp.code)
    (hrun : (apiCall env fuel (depth + 1) (.yield timeoutMs) : M IoTError).run w = .done rc w') :
    GivenUp w w' := by
  obtain ⟨hpositive, hidle, hlate, hcycled⟩ := firstCycle_some hfirst
  have hstart : LogGrows w (w.yielding timeoutMs) := logGrows_push w _
  have hdead' : Dead env (w.yielding timeoutMs) :=
    ⟨hdead.interval, hdead.outstanding, fun t ht => hdead.expired t (Nat.le_of_succ_le ht)⟩
  have htime := (timeGrows_steps env).apiCall (fun w _ _ => Nat.le_refl w.time) fuel depth
  have hloop := yieldLoop_givesUp
    ((logGrows env).applicationCallbacks fuel (logGrows_apiCall env fuel depth)).2
    (fun call => runHandler_idles hquiet.message fuel (apiCall env fuel depth))
    ((timeGrows_steps env).everything.applicationCallbacks fuel htime).1
    (serving_logGrows env fuel depth).toCycling fuel hdead' nofun hlate hcycled htype
  have hends : (apiCall env fuel (depth + 1) (.yield timeoutMs) : M IoTError).Ends w
      (fun _ w' => GivenUp w w') (fun _ => True) := by
    have hinternal : (internalYield env fuel
        (applicationCallbacks env fuel (apiCall env fuel depth)) timeoutMs : M IoTError).Ends
          ((w.push (.called (.yield timeoutMs))).withState .connectedYieldInProgress)
          (fun _ w' => GivenUp w w') (fun _ => True) :=
      ends_bind.mpr (ends_countdownMs.mpr
        (hloop.mono (fun _ _ h => h.since hstart) (fun _ _ => trivial)))
    have hstate : (w.push (.called (.yield timeoutMs))).client.clientState = .connectedIdle := hidle
    unfold apiCall
    simp only [ends_bind, ends_emit, ends_within, ends_pure, dispatch, yield]
    rw [if_neg hpositive]
    unfold yieldRequest
    simp only [ends_bind, ends_getClientState, ends_ite, ends_setClientState]
    rw [if_neg (by rw [hstate]; decide), if_neg (by rw [hstate]; decide),
      if_neg (by rw [hstate]; decide), if_neg (not_not.mpr hstate), if_pos hstate.symm,
      if_neg (by decide)]
    exact (performYield_givesUp hinternal).mono (fun _ _ h => h.push _) (fun _ _ => trivial)
  exact hends.of_run hrun

/-! ## A client that does not notice -/

/-- A yield over a dead connection leaves the client out of every connected state, whatever
its first `cycle_read` returns, if that finds no PINGRESP. -/
def Notices (env : Env) (fuel depth timeoutMs : Nat) (w : World) : Prop :=
  ∀ r w₁, (firstCycle env fuel (applicationCallbacks env fuel (apiCall env fuel depth))
      timeoutMs).run w = .done (some r) w₁ → r.2 ≠ MessageType.pingresp.code →
    ∀ rc w', (apiCall env fuel (depth + 1) (.yield timeoutMs) : M IoTError).run w = .done rc w' →
      w'.client.clientState = .disconnectedError ∨ w'.client.clientState = .pendingReconnect

/-- Surroundings whose clock gains a second with every question. -/
def Env.slow (env : Env) : Env := { env with clock := fun n => 1000 * n }

/-- Surroundings in which reads fail from question `t` on. -/
def Env.failingReads (env : Env) (t : Nat) : Env :=
  { env with read := fun n => if t ≤ n then ⟨.networkSslReadError, [], 0⟩ else env.read n }

/-- A client with a keep-alive interval of two seconds that has sent a PINGREQ. -/
def World.pinged (env : Env) (enableAutoReconnect : Bool) : World :=
  World.after env 12 [.init { plainInit with enableAutoReconnect := enableAutoReconnect },
    .connect (some { plainConnect with keepAliveIntervalInSec := 2 }), .yield 1500]

/-- With a slow clock, a ping timer that has expired stays so. -/
theorem dead_slow {env : Env} {w : World} (hclock : ∀ n, env.clock n = 1000 * n)
    (hinterval : w.client.keepAliveInterval ≠ 0) (hout : w.client.isPingOutstanding = true)
    (hexpired : w.client.pingTimer ≤ 1000 * w.time) : Dead env w where
  interval := hinterval
  outstanding := hout
  expired t ht := by
    rw [hclock]
    exact hexpired.trans (Nat.mul_le_mul_left 1000 ht)

theorem deadConnection_givenUp_pinged :
    GivenUp (World.pinged (sessionEnv []).slow false)
      ((apiCall (sessionEnv []).slow 12 12 (.yield 1500) : M IoTError).run
        (World.pinged (sessionEnv []).slow false)).state :=
  @deadConnection_givenUp _ _ _ _ _ _ _ 0 .networkDisconnectedError ⟨fun _ => rfl, fun _ => rfl⟩
    (dead_slow (fun _ => rfl) (by decide +kernel) (by decide +kernel) (by decide +kernel))
    (run_eq_done (by decide +kernel)) (by decide) (run_eq_done (by decide +kernel))

/-- A yield that ends connected did not notice. -/
theorem not_notices {env : Env} {fuel depth timeoutMs : Nat} {w : World} (r : IoTError × UInt8)
    (rc : IoTError) (hfirst : ((firstCycle env fuel (applicationCallbacks env fuel
      (apiCall env fuel depth)) timeoutMs).run w).value? = some (some r))
    (htype : r.2 ≠ MessageType.pingresp.code)
    (hrun : ((apiCall env fuel (depth + 1) (.yield timeoutMs) : M IoTError).run w).value? = some rc)
    (hstate : ((apiCall env fuel (depth + 1) (.yield timeoutMs) : M IoTError).run
      w).state.client.clientState = .connectedIdle) :
    ¬ Notices env fuel depth timeoutMs w := by
  intro h
  have hend := h r _ (run_eq_done hfirst) htype rc _ (run_eq_done hrun)
  rw [hstate] at hend
  exact hend.elim nofun nofun

/-- A session in which every read of a second yield fails. -/
def failingEnv : Env := (sessionEnv []).slow.failingReads 22

/-- A session in which a second connect is accepted. -/
def returningEnv : Env := (sessionEnv [(37, [0x20, 2, 0, 0])]).slow

/-- A read that fails hides a dead connection, and auto reconnect may replace it. -/
theorem deadConnection_unnoticed :
    (failingEnv.Quiet ∧ Dead failingEnv (World.pinged failingEnv false) ∧
      ¬ Notices failingEnv 12 11 1500 (World.pinged failingEnv false)) ∧
    returningEnv.Quiet ∧ Dead returningEnv (World.pinged returningEnv true) ∧
      ¬ Notices returningEnv 12 11 20000 (World.pinged returningEnv true) := by
  refine ⟨⟨⟨fun _ => rfl, fun _ => rfl⟩, ?_, ?_⟩, ⟨fun _ => rfl, fun _ => rfl⟩, ?_, ?_⟩
  · exact dead_slow (fun _ => rfl) (by decide +kernel) (by decide +kernel) (by decide +kernel)
  · exact not_notices (.networkSslReadError, 0) .networkSslReadError
      (by decide +kernel) (by decide) (by decide +kernel) (by decide +kernel)
  · exact dead_slow (fun _ => rfl) (by decide +kernel) (by decide +kernel) (by decide +kernel)
  · exact not_notices (.success, 0) .networkReconnected
      (by decide +kernel) (by decide) (by decide +kernel) (by decide +kernel)

end AwsIot.Mqtt
