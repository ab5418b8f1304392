/-
  Mqtt/SessionRuns.lean --- in every run the client keeps to its sessions.

  Nothing is sent, written or read without a connection, CONNECT comes first on each,
  and none is released twice, in every run and up to every moment
  (`application_inSession`); nor is one left behind by the next connect
  (`application_releases`).  What the calls keep is that a client which counts as
  connected has started CONNECT, and one that does not has nothing to release.  No
  message handler may disconnect or initialise the client: a request that waits for its
  answer reads on when a handler has closed the connection meanwhile.  A disconnect
  handler that connects leaves a client with a connection in DISCONNECTED_ERROR, and the
  next connect opens another one.
-/
import AwsIot.Mqtt.NetworkTruth
import AwsIot.Mqtt.Session
import AwsIot.Mqtt.Subscriptions

set_option autoImplicit false

namespace AwsIot.Mqtt

open AwsIot.Foundation Program

/-! ## Calls that open and close connections -/

section Relations

variable (tidy : Bool)

/-- A settled client is settled afterwards. -/
def KeepsSettled (w w' : World) : Prop := w.Settled tidy → w'.Settled tidy

/-- The log stays in order up to a halt. -/
def HaltsSettled (w w' : World) : Prop := w.Settled tidy → InSession tidy w'.log

instance : IsPreorder World (KeepsSettled tidy) where
  refl _ := id
  trans _ _ _ h h' hw := h' (h hw)

theorem settles_halts : HaltsAfter (KeepsSettled tidy) (HaltsSettled tidy) where
  refl _ h := h.inSession
  trans h h' hw := h' (h hw)

/-- Programs that keep a client settled. -/
abbrev StaysSettled {α : Type} (m : M α) : Prop :=
  Tracks (KeepsSettled tidy) (HaltsSettled tidy) m

/-- A yield may go on: the client waits to reconnect, or is online. -/
def World.MayYield (w : World) : Prop :=
  w.Settled tidy ∧
    (w.client.clientState = .pendingReconnect ∨ w.client.clientState.isOnline = true)

end Relations

section Settling

variable {tidy : Bool} {env : Env} {fuel : Nat} {callbacks : Callbacks M} {w : World}

theorem staysSettled_compositional : Compositional (m := M) (StaysSettled tidy) :=
  tracks_compositional (settles_halts tidy)

theorem World.MayYield.of_same {w' : World} (h : w.MayYield tidy) (hlog : w'.log = w.log)
    (hstate : w'.client.clientState = w.client.clientState) : w'.MayYield tidy := by
  refine ⟨h.1.of_same hlog hstate, ?_⟩
  rw [hstate]
  exact h.2

theorem settles_of {α : Type} {m : M α} (h : ∀ w : World, w.Settled tidy →
    m.Ends w (fun _ w' => w'.Settled tidy) (fun w' => InSession tidy w'.log)) :
    StaysSettled tidy m :=
  fun w => ends_imp (h w)

theorem Stays.settled {w' : World} (h : Stays tidy w w') (hw : w.Settled tidy)
    (honline : w.client.clientState.isOnline = true) :
    w'.Settled tidy ∧ w'.client.clientState.isOnline = true := by
  have honline' : w'.client.clientState.isOnline = true := by rw [h.1, honline]
  exact ⟨(h.2 (hw.begun honline)).settled honline', honline'⟩

/-- A request that refuses a client that is not connected keeps it settled. -/
theorem settles_of_stays {α : Type} {m : M α} (h : StaysOn tidy m)
    (hrefused : ∀ w : World, w.client.clientState.isConnected = false →
      m.Ends w (fun _ w' => w' = w) (fun _ => False)) : StaysSettled tidy m := by
  apply settles_of
  intro w hw
  cases hconnected : w.client.clientState.isConnected with
  | true =>
    have honline := ClientState.isOnline_of_connected hconnected
    exact (h w).mono (fun _ _ h => (h.settled hw honline).1)
      (fun _ h => (h (hw.begun honline)).2)
  | false => exact (hrefused w hconnected).mono (fun _ _ heq => heq ▸ hw) (fun _ h => h.elim)

theorem request_refuses {operation : Operation} {internal : M IoTError}
    (hoffline : w.client.clientState.isConnected = false) :
    (request operation internal : M IoTError).Ends w (fun _ w' => w' = w) (fun _ => False) := by
  unfold request
  simp only [ends_bind, ends_getClientState, ends_ite, ends_pure]
  rw [if_pos (by simp [hoffline])]
  trivial

theorem unsubscribeRequest_refuses {internal : M IoTError}
    (hoffline : w.client.clientState.isConnected = false) :
    (unsubscribeRequest internal : M IoTError).Ends w (fun _ w' => w' = w) (fun _ => False) := by
  unfold unsubscribeRequest
  simp only [ends_bind, ends_getClientState, ends_ite, ends_pure]
  rw [if_pos (by simp [hoffline])]
  trivial

theorem resubscribeRequest_refuses {internal : M IoTError}
    (hoffline : w.client.clientState.isConnected = false) :
    (resubscribeRequest internal : M IoTError).Ends w (fun _ w' => w' = w) (fun _ => False) := by
  unfold resubscribeRequest
  simp only [ends_bind, ends_getClientState, ends_ite, ends_pure]
  rw [if_pos (by simp [hoffline])]
  trivial

/-- Calls that set something in the client and do nothing else. -/
def ApiCall.sets : ApiCall → Bool
  | .autoreconnectSetStatus _ | .setDisconnectHandler _ | .setConnectParams _
  | .resetNetworkDisconnectedCount => true
  | _ => false

/-- What setting something in the client has, a call has that does nothing else. -/
theorem dispatch_sets {Ok : ∀ {α : Type}, M α → Prop} (hcomp : Compositional (m := M) Ok)
    (hsame : ∀ f : Client → Client, (∀ c, (f c).clientState = c.clientState) →
      Ok (modifyClient f : M Unit)) {call : ApiCall} (hcall : call.sets = true) :
    Ok (dispatch env fuel callbacks call) := by
  cases call with
  | autoreconnectSetStatus newStatus =>
    exact hcomp.bind (hsame _ fun _ => rfl) fun _ => hcomp.pure _
  | setDisconnectHandler given =>
    apply hcomp.ite (fun _ => hcomp.pure _)
    exact fun _ => hcomp.bind (hsame _ fun _ => rfl) fun _ => hcomp.pure _
  | setConnectParams params =>
    cases params with
    | none => exact hcomp.pure _
    | some new => exact hcomp.bind (hsame _ fun _ => rfl) fun _ => hcomp.pure _
  | resetNetworkDisconnectedCount =>
    exact hcomp.bind (hsame _ fun _ => rfl) fun _ => hcomp.pure _
  | _ => exact absurd hcall Bool.noConfusion

/-- Initialising a client that has something to release is refused, or starts over. -/
theorem init_starts (params : InitParams) (hlog : InSession tidy w.log) :
    (init env params : M IoTError).Ends w
      (fun _ w' => w' = w ∨ (w'.Released tidy ∧
        (w'.client.clientState = .initialized ∨ w'.client.clientState = .invalid)))
      (fun _ => False) := by
  unfold init setConnectParams resetHandlers
  simp only [ends_bind, ends_ite, ends_pure, ends_modifyClient, ends_emit, ends_ask,
    ends_assignClientState]
  have hreset : InSession tidy (w.push .tableReset).log := inSession_push hlog rfl rfl
  have htls : ((w.push .tableReset).push (.tlsInit (env.tlsInit w.time))).Released tidy := by
    constructor
    · rfl
    · rw [World.log_push, inSession_cons]
      exact ⟨rfl, hreset⟩
  split
  · exact .inl trivial
  rw [if_neg (by simp)]
  split
  · exact .inr ⟨htls, .inr rfl⟩
  · exact .inr ⟨htls, .inl rfl⟩

theorem init_settles (params : InitParams) : StaysSettled tidy (init env params : M IoTError) := by
  apply settles_of
  intro w hw
  apply (init_starts params hw.inSession).mono _ (fun _ h => h.elim)
  intro _ w' h
  rcases h with rfl | ⟨hreleased, hstate | hstate⟩
  · exact hw
  · exact hreleased.settled (by rw [hstate]; rfl)
  · exact hreleased.settled (by rw [hstate]; rfl)

/-- How a connect ends: refused, with the session begun, or with everything released. -/
theorem connect_session (hmessage : ∀ call, StaysOnHeld tidy (callbacks.message call))
    (params : Option ConnectParams) (hw : w.Settled tidy) :
    (connect env fuel callbacks params : M IoTError).Ends w
      (fun _ w' => (w.client.clientState.isValidForConnect = false ∧ w' = w) ∨
        (w'.Settled tidy ∧ (w'.client.clientState = .disconnectedError ∨
          w'.client.clientState = .connectedIdle)))
      (fun w' => InSession tidy w'.log) := by
  unfold connect connectRequest
  simp only [ends_bind, ends_getClientState, ends_ite, ends_pure, ends_setClientState,
    ends_within]
  split
  case isTrue hinvalid => exact .inl ⟨by simpa using hinvalid, trivial⟩
  case isFalse hvalid =>
    rw [if_pos trivial]
    have hoffline : w.client.clientState.isOnline = false := by
      revert hvalid
      cases w.client.clientState <;> simp [ClientState.isValidForConnect, ClientState.isOnline,
        ClientState.isConnected]
    have hready : tidy = true → session (w.withState .connecting).log = .released :=
      fun htidy => hw.offline htidy hoffline
    apply (internalConnect_opens (w := w.withState .connecting) hmessage params hw.inSession
      hready).mono
    · intro rc w₁ hopens
      have hconnecting : w₁.client.clientState = .connecting := hopens.state
      split
      case isTrue hrc =>
        simp only [ends_emit, ends_netDisconnect, ends_netDestroy]
        have hclosed : ((((w₁.push (.connectCleanup w₁.client.clientState)).push
            .netDisconnect).tick.push (.netDestroy (env.destroy w₁.time)))).Released tidy := by
          apply World.release (inSession_push hopens.inSession rfl rfl)
          rw [session_push rfl rfl]
          exact hopens.unreleased
        split
        · exact .inr ⟨World.Released.settled hclosed rfl, .inl rfl⟩
        · exact absurd hconnecting.symm ‹_›
      case isFalse hrc =>
        rw [if_pos hconnecting.symm, ends_emit]
        have hw₁ : (w₁.withState .connectedIdle).Begun tidy := hopens.success (not_not.mp hrc)
        exact .inr ⟨(hw₁.push rfl).settled rfl, .inr rfl⟩
    · exact fun _ h => h

theorem connect_settles (hmessage : ∀ call, StaysOnHeld tidy (callbacks.message call))
    (params : Option ConnectParams) :
    StaysSettled tidy (connect env fuel callbacks params) := by
  apply settles_of
  intro w hw
  apply (connect_session hmessage params hw).mono
  · intro _ w' h
    rcases h with ⟨-, rfl⟩ | ⟨hsettled, -⟩
    · exact hw
    · exact hsettled
  · exact fun _ h => h

/-- `internal_disconnect` leaves the session alone when it gives up, and releases the network
when it can be destroyed. -/
theorem internalDisconnect_closes (hdestroy : ∀ n, env.destroy n = .success)
    (hw : w.Begun tidy) :
    (internalDisconnect env fuel : M IoTError).Ends w
      (fun rc w' => if rc = .success then w'.Released tidy else w'.Begun tidy)
      (fun w' => InSession tidy w'.log) := by
  have hclean : ∀ w₁ : World, w₁.Begun tidy → (do
      netDisconnect
      let rc ← netDestroy env
      emit fun _ => .disconnectDestroyed rc
      if rc ≠ .success then return .failure
      return .success : M IoTError).Ends w₁
        (fun rc w' => if rc = .success then w'.Released tidy else w'.Begun tidy)
        (fun w' => InSession tidy w'.log) := by
    intro w₁ hw₁
    simp only [ends_bind, ends_netDisconnect, ends_netDestroy, ends_emit, ends_ite, ends_pure]
    rw [if_neg (by simp [hdestroy]), if_pos trivial]
    exact (World.release hw₁.2 (by rw [hw₁.1]; decide) _).push rfl rfl
  unfold internalDisconnect
  refine ends_bind.mpr (ends_getClient.mpr (ends_bind.mpr (ends_storePacket.mpr ?_)))
  split
  case h_1 => exact hw.2
  case h_2 rc hser =>
    obtain rfl := serializeZero_error (by decide) hser
    exact hw
  case h_3 packet _ =>
    dsimp only
    simp only [ends_bind, ends_getClient, ends_countdownMs]
    rw [ends_ite]
    split
    · rw [ends_bind]
      apply (staysOn_traffic.sendPacket env fuel _ _ _).mono
      · intro rc w₁ h
        have hw₁ : w₁.Begun tidy := h.2 hw
        rw [ends_ite]
        split
        case isTrue hrc =>
          rw [ends_pure, if_neg hrc]
          exact hw₁
        case isFalse => exact hclean w₁ hw₁
      · exact fun _ h => (h hw).2
    · exact hclean _ hw

/-- A disconnect gives back the state in which the session goes on, or releases the
network. -/
theorem disconnect_session (hdestroy : ∀ n, env.destroy n = .success) (hw : w.Settled tidy) :
    (disconnect env fuel : M IoTError).Ends w
      (fun rc w' => if rc = .success
        then w'.Released tidy ∧ w'.client.clientState = .disconnectedManually
        else w'.Settled tidy ∧ w'.client.clientState = w.client.clientState)
      (fun w' => InSession tidy w'.log) := by
  unfold disconnect
  simp only [ends_bind, ends_getClientState, ends_ite, ends_pure, ends_setClientState]
  split
  case isTrue => exact ⟨hw, trivial⟩
  case isFalse hconnected =>
    have honline : w.client.clientState.isOnline = true :=
      ClientState.isOnline_of_connected (not_not.mp hconnected)
    have hbegun : (w.withState .disconnecting).Begun tidy := hw.begun honline
    rw [if_pos trivial, if_neg (by simp)]
    apply (internalDisconnect_closes hdestroy hbegun).mono
    · intro rc w₁ h
      simp only [ends_assignClientState]
      split
      case isTrue hrc =>
        rw [if_neg hrc] at h
        exact ⟨World.Begun.settled (w := w₁.withState w.client.clientState) h honline, rfl⟩
      case isFalse hrc =>
        obtain rfl := not_not.mp hrc
        exact ⟨h, rfl⟩
    · exact fun _ h => h

theorem disconnect_settles (hdestroy : ∀ n, env.destroy n = .success) :
    StaysSettled tidy (disconnect env fuel : M IoTError) := by
  apply settles_of
  intro w hw
  apply (disconnect_session hdestroy hw).mono _ (fun _ h => h)
  intro rc w' h
  split at h
  · exact h.1.settled (by rw [h.2]; rfl)
  · exact h.1

/-- A client that could not connect waits to reconnect. -/
theorem enterPending_session (hw : w.Settled tidy) :
    (enterPending : M Unit).Ends w
      (fun _ w' => w'.Settled tidy ∧
        (w.client.clientState = .disconnectedError → w'.MayYield tidy))
      (fun w' => InSession tidy w'.log) := by
  unfold enterPending
  simp only [ends_bind, ends_setClientState, ends_emit]
  split
  case isTrue hstate =>
    have hpending : (w.withState .pendingReconnect).Settled tidy :=
      hw.withState (by rw [← hstate]; rfl) rfl
    exact ⟨hpending.push rfl rfl, fun _ => ⟨hpending.push rfl rfl, .inl rfl⟩⟩
  case isFalse hne => exact ⟨hw.push rfl rfl, fun heq => absurd heq.symm hne⟩

/-- What resubscribe finds when it is reached is a session that has begun. -/
theorem attemptReconnect_session (hmessage : ∀ call, StaysOnHeld tidy (callbacks.message call))
    (hw : w.Settled tidy) :
    (attemptReconnect env fuel callbacks : M IoTError).Ends w
      (fun _ w' => w'.Settled tidy ∧
        (w.client.clientState = .pendingReconnect → w'.MayYield tidy))
      (fun w' => InSession tidy w'.log) := by
  unfold attemptReconnect
  simp only [ends_bind, ends_getClientState, ends_ite]
  split
  case isTrue hconnected =>
    refine ⟨hw, fun hstate => ?_⟩
    rw [hstate] at hconnected
    exact absurd hconnected (by decide)
  case isFalse =>
    apply (connect_session hmessage none hw).mono _ (fun _ h => h)
    intro _ w₁ h
    rcases h with ⟨hinvalid, rfl⟩ | ⟨hsettled, hstate | hstate⟩
    · -- a client that may not connect does not wait to reconnect either
      have hidle : w₁.client.clientState ≠ .connectedIdle := by
        rintro hidle
        simp_all [ClientState.isConnected]
      rw [if_pos hidle]
      apply (enterPending_session hw).mono _ (fun _ h => h)
      rintro _ w' ⟨hsettled, -⟩
      refine ⟨hsettled, fun hstate => ?_⟩
      rw [hstate] at hinvalid
      exact absurd hinvalid (by decide)
    · rw [if_pos (by rw [hstate]; decide)]
      apply (enterPending_session hsettled).mono _ (fun _ h => h)
      exact fun _ w' h => ⟨h.1, fun _ => h.2 hstate⟩
    · rw [if_neg (by rw [hstate]; simp)]
      have hresubscribe : StaysOn tidy (resubscribe env fuel callbacks) :=
        resubscribeRequest_stays (internalResubscribe_stays hmessage)
      have honline : w₁.client.clientState.isOnline = true := by rw [hstate]; rfl
      apply (hresubscribe w₁).mono
      · intro rc w' h
        obtain ⟨hsettled', honline'⟩ := h.settled hsettled honline
        simp only [ends_pure, ite_self]
        exact ⟨hsettled', fun _ => ⟨hsettled', .inr honline'⟩⟩
      · exact fun _ h => (h (hsettled.begun honline)).2

/-! ## Disconnect handlers -/

/-- States out of which only a connect leads to a connection. -/
def ClientState.isOff : ClientState → Bool
  | .invalid | .initialized | .disconnectedError | .disconnectedManually => true
  | _ => false

/-- There is no connection, and the client does not try to get one. -/
def World.Off (tidy : Bool) (w : World) : Prop :=
  w.Released tidy ∧ w.client.clientState.isOff = true

/-- A client without a connection is left without one. -/
def KeepsOff (tidy : Bool) (w w' : World) : Prop := w.Off tidy → w'.Off tidy

instance : IsPreorder World (KeepsOff tidy) where
  refl _ := id
  trans _ _ _ h h' hw := h' (h hw)

/-- Programs that leave a client without a connection. -/
abbrev StaysOff (tidy : Bool) {α : Type} (m : M α) : Prop := Keeps (KeepsOff tidy) m

theorem staysOff_of {α : Type} {m : M α} (h : ∀ w : World, w.Off tidy →
    m.Ends w (fun _ w' => w'.Off tidy) (fun w' => w'.Off tidy)) : StaysOff tidy m :=
  fun w => ends_imp (h w)

/-- Calls that do not ask for a connection. -/
def ApiCall.leavesClosed : ApiCall → Bool
  | .connect _ | .attemptReconnect => false
  | _ => true

theorem ClientState.isOff_refused {s : ClientState} (h : s.isOff = true) :
    s.isOnline = false ∧ s.isConnected = false ∧ s ≠ .pendingReconnect := by
  revert h
  cases s <;> decide

theorem staysOff_of_refuses {α : Type} {m : M α}
    (hrefused : ∀ w : World, w.client.clientState.isConnected = false →
      m.Ends w (fun _ w' => w' = w) (fun _ => False)) : StaysOff tidy m := by
  apply staysOff_of
  intro w hw
  exact (hrefused w (ClientState.isOff_refused hw.2).2.1).mono (fun _ _ heq => heq ▸ hw)
    (fun _ h => h.elim)

theorem disconnect_refuses (hoffline : w.client.clientState.isConnected = false) :
    (disconnect env fuel : M IoTError).Ends w (fun _ w' => w' = w) (fun _ => False) := by
  unfold disconnect
  simp only [ends_bind, ends_getClientState, ends_ite, ends_pure]
  rw [if_pos (by simp [hoffline])]
  trivial

/-- A call that does not ask for a connection does not bring one. -/
theorem dispatch_off {call : ApiCall} (hcall : call.leavesClosed = true) :
    StaysOff tidy (dispatch env fuel callbacks call) := by
  have hcomp : Compositional (m := M) (StaysOff tidy) := keeps_compositional _
  have hsame : ∀ f : Client → Client, (∀ c, (f c).clientState = c.clientState) →
      StaysOff tidy (modifyClient f : M Unit) := by
    intro f hf w hw
    exact ⟨hw.1, (congrArg ClientState.isOff (hf w.client)).trans hw.2⟩
  cases call with
  | init params =>
    apply staysOff_of
    intro w hw
    apply (init_starts params hw.1.2).mono _ (fun _ h => h.elim)
    intro _ w' h
    rcases h with rfl | ⟨hreleased, hstate | hstate⟩
    · exact hw
    · exact ⟨hreleased, by rw [hstate]; rfl⟩
    · exact ⟨hreleased, by rw [hstate]; rfl⟩
  | connect params => exact absurd hcall Bool.noConfusion
  | publish topicName topicNameLen params =>
    show StaysOff tidy (publish env fuel callbacks topicName topicNameLen params)
    unfold publish
    split
    · apply hcomp.ite (fun _ => hcomp.pure _)
      exact fun _ => staysOff_of_refuses fun _ => request_refuses
    · exact hcomp.pure _
  | subscribe topicName topicNameLen qos handler data =>
    show StaysOff tidy (subscribe env fuel callbacks topicName topicNameLen qos handler data)
    unfold subscribe
    split
    · exact staysOff_of_refuses fun _ => request_refuses
    · exact hcomp.pure _
  | unsubscribe topicFilter topicFilterLen =>
    show StaysOff tidy (unsubscribe env fuel callbacks topicFilter topicFilterLen)
    unfold unsubscribe
    split
    · exact staysOff_of_refuses fun _ => unsubscribeRequest_refuses
    · exact hcomp.pure _
  | resubscribe => exact staysOff_of_refuses fun _ => resubscribeRequest_refuses
  | yield timeoutMs =>
    apply staysOff_of
    intro w hw
    obtain ⟨-, hconnected, hpending⟩ := ClientState.isOff_refused hw.2
    show (yield env fuel callbacks timeoutMs : M IoTError).Ends w _ _
    unfold yield yieldRequest
    rw [ends_ite]
    split
    · exact hw
    simp only [ends_bind, ends_getClientState, ends_ite, ends_pure, ends_setClientState]
    split
    · exact hw
    rw [if_pos (by simp [hconnected])]
    exact hw
  | disconnect => exact staysOff_of_refuses fun _ => disconnect_refuses
  | attemptReconnect => exact absurd hcall Bool.noConfusion
  | autoreconnectSetStatus newStatus => exact dispatch_sets hcomp hsame rfl
  | setDisconnectHandler given => exact dispatch_sets hcomp hsame rfl
  | setConnectParams params => exact dispatch_sets hcomp hsame rfl
  | resetNetworkDisconnectedCount => exact dispatch_sets hcomp hsame rfl

/-! ## Yield -/

/-- Backing off moves neither the state nor the session. -/
theorem backOff_session (rc : IoTError) (hw : w.MayYield tidy) :
    (backOff env rc : M IoTError).Ends w (fun _ w' => w'.MayYield tidy)
      (fun w' => InSession tidy w'.log) := by
  have hfailed : (w.push (.attemptFailed w.client.currentReconnectWaitInterval)).MayYield tidy :=
    ⟨hw.1.push rfl rfl, hw.2⟩
  unfold backOff doubleInterval
  simp only [ends_bind, ends_emit, ends_modifyClient, ends_getClient, ends_ite, ends_pure,
    ends_countdownMs]
  split
  · exact hfailed.of_same rfl rfl
  · exact hfailed.of_same rfl rfl

/-- A client that turns to its connection again waits on, or is online. -/
theorem handleReconnect_session (hmessage : ∀ call, StaysOnHeld tidy (callbacks.message call))
    (hw : w.Settled tidy) (hpending : w.client.clientState = .pendingReconnect) :
    (handleReconnect env fuel callbacks : M IoTError).Ends w (fun _ w' => w'.MayYield tidy)
      (fun w' => InSession tidy w'.log) := by
  have hready : w.MayYield tidy := ⟨hw, .inl hpending⟩
  unfold handleReconnect
  simp only [ends_bind, ends_getClient, ends_hasTimerExpired, ends_ite, ends_pure, ends_ask]
  split
  · exact hready.of_same rfl rfl
  split
  · have htick : w.tick.tick.Settled tidy := hw.of_same rfl rfl
    apply (attemptReconnect_session hmessage htick).mono _ (fun _ h => h)
    rintro rc w₁ ⟨hsettled, hyield⟩
    have hw₁ : w₁.MayYield tidy := hyield hpending
    split
    · rw [ends_setClientState]
      split
      case isTrue hidle =>
        have hbegun : w₁.Begun tidy := hsettled.begun (by rw [← hidle]; rfl)
        have hyielding : (w₁.withState .connectedYieldInProgress).MayYield tidy :=
          ⟨World.Begun.settled (w := w₁.withState .connectedYieldInProgress) hbegun rfl,
            .inr rfl⟩
        simp only [ite_self]
        exact hyielding
      case isFalse =>
        simp only [ite_self]
        exact hw₁
    · exact backOff_session rc hw₁
  · exact backOff_session _ (hready.of_same rfl rfl)

/-- What a client does that finds its connection lost leaves it disconnected. -/
theorem handleDisconnect_session (hdestroy : ∀ n, env.destroy n = .success)
    (hdisconnect : StaysSettled tidy callbacks.disconnect)
    (hoff : tidy = true → StaysOff tidy callbacks.disconnect) (hw : w.Settled tidy)
    (honline : w.client.clientState.isOnline = true) :
    (handleDisconnect env fuel callbacks : M IoTError).Ends w
      (fun rc w' => w'.Settled tidy ∧ rc = .networkDisconnectedError)
      (fun w' => InSession tidy w'.log) := by
  have hend : ∀ w₁ : World, InSession tidy w₁.log →
      (tidy = true → session w₁.log = .released) → (do
        emit fun c => .disconnectHandled c.clientState
        assignClientState .disconnectedError
        return .networkDisconnectedError : M IoTError).Ends w₁
          (fun rc w' => w'.Settled tidy ∧ rc = .networkDisconnectedError)
          (fun w' => InSession tidy w'.log) := by
    intro w₁ hlog hreleased
    simp only [ends_bind, ends_emit, ends_assignClientState, ends_pure]
    refine ⟨⟨inSession_push hlog rfl rfl, fun h => absurd h Bool.noConfusion, fun htidy _ => ?_⟩,
      trivial⟩
    exact (session_push (w := w₁) rfl rfl).trans (hreleased htidy)
  have hhandler : ∀ w₁ : World, w₁.Off tidy → (do
      let c ← getClient
      if c.disconnectHandler then within .callback callbacks.disconnect
      emit fun c => .disconnectHandled c.clientState
      assignClientState .disconnectedError
      return .networkDisconnectedError : M IoTError).Ends w₁
        (fun rc w' => w'.Settled tidy ∧ rc = .networkDisconnectedError)
        (fun w' => InSession tidy w'.log) := by
    intro w₁ hw₁
    have hsettled : w₁.Settled tidy := hw₁.1.settled (ClientState.isOff_refused hw₁.2).1
    rw [ends_bind, ends_getClient, ends_ite]
    split
    · rw [ends_bind, ends_within]
      have hreleased : callbacks.disconnect.Ends w₁
          (fun _ w₂ => tidy = true → session w₂.log = .released) (fun _ => True) := by
        cases htidy : tidy with
        | false => exact ends_true.mono (fun _ _ _ h => absurd h (by decide)) (fun _ h => h)
        | true =>
          rw [htidy] at hoff hw₁
          exact (hoff rfl w₁).mono (fun _ _ h _ => (h hw₁).1.1) (fun _ _ => trivial)
      apply ((hdisconnect w₁).and hreleased).mono
      · exact fun _ w₂ h => hend w₂ (h.1 hsettled).inSession h.2
      · exact fun _ h => h.1 hsettled
    · exact hend w₁ hw₁.1.2 fun _ => hw₁.1.1
  unfold handleDisconnect
  rw [ends_bind]
  apply (disconnect_session hdestroy hw).mono _ (fun _ h => h)
  intro rc w₁ h
  rw [ends_ite]
  split
  case isTrue hrc =>
    rw [if_neg hrc] at h
    have hbegun : w₁.Begun tidy := h.1.begun (by rw [h.2, honline])
    unfold forceClientDisconnect
    simp only [ends_bind, ends_assignClientState, ends_netDisconnect, ends_netDestroy]
    have hclosed : (((w₁.withState .disconnectedError).push .netDisconnect).tick.push
        (.netDestroy (env.destroy w₁.time))).Released tidy :=
      World.release (w := w₁.withState .disconnectedError) hbegun.2
        (by rw [World.log_withState, hbegun.1]; decide) _
    exact hhandler _ ⟨hclosed, rfl⟩
  case isFalse hrc =>
    rw [if_pos (not_not.mp hrc)] at h
    exact hhandler w₁ ⟨h.1, by rw [h.2]; rfl⟩

/-- Keep-alive stays on the connection, or reports that it is lost. -/
theorem keepAlive_session (hdestroy : ∀ n, env.destroy n = .success)
    (hdisconnect : StaysSettled tidy callbacks.disconnect)
    (hoff : tidy = true → StaysOff tidy callbacks.disconnect) (hw : w.Settled tidy)
    (honline : w.client.clientState.isOnline = true) :
    (keepAlive env fuel callbacks : M IoTError).Ends w
      (fun rc w' => w'.Settled tidy ∧
        (rc = .success → w'.client.clientState.isOnline = true))
      (fun w' => InSession tidy w'.log) := by
  have hlost : ∀ w₁ : World, w₁.Settled tidy → w₁.client.clientState.isOnline = true →
      (handleDisconnect env fuel callbacks : M IoTError).Ends w₁
        (fun rc w' => w'.Settled tidy ∧
          (rc = .success → w'.client.clientState.isOnline = true))
        (fun w' => InSession tidy w'.log) := by
    intro w₁ hw₁ honline₁
    apply (handleDisconnect_session hdestroy hdisconnect hoff hw₁ honline₁).mono _ (fun _ h => h)
    rintro rc w' ⟨hsettled, rfl⟩
    exact ⟨hsettled, fun h => absurd h (by decide)⟩
  have htick : w.tick.Settled tidy := hw.of_same rfl rfl
  unfold keepAlive
  simp only [ends_bind, ends_getClient, ends_hasTimerExpired, ends_ite, ends_pure,
    ends_countdownMs, ends_storePacket]
  split
  · exact ⟨hw, fun _ => honline⟩
  split
  · exact ⟨htick, fun _ => honline⟩
  split
  · exact hlost w.tick htick honline
  split
  case h_1 => exact hw.inSession
  case h_2 => exact ⟨hw.of_same rfl rfl, fun _ => honline⟩
  case h_3 packet _ =>
    simp only [ends_modifyClient, ends_countdownSec]
    apply (staysOn_traffic.sendPacket env fuel _ _ _).mono
    · intro rc w₁ h
      obtain ⟨hw₁, honline₁⟩ := h.settled (hw.of_same rfl rfl) honline
      split
      · exact hlost w₁ hw₁ honline₁
      · exact ⟨hw₁.of_same rfl rfl, fun _ => honline₁⟩
    · exact fun _ h => (h (hw.begun honline)).2

/-- A client that starts to reconnect waits, or its yield is over. -/
theorem startReconnecting_session (yieldRc : IoTError) (hw : w.Settled tidy) :
    (startReconnecting env yieldRc : M (Step IoTError IoTError)).Ends w
      (fun r w' => match r with | .again _ => w'.MayYield tidy | .stop _ => w'.Settled tidy)
      (fun w' => InSession tidy w'.log) := by
  unfold startReconnecting startInterval
  simp only [ends_bind, ends_modifyClient, ends_getClient, ends_ite, ends_pure,
    ends_setClientState, ends_emit, ends_countdownMs]
  split
  · split
    case isTrue hstate =>
      rw [if_neg (by simp)]
      have herror : w.client.clientState = .disconnectedError := hstate.symm
      have hpending : (w.withState .pendingReconnect).Settled tidy :=
        hw.withState (by rw [herror]; rfl) rfl
      have hpushed : ((w.withState .pendingReconnect).push
          (.reconnectStarted w.client.isAutoReconnectEnabled)).Settled tidy := hpending.push rfl rfl
      exact ⟨hpushed.of_same rfl rfl, .inl rfl⟩
    case isFalse =>
      rw [if_pos (by simp)]
      exact hw.of_same rfl rfl
  · exact hw.of_same rfl rfl

/-- A pass of the yield loop that may go on may go on afterwards. -/
theorem yieldPass_session (hdestroy : ∀ n, env.destroy n = .success)
    (hmessage : ∀ call, StaysOnHeld tidy (callbacks.message call))
    (hdisconnect : StaysSettled tidy callbacks.disconnect)
    (hoff : tidy = true → StaysOff tidy callbacks.disconnect) (timer : Timer)
    (yieldRc : IoTError) (hw : w.MayYield tidy) :
    (yieldPass env fuel callbacks timer yieldRc : M (Step IoTError IoTError)).Ends w
      (fun r w' => match r with | .again _ => w'.MayYield tidy | .stop _ => w'.Settled tidy)
      (fun w' => InSession tidy w'.log) := by
  have hwait : Waiting env callbacks (StaysOn tidy) := waiting_stays hmessage
  have htick : w.tick.Settled tidy := hw.1.of_same rfl rfl
  unfold yieldPass
  simp only [ends_bind, ends_hasTimerExpired, ends_ite, ends_pure, ends_getClientState]
  split
  · exact htick
  split
  case isTrue hpending =>
    have hdue : (w.tick.push (.reconnectDue w.client.clientState
        w.client.currentReconnectWaitInterval)).Settled tidy :=
      htick.push rfl rfl
    simp only [ends_emit, ends_getClient]
    split
    · exact hdue
    · exact handleReconnect_session hmessage hdue hpending
  case isFalse hstate =>
    have honline : w.client.clientState.isOnline = true := hw.2.resolve_left hstate
    apply (hwait.cycleRead fuel timer 0 w.tick).mono
    · intro read w₁ h
      obtain ⟨hw₁, honline₁⟩ := h.settled htick honline
      split
      · exact hw₁
      · apply (keepAlive_session hdestroy hdisconnect hoff hw₁ honline₁).mono _ (fun _ h => h)
        rintro rc w₂ ⟨hsettled, hkept⟩
        split
        · exact startReconnecting_session rc hsettled
        split
        case isTrue => exact hsettled
        case isFalse hrc => exact ⟨hsettled, .inr (hkept (not_not.mp hrc))⟩
    · exact fun _ h => (h (htick.begun honline)).2

/-- A yield keeps a client settled. -/
theorem yield_settles (hdestroy : ∀ n, env.destroy n = .success)
    (hmessage : ∀ call, StaysOnHeld tidy (callbacks.message call))
    (hdisconnect : StaysSettled tidy callbacks.disconnect)
    (hoff : tidy = true → StaysOff tidy callbacks.disconnect) (timeoutMs : Nat) :
    StaysSettled tidy (yield env fuel callbacks timeoutMs : M IoTError) := by
  have hperform : ∀ w₁ : World, w₁.MayYield tidy →
      (performYield (internalYield env fuel callbacks timeoutMs) : M IoTError).Ends w₁
        (fun _ w' => w'.Settled tidy) (fun w' => InSession tidy w'.log) := by
    intro w₁ hw₁
    unfold performYield internalYield
    simp only [ends_bind, ends_within, ends_countdownMs]
    have hloop : ∀ timer, (loop (yieldPass env fuel callbacks timer) fuel .success :
        M IoTError).Ends w₁.tick (fun _ w' => w'.Settled tidy)
          (fun w' => InSession tidy w'.log) := by
      intro timer
      have htick : w₁.tick.MayYield tidy := hw₁.of_same rfl rfl
      apply ends_loop (I := fun _ w₂ => w₂.MayYield tidy) _ (fun _ _ h => h.1.inSession) fuel _ _
        htick
      intro rc w₂ hw₂
      apply (yieldPass_session hdestroy hmessage hdisconnect hoff timer rc hw₂).mono _
        (fun _ h => h)
      intro r w₃ h
      cases r with
      | again rc' => exact h
      | stop rc' => exact h
    apply (hloop _).mono _ (fun _ h => h)
    intro rc w₂ hw₂
    rw [ends_ite]
    split
    · rw [ends_bind, ends_setClientState]
      split
      case isTrue hyielding =>
        have hbegun : w₂.Begun tidy := hw₂.begun (by rw [← hyielding]; rfl)
        exact World.Begun.settled (w := w₂.withState .connectedIdle) hbegun rfl
      case isFalse => exact hw₂
    · exact hw₂
  apply settles_of
  intro w hw
  unfold yield yieldRequest
  rw [ends_ite]
  split
  · exact hw
  simp only [ends_bind, ends_getClientState, ends_ite, ends_pure, ends_setClientState]
  split
  · exact hw
  split
  case isTrue hpending => exact hperform w ⟨hw, .inl hpending⟩
  split
  · exact hw
  split
  · exact hw
  case isFalse.isFalse.isFalse hidle =>
    have hidle : w.client.clientState = .connectedIdle := not_not.mp hidle
    rw [if_pos hidle.symm, if_neg (by simp)]
    have hbegun : w.Begun tidy := hw.begun (by rw [hidle]; rfl)
    have hyielding : (w.withState .connectedYieldInProgress).Settled tidy :=
      World.Begun.settled (w := w.withState .connectedYieldInProgress) hbegun rfl
    exact hperform _ ⟨hyielding, .inr rfl⟩

/-! ## Runs -/

/-- Every call keeps a client settled. -/
theorem dispatch_settles (hdestroy : ∀ n, env.destroy n = .success)
    (hmessage : ∀ call, StaysOnHeld tidy (callbacks.message call))
    (hdisconnect : StaysSettled tidy callbacks.disconnect)
    (hoff : tidy = true → StaysOff tidy callbacks.disconnect) (call : ApiCall) :
    StaysSettled tidy (dispatch env fuel callbacks call) := by
  have hcomp : Compositional (m := M) (StaysSettled tidy) := staysSettled_compositional
  have hwait : Waiting env callbacks (StaysOn tidy) := waiting_stays hmessage
  have hsame : ∀ f : Client → Client, (∀ c, (f c).clientState = c.clientState) →
      StaysSettled tidy (modifyClient f : M Unit) := by
    intro f hf w hw
    exact hw.of_same rfl (hf w.client)
  cases call with
  | init params => exact init_settles params
  | connect params => exact connect_settles hmessage params
  | publish topicName topicNameLen params =>
    show StaysSettled tidy (publish env fuel callbacks topicName topicNameLen params)
    unfold publish
    split
    · apply hcomp.ite (fun _ => hcomp.pure _)
      intro _
      exact settles_of_stays (request_stays (hwait.cycling.internalPublish fuel _ _ _))
        fun _ => request_refuses
    · exact hcomp.pure _
  | subscribe topicName topicNameLen qos handler data =>
    show StaysSettled tidy (subscribe env fuel callbacks topicName topicNameLen qos handler data)
    unfold subscribe
    split
    · exact settles_of_stays (request_stays (hwait.internalSubscribe fuel _ _ _ _ _))
        fun _ => request_refuses
    · exact hcomp.pure _
  | unsubscribe topicFilter topicFilterLen =>
    show StaysSettled tidy (unsubscribe env fuel callbacks topicFilter topicFilterLen)
    unfold unsubscribe
    split
    · exact settles_of_stays (unsubscribeRequest_stays (hwait.internalUnsubscribe fuel _ _))
        fun _ => unsubscribeRequest_refuses
    · exact hcomp.pure _
  | resubscribe =>
    exact settles_of_stays (resubscribeRequest_stays (internalResubscribe_stays hmessage))
      fun _ => resubscribeRequest_refuses
  | yield timeoutMs => exact yield_settles hdestroy hmessage hdisconnect hoff timeoutMs
  | disconnect => exact disconnect_settles hdestroy
  | attemptReconnect =>
    apply settles_of
    intro w hw
    exact (attemptReconnect_session hmessage hw).mono (fun _ _ h => h.1) (fun _ h => h)
  | autoreconnectSetStatus newStatus => exact dispatch_sets hcomp hsame rfl
  | setDisconnectHandler given => exact dispatch_sets hcomp hsame rfl
  | setConnectParams params => exact dispatch_sets hcomp hsame rfl
  | resetNetworkDisconnectedCount => exact dispatch_sets hcomp hsame rfl

end Settling

section Runs

variable {tidy : Bool} {env : Env} (hdestroy : ∀ n, env.destroy n = .success)
  (hmessage : ∀ n call, env.messageHandler n = some call → call.keepsConnection = true)
  (hdisconnect : ∀ n call, tidy = true → env.disconnectHandler n = some call →
    call.leavesClosed = true)

/-- Calls that do not ask for a connection do not bring one, at any depth of handlers. -/
theorem apiCall_off (fuel depth : Nat) {call : ApiCall} (hcall : call.leavesClosed = true) :
    StaysOff tidy (apiCall env fuel depth call : M IoTError) := by
  have hcomp : Compositional (m := M) (StaysOff tidy) := keeps_compositional _
  have hemit : ∀ e : Event, e.movesSession = false → e.needsSession = false →
      StaysOff tidy (emit fun _ => e : M Unit) :=
    fun e hmoves hneeds w hw => ⟨hw.1.push hmoves hneeds, hw.2⟩
  cases depth with
  | zero => exact hcomp.halt
  | succ depth =>
    apply hcomp.bind (hemit _ rfl rfl)
    intro _
    apply hcomp.bind (dispatch_off hcall)
    intro rc
    exact hcomp.bind (hemit _ rfl rfl) fun _ => hcomp.pure _

include hdestroy hmessage hdisconnect

/-- Every call keeps a client settled, at any depth of handlers. -/
theorem apiCall_settles (fuel : Nat) : ∀ depth call,
    StaysSettled tidy (apiCall env fuel depth call : M IoTError) := by
  have hcomp : Compositional (m := M) (StaysSettled tidy) := staysSettled_compositional
  have hemit : ∀ e : Event, e.movesSession = false → e.needsSession = false →
      StaysSettled tidy (emit fun _ => e : M Unit) :=
    fun e hmoves hneeds w hw => hw.push hmoves hneeds
  intro depth
  induction depth with
  | zero => intro call; exact hcomp.halt
  | succ depth ih =>
    intro call
    have hcallback : ∀ c, StaysOnHeld tidy
        ((applicationCallbacks env fuel (apiCall env fuel depth)).message c) :=
      fun _ => runHandler_stays hmessage (apiCall_stays hmessage fuel depth)
    have hsettled : StaysSettled tidy
        (applicationCallbacks env fuel (apiCall env fuel depth)).disconnect := by
      have hask : StaysSettled tidy (ask env.disconnectHandler : M (Option ApiCall)) :=
        fun _ hw => hw.of_same rfl rfl
      apply hcomp.loop
      intro _
      apply hcomp.bind hask
      intro next
      cases next with
      | none => exact hcomp.pure _
      | some c => exact hcomp.bind (ih c) fun _ => hcomp.pure _
    have hoff : tidy = true → StaysOff tidy
        (applicationCallbacks env fuel (apiCall env fuel depth)).disconnect := by
      intro htidy
      have hclosed : Compositional (m := M) (StaysOff tidy) := keeps_compositional _
      apply hclosed.loop
      intro _ w
      rw [ends_bind, ends_ask]
      cases hcall : env.disconnectHandler w.time with
      | none => exact fun hw => hw
      | some c =>
        have hc : StaysOff tidy (apiCall env fuel depth c : M IoTError) :=
          apiCall_off fuel depth (hdisconnect w.time c htidy hcall)
        exact (hclosed.bind hc fun _ => hclosed.pure _) w.tick
    apply hcomp.bind (hemit _ rfl rfl)
    intro _
    apply hcomp.bind (dispatch_settles hdestroy hcallback hsettled hoff call)
    intro rc
    exact hcomp.bind (hemit _ rfl rfl) fun _ => hcomp.pure _

/-- In every run, up to every moment, the client is in session. -/
theorem application_permitted (fuel : Nat) (calls : List ApiCall) :
    InSession tidy ((application env fuel calls : M Unit).run World.start).state.log := by
  have hcomp : Compositional (m := M) (StaysSettled tidy) := staysSettled_compositional
  have hrun : StaysSettled tidy (application env fuel calls : M Unit) := by
    apply hcomp.forEach
    intro call
    exact hcomp.bind (apiCall_settles hdestroy hmessage hdisconnect fuel fuel call)
      fun _ => hcomp.pure _
  have hstart : World.start.Settled tidy :=
    World.Released.settled (w := World.start) ⟨rfl, Monitor.accepts_nil _⟩ rfl
  have hends : (application env fuel calls : M Unit).Ends World.start
      (fun _ w => InSession tidy w.log) (fun w => InSession tidy w.log) :=
    (hrun World.start).mono (fun _ _ h => (h hstart).inSession) (fun _ h => h hstart)
  exact ends_state_iff.mp hends

end Runs

section Application

variable {env : Env} (hdestroy : ∀ n, env.destroy n = .success)
  (hmessage : ∀ n call, env.messageHandler n = some call → call.keepsConnection = true)
include hdestroy hmessage

/-- Whatever the disconnect handler does: nothing is sent, written or read without a
connection, CONNECT is the first packet on each, and no connection is released twice. -/
theorem application_inSession (fuel : Nat) (calls : List ApiCall) :
    InSession false ((application env fuel calls : M Unit).run World.start).state.log :=
  application_permitted hdestroy hmessage (fun _ _ h => absurd h (by decide)) fuel calls

/-- Where the disconnect handler does not connect, every connect finds the network
released as well: none leaves a connection behind. -/
theorem application_releases (hdisconnect : ∀ n call, env.disconnectHandler n = some call →
      call.leavesClosed = true) (fuel : Nat) (calls : List ApiCall) :
    InSession true ((application env fuel calls : M Unit).run World.start).state.log :=
  application_permitted hdestroy hmessage (fun n call _ => hdisconnect n call) fuel calls

end Application

/-- While a subscribe waits, a handler subscribes. -/
theorem inSession_reentrant :
    InSession false ((application reentrantEnv 8
      (sessionCalls [subscribeTo 0x61, subscribeTo 0x62]) : M Unit).run World.start).state.log := by
  apply application_inSession (fun _ => rfl)
  intro n call hcall
  by_cases hn : n = 27
  · rw [← Option.some.inj ((if_pos hn).symm.trans hcall)]
    rfl
  · exact absurd ((if_neg hn).symm.trans hcall) (by simp)

-- a subscribe reads on when a handler has disconnected while it waits
example : ¬ InSession false (World.after
    { reentrantEnv with messageHandler := fun n => if n = 27 then some .disconnect else none } 8
    (sessionCalls [subscribeTo 0x61, subscribeTo 0x62])).log := by decide +kernel

/-- The disconnect handler disconnects once more, and the client connects again. -/
theorem inSession_reconnected :
    InSession true ((application (pinglessEnv (some .disconnect)) 8
      (pingingCalls ++ [.connect none]) : M Unit).run World.start).state.log := by
  have hsilent : ∀ n, (pinglessEnv (some .disconnect)).messageHandler n = none := fun _ => rfl
  apply application_releases (fun _ => rfl)
    (fun n call hcall => absurd ((hsilent n).symm.trans hcall) (by simp))
  intro n call hcall
  by_cases hn : n = 26
  · rw [← Option.some.inj ((if_pos hn).symm.trans hcall)]
    rfl
  · exact absurd ((if_neg hn).symm.trans hcall) (by simp)

-- a disconnect handler that reconnects
example : ¬ InSession true (World.after (pinglessEnv (some .attemptReconnect)) 8
    (pingingCalls ++ [.connect none])).log := by decide +kernel

end AwsIot.Mqtt
