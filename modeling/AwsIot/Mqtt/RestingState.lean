/-
  Mqtt/RestingState.lean --- every API call leaves a client at rest at rest.

  The rest of the walk that `Mqtt/StateMoves.lean` begins: connect, disconnect,
  reconnect and yield, and from them every API call and every application.  Yield is
  the one operation that may keep the state it took: it does so when its internal
  function reports that the connection is lost, and what it may have read by then is
  said first.
-/
import AwsIot.Mqtt.StateMoves

set_option autoImplicit false

namespace AwsIot.Mqtt

open AwsIot.Foundation Program

/-! ## Who reports a lost connection -/

theorem serializeZero_error {txBufLen : Nat} {packetType : MessageType}
    (htype : packetType ≠ .unknown) {rc : IoTError}
    (h : serializeZero txBufLen packetType = .error rc) : rc = .mqttTxBufferTooShortError := by
  unfold serializeZero initHeader at h
  rw [if_neg htype] at h
  split at h
  · cases h; rfl
  · cases h

theorem serializeAck_notLost {txBufLen : Nat} {msgType : MessageType} {dup : UInt8}
    {packetId : UInt16} {rc : IoTError}
    (h : serializeAck txBufLen msgType dup packetId = .error rc) : rc.isLost = false := by
  unfold serializeAck initHeader at h
  split at h
  · cases h; rfl
  · dsimp only at h
    split at h
    case h_1 heq =>
      split at heq
      · cases heq; cases h; rfl
      · cases heq
    case h_2 => cases h

theorem deserializePublish_notLost {rxBuf : Memory} {rxBufLen : Nat} {rc : IoTError}
    (h : deserializePublish rxBuf rxBufLen = .error rc) : rc.isLost = false := by
  unfold deserializePublish at h
  split at h
  · cases h; rfl
  split at h
  · cases h; rfl
  split at h
  case h_1 heq =>
    unfold decodeRemainingLengthFromBuffer at heq
    split at heq
    · cases heq; cases h; rfl
    · cases heq
  case h_2 =>
    dsimp only at h
    split at h
    · cases h; rfl
    · cases h

/-- The last thing that happened is a read of a remaining-length byte that returned `rc`,
and the client state is as it was. -/
def LostRead (rc : IoTError) (w w' : World) : Prop :=
  w'.client.clientState = w.client.clientState ∧ ∃ offset len readLen bytes rest,
    w'.log = .netRead .remainingLength w.client.clientState offset len rc readLen bytes :: rest

theorem LostRead.of_notLost {rc : IoTError} {w w' : World} (h : rc.isLost = false)
    (hlost : rc.isLost = true) : LostRead rc w w' := by
  rw [h] at hlost
  cases hlost

section Lost

variable {env : Env} {fuel : Nat} {callbacks : Callbacks M}

theorem sendPacket_notLost (length : Nat) (timer : Timer) (w : World) :
    (sendPacket env fuel length timer : M IoTError).Ends w (fun rc _ => rc.isLost = false)
      (fun _ => True) := by
  unfold sendPacket
  simp only [ends_bind, ends_getClient, ends_ite, ends_pure, ends_emit]
  split
  · rfl
  refine ends_true.mono ?_ (fun _ _ => trivial)
  intro sent _ _
  split <;> rfl

theorem decodePacketRemainingLen_lost (w : World) :
    (decodePacketRemainingLen env fuel : M (IoTError × Nat)).Ends w
      (fun r w' => r.1 = .mqttDecodeRemainingLengthError ∨ r.1 = .success ∨ LostRead r.1 w w')
      (fun _ => True) := by
  unfold decodePacketRemainingLen
  simp only [ends_bind, ends_ask]
  refine ends_loop (I := fun _ w₁ => w₁.client.clientState = w.client.clientState) ?_
    (fun _ _ _ => trivial) fuel _ _ rfl
  intro v w₁ hs
  unfold decodeRemainingLenPass
  rw [ends_ite]
  split
  · exact .inl rfl
  have hread : (netReadByte env .remainingLength v.encodedByte : M _).Ends w₁
      (fun r w' => LostRead r.1 w w') (fun _ => True) := by
    unfold netReadByte
    simp only [ends_bind, ends_ask, ends_emit, ends_pure]
    exact ⟨hs, _, _, _, _, _, by rw [← hs]; rfl⟩
  refine ends_bind.mpr (hread.mono ?_ (fun _ _ => trivial))
  intro r w₂ hlost
  simp only [ends_ite, ends_pure]
  split
  · exact .inr (.inr hlost)
  split
  · exact hlost.1
  · exact .inr (.inr hlost)

theorem readPacket_lost (packetType : UInt8) (w : World) :
    (readPacket env fuel packetType : M (IoTError × UInt8)).Ends w
      (fun r w' => r.1.isLost = true → LostRead r.1 w w') (fun _ => True) := by
  have hheader : (netRead env .header 0 1 : M _).Ends w
      (fun _ w' => w'.client.clientState = w.client.clientState) (fun _ => True) := rfl
  unfold readPacket
  refine ends_bind.mpr (hheader.mono ?_ (fun _ _ => trivial))
  intro header w₁ hs₁
  rw [ends_ite]
  split
  · exact .of_notLost rfl
  refine ends_bind.mpr ((decodePacketRemainingLen_lost w₁).mono ?_ (fun _ _ => trivial))
  rintro r w₂ hdecoded
  rw [ends_ite]
  split
  case isTrue hfail =>
    intro hlost
    rcases hdecoded with hcode | hcode | hread
    · dsimp only at hlost; rw [hcode] at hlost; cases hlost
    · exact absurd hcode hfail
    · exact ⟨hread.1.trans hs₁, by rw [← hs₁]; exact hread.2⟩
  simp only [ends_bind, ends_getClient, ends_ite, ends_pure, ends_modifyClient, ends_emit]
  split
  · exact ends_true.mono (fun _ _ _ => .of_notLost rfl) (fun _ _ => trivial)
  split
  · refine ends_true.mono ?_ (fun _ _ => trivial)
    intro body w₃ _
    split
    · exact .of_notLost rfl
    · exact .of_notLost rfl
  · exact .of_notLost rfl

theorem handlePublish_notLost (timer : Timer) (w : World) :
    (handlePublish env fuel callbacks timer : M IoTError).Ends w
      (fun rc _ => rc.isLost = false) (fun _ => True) := by
  unfold handlePublish
  simp only [ends_bind, ends_getClient]
  split
  case h_1 rc herr => exact deserializePublish_notLost herr
  case h_2 msg _ =>
    have hdelivered : (deliverReceived env callbacks msg :
        M (IoTError × Option UInt16)).Ends w (fun r _ => r.1.isLost = false) (fun _ => True) := by
      rw [ends_deliverReceived]
      unfold deliverMessage
      simp only [ends_bind, ends_getClientState, ends_setClientState, if_true]
      refine ends_true.mono ?_ (fun _ _ => trivial)
      intro _ w₁ _
      split <;> rfl
    refine ends_bind.mpr (hdelivered.mono ?_ (fun _ _ => trivial))
    intro r w₁ hrc
    simp only [ends_bind, ends_ite, ends_pure, ends_getClient, ends_storePacket]
    split
    · exact hrc
    split
    · rfl
    split
    case h_1 => trivial
    case h_2 rc hser => exact serializeAck_notLost hser
    case h_3 => exact sendPacket_notLost _ _ _

/-- A pass that reports a lost connection got that code from a read of a
remaining-length byte. -/
theorem cycleRead_lost (timer : Timer) (packetType : UInt8) (w : World) :
    (cycleRead env fuel callbacks timer packetType : M (IoTError × UInt8)).Ends w
      (fun r w' => r.1.isLost = true → LostRead r.1 w w') (fun _ => True) := by
  unfold cycleRead
  refine ends_bind.mpr ((readPacket_lost packetType w).mono ?_ (fun _ _ => trivial))
  intro r w₁ hlost
  simp only [ends_bind, ends_ite, ends_pure, ends_getClient, ends_countdownSec, ends_modifyClient]
  split
  · exact .of_notLost rfl
  split
  · exact hlost
  split
  · exact .of_notLost rfl
  split
  · refine (handlePublish_notLost timer w₁).mono ?_ (fun _ _ => trivial)
    intro rc w₂ hrc
    exact .of_notLost hrc
  split
  · exact .of_notLost rfl
  · exact .of_notLost rfl

end Lost

namespace Discipline

variable {D : Discipline} {env : Env} {fuel : Nat} {callbacks : Callbacks M} {w w' w₁ : World}

/-! ## Disconnect -/

variable (D) in
/-- Nothing happened to the client state or the network. -/
def Still (w w' : World) : Prop := (D.Ok w'.log → D.Ok w.log) ∧ D.Same w w'

instance : IsPreorder World D.Still where
  refl w := ⟨id, .refl w⟩
  trans _ _ _ h h' := ⟨fun hok => h.1 (h'.1 hok), h.2.trans h'.2⟩

theorem Still.moves {start : Start} (h : D.Still w w') : D.Moves start w w' := .of_same h.1 h.2

variable (D) in
theorem still_steps : TrafficSteps D.Still where
  onClient w f hf := ⟨id, (hf w.client).1, rfl⟩
  tick w := ⟨id, rfl, rfl⟩
  push w e he := ⟨D.ok_tail, rfl, D.up_cons (by rw [he]; decide)⟩

/-- The client after it disconnected and destroyed the network with `rc`. -/
def destroyed (w : World) (rc : IoTError) : World :=
  ((w.push .netDisconnect).tick.push (.netDestroy rc)).push (.disconnectDestroyed rc)

theorem destroyed_ok {rc : IoTError} (hok : D.Ok (destroyed w rc).log) : D.Ok w.log :=
  D.ok_tail (D.ok_tail (D.ok_tail hok))

/-- `internal_disconnect` gives up before it touches the network, or destroys it. -/
theorem internalDisconnect_ends (w : World) :
    (internalDisconnect env fuel : M IoTError).Ends w
      (fun rc w' => rc ≠ .success ∧ D.Still w w' ∨
        ∃ rc' w₁, D.Still w w₁ ∧ (rc = .success ↔ rc' = .success) ∧ w' = destroyed w₁ rc')
      (fun _ => True) := by
  have htraffic := (still_steps D).returning
  unfold internalDisconnect
  apply ends_bind.mpr
  rw [ends_getClient, ends_bind]
  refine (ends_storePacket.mpr ?_)
  split
  case h_1 => trivial
  case h_2 rc hser =>
    obtain rfl := serializeZero_error (by decide) hser
    exact .inl ⟨by decide, refl_of D.Still w⟩
  case h_3 packet _ =>
    have hstored : D.Still w (w.onClient fun c =>
        { c with writeBuf := c.writeBuf.writeAt 0 packet }) := ⟨id, rfl, rfl⟩
    have hclean : ∀ w₁, D.Still w w₁ → (do
        netDisconnect
        let rc ← netDestroy env
        emit fun _ => .disconnectDestroyed rc
        if rc ≠ .success then return .failure
        return .success : M IoTError).Ends w₁
          (fun rc w' => rc ≠ .success ∧ D.Still w w' ∨
            ∃ rc' w₁, D.Still w w₁ ∧ (rc = .success ↔ rc' = .success) ∧ w' = destroyed w₁ rc')
          (fun _ => True) := by
      intro w₁ hw₁
      simp only [ends_bind, ends_netDisconnect, ends_netDestroy, ends_emit, ends_ite, ends_pure]
      split
      case isTrue hfail => 
        exact .inr ⟨_, w₁, hw₁, ⟨fun h => absurd h (by decide), fun h => absurd h hfail⟩, rfl⟩
      case isFalse hok => 
        exact .inr ⟨_, w₁, hw₁, ⟨fun _ => not_not.mp hok, fun _ => trivial⟩, rfl⟩
    dsimp only
    simp only [ends_bind, ends_getClient, ends_countdownMs]
    rw [ends_ite]
    split
    · refine ends_bind.mpr ((htraffic.sendPacket env fuel _ _ _).mono ?_ (fun _ _ => trivial))
      intro rc w₁ hsent
      have hw₁ : D.Still w w₁ := trans_of D.Still hstored (trans_of D.Still ⟨id, rfl, rfl⟩ hsent)
      rw [ends_ite]
      split
      case isTrue hfail => exact .inl ⟨hfail, hw₁⟩
      case isFalse => exact hclean w₁ hw₁
    · exact hclean _ (trans_of D.Still hstored ⟨id, rfl, rfl⟩)

/-- How a disconnect ends: with everything as it was, or with the network destroyed. -/
theorem disconnect_ends (w : World) :
    (disconnect env fuel : M IoTError).Ends w
      (fun rc w' => rc ≠ .success ∧ D.Still w w' ∨
        ∃ rc' w₁, (D.Ok w₁.log → D.Ok w.log) ∧ D.up w₁.log = D.up w.log ∧
          (rc = .success ↔ rc' = .success) ∧
          w' = (destroyed w₁ rc').withState
            (if rc = .success then .disconnectedManually else w.client.clientState))
      (fun _ => True) := by
  unfold disconnect
  simp only [ends_bind, ends_getClientState, ends_ite, ends_pure, ends_setClientState]
  split
  · exact .inl ⟨by decide, refl_of D.Still w⟩
  rw [if_pos trivial, if_neg (by simp)]
  refine (internalDisconnect_ends (D := D) _).mono ?_ (fun _ _ => trivial)
  intro rc w₁ h
  rcases h with ⟨hfail, hok, hsame⟩ | ⟨rc', w₂, ⟨hok, hsame⟩, hiff, rfl⟩
  · rw [if_pos hfail]
    exact .inl ⟨hfail, hok, rfl, hsame.2⟩
  · by_cases hrc : rc = .success
    · rw [if_neg (not_not.mpr hrc)]
      exact .inr ⟨rc', w₂, hok, hsame.2, hiff, by rw [if_pos hrc]⟩
    · rw [if_pos hrc]
      exact .inr ⟨rc', w₂, hok, hsame.2, hiff, by rw [if_neg hrc]⟩

/-- The calls of the application to disconnect move the client state as they may. -/
theorem disconnect_moves (w : World) :
    (disconnect env fuel : M IoTError).Ends w
      (fun rc w' => D.Moves .anywhere w (w'.push (.returned .disconnect rc))) (fun _ => True) := by
  refine (disconnect_ends (D := D) w).mono ?_ (fun _ _ => trivial)
  intro rc w' h
  have hreturned : ∀ w' : World, D.Moves .anywhere w' (w'.push (.returned .disconnect rc)) :=
    moves_push (by simp [Event.kind])
  rcases h with ⟨-, hstill⟩ | ⟨rc', w₁, hok, hup, hiff, rfl⟩
  · exact trans_of (D.Moves .anywhere) hstill.moves (hreturned w')
  · intro hlog
    refine ⟨hok (destroyed_ok (D.ok_tail hlog)), fun _ => ?_⟩
    by_cases hrc : rc = .success
    · apply Or.inr
      rw [if_pos hrc]
      show D.Rest .disconnectedManually (D.up (.returned .disconnect rc :: (destroyed w₁ rc').log))
      rw [D.up_cons (by simp [Event.kind]), hiff.mp hrc]
      exact D.disconnected
    · apply Or.inl
      rw [if_neg hrc]
      refine ⟨rfl, ?_⟩
      show D.up (.returned .disconnect rc :: (destroyed w₁ rc').log) = _
      rw [D.up_cons (by simp [Event.kind]), ← hup]
      exact D.destroyFailed (fun h => hrc (hiff.mpr h)) hlog

/-! ## Connect -/

section Connect

variable (hmessage : ∀ call, Returns (D.Moves .handler) (callbacks.message call))
include hmessage

/-- `internal_connect` leaves the client state alone, and the network up if it succeeds,
or a handler put the client to rest. -/
theorem internalConnect_ends (params : Option ConnectParams) (w : World) :
    (internalConnect env fuel callbacks params : M IoTError).Ends w
      (fun rc w' => D.Ok w'.log → D.Ok w.log ∧ (D.RestsAt w' ∨
        w'.client.clientState = w.client.clientState ∧
          (rc = .success → D.Rest .connectedIdle (D.up w'.log))))
      (fun _ => True) := by
  have hoptions : (overrideOptions params : M IoTError).Ends w
      (fun _ w₁ => w₁.log = w.log ∧ w₁.client.clientState = w.client.clientState)
      (fun _ => True) := by
    cases params with
    | none => exact ⟨rfl, rfl⟩
    | some new => exact ⟨rfl, rfl⟩
  unfold internalConnect
  refine ends_bind.mpr (hoptions.mono ?_ (fun _ _ => trivial))
  rintro rc₁ w₁ ⟨hlog, hstate⟩
  simp only [ends_bind, ends_ite, ends_pure, ends_netConnect]
  split
  · intro hok
    exact ⟨hlog ▸ hok, .inr ⟨hstate, fun h => absurd h (by decide)⟩⟩
  split
  case isTrue hfail =>
    intro hok
    exact ⟨hlog ▸ D.ok_tail hok, .inr ⟨hstate, fun h => absurd h hfail⟩⟩
  case isFalse hup =>
    refine ((waiting_moves hmessage).exchangeConnect fuel _).mono ?_ (fun _ _ => trivial)
    intro rc w' hmove hok
    obtain ⟨hok', hmove⟩ := hmove hok
    refine ⟨hlog ▸ D.ok_tail hok', ?_⟩
    rcases hmove trivial with hsame | hrest
    · refine .inr ⟨hsame.1.trans hstate, fun _ => ?_⟩
      rw [hsame.2, World.log_push, not_not.mp hup]
      exact D.connected
    · exact .inl hrest

/-- A connect refuses to start, or ends at rest. -/
theorem connect_moves (params : Option ConnectParams) :
    Returns (D.Moves .anywhere) (connect env fuel callbacks params) := by
  intro w
  unfold connect connectRequest
  simp only [ends_bind, ends_getClientState, ends_ite, ends_pure, ends_setClientState]
  split
  · exact refl_of (D.Moves .anywhere) w
  rw [if_pos trivial]
  simp only [ends_within]
  refine (internalConnect_ends hmessage params _).mono ?_ (fun _ _ => trivial)
  intro rc w₁ h
  split
  case isTrue hfail =>
    simp only [ends_emit, ends_netDisconnect, ends_netDestroy]
    split
    case isTrue hconnecting =>
      refine fun hok => ⟨(h (D.ok_tail (D.ok_tail (D.ok_tail hok)))).1, fun _ => .inr ?_⟩
      exact D.dropped
    case isFalse hleft =>
      intro hok
      have hcleanup := D.ok_tail (D.ok_tail hok)
      obtain ⟨hok', hend⟩ := h (D.ok_tail hcleanup)
      refine ⟨hok', fun _ => .inr ?_⟩
      rcases hend with hrest | ⟨hsame, -⟩
      · exact D.cleanup hcleanup hrest
      · exact absurd hsame.symm hleft
  case isFalse hdone =>
    simp only [ends_emit]
    split
    case isTrue hconnecting =>
      intro hok
      obtain ⟨hok', hend⟩ := h (D.ok_tail hok)
      refine ⟨hok', fun _ => .inr (D.connectDone ?_)⟩
      rcases hend with hrest | ⟨-, hup⟩
      · have hheld := D.rest_held hrest
        rw [← hconnecting] at hheld
        cases hheld
      · exact hup (not_not.mp hdone)
    case isFalse hleft =>
      intro hok
      obtain ⟨hok', hend⟩ := h (D.ok_tail hok)
      refine ⟨hok', fun _ => .inr (D.connectDone ?_)⟩
      exact hend.elim id fun hsame => absurd hsame.1.symm hleft

/-- A client that is at rest is at rest after it tried to reconnect. -/
theorem attemptReconnect_moves :
    Returns (D.Moves .handler) (attemptReconnect env fuel callbacks) := by
  intro w
  unfold attemptReconnect
  simp only [ends_bind, ends_getClientState, ends_ite, ends_pure]
  split
  · exact refl_of (D.Moves .handler) w
  case isFalse hdown =>
    refine (connect_moves hmessage none w).mono ?_ (fun _ _ => trivial)
    intro _ w₁ hconnect
    have hrest : D.Ok w₁.log → D.From .handler w → D.RestsAt w₁ := by
      intro hok hfrom
      refine hconnect.rests hok (hfrom.resolve_left fun hs => hdown ?_)
      rw [hs]
      rfl
    split
    · simp only [enterPending, ends_bind, ends_setClientState, ends_emit]
      split
      case isTrue hstate =>
        intro hok
        have hok₁ : D.Ok w₁.log := D.ok_tail hok
        refine ⟨(hconnect hok₁).1, fun hfrom => .inr ?_⟩
        have hw₁ := hrest hok₁ hfrom
        unfold RestsAt at hw₁
        rw [← hstate] at hw₁
        exact D.pending hok hw₁
      case isFalse =>
        intro hok
        have hok₁ : D.Ok w₁.log := D.ok_tail hok
        exact ⟨(hconnect hok₁).1, fun hfrom => .inr (D.notPending (by decide) (hrest hok₁ hfrom))⟩
    · refine (resubscribe_moves hmessage w₁).mono ?_ (fun _ _ => trivial)
      intro rc w₂ hsub
      have hmove : D.Moves .handler w w₂ :=
        trans_of (D.Moves .handler) hconnect.weaken hsub.weaken
      split
      · exact hmove
      · exact hmove

end Connect

/-- Initialising a client puts it to rest. -/
theorem init_moves (params : InitParams) :
    Returns (D.Moves .anywhere) (init env params : M IoTError) := by
  intro w
  unfold init setConnectParams resetHandlers
  simp only [ends_bind, ends_ite, ends_pure, ends_modifyClient, ends_emit, ends_ask,
    ends_assignClientState]
  split
  · exact refl_of (D.Moves .anywhere) w
  rw [if_neg (by simp)]
  split
  case isTrue hfail =>
    refine fun hok => ⟨D.ok_tail (D.ok_tail hok), fun _ => .inr ?_⟩
    exact D.invalid hok hfail
  case isFalse hdone =>
    refine fun hok => ⟨D.ok_tail (D.ok_tail hok), fun _ => .inr ?_⟩
    have htls := not_not.mp hdone
    unfold RestsAt
    simp only [World.log_withState, World.log_onClient, World.log_push, htls] at hok ⊢
    exact D.initialized hok

/-! ## Losing the connection -/

section Handler

variable (hdisconnect : Returns (D.Moves .handler) callbacks.disconnect)
include hdisconnect

/-- Losing the connection puts the client to rest, wherever it was. -/
theorem handleDisconnect_rests (w : World) :
    (handleDisconnect env fuel callbacks : M IoTError).Ends w
      (fun _ w' => D.Ok w'.log → D.Ok w.log ∧ D.RestsAt w') (fun _ => True) := by
  have hhandler : ∀ w₁ : World, (D.Ok w₁.log → D.Ok w.log ∧ D.RestsAt w₁) → (do
      let c ← getClient
      if c.disconnectHandler then within .callback callbacks.disconnect
      emit fun c => .disconnectHandled c.clientState
      assignClientState .disconnectedError
      return .networkDisconnectedError : M IoTError).Ends w₁
        (fun _ w' => D.Ok w'.log → D.Ok w.log ∧ D.RestsAt w') (fun _ => True) := by
    intro w₁ hw₁
    have hend : ∀ w₂ : World, D.Moves .handler w₁ w₂ → D.Ok
        ((w₂.push (.disconnectHandled w₂.client.clientState)).withState .disconnectedError).log →
        D.Ok w.log ∧ D.RestsAt
          ((w₂.push (.disconnectHandled w₂.client.clientState)).withState .disconnectedError) := by
      intro w₂ hmove hok
      have hok₂ : D.Ok w₂.log := D.ok_tail hok
      obtain ⟨hok', hrest⟩ := hw₁ (hmove hok₂).1
      exact ⟨hok', D.handled hok (hmove.rests hok₂ hrest)⟩
    simp only [ends_bind, ends_getClient, ends_ite, ends_within, ends_emit, ends_assignClientState,
      ends_pure]
    split
    · exact (hdisconnect w₁).mono (fun _ w₂ hmove => hend w₂ hmove) (fun _ _ => trivial)
    · exact hend w₁ (refl_of (D.Moves .handler) w₁)
  unfold handleDisconnect
  refine ends_bind.mpr ((disconnect_ends (D := D) w).mono ?_ (fun _ _ => trivial))
  intro rc w₁ h
  rw [ends_ite]
  split
  case isTrue hfail =>
    unfold forceClientDisconnect
    apply ends_bind.mpr
    simp only [ends_bind, ends_assignClientState, ends_netDisconnect, ends_netDestroy, ends_pure]
    refine hhandler _ fun hok => ⟨?_, D.dropped⟩
    have hok₁ : D.Ok w₁.log := D.ok_tail (D.ok_tail hok)
    rcases h with ⟨-, hstill⟩ | ⟨_, w₂, hok₂, -, -, rfl⟩
    · exact hstill.1 hok₁
    · exact hok₂ (destroyed_ok hok₁)
  case isFalse hdone =>
    have hrc := not_not.mp hdone
    refine hhandler w₁ fun hok => ?_
    rcases h with ⟨hfail, -⟩ | ⟨rc', w₂, hok₂, -, hiff, rfl⟩
    · exact absurd hrc hfail
    · refine ⟨hok₂ (destroyed_ok hok), ?_⟩
      rw [if_pos hrc, hiff.mp hrc]
      exact D.disconnected

/-- The keep-alive leaves everything alone or finds the connection lost. -/
theorem keepAlive_moves (w : World) :
    (keepAlive env fuel callbacks : M IoTError).Ends w
      (fun rc w' => D.Moves .anywhere w w' ∧ (rc.isLost = true → D.Ok w'.log → D.RestsAt w'))
      (fun _ => True) := by
  have htraffic := (moves_steps D .anywhere).returning
  have hlost : ∀ w₁, D.Moves .anywhere w w₁ → (handleDisconnect env fuel callbacks :
      M IoTError).Ends w₁ (fun rc w' => D.Moves .anywhere w w' ∧
        (rc.isLost = true → D.Ok w'.log → D.RestsAt w')) (fun _ => True) := by
    intro w₁ hw₁
    refine (handleDisconnect_rests hdisconnect w₁).mono ?_ (fun _ _ => trivial)
    intro rc w' h
    exact ⟨fun hok => ⟨(hw₁ (h hok).1).1, fun _ => .inr (h hok).2⟩, fun _ hok => (h hok).2⟩
  have hkept : ∀ w₁, D.Still w w₁ → ∀ rc : IoTError, rc.isLost = false → D.Moves .anywhere w w₁ ∧
      (rc.isLost = true → D.Ok w₁.log → D.RestsAt w₁) := by
    intro w₁ hw₁ rc hnot
    refine ⟨hw₁.moves, fun h => ?_⟩
    rw [hnot] at h
    cases h
  unfold keepAlive
  simp only [ends_bind, ends_getClient, ends_ite, ends_pure, ends_hasTimerExpired]
  split
  · exact hkept w (refl_of D.Still w) _ rfl
  split
  · exact hkept w.tick ⟨id, rfl, rfl⟩ _ rfl
  split
  · exact hlost _ (htraffic.ask (fun _ => ()) w)
  simp only [ends_bind, ends_countdownMs, ends_storePacket]
  split
  case h_1 => trivial
  case h_2 rc hser =>
    obtain rfl := serializeZero_error (by decide) hser
    exact hkept _ ⟨id, rfl, rfl⟩ _ rfl
  case h_3 packet _ =>
    apply ends_bind.mpr
    refine ((still_steps D).returning.sendPacket env fuel _ _ _).mono ?_ (fun _ _ => trivial)
    intro rc w₁ hsent
    have hw₁ : D.Still w w₁ := trans_of D.Still ⟨id, rfl, rfl⟩ hsent
    simp only [ends_bind, ends_ite, ends_modifyClient, ends_getClient, ends_countdownSec, ends_pure]
    split
    · exact hlost w₁ hw₁.moves
    · exact hkept _ (trans_of D.Still hw₁ ⟨id, rfl, rfl⟩) _ rfl

end Handler

/-! ## Yield -/

/-- The state that counts: a yield under way goes back to idle. -/
def afterYield : ClientState → ClientState
  | .connectedYieldInProgress => .connectedIdle
  | s => s

variable (D) in
/-- The client is at rest, apart from the yield under way. -/
def Yielding (w : World) : Prop := D.Rest (afterYield w.client.clientState) (D.up w.log)

variable (D) in
/-- A yield under way that has `rc` to report: if it is about to keep its state, the client
is at rest already. -/
def Reporting (rc : IoTError) (w : World) : Prop :=
  D.Yielding w ∧ (rc.isLost = true → D.RestsAt w)

theorem RestsAt.yielding (h : D.RestsAt w) : D.Yielding w := by
  unfold RestsAt at h
  unfold Yielding afterYield
  split
  case h_1 hs => rw [hs] at h; exact D.idle h
  case h_2 => exact h

theorem RestsAt.reporting (h : D.RestsAt w) (rc : IoTError) : D.Reporting rc w :=
  ⟨h.yielding, fun _ => h⟩

theorem Same.yielding (h : D.Same w w') (hw : D.Yielding w) : D.Yielding w' := by
  unfold Yielding
  rw [h.1, h.2]
  exact hw

theorem Yielding.rests (h : D.Yielding w) (hs : w.client.clientState ≠ .connectedYieldInProgress) :
    D.RestsAt w := by
  unfold Yielding afterYield at h
  split at h
  case h_1 heq => exact absurd heq hs
  case h_2 => exact h

/-- A move of a client that yields. -/
theorem Moves.yielding (h : D.Moves .anywhere w w') (hok : D.Ok w'.log) (hw : D.Yielding w) :
    D.Yielding w' :=
  ((h hok).2 trivial).elim (fun hsame => hsame.yielding hw) RestsAt.yielding

theorem backOff_still (rc : IoTError) (w : World) :
    (backOff env rc : M IoTError).Ends w (fun _ w' => D.Still w w') (fun _ => True) := by
  unfold backOff doubleInterval
  simp only [ends_bind, ends_emit, ends_modifyClient, ends_getClient, ends_ite, ends_pure,
    ends_countdownMs]
  split
  · exact ⟨D.ok_tail, rfl, D.failed⟩
  · exact ⟨D.ok_tail, rfl, D.failed⟩

/-- Where the connection was found lost, starting to reconnect keeps the client at rest. -/
theorem startReconnecting_rests (yieldRc : IoTError) (w : World) :
    (startReconnecting env yieldRc : M (Step IoTError IoTError)).Ends w
      (fun _ w' => D.Ok w'.log → D.Ok w.log ∧ (D.RestsAt w → D.RestsAt w')) (fun _ => True) := by
  unfold startReconnecting startInterval
  simp only [ends_bind, ends_modifyClient, ends_getClient, ends_ite, ends_pure, ends_setClientState,
    ends_emit, ends_countdownMs]
  split
  case isTrue henabled =>
    split
    case isTrue hstate =>
      rw [if_neg (by simp)]
      refine fun hok => ⟨D.ok_tail hok, fun hrest => ?_⟩
      have herr : w.client.clientState = .disconnectedError := hstate.symm
      have hauto : w.client.isAutoReconnectEnabled = true := henabled
      unfold RestsAt at hrest
      rw [herr] at hrest
      have hstarted := D.started hrest
      rw [← hauto] at hstarted
      exact hstarted
    case isFalse =>
      rw [if_pos (by simp)]
      exact fun hok => ⟨hok, id⟩
  case isFalse => exact fun hok => ⟨hok, id⟩

/-- A handled reconnect leaves a client that yields. -/
theorem handleReconnect_reporting
    (hmessage : ∀ call, Returns (D.Moves .handler) (callbacks.message call))
    (w : World) :
    (handleReconnect env fuel callbacks : M IoTError).Ends w
      (fun rc w' => D.Ok w'.log → D.Ok w.log ∧ (D.RestsAt w → D.Reporting rc w'))
      (fun _ => True) := by
  have hback : ∀ rc w₁, D.Moves .handler w w₁ → (backOff env rc : M IoTError).Ends w₁
      (fun rc w' => D.Ok w'.log → D.Ok w.log ∧ (D.RestsAt w → D.Reporting rc w'))
      (fun _ => True) := by
    intro rc w₁ hw₁
    refine (backOff_still (D := D) rc w₁).mono ?_ (fun _ _ => trivial)
    intro rc' w' hstill hok
    have hmove : D.Moves .handler w w' := trans_of (D.Moves .handler) hw₁ hstill.moves
    exact ⟨(hmove hok).1, fun hrest => (hmove.rests hok hrest).reporting rc'⟩
  unfold handleReconnect
  simp only [ends_bind, ends_getClient, ends_hasTimerExpired, ends_ite, ends_pure, ends_ask]
  split
  · exact fun hok => ⟨hok, fun hrest => RestsAt.reporting hrest _⟩
  split
  case isFalse => exact hback _ _ (.of_same id ⟨rfl, rfl⟩)
  refine (attemptReconnect_moves hmessage _).mono ?_ (fun _ _ => trivial)
  intro rc w₁ hmove
  have hw₁ : D.Moves .handler w w₁ :=
    trans_of (D.Moves .handler) (.of_same id ⟨rfl, rfl⟩) hmove
  split
  case isFalse => exact hback rc w₁ hw₁
  simp only [ends_setClientState]
  split
  case isTrue hidle =>
    rw [if_neg (by simp)]
    refine fun hok => ⟨(hw₁ hok).1, fun hrest => ⟨?_, fun h => absurd h (by decide)⟩⟩
    have hrest₁ := hw₁.rests hok hrest
    unfold RestsAt at hrest₁
    rw [← hidle] at hrest₁
    exact hrest₁
  case isFalse =>
    rw [if_pos (by simp)]
    exact fun hok => ⟨(hw₁ hok).1, fun hrest => (hw₁.rests hok hrest).reporting _⟩

section Yield

variable (hmessage : ∀ call, Returns (D.Moves .handler) (callbacks.message call))
include hmessage

/-- Where a pass of the yield loop reads from a client that yields, a lost connection is
reported by a client at rest. -/
theorem cycleRead_reporting (timer : Timer) (w : World) :
    (cycleRead env fuel callbacks timer 0 : M (IoTError × UInt8)).Ends w
      (fun r w' => D.Moves .anywhere w w' ∧
        (D.Ok w'.log → D.Yielding w → D.Reporting r.1 w')) (fun _ => True) := by
  refine (((waiting_moves hmessage).cycleRead fuel timer 0 w).and
    (cycleRead_lost timer 0 w).onReturn).mono ?_ (fun _ _ => trivial)
  rintro r w' ⟨hmove, hlost⟩
  refine ⟨hmove, fun hok hw => ?_⟩
  have hyield := hmove.yielding hok hw
  refine ⟨hyield, fun hrc => ?_⟩
  obtain ⟨hstate, offset, len, readLen, bytes, rest, hlog⟩ := hlost hrc
  by_cases hs : w'.client.clientState = .connectedYieldInProgress
  · rw [hlog, ← hstate, hs] at hok
    unfold Yielding at hyield
    unfold RestsAt
    rw [hs] at hyield ⊢
    exact D.stuck hrc hok hyield
  · exact hyield.rests hs

variable (hdisconnect : Returns (D.Moves .handler) callbacks.disconnect)
include hdisconnect

/-- One pass of the yield loop. -/
theorem yieldPass_reporting (timer : Timer) (rc : IoTError) (w : World) :
    (yieldPass env fuel callbacks timer rc : M (Step IoTError IoTError)).Ends w
      (fun r w' => match r with
        | .again rc' => D.Ok w'.log → D.Ok w.log ∧ (D.Reporting rc w → D.Reporting rc' w')
        | .stop rc' => D.Ok w'.log → D.Ok w.log ∧ (D.Reporting rc w → D.Reporting rc' w'))
      (fun _ => True) := by
  unfold yieldPass
  simp only [ends_bind, ends_hasTimerExpired, ends_ite, ends_pure, ends_getClientState,
    ends_getClient, ends_emit]
  split
  · exact fun hok => ⟨hok, id⟩
  split
  case isTrue hpending =>
    have hrest : D.Reporting rc w → D.RestsAt (w.tick.push
        (.reconnectDue w.client.clientState w.client.currentReconnectWaitInterval)) := by
      intro h
      have hw := h.1.rests (by rw [show w.client.clientState = _ from hpending]; decide)
      unfold RestsAt at hw ⊢
      rw [World.log_push, D.due]
      exact hw
    split
    · exact fun hok => ⟨D.ok_tail hok, fun h => RestsAt.reporting (hrest h) _⟩
    · refine (handleReconnect_reporting hmessage _).mono ?_ (fun _ _ => trivial)
      intro rc' w' h hok
      exact ⟨D.ok_tail (h hok).1, fun hw => (h hok).2 (hrest hw)⟩
  case isFalse =>
    refine (cycleRead_reporting hmessage timer _).mono ?_ (fun _ _ => trivial)
    rintro ⟨rc₁, _⟩ w₁ ⟨hmove₁, hread⟩
    dsimp only
    split
    · exact fun hok => ⟨(hmove₁ hok).1, fun h => hread hok h.1⟩
    refine (keepAlive_moves hdisconnect w₁).mono ?_ (fun _ _ => trivial)
    rintro rc₂ w₂ ⟨hmove₂, hlost⟩
    have hmove : D.Moves .anywhere w w₂ :=
      trans_of (D.Moves .anywhere) (.of_same id ⟨rfl, rfl⟩)
        (trans_of (D.Moves .anywhere) hmove₁ hmove₂)
    have hreport : D.Ok w₂.log → D.Reporting rc w → D.Reporting rc₂ w₂ := fun hok h =>
      ⟨hmove.yielding hok h.1, fun hrc => hlost hrc hok⟩
    split
    case isTrue hrc =>
      refine (startReconnecting_rests (D := D) rc₂ w₂).mono ?_ (fun _ _ => trivial)
      intro r w₃ h₃
      have hw₃ : ∀ rc', D.Ok w₃.log →
          D.Ok w.log ∧ (D.Reporting rc w → D.Reporting rc' w₃) := fun rc' hok =>
        ⟨(hmove (h₃ hok).1).1, fun _ =>
          ((h₃ hok).2 (hlost (by rw [hrc]; rfl) (h₃ hok).1)).reporting rc'⟩
      cases r with
      | again rc' => exact hw₃ rc'
      | stop rc' => exact hw₃ rc'
    split
    · exact fun hok => ⟨(hmove hok).1, hreport hok⟩
    · exact fun hok => ⟨(hmove hok).1, hreport hok⟩

/-- The internal function reports from a client that yields. -/
theorem internalYield_reporting (timeoutMs : Nat) (w : World) :
    (internalYield env fuel callbacks timeoutMs : M IoTError).Ends w
      (fun rc w' => D.Ok w'.log → D.Ok w.log ∧ (D.Yielding w → D.Reporting rc w'))
      (fun _ => True) := by
  unfold internalYield
  simp only [ends_bind, ends_countdownMs]
  refine ends_loop (I := fun rc w' => D.Ok w'.log → D.Ok w.log ∧ (D.Yielding w → D.Reporting rc w'))
    ?_ (fun _ _ _ => trivial) fuel _ _ ?_
  · intro rc w₁ hw₁
    refine (yieldPass_reporting hmessage hdisconnect _ rc w₁).mono ?_ (fun _ _ => trivial)
    intro r w₂ h
    have hstep : ∀ rc', (D.Ok w₂.log →
        D.Ok w₁.log ∧ (D.Reporting rc w₁ → D.Reporting rc' w₂)) →
        D.Ok w₂.log → D.Ok w.log ∧ (D.Yielding w → D.Reporting rc' w₂) := by
      intro rc' h hok
      obtain ⟨hok₁, hpass⟩ := h hok
      exact ⟨(hw₁ hok₁).1, fun hw => hpass ((hw₁ hok₁).2 hw)⟩
    cases r with
    | again rc' => exact hstep rc' h
    | stop rc' => exact hstep rc' h
  · exact fun hok => ⟨hok, fun hw => ⟨hw, fun h => absurd h (by decide)⟩⟩

/-- Yield gives back the state it took, or leaves the client at rest. -/
theorem performYield_rests (timeoutMs : Nat) (w : World) :
    (performYield (internalYield env fuel callbacks timeoutMs) : M IoTError).Ends w
      (fun _ w' => D.Ok w'.log → D.Ok w.log ∧ (D.Yielding w → D.RestsAt w')) (fun _ => True) := by
  unfold performYield
  apply ends_bind.mpr
  refine (internalYield_reporting hmessage hdisconnect timeoutMs w).mono ?_ (fun _ _ => trivial)
  intro rc w₁ h
  simp only [ends_bind, ends_ite, ends_setClientState, ends_pure]
  split
  · split
    case isTrue hyielding =>
      refine fun hok => ⟨(h hok).1, fun hw => ?_⟩
      have hw₁ := ((h hok).2 hw).1
      unfold Yielding at hw₁
      rw [← hyielding] at hw₁
      exact hw₁
    case isFalse hleft =>
      exact fun hok => ⟨(h hok).1, fun hw => ((h hok).2 hw).1.rests fun hs => hleft hs.symm⟩
  case isFalse hkeep =>
    have hlost : rc.isLost = true := by
      rw [not_and_or, not_not, not_not] at hkeep
      rcases hkeep with rfl | rfl <;> rfl
    exact fun hok => ⟨(h hok).1, fun hw => ((h hok).2 hw).2 hlost⟩

/-- A yield puts a client that was at rest to rest. -/
theorem yield_moves (timeoutMs : Nat) :
    Returns (D.Moves .handler) (yield env fuel callbacks timeoutMs) := by
  have hcomp := returns_compositional (D.Moves .handler)
  unfold yield yieldRequest
  refine hcomp.ite (fun _ => hcomp.pure _) fun _ => ?_
  intro w
  simp only [ends_bind, ends_getClientState, ends_ite, ends_pure, ends_setClientState]
  have hfrom : w.client.clientState ≠ .connectedWaitForCbReturn → D.From .handler w →
      D.RestsAt w := fun hs h => h.resolve_left hs
  split
  · exact refl_of (D.Moves .handler) w
  split
  case isTrue hpending =>
    refine (performYield_rests hmessage hdisconnect timeoutMs w).mono ?_ (fun _ _ => trivial)
    intro _ w' h hok
    exact ⟨(h hok).1, fun hw => .inr ((h hok).2 (hfrom (by rw [hpending]; decide) hw).yielding)⟩
  split
  · exact refl_of (D.Moves .handler) w
  split
  · exact refl_of (D.Moves .handler) w
  case isFalse hnot =>
    have hidle := not_not.mp hnot
    rw [if_pos hidle.symm, if_neg (by simp)]
    refine (performYield_rests hmessage hdisconnect timeoutMs _).mono ?_ (fun _ _ => trivial)
    intro _ w' h hok
    refine ⟨(h hok).1, fun hw => .inr ((h hok).2 ?_)⟩
    have hrest := hfrom (by rw [hidle]; decide) hw
    unfold RestsAt at hrest
    rw [hidle] at hrest
    exact hrest

/-! ## Every call -/

/-- The function behind an API call, up to the record of its return. -/
theorem dispatch_moves (call : ApiCall) (w : World) :
    (dispatch env fuel callbacks call : M IoTError).Ends w
      (fun rc w' => D.Moves .handler w (w'.push (.returned call rc))) (fun _ => True) := by
  have hreturn : ∀ {x : M IoTError}, Returns (D.Moves .handler) x → x.Ends w
      (fun rc w' => D.Moves .handler w (w'.push (.returned call rc))) (fun _ => True) := by
    intro x hx
    refine (hx w).mono ?_ (fun _ _ => trivial)
    intro rc w' hmove
    exact trans_of (D.Moves .handler) hmove (moves_push (by simp [Event.kind]) w')
  have hanywhere : ∀ {x : M IoTError}, Returns (D.Moves .anywhere) x → x.Ends w
      (fun rc w' => D.Moves .handler w (w'.push (.returned call rc))) (fun _ => True) := fun hx =>
    hreturn fun w => (hx w).mono (fun _ _ h => h.weaken) (fun _ _ => trivial)
  have htraffic := (moves_steps D .anywhere).returning
  cases call with
  | init params => exact hanywhere (init_moves params)
  | connect params => exact hanywhere (connect_moves hmessage params)
  | publish topicName topicNameLen params =>
    exact hanywhere (publish_moves hmessage topicName topicNameLen params)
  | subscribe topicName topicNameLen qos handler data =>
    exact hanywhere (subscribe_moves hmessage topicName topicNameLen qos handler data)
  | unsubscribe topicFilter topicFilterLen =>
    exact hanywhere (unsubscribe_moves hmessage topicFilter topicFilterLen)
  | resubscribe => exact hanywhere (resubscribe_moves hmessage)
  | yield timeoutMs => exact hreturn (yield_moves hmessage hdisconnect timeoutMs)
  | disconnect => exact (disconnect_moves w).mono (fun _ _ h => h.weaken) (fun _ _ => trivial)
  | attemptReconnect => exact hreturn (attemptReconnect_moves hmessage)
  | autoreconnectSetStatus newStatus => exact hanywhere (htraffic.autoreconnectSetStatus newStatus)
  | setDisconnectHandler given => exact hanywhere (htraffic.setDisconnectHandler given)
  | setConnectParams params => exact hanywhere (htraffic.setConnectParams params)
  | resetNetworkDisconnectedCount => exact hanywhere htraffic.resetNetworkDisconnectedCount

end Yield

theorem runHandler_moves (nextCall : Nat → Option ApiCall) {call : ApiCall → M IoTError}
    (hcall : ∀ c, Returns (D.Moves .handler) (call c)) :
    Returns (D.Moves .handler) (runHandler fuel nextCall call) := by
  have hcomp := (moves_steps D .handler).returning
  refine hcomp.loop (fun _ => hcomp.bind (hcomp.ask nextCall) fun next => ?_) fuel ()
  cases next with
  | none => exact hcomp.pure _
  | some c => exact hcomp.bind (hcall c) fun _ => hcomp.pure _

/-- Every API call, at any depth, leaves a client at rest at rest. -/
theorem apiCall_moves (env : Env) (fuel : Nat) : ∀ depth call,
    Returns (D.Moves .handler) (apiCall env fuel depth call : M IoTError) := by
  intro depth
  induction depth with
  | zero => intro call w; trivial
  | succ depth ih =>
    intro call w
    unfold apiCall
    simp only [ends_bind, ends_emit, ends_within, ends_pure]
    refine (dispatch_moves (fun _ => runHandler_moves env.messageHandler ih)
      (runHandler_moves env.disconnectHandler ih) call _).mono ?_ (fun _ _ => trivial)
    intro rc w' hmove
    exact trans_of (D.Moves .handler) (moves_push (by simp [Event.kind]) w) hmove

/-- Whenever an application is back from its last call, its client is at rest, if it was
at rest before its first and the run is one of those looked at. -/
theorem application_rests {calls : List ApiCall}
    (hrun : (application env fuel calls : M Unit).run w = .done () w') (hok : D.Ok w'.log)
    (hw : D.RestsAt w) : D.RestsAt w' := by
  have hcomp := returns_compositional (D.Moves .handler)
  have hall : Returns (D.Moves .handler) (application env fuel calls : M Unit) :=
    hcomp.forEach (fun call => hcomp.bind (apiCall_moves env fuel fuel call) fun _ =>
      hcomp.pure _) calls
  exact ((hall w).of_run hrun).rests hok hw

end Discipline

end AwsIot.Mqtt
