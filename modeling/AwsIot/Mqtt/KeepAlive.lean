/-
  Mqtt/KeepAlive.lean --- when the next PINGREQ is due.

  MQTT asks a client to send some control packet in every keep-alive interval.  The client
  keeps `pingTimer` for that: `keep_alive` sends a PINGREQ once it has expired.  Three places
  set it: half an interval ahead when a connection is accepted and when a PINGREQ was sent,
  a whole one ahead when its answer arrives.  The answer comes after the PINGREQ, so a whole
  interval from there ends too late.  The history says when each packet was sent; while
  answers take no time, and the other packets that set the timer or lead to a connected
  client find it set in time, it never expires later than an interval after the last packet
  (`keepAlive_inTime`).
-/
import AwsIot.Mqtt.ConnectPacket
import AwsIot.Mqtt.NetworkTruth
import AwsIot.Mqtt.PublishAck
import Mathlib.Data.Nat.Basic
import Mathlib.Order.Monotone.Defs

set_option autoImplicit false

namespace AwsIot.Mqtt

open AwsIot.Foundation Program

/-! ## The last packet -/

/-- The packet is a DISCONNECT. -/
def isDisconnect (packet : List UInt8) : Bool :=
  headerType (packet.headD 0) = MessageType.disconnect.code

/-- When the client last sent a packet other than DISCONNECT, by the clock. -/
def lastSent (env : Env) : List Moment → Option Nat
  | [] => none
  | m :: older =>
      match m.event with
      | .sent packet =>
          if isDisconnect packet then lastSent env older else some (env.clock m.time)
      | _ => lastSent env older

/-- `limit` holds of the time of the last packet, or there is no keep-alive. -/
def sinceLast (env : Env) (c : Client) (older : List Moment) (limit : Nat → Bool) : Bool :=
  c.keepAliveInterval == 0 || (lastSent env older).any limit

/-- `pingTimer` expires at most a keep-alive interval after the last packet. -/
def inTime (env : Env) (c : Client) (older : List Moment) : Bool :=
  sinceLast env c older fun sent => c.pingTimer ≤ sent + 1000 * c.keepAliveInterval.toNat

/-- At every moment of a history at which the client was connected, `pingTimer` was in
time. -/
def Timely (env : Env) : List Moment → Prop
  | [] => True
  | m :: older =>
      (m.client.clientState.isConnected = true → inTime env m.client older = true) ∧
        Timely env older

/-! ## Packets that come in time -/

/-- The keep-alive suffers no delay at moment `m`: a PINGRESP is read as soon as the last
packet was sent; an accepted CONNACK is read early enough for half an interval to be left;
and a PUBLISH that is read by a client that is not connected finds the timer in time. -/
def punctual (env : Env) (m : Moment) (older : List Moment) : Bool :=
  match m.event with
  | .packetRead packet =>
      if headerType (packet.headD 0) = MessageType.pingresp.code then
        !m.client.clientState.isOnline ||
          sinceLast env m.client older fun sent => env.clock m.time ≤ sent
      else if headerType (packet.headD 0) = MessageType.publish.code then
        m.client.clientState.isOnline || inTime env m.client older
      else true
  | .waited .connack .success =>
      match deserializeConnack m.client.readBuf m.client.readBufSize with
      | .ok (_, .mqttConnackConnectionAccepted) =>
          sinceLast env m.client older fun sent =>
            env.clock m.time + 1000 * (m.client.keepAliveInterval.toNat / 2) ≤
              sent + 1000 * m.client.keepAliveInterval.toNat
      | _ => true
  | _ => true

section Punctual

variable {env : Env} {packet : List UInt8} {time : Nat} {c : Client} {older : List Moment}

theorem punctual_pingresp (h : headerType (packet.headD 0) = MessageType.pingresp.code) :
    punctual env ⟨.packetRead packet, time, c⟩ older =
      (!c.clientState.isOnline || sinceLast env c older fun sent => env.clock time ≤ sent) :=
  if_pos h

theorem punctual_publish (h : headerType (packet.headD 0) = MessageType.publish.code) :
    punctual env ⟨.packetRead packet, time, c⟩ older =
      (c.clientState.isOnline || inTime env c older) := by
  refine (if_neg ?_).trans (if_pos h)
  rw [h]
  decide

theorem punctual_connack {flags : UInt8} (h : deserializeConnack c.readBuf c.readBufSize =
      .ok (flags, .mqttConnackConnectionAccepted)) :
    punctual env ⟨.waited .connack .success, time, c⟩ older =
      sinceLast env c older fun sent => env.clock time +
        1000 * (c.keepAliveInterval.toNat / 2) ≤ sent + 1000 * c.keepAliveInterval.toNat := by
  simp only [punctual, h]

end Punctual

/-- The keep-alive suffers no delay at any moment of a history. -/
def Punctual (env : Env) : List Moment → Prop
  | [] => True
  | m :: older => punctual env m older = true ∧ Punctual env older

instance Punctual.decidable (env : Env) : ∀ history, Decidable (Punctual env history)
  | [] => inferInstanceAs (Decidable True)
  | m :: older =>
      have := Punctual.decidable env older
      inferInstanceAs (Decidable (punctual env m older = true ∧ Punctual env older))

theorem Punctual.older {env : Env} : ∀ {new older : List Moment},
    Punctual env (new ++ older) → Punctual env older := by
  intro new
  induction new with
  | nil => exact fun h => h
  | cons m new ih => exact fun h => ih h.2

/-! ## The timer is in time -/

/-- What holds of a client whose timer is in time: it is so while the client is online, no
packet was sent in the future, and it was so at every earlier moment. -/
structure OnTime (env : Env) (w : World) : Prop where
  /-- The timer of a client that is online is in time. -/
  online : w.client.clientState.isOnline = true → inTime env w.client w.history = true
  /-- The last packet has been sent by now. -/
  past : ∀ sent, lastSent env w.history = some sent → sent ≤ env.clock w.time
  /-- The timer was in time at every earlier moment. -/
  timely : Timely env w.history

/-- A timer that is in time at `w` is in time at `w'`, if the keep-alive suffers no delay. -/
def KeepsTime (env : Env) (w w' : World) : Prop :=
  ∃ new, w'.history = new ++ w.history ∧
    (Punctual env w'.history → OnTime env w → OnTime env w')

section KeepsTime

variable {env : Env}

instance : IsPreorder World (KeepsTime env) where
  refl w := ⟨[], rfl, fun _ h => h⟩
  trans := by
    rintro w w₁ w' ⟨new, hnew, h⟩ ⟨more, hmore, h'⟩
    refine ⟨more ++ new, by rw [hmore, hnew, List.append_assoc], fun hpunctual hw => ?_⟩
    refine h' hpunctual (h ?_ hw)
    rw [hmore] at hpunctual
    exact hpunctual.older

/-- An event adds a packet sent now, or leaves the last packet as it was. -/
theorem lastSent_cons (env : Env) (m : Moment) (older : List Moment) :
    lastSent env (m :: older) = lastSent env older ∨
      lastSent env (m :: older) = some (env.clock m.time) := by
  rw [lastSent]
  split
  · split
    · exact .inl rfl
    · exact .inr rfl
  · exact .inl rfl

/-- A timer that was in time stays in time when an event is added. -/
theorem inTime_cons {c : Client} {m : Moment} {older : List Moment}
    (hpast : ∀ sent, lastSent env older = some sent → sent ≤ env.clock m.time)
    (h : inTime env c older = true) : inTime env c (m :: older) = true := by
  simp only [inTime, sinceLast, Bool.or_eq_true, Option.any_eq_true, decide_eq_true_eq] at h ⊢
  rcases h with hnone | ⟨sent, hsent, hle⟩
  · exact .inl hnone
  rcases lastSent_cons env m older with hsame | hnow
  · exact .inr ⟨sent, hsame.trans hsent, hle⟩
  · exact .inr ⟨_, hnow, Nat.le_trans hle (Nat.add_le_add_right (hpast sent hsent) _)⟩

/-- An online client whose timer is in time when it is offline or was before. -/
theorem OnTime.of_client {w w' : World} (h : OnTime env w) (hhistory : w'.history = w.history)
    (htime : w'.time = w.time)
    (honline : w'.client.clientState.isOnline = true → inTime env w'.client w.history = true) :
    OnTime env w' where
  online hs := by rw [hhistory]; exact honline hs
  past sent hsent := by rw [htime]; exact h.past sent (hhistory ▸ hsent)
  timely := by rw [hhistory]; exact h.timely

theorem keepsTime_onClient {f : Client → Client} (w : World)
    (hf : (f w.client).clientState = w.client.clientState)
    (htimers : (f w.client).pingTimer = w.client.pingTimer ∧
      (f w.client).keepAliveInterval = w.client.keepAliveInterval) :
    KeepsTime env w (w.onClient f) := by
  refine ⟨[], rfl, fun _ h => h.of_client rfl rfl fun hs => ?_⟩
  rw [World.client_onClient, hf] at hs
  rw [World.client_onClient, inTime, sinceLast, htimers.1, htimers.2]
  exact h.online hs

theorem keepsTime_store (packet : List UInt8) (w : World) : KeepsTime env w (w.onClient fun c =>
    { c with writeBuf := c.writeBuf.writeAt 0 packet }) :=
  keepsTime_onClient w rfl ⟨rfl, rfl⟩

theorem keepsTime_push (w : World) (e : Event) : KeepsTime env w (w.push e) := by
  refine ⟨[⟨e, w.time, w.client⟩], rfl, fun _ h => ⟨fun hs => inTime_cons h.past (h.online hs),
    fun sent hsent => ?_, fun hs => h.online ?_, h.timely⟩⟩
  · rcases lastSent_cons env ⟨e, w.time, w.client⟩ w.history with hsame | hnow
    · exact h.past sent (hsame.symm.trans hsent)
    · exact Nat.le_of_eq (Option.some.inj (hsent.symm.trans hnow))
  · rw [ClientState.isOnline, hs]
    rfl

theorem keepsTime_tick (hclock : Monotone env.clock) (w : World) : KeepsTime env w w.tick :=
  ⟨[], rfl, fun _ h => ⟨h.online,
    fun sent hsent => (h.past sent hsent).trans (hclock (Nat.le_succ w.time)), h.timely⟩⟩

/-- A move of a client that does not bring it online. -/
theorem keepsTime_withState {w : World} {s : ClientState}
    (hs : s.isOnline = true → w.client.clientState.isOnline = true) :
    KeepsTime env w (w.withState s) :=
  ⟨[], rfl, fun _ h => h.of_client rfl rfl fun hnew => h.online (hs hnew)⟩

theorem setClientState_keepsTime (site : StateSite) {old new : ClientState}
    (hmove : new.isOnline = true → old.isOnline = true) :
    Keeps (KeepsTime env) (setClientState site old new : M IoTError) := by
  intro w
  rw [ends_setClientState]
  split
  case isTrue heq => exact keepsTime_withState fun hs => heq ▸ hmove hs
  case isFalse => exact refl_of (KeepsTime env) w

theorem keepsTime_update {f : Client → Client} (w : World) (e : Event)
    (hf : (f w.client).clientState = w.client.clientState)
    (htimers : (f w.client).pingTimer = w.client.pingTimer ∧
      (f w.client).keepAliveInterval = w.client.keepAliveInterval) :
    KeepsTime env w ((w.onClient f).push e) :=
  trans_of (KeepsTime env) (keepsTime_onClient w hf htimers) (keepsTime_push _ e)

/-- The packet primitives keep the timer in time. -/
theorem keepsTime_packets (hclock : Monotone env.clock) :
    Packets (m := M) (Keeps (KeepsTime env)) where
  toCompositional := keeps_compositional (KeepsTime env)
  getClient w := refl_of (KeepsTime env) w
  modifyClient hf w := keepsTime_onClient w (hf.core w.client).1 (hf.timers.2 w.client)
  ask _ w := keepsTime_tick hclock w
  emit _ w := keepsTime_push w _
  storeReceivedId _ _ w := keepsTime_update w _ rfl ⟨rfl, rfl⟩
  emitPacket _ w := keepsTime_push w _

theorem keepsTime_network (hclock : Monotone env.clock) :
    Network (m := M) (Keeps (KeepsTime env)) where
  toTraffic := (keepsTime_packets hclock).toTraffic
  emitConnection _ _ w := keepsTime_push w _

end KeepsTime

/-! ## Disconnect -/

/-- The client state is the same. -/
def SameState (w w' : World) : Prop := w'.client.clientState = w.client.clientState

instance : IsPreorder World SameState where
  refl _ := rfl
  trans _ _ _ h h' := Eq.trans h' h

theorem sameState_steps : TrafficSteps SameState where
  onClient w _ hf := (hf w.client).1
  tick _ := rfl
  push _ _ _ := rfl

theorem sameState_network : Network (m := M) (Returns SameState) where
  toTraffic := sameState_steps.returning
  emitConnection _ _ _ := rfl

section Operations

variable {env : Env} {fuel : Nat} (hclock : Monotone env.clock)
include hclock

/-- A client that fails to disconnect is online again as it was before. -/
theorem disconnect_keepsTime (fuel : Nat) :
    Keeps (KeepsTime env) (disconnect env fuel : M IoTError) := by
  intro w
  unfold disconnect
  simp only [ends_bind, ends_getClientState, ends_ite, ends_pure, ends_setClientState, if_true]
  split
  case isTrue => exact refl_of (KeepsTime env) w
  case isFalse hup =>
    have hconnected : w.client.clientState.isConnected = true := by simpa using hup
    have honline : w.client.clientState.isOnline = true := by
      rw [ClientState.isOnline, hconnected]
      rfl
    have hstart : KeepsTime env w (w.withState .disconnecting) :=
      keepsTime_withState fun _ => honline
    rw [if_neg (by simp)]
    refine (((keepsTime_network hclock).internalDisconnect env fuel _).and
      (sameState_network.internalDisconnect env fuel (w.withState .disconnecting))).mono ?_
      (fun _ h => trans_of _ hstart h.1)
    rintro rc w₁ ⟨hkeeps, hstate⟩
    have hdone : KeepsTime env w w₁ := trans_of _ hstart hkeeps
    split
    · refine trans_of _ hdone (keepsTime_withState fun _ => ?_)
      rw [hstate]
      rfl
    · exact trans_of _ hdone (keepsTime_withState fun hs => absurd hs (by decide))

theorem keepsTime_operations : Operations (m := M) env (Keeps (KeepsTime env)) where
  toNetwork := keepsTime_network hclock
  getClientState w := refl_of (KeepsTime env) w
  setClientState site _ _ hmove := setClientState_keepsTime site hmove.2
  assignClientState hmove w :=
    keepsTime_withState fun hs => absurd (hmove.2 hs) (by decide)
  within hx := hx
  disconnect := disconnect_keepsTime hclock
  connectDone w := keepsTime_push w _
  enterPending := (keepsTime_packets hclock).bind
    (setClientState_keepsTime _ fun hs => absurd hs (by decide))
    fun _ w => keepsTime_push w _
  startReconnecting := (keepsTime_packets hclock).startReconnecting env
    (setClientState_keepsTime _ fun hs => absurd hs (by decide))
    fun w => keepsTime_update w _ rfl ⟨rfl, rfl⟩
  reconnectDue w := keepsTime_push w _
  doubleInterval w := trans_of (KeepsTime env) (keepsTime_push w _)
    (keepsTime_onClient _ rfl ⟨rfl, rfl⟩)

/-- A client is initialised with an expired timer. -/
theorem init_keepsTime (params : InitParams) :
    Keeps (KeepsTime env) (init env params : M IoTError) := by
  refine (keepsTime_operations hclock).init (fun w => keepsTime_update w _ rfl ⟨rfl, rfl⟩)
    (fun hf hsame w => keepsTime_onClient w (hf w.client).1 (hsame w.client).2) ?_ params
  intro w
  refine ⟨[], rfl, fun _ h => h.of_client rfl rfl fun hs => ?_⟩
  have hbefore := h.online hs
  simp only [inTime, sinceLast, Bool.or_eq_true, Option.any_eq_true, decide_eq_true_eq] at hbefore ⊢
  rcases hbefore with hnone | ⟨sent, hsent, -⟩
  · exact .inl hnone
  · exact .inr ⟨sent, hsent, Nat.zero_le _⟩

end Operations

/-! ## Reading packets -/

section Reading

variable {env : Env} {callbacks : Callbacks M}

/-- A delivery that finds the timer in time, whether or not the client is online, leaves it in
time: it brings the client online while the handlers run. -/
theorem deliverMessage_keepsTime (hclock : Monotone env.clock)
    (hmessage : ∀ call, Keeps (KeepsTime env) (callbacks.message call)) (msg : IncomingPublish)
    {w₀ w : World}
    (hready : KeepsTime env w₀ (w.withState .connectedWaitForCbReturn)) :
    (deliverMessage env callbacks msg : M IoTError).Ends w
      (fun _ w' => KeepsTime env w₀ w') (KeepsTime env w₀) := by
  have hcomp := keepsTime_packets hclock
  have hslot : ∀ itr, Keeps (KeepsTime env) (deliverToSlot callbacks msg itr : M Unit) := by
    intro itr w
    rw [ends_deliverToSlot]
    cases slotCall w.client msg itr with
    | none => exact refl_of (KeepsTime env) w
    | some call =>
      have hcalled : KeepsTime env w (w.push (.handlerCalled call)) := keepsTime_push w _
      refine (hmessage _ _).mono ?_ (fun _ h => trans_of _ hcalled h)
      intro _ w₁ h
      exact trans_of _ (trans_of _ hcalled h) (keepsTime_push w₁ _)
  unfold deliverMessage
  simp only [ends_bind, ends_getClientState, ends_setClientState, if_true]
  refine (hcomp.forEach hslot _ _).mono ?_ (fun _ h => trans_of _ hready h)
  intro _ w₁ h
  have hdone : KeepsTime env w₀ w₁ := trans_of _ hready h
  split
  case isTrue heq => exact trans_of _ hdone (keepsTime_withState fun _ => heq ▸ rfl)
  case isFalse => exact hdone

/-- `handle_publish` of a message whose delivery finds the timer in time. -/
theorem handlePublish_keepsTime (hclock : Monotone env.clock)
    (hmessage : ∀ call, Keeps (KeepsTime env) (callbacks.message call)) (fuel : Nat) (timer : Timer)
    {w₀ w : World} (hbase : KeepsTime env w₀ w)
    (hready : KeepsTime env w₀ (w.withState .connectedWaitForCbReturn)) :
    (handlePublish env fuel callbacks timer : M IoTError).Ends w
      (fun _ w' => KeepsTime env w₀ w') (KeepsTime env w₀) := by
  have hcomp := keepsTime_packets hclock
  unfold handlePublish
  simp only [ends_bind, ends_getClient]
  split
  case h_1 => exact hbase
  case h_2 msg hread =>
    have hreceiving : KeepsTime env w₀
        ((w.receiving msg).withState .connectedWaitForCbReturn) :=
      trans_of _ hready (keepsTime_onClient (f := fun c =>
        { c with receivedIds := msg.id :: c.receivedIds }) _ rfl ⟨rfl, rfl⟩)
    refine ends_bind.mpr (ends_deliverReceived.mpr
      ((deliverMessage_keepsTime hclock hmessage msg hreceiving).mono ?_ (fun _ h => h)))
    intro rc w₁ h₁
    have hdelivered : KeepsTime env w₀ w₁.received :=
      trans_of _ h₁ (keepsTime_onClient w₁ rfl ⟨rfl, rfl⟩)
    simp only [ends_ite, ends_pure]
    split
    · exact hdelivered
    split
    · exact hdelivered
    have hack : ∀ id, Keeps (KeepsTime env)
        (acknowledgeReceived env fuel timer id : M IoTError) :=
      hcomp.acknowledgeReceived env fuel timer
    exact (hack _ _).mono (fun _ _ h => trans_of _ hdelivered h)
      (fun _ h => trans_of _ hdelivered h)

/-- What `cycle_read` reads leaves the timer in time, if it comes in time. -/
theorem cycleRead_keepsTime (hclock : Monotone env.clock)
    (hmessage : ∀ call, Keeps (KeepsTime env) (callbacks.message call)) (fuel : Nat) (timer : Timer)
    (packetType : UInt8) :
    Keeps (KeepsTime env) (cycleRead env fuel callbacks timer packetType :
      M (IoTError × UInt8)) := by
  intro w
  unfold cycleRead
  refine ends_bind.mpr ((readPacket_read (keepsTime_packets hclock).toTraffic
    (haltsAfter_self (KeepsTime env)) packetType).mono ?_ (fun _ h => h))
  rintro ⟨rc, readType⟩ w₁ h₁
  dsimp only at h₁ ⊢
  by_cases hrc : rc = .success
  case neg =>
    rw [if_neg hrc] at h₁
    simp only [ends_ite, ends_pure]
    split
    · exact h₁.1
    · simpa [hrc] using h₁.1
  rw [if_pos hrc] at h₁
  obtain ⟨f, w₂, h₂, rfl, hheld, htype⟩ := h₁
  subst hrc
  have hread : KeepsTime env w (w₂.push (.packetRead f.bytes)) :=
    trans_of _ h₂ (keepsTime_push w₂ _)
  have hhead : headerType (f.bytes.headD 0) = readType := htype.symm
  simp only [ends_ite, ends_pure, ends_bind, reduceCtorEq, if_false, ne_eq, not_true_eq_false]
  split
  case isTrue => exact hread
  case isFalse =>
    split
    case isTrue hpublish =>
      -- the packet that brings the client online finds the timer in time
      refine (handlePublish_keepsTime hclock hmessage fuel timer hread ?_).mono
        (fun _ _ h => h) (fun _ h => h)
      obtain ⟨new, hnew, hkeeps⟩ := hread
      refine ⟨new, hnew, fun hpunctual hw => ?_⟩
      have hnow := hkeeps hpunctual hw
      refine hnow.of_client rfl rfl fun _ => ?_
      have hpacket : punctual env ⟨.packetRead f.bytes, w₂.time, w₂.client⟩ w₂.history = true :=
        hpunctual.1
      rw [punctual_publish (hhead.trans hpublish), Bool.or_eq_true] at hpacket
      rcases hpacket with honline | hintime
      · exact hnow.online honline
      · exact inTime_cons (m := ⟨.packetRead f.bytes, w₂.time, w₂.client⟩) hnow.past hintime
    case isFalse =>
      split
      case isTrue hpingresp =>
        simp only [ends_getClient, ends_countdownSec, ends_modifyClient]
        obtain ⟨new, hnew, hkeeps⟩ := trans_of (KeepsTime env) hread (keepsTime_tick hclock _)
        refine ⟨new, hnew, fun hpunctual hw => (hkeeps hpunctual hw).of_client rfl rfl ?_⟩
        intro honline
        have hpacket : punctual env ⟨.packetRead f.bytes, w₂.time, w₂.client⟩ w₂.history = true :=
          hpunctual.1
        rw [punctual_pingresp (hhead.trans hpingresp), Bool.or_eq_true] at hpacket
        have hsince := hpacket.resolve_left fun hoff => by
          rw [Bool.not_eq_true'] at hoff
          exact absurd (honline.symm.trans hoff) (by decide)
        simp only [inTime, sinceLast, Bool.or_eq_true, Option.any_eq_true,
          decide_eq_true_eq] at hsince ⊢
        rcases hsince with hnone | ⟨sent, hsent, hle⟩
        · exact .inl hnone
        · exact .inr ⟨sent, hsent, Nat.add_le_add_right hle _⟩
      case isFalse => exact hread

theorem cycling_keepsTime (hclock : Monotone env.clock)
    (hmessage : ∀ call, Keeps (KeepsTime env) (callbacks.message call)) :
    Cycling env callbacks (Keeps (KeepsTime env)) where
  toTraffic := (keepsTime_packets hclock).toTraffic
  cycleRead := cycleRead_keepsTime hclock hmessage

theorem serving_keepsTime (hclock : Monotone env.clock)
    (hmessage : ∀ call, Keeps (KeepsTime env) (callbacks.message call)) :
    Serving env callbacks (Keeps (KeepsTime env)) where
  toCycling := cycling_keepsTime hclock hmessage
  internalSubscribe fuel := (cycling_keepsTime hclock hmessage).internalSubscribe fuel
    fun _ _ w => keepsTime_update w _ rfl ⟨rfl, rfl⟩
  internalUnsubscribe fuel := (cycling_keepsTime hclock hmessage).internalUnsubscribe fuel
    fun _ w => keepsTime_update w _ rfl ⟨rfl, rfl⟩
  init := init_keepsTime hclock

end Reading

/-! ## Connecting -/

theorem serializeConnect_error {txBufLen : Nat} {options : ConnectParams} {rc : IoTError}
    (h : serializeConnect txBufLen options = .error rc) : rc.isError = true := by
  unfold serializeConnect at h
  split at h
  · cases h; rfl
  split at h
  · cases h; rfl
  dsimp only at h
  split at h
  · cases h; rfl
  obtain ⟨header, hheader⟩ := initHeader_ok (t := .connect) (by decide) .qos0 0 0
  rw [hheader] at h
  exact absurd h (Serialized.ofBytes_ne_error _ _)

theorem deserializeConnack_error {rxBuf : Memory} {rxBufLen : Nat} {rc : IoTError}
    (h : deserializeConnack rxBuf rxBufLen = .error rc) : rc.isError = true := by
  unfold deserializeConnack at h
  split at h
  · cases h; rfl
  split at h
  · cases h; rfl
  split at h
  case h_1 rc hdecode =>
    cases h
    exact decodeRemainingLengthFromBuffer_error hdecode
  case h_2 =>
    dsimp only at h
    split at h
    · cases h; rfl
    · cases h

theorem connackReturnCode_ne_success (b : UInt8) : connackReturnCode b ≠ .success := by
  unfold connackReturnCode
  split <;> decide

theorem deserializeConnack_code {rxBuf : Memory} {rxBufLen : Nat} {flags : UInt8} {rc : IoTError}
    (h : deserializeConnack rxBuf rxBufLen = .ok (flags, rc)) : rc ≠ .success := by
  unfold deserializeConnack at h
  split at h
  · cases h
  split at h
  · cases h
  split at h
  · cases h
  dsimp only at h
  split at h
  · cases h
  · cases h
    exact connackReturnCode_ne_success _

/-- The client has connected since `w`, if it did, with the timer in time: online or not. -/
def ConnectsInTime (env : Env) (rc : IoTError) (w w' : World) : Prop :=
  KeepsTime env w w' ∧
    (rc = .success → Punctual env w'.history → inTime env w'.client w'.history = true)

section Connecting

variable {env : Env} {fuel : Nat} {callbacks : Callbacks M} {w₀ w : World}

theorem ConnectsInTime.of_error {rc : IoTError} (hrc : rc ≠ .success)
    (h : KeepsTime env w₀ w) : ConnectsInTime env rc w₀ w :=
  ⟨h, fun hsuccess => absurd hsuccess hrc⟩

/-- A wait ends with its mark. -/
theorem waitForRead_keepsTime (hcycle : Cycling env callbacks (Keeps (KeepsTime env)))
    (packetType : MessageType) (timer : Timer) (w : World) :
    (waitForRead env fuel callbacks packetType timer : M IoTError).Ends w
      (fun rc w' => ∃ w₁, KeepsTime env w w₁ ∧ w' = w₁.push (.waited packetType rc))
      (KeepsTime env w) := by
  unfold waitForRead
  refine ends_bind.mpr ((hcycle.loop (hcycle.waitPass fuel packetType.code timer) fuel 0 w).mono
    ?_ (fun _ h => h))
  intro r w₁ h₁
  exact ⟨w₁, h₁, rfl⟩

/-- A connection that was accepted early enough starts with the timer in time. -/
theorem awaitConnack_inTime (hclock : Monotone env.clock)
    (hcycle : Cycling env callbacks (Keeps (KeepsTime env))) (timer : Timer)
    (hbase : KeepsTime env w₀ w) :
    (awaitConnack env fuel callbacks timer : M IoTError).Ends w
      (fun rc w' => ConnectsInTime env rc w₀ w') (KeepsTime env w₀) := by
  unfold awaitConnack
  refine ends_bind.mpr ((waitForRead_keepsTime hcycle .connack timer w).mono ?_
    (fun _ h => trans_of _ hbase h))
  rintro rc _ ⟨w₁, h₁, rfl⟩
  have hwaited : KeepsTime env w₀ (w₁.push (.waited .connack rc)) :=
    trans_of _ (trans_of _ hbase h₁) (keepsTime_push w₁ _)
  simp only [ends_ite, ends_pure, ends_bind, ends_getClient]
  split
  case isTrue hrc => exact .of_error hrc hwaited
  case isFalse hrc =>
    obtain rfl := not_not.mp hrc
    split
    case h_1 rc herror =>
      exact .of_error (IoTError.ne_success_of_isError (deserializeConnack_error herror)) hwaited
    case h_2 flags connackRc hread =>
      simp only [ends_ite, ends_pure, ends_bind, ends_getClient, ends_countdownSec,
        ends_modifyClient]
      split
      case isTrue => exact .of_error (deserializeConnack_code hread) hwaited
      case isFalse haccepted =>
        obtain rfl := not_not.mp haccepted
        -- what is left of the interval since CONNECT was sent holds half an interval
        have hready : ∀ history, history = (w₁.push (.waited .connack .success)).history →
            Punctual env history →
            inTime env { w₁.client with
              isPingOutstanding := false
              pingTimer := env.clock w₁.time + 1000 * (w₁.client.keepAliveInterval.toNat / 2) }
              history = true := by
          rintro history rfl hpunctual
          have hconnack : punctual env ⟨.waited .connack .success, w₁.time, w₁.client⟩
              w₁.history = true := hpunctual.1
          rw [punctual_connack (c := w₁.client) hread] at hconnack
          exact hconnack
        obtain ⟨new, hnew, hkeeps⟩ := trans_of (KeepsTime env) hwaited (keepsTime_tick hclock _)
        refine ⟨⟨new, hnew, fun hpunctual hw => ?_⟩, fun _ hpunctual => hready _ rfl hpunctual⟩
        exact (hkeeps hpunctual hw).of_client rfl rfl fun _ => hready _ rfl hpunctual

/-- CONNECT tells the server the interval, which an offline client may change. -/
theorem exchangeConnect_inTime (hclock : Monotone env.clock)
    (hcycle : Cycling env callbacks (Keeps (KeepsTime env)))
    (hoffline : w.client.clientState.isOnline = false) (hbase : KeepsTime env w₀ w) :
    (exchangeConnect env fuel callbacks : M IoTError).Ends w
      (fun rc w' => ConnectsInTime env rc w₀ w') (KeepsTime env w₀) := by
  have hcomp := keepsTime_packets hclock
  unfold exchangeConnect
  simp only [ends_bind, ends_getClient, ends_countdownMs, ends_modifyClient, ends_storePacket]
  have hset : KeepsTime env w.tick (w.tick.onClient fun c =>
      { c with keepAliveInterval := c.options.keepAliveIntervalInSec }) :=
    ⟨[], rfl, fun _ h => h.of_client rfl rfl
      fun hs => absurd (hs.symm.trans hoffline) (by decide)⟩
  have hinterval := trans_of _ (trans_of _ hbase (keepsTime_tick hclock w)) hset
  split
  case h_1 => exact hinterval
  case h_2 rc hser =>
    exact .of_error (IoTError.ne_success_of_isError (serializeConnect_error hser)) hinterval
  case h_3 packet hser =>
    have hpos : packet.length % 2 ^ 32 ≠ 0 := by
      rw [Nat.mod_eq_of_lt (length_serializeConnect_lt hser)]
      obtain ⟨body, -, -, -, rfl⟩ := serializeConnect_packet hser
      simp
    rw [if_neg hpos]
    have hstored := trans_of _ hinterval (keepsTime_store packet _)
    refine ends_bind.mpr ((hcomp.sendPacket env fuel _ _ _).mono ?_
      (fun _ h => trans_of _ hstored h))
    intro rc w₁ hsent
    have hw₁ : KeepsTime env w₀ w₁ := trans_of _ hstored hsent
    rw [ends_ite]
    split
    case isTrue hrc => exact .of_error hrc hw₁
    case isFalse => exact awaitConnack_inTime hclock hcycle _ hw₁

theorem internalConnect_inTime (hclock : Monotone env.clock)
    (hcycle : Cycling env callbacks (Keeps (KeepsTime env))) (params : Option ConnectParams)
    (hoffline : w.client.clientState.isOnline = false) (hbase : KeepsTime env w₀ w) :
    (internalConnect env fuel callbacks params : M IoTError).Ends w
      (fun rc w' => ConnectsInTime env rc w₀ w') (KeepsTime env w₀) := by
  have hops := keepsTime_operations hclock
  have hsame : Returns SameState (overrideOptions params : M IoTError) :=
    sameState_network.overrideOptions params
  unfold internalConnect
  refine ends_bind.mpr (((hops.overrideOptions params w).and (hsame w)).mono ?_
    (fun _ h => trans_of _ hbase h.1))
  rintro rc w₁ ⟨hkeeps, hstate⟩
  have hw₁ : KeepsTime env w₀ w₁ := trans_of _ hbase hkeeps
  rw [ends_ite]
  split
  case isTrue => exact .of_error (by decide) hw₁
  case isFalse =>
    refine ends_bind.mpr (((hops.netConnect env w₁).and (sameState_network.netConnect env w₁)).mono
      ?_ (fun _ h => trans_of _ hw₁ h.1))
    rintro rc w₂ ⟨hkeeps', hstate'⟩
    have hw₂ : KeepsTime env w₀ w₂ := trans_of _ hw₁ hkeeps'
    rw [ends_ite]
    split
    case isTrue hrc => exact .of_error hrc hw₂
    case isFalse =>
      refine exchangeConnect_inTime hclock hcycle ?_ hw₂
      rw [hstate', hstate, hoffline]

/-- A client that is brought online by a connect has its timer in time. -/
theorem connect_keepsTime (hclock : Monotone env.clock) (fuel : Nat)
    (params : Option ConnectParams) (hcycle : Cycling env callbacks (Keeps (KeepsTime env))) :
    Keeps (KeepsTime env) (connect env fuel callbacks params : M IoTError) := by
  have hops := keepsTime_operations hclock
  intro w
  unfold connect connectRequest
  rw [ends_bind, ends_getClientState, ends_ite]
  split
  case isTrue => exact refl_of (KeepsTime env) w
  case isFalse =>
    rw [ends_bind, ends_setClientState, if_pos rfl, ends_bind, ends_within]
    have hstart : KeepsTime env w (w.withState .connecting) :=
      keepsTime_withState fun hs => absurd hs (by decide)
    refine (internalConnect_inTime hclock hcycle params rfl hstart).mono ?_ (fun _ h => h)
    rintro rc w₁ ⟨hw₁, hintime⟩
    rw [ends_ite]
    split
    case isTrue =>
      have hcleanup : Keeps (KeepsTime env) (do
          emit fun c => .connectCleanup c.clientState
          netDisconnect
          let _ ← netDestroy env
          let _ ← setClientState .connectFailed .connecting .disconnectedError
          return rc : M IoTError) := by
        refine hops.bind (fun w => keepsTime_push w _) fun _ => ?_
        refine hops.bind hops.netDisconnect fun _ => hops.bind (hops.netDestroy env) fun _ => ?_
        exact hops.bind (hops.setClientState _ (by decide)) fun _ => hops.pure _
      exact (hcleanup w₁).mono (fun _ _ h => trans_of _ hw₁ h) (fun _ h => trans_of _ hw₁ h)
    case isFalse hrc =>
      simp only [ends_bind, ends_setClientState, ends_emit, ends_pure]
      have hsuccess := hintime (not_not.mp hrc)
      have honline : KeepsTime env w (w₁.withState .connectedIdle) := by
        obtain ⟨new, hnew, hkeeps⟩ := hw₁
        refine ⟨new, hnew, fun hpunctual hw => ?_⟩
        exact (hkeeps hpunctual hw).of_client rfl rfl fun _ => hsuccess hpunctual
      split
      · exact trans_of _ honline (keepsTime_push _ _)
      · exact trans_of _ hw₁ (keepsTime_push _ _)

end Connecting

/-! ## Pinging -/

/-- A packet that was sent is the last thing that happened. -/
theorem sendPacket_lastSent {env : Env} {fuel length : Nat} {timer : Timer} (w : World) :
    (sendPacket env fuel length timer : M IoTError).Ends w
      (fun rc w' => rc = .success → ∃ older, w'.history =
        ⟨.sent (w.client.writeBuf.slice 0 length), w'.time, w'.client⟩ :: older)
      (fun _ => True) := by
  by_cases hlen : length < w.client.writeBufSize
  · have hpass : ∀ sent, Keeps OnlySends (sendPass env length timer sent : M (Step Nat Nat)) :=
      sendPass_onlySends length timer
    rw [ends_sendPacket hlen]
    refine ((keeps_compositional OnlySends).loop hpass fuel 0 _).mono ?_ (fun _ _ => trivial)
    rintro sent w' ⟨hclient, -⟩
    split
    · intro _
      have hbuf : w'.client.writeBuf = w.client.writeBuf := by rw [hclient]; rfl
      refine ⟨w'.history, ?_⟩
      rw [World.history_push, sentEvent, hbuf]
      rfl
    · exact fun hrc => absurd hrc (by decide)
  · have hge : length ≥ w.client.writeBufSize := Nat.le_of_not_lt hlen
    unfold sendPacket
    rw [ends_bind, ends_getClient, ends_ite, if_pos hge, ends_pure]
    exact fun hrc => absurd hrc (by decide)

theorem serializeZero_pingreq {txBufLen : Nat} {packet : List UInt8}
    (h : serializeZero txBufLen .pingreq = .packet packet) : packet = [0xC0, 0] := by
  unfold serializeZero at h
  split at h
  · cases h
  · exact (Serialized.packet.inj h).symm.trans (by decide)

/-- After a PINGREQ the timer is in time. -/
theorem keepAlive_keepsTime {env : Env} {callbacks : Callbacks M} (hclock : Monotone env.clock)
    (fuel : Nat) (hdisconnect : Keeps (KeepsTime env) callbacks.disconnect) :
    Keeps (KeepsTime env) (keepAlive env fuel callbacks : M IoTError) := by
  have hops := keepsTime_operations hclock
  intro w
  have hlost : ∀ w₁, KeepsTime env w w₁ →
      (handleDisconnect env fuel callbacks : M IoTError).Ends w₁
        (fun _ w' => KeepsTime env w w') (KeepsTime env w) := by
    intro w₁ hw₁
    exact (hops.handleDisconnect fuel hdisconnect w₁).mono (fun _ _ h => trans_of _ hw₁ h)
      (fun _ h => trans_of _ hw₁ h)
  unfold keepAlive
  simp only [ends_bind, ends_getClient, ends_ite, ends_pure, ends_hasTimerExpired]
  have hexpired : KeepsTime env w w.tick := keepsTime_tick hclock w
  split
  case isTrue => exact refl_of (KeepsTime env) w
  split
  case isTrue => exact hexpired
  split
  case isTrue => exact hlost w.tick hexpired
  simp only [ends_bind, ends_countdownMs, ends_storePacket]
  have htimer : KeepsTime env w w.tick.tick := trans_of _ hexpired (keepsTime_tick hclock _)
  split
  case h_1 => exact htimer
  case h_2 => exact htimer
  case h_3 packet hser =>
    have hstored := trans_of _ htimer (keepsTime_store packet _)
    refine ends_bind.mpr (((hops.sendPacket env fuel _ _ _).and (sendPacket_lastSent _)).mono ?_
      (fun _ h => trans_of _ hstored h.1))
    rintro rc w₁ ⟨hkeeps, hsent⟩
    have hw₁ : KeepsTime env w w₁ := trans_of _ hstored hkeeps
    rw [ends_ite]
    split
    case isTrue => exact hlost w₁ hw₁
    case isFalse hrc =>
      obtain ⟨older, hnewest⟩ := hsent (not_not.mp hrc)
      have hlast : lastSent env w₁.history = some (env.clock w₁.time) := by
        have hping : isDisconnect (sentPart packet) = false := by
          rw [serializeZero_pingreq hser]
          decide
        rw [hnewest, World.client_onClient, slice_storedPacket]
        exact if_neg (Bool.eq_false_iff.mp hping)
      simp only [ends_bind, ends_modifyClient, ends_getClient, ends_countdownSec, ends_pure]
      obtain ⟨new, hnew, hkeep⟩ := trans_of _ hw₁ (keepsTime_tick hclock w₁)
      refine ⟨new, hnew, fun hpunctual hw => (hkeep hpunctual hw).of_client rfl rfl fun _ => ?_⟩
      simp only [inTime, sinceLast, Bool.or_eq_true, Option.any_eq_true, decide_eq_true_eq]
      refine .inr ⟨env.clock w₁.time, hlast, ?_⟩
      exact Nat.add_le_add_left (Nat.mul_le_mul_left _ (Nat.div_le_self _ 2)) _

/-! ## The keep-alive deadline -/

theorem keepsTime_everything {env : Env} (hclock : Monotone env.clock) :
    Everything (m := M) env (Keeps (KeepsTime env)) where
  toOperations := keepsTime_operations hclock
  internalResubscribe fuel hcycle := hcycle.internalResubscribe fuel fun _ w => keepsTime_push w _
  connect fuel params hcycle := connect_keepsTime hclock fuel params hcycle
  keepAlive fuel hdisconnect := keepAlive_keepsTime hclock fuel hdisconnect

theorem application_keepsTime {env : Env} (hclock : Monotone env.clock) (fuel : Nat)
    (calls : List ApiCall) : Keeps (KeepsTime env) (application env fuel calls : M Unit) :=
  (keepsTime_everything hclock).application fuel (fun _ w => keepsTime_push w _)
    (fun _ ih => serving_keepsTime hclock
      ((keepsTime_everything hclock).applicationCallbacks fuel ih).1) calls

theorem onTime_start (env : Env) : OnTime env World.start where
  online hs := absurd hs (by decide)
  past sent hsent := by cases hsent
  timely := trivial

/-- In every run in which the keep-alive suffers no delay, whenever the client is connected
(at every moment of the history, and when the run stops), there is no keep-alive, or
`pingTimer` expires at most an interval after the last packet was sent. -/
theorem keepAlive_inTime (env : Env) (hclock : Monotone env.clock) (fuel : Nat)
    (calls : List ApiCall) (w : World)
    (hw : w = ((application env fuel calls : M Unit).run World.start).state)
    (hpunctual : Punctual env w.history) :
    Timely env w.history ∧
      (w.client.clientState.isConnected = true → inTime env w.client w.history = true) := by
  have hkeeps : KeepsTime env World.start w := by
    rw [hw]
    exact ends_state_iff.mp (application_keepsTime hclock fuel calls World.start)
  obtain ⟨new, -, hontime⟩ := hkeeps
  have hend := hontime hpunctual (onTime_start env)
  refine ⟨hend.timely, fun hconnected => hend.online ?_⟩
  rw [ClientState.isOnline, hconnected]
  rfl

/-! ## A PINGREQ and its answer -/

/-- A client with a keep-alive interval of one second sends a PINGREQ at question 17 and reads
its answer at question 22. -/
def answeredEnv (clock : Nat → Nat) : Env :=
  { sessionEnv [(20, [0xD0, 0])] with clock := clock }

/-- The calls of that session. -/
def answeredCalls : List ApiCall := [.init plainInit, .connect (some pingingConnect), .yield 10]

def World.answered (clock : Nat → Nat) : World := World.after (answeredEnv clock) 8 answeredCalls

/-- A clock that stands still until question 32. -/
def coarseClock (n : Nat) : Nat := n / 32 * 32

/-- An answer that takes no time leaves the timer in time. -/
theorem inTime_answeredAtOnce :
    Timely (answeredEnv coarseClock) (World.answered coarseClock).history ∧
      ((World.answered coarseClock).client.clientState.isConnected = true →
        inTime (answeredEnv coarseClock) (World.answered coarseClock).client
          (World.answered coarseClock).history = true) :=
  keepAlive_inTime (answeredEnv coarseClock)
    (fun _ _ h => Nat.mul_le_mul_right 32 (Nat.div_le_div_right h)) 8 answeredCalls
    (World.answered coarseClock) rfl (by decide +kernel)

/-- An answer that is read five milliseconds after the PINGREQ was sent puts the timer a whole
interval after the answer: the next PINGREQ is due five milliseconds too late. -/
theorem not_inTime_answeredLater :
    Monotone (answeredEnv id).clock ∧
    ((application (answeredEnv id) 8 answeredCalls : M Unit).run World.start).value? = some () ∧
    (World.answered id).client.clientState = .connectedIdle ∧
    (World.answered id).client.keepAliveInterval = 1 ∧
    lastSent (answeredEnv id) (World.answered id).history = some 18 ∧
    (World.answered id).client.pingTimer = 1023 ∧
    inTime (answeredEnv id) (World.answered id).client (World.answered id).history = false :=
  ⟨monotone_id, by decide +kernel, by decide +kernel, by decide +kernel, by decide +kernel,
    by decide +kernel, by decide +kernel⟩

end AwsIot.Mqtt
