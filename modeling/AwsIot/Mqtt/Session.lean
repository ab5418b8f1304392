/-
  Mqtt/Session.lean --- what the client does with its network connection, and when.

  A connection is open from a successful `networkStack.connect` to the next
  disconnect or destroy.  The client is to read and write only on an open connection,
  to start with CONNECT, and to destroy the network once after each
  `networkStack.connect`, whether it succeeded or not.  A connect does so, and the
  requests that come after it stay on the connection that it opened, with all that
  message handlers do meanwhile.
-/
import AwsIot.Foundation.Monitor
import AwsIot.Mqtt.ConnectPacket
import AwsIot.Mqtt.HeldState
import AwsIot.Mqtt.KeepAlive

set_option autoImplicit false

namespace AwsIot.Mqtt

open AwsIot.Foundation Program

/-! ## Sessions -/

/-- How far the use of the network has come. -/
inductive Session where
  /-- There is nothing to release. -/
  | released
  /-- There is no connection, but a connect that was not cleaned up after. -/
  | closed
  /-- The network is connected, and no packet was started on it. -/
  | opened
  /-- The first packet was started. -/
  | begun
  deriving DecidableEq, Repr

/-- The session after an event.  `iot_tls_init` starts over with the network. -/
def Session.after : Session → Event → Session
  | _, .tlsInit _ => .released
  | _, .netConnect rc => if rc = .success then .opened else .closed
  | .released, .netDisconnect => .released
  | _, .netDisconnect => .closed
  | _, .netDestroy _ => .released
  | .opened, .sending _ => .begun
  | s, _ => s

/-- What a session allows: no packet and no byte without a connection, CONNECT first,
and nothing is released twice.  With `tidy`, nothing is left behind by a connect
either. -/
def Session.permits (tidy : Bool) (s : Session) : Event → Bool
  | .netConnect _ => s == .released || !tidy
  | .netDisconnect | .netDestroy _ => s != .released
  | .sending packet => s == .begun || s == .opened && packet.head? == some 0x10
  | .netRead .. | .netWrite .. => s == .begun
  | _ => true

/-- The sessions of a client. -/
def sessions (tidy : Bool) : Monitor Session Event where
  start := .released
  after := Session.after
  permits := Session.permits tidy

/-- The session after a log, newest event first. -/
def session (log : List Event) : Session := (sessions false).state log

/-- Every event was allowed by the session in which it happened. -/
abbrev InSession (tidy : Bool) (log : List Event) : Prop := (sessions tidy).Accepts log

/-- Events that open, close or release a connection. -/
def Event.movesSession : Event → Bool
  | .tlsInit _ | .netConnect _ | .netDisconnect | .netDestroy _ => true
  | _ => false

/-- The event is a call of `iot_tls_init`. -/
def Event.initsNetwork : Event → Bool
  | .tlsInit _ => true
  | _ => false

/-- Events that need a connection. -/
def Event.needsSession : Event → Bool
  | .sending _ | .netRead .. | .netWrite .. => true
  | _ => false

section Sessions

variable {tidy : Bool} {e : Event} {log : List Event}

@[simp] theorem session_cons (e : Event) (log : List Event) :
    session (e :: log) = (session log).after e := rfl

theorem inSession_cons :
    InSession tidy (e :: log) ↔ (session log).permits tidy e = true ∧ InSession tidy log :=
  Monitor.accepts_cons

theorem Session.permits_begun (he : e.movesSession = false) :
    Session.begun.permits tidy e = true := by
  cases e <;> first | rfl | exact absurd he Bool.noConfusion

theorem Session.permits_of_quiet (s : Session) (hmoves : e.movesSession = false)
    (hneeds : e.needsSession = false) : s.permits tidy e = true := by
  cases e <;> first
    | rfl
    | exact absurd hmoves Bool.noConfusion
    | exact absurd hneeds Bool.noConfusion

theorem Session.after_of_not_moves (s : Session) (he : e.movesSession = false)
    (hs : s = .begun ∨ e.needsSession = false) : s.after e = s := by
  cases s <;> cases e <;> first
    | rfl
    | exact absurd he Bool.noConfusion
    | exact hs.elim (fun h => absurd h (by decide)) fun h => absurd h Bool.noConfusion

theorem Event.not_moves_of_kind (he : e.kind ≠ .connection) : e.movesSession = false := by
  cases e <;> first | rfl | exact absurd rfl he

end Sessions

/-! ## Worlds -/

/-- The log so far is in order, and CONNECT was started on the connection. -/
def World.Begun (tidy : Bool) (w : World) : Prop := session w.log = .begun ∧ InSession tidy w.log

/-- The log so far is in order, and there is nothing to release. -/
def World.Released (tidy : Bool) (w : World) : Prop :=
  session w.log = .released ∧ InSession tidy w.log

/-- The log so far is in order.  A client that counts as connected has started CONNECT on
its connection, and one that does not has left nothing behind, if it is tidy. -/
structure World.Settled (tidy : Bool) (w : World) : Prop where
  /-- The log is in order. -/
  inSession : InSession tidy w.log
  /-- An online client has started CONNECT. -/
  online : w.client.clientState.isOnline = true → session w.log = .begun
  /-- An offline client has nothing to release. -/
  offline : tidy = true → w.client.clientState.isOnline = false → session w.log = .released

section Worlds

variable {tidy : Bool} {w w' : World} {e : Event}

theorem World.Begun.settled (h : w.Begun tidy) (honline : w.client.clientState.isOnline = true) :
    w.Settled tidy :=
  ⟨h.2, fun _ => h.1, fun _ hoffline => absurd (honline.symm.trans hoffline) (by decide)⟩

theorem World.Settled.begun (h : w.Settled tidy) (honline : w.client.clientState.isOnline = true) :
    w.Begun tidy := ⟨h.online honline, h.inSession⟩

theorem ClientState.isOnline_of_connected {s : ClientState} (h : s.isConnected = true) :
    s.isOnline = true := by
  simp [ClientState.isOnline, h]

theorem World.Released.settled (h : w.Released tidy)
    (hoffline : w.client.clientState.isOnline = false) : w.Settled tidy :=
  ⟨h.2, fun honline => absurd (honline.symm.trans hoffline) (by decide), fun _ _ => h.1⟩

/-- An offline client may take another offline state. -/
theorem World.Settled.withState (h : w.Settled tidy)
    (hoffline : w.client.clientState.isOnline = false) {s : ClientState}
    (hs : s.isOnline = false) : (w.withState s).Settled tidy :=
  ⟨h.inSession, fun honline => absurd (honline.symm.trans hs) (by decide),
    fun htidy _ => h.offline htidy hoffline⟩

/-- What settles a client is its log and its state. -/
theorem World.Settled.of_same (h : w.Settled tidy) (hlog : w'.log = w.log)
    (hstate : w'.client.clientState = w.client.clientState) : w'.Settled tidy := by
  constructor
  · rw [hlog]
    exact h.inSession
  · rw [hlog, hstate]
    exact h.online
  · rw [hlog, hstate]
    exact h.offline

theorem World.Begun.push (h : w.Begun tidy) (he : e.movesSession = false) :
    (w.push e).Begun tidy := by
  obtain ⟨hbegun, hlog⟩ := h
  constructor
  · rw [World.log_push, session_cons, hbegun]
    exact Session.begun.after_of_not_moves he (.inl rfl)
  · rw [World.log_push, inSession_cons, hbegun]
    exact ⟨Session.permits_begun he, hlog⟩

theorem inSession_push (h : InSession tidy w.log) (hmoves : e.movesSession = false)
    (hneeds : e.needsSession = false) : InSession tidy (w.push e).log := by
  rw [World.log_push, inSession_cons]
  exact ⟨Session.permits_of_quiet _ hmoves hneeds, h⟩

theorem session_push (hmoves : e.movesSession = false) (hneeds : e.needsSession = false) :
    session (w.push e).log = session w.log := by
  rw [World.log_push, session_cons, Session.after_of_not_moves _ hmoves (.inr hneeds)]

theorem World.Released.push (h : w.Released tidy) (hmoves : e.movesSession = false)
    (hneeds : e.needsSession = false) : (w.push e).Released tidy :=
  ⟨(session_push hmoves hneeds).trans h.1, inSession_push h.2 hmoves hneeds⟩

theorem World.Settled.push (h : w.Settled tidy) (hmoves : e.movesSession = false)
    (hneeds : e.needsSession = false) : (w.push e).Settled tidy := by
  constructor
  · exact inSession_push h.inSession hmoves hneeds
  · intro honline
    rw [session_push hmoves hneeds]
    exact h.online honline
  · intro htidy hoffline
    rw [session_push hmoves hneeds]
    exact h.offline htidy hoffline

/-- Disconnecting and destroying the network releases what a connect took. -/
theorem World.release (h : InSession tidy w.log) (hs : session w.log ≠ .released) (rc : IoTError) :
    ((w.push .netDisconnect).tick.push (.netDestroy rc)).Released tidy := by
  have hclosed : (session w.log).after .netDisconnect = .closed := by
    revert hs
    cases session w.log <;> simp [Session.after]
  have hpermits : (session w.log).permits tidy .netDisconnect = true := by
    simpa [Session.permits] using hs
  constructor
  · rw [World.log_push, session_cons, World.log_tick, World.log_push, session_cons, hclosed]
    rfl
  · rw [World.log_push, inSession_cons, World.log_tick, World.log_push, inSession_cons,
      session_cons, hclosed]
    exact ⟨rfl, hpermits, h⟩

end Worlds

/-! ## Stretches on a connection -/

section Stretches

variable (tidy : Bool)

/-- The client state is back where it was, and a session that has begun goes on. -/
def Stays (w w' : World) : Prop :=
  w'.client.clientState = w.client.clientState ∧ (w.Begun tidy → w'.Begun tidy)

/-- A session that has begun goes on up to a halt. -/
def StaysHalted (w w' : World) : Prop := w.Begun tidy → w'.Begun tidy

/-- The same where a state is held. -/
def StaysHeld (w w' : World) : Prop := w.client.clientState.isHeld = true → Stays tidy w w'

/-- The same where a state is held, up to a halt. -/
def StaysHeldHalted (w w' : World) : Prop :=
  w.client.clientState.isHeld = true → StaysHalted tidy w w'

instance : IsPreorder World (Stays tidy) where
  refl _ := ⟨rfl, id⟩
  trans _ _ _ h h' := ⟨h'.1.trans h.1, fun hbegun => h'.2 (h.2 hbegun)⟩

instance : IsPreorder World (StaysHeld tidy) where
  refl w _ := refl_of (Stays tidy) w
  trans _ _ _ h h' hheld := trans_of (Stays tidy) (h hheld) (h' ((h hheld).1.symm ▸ hheld))

theorem stays_halts : HaltsAfter (Stays tidy) (StaysHalted tidy) where
  refl _ := id
  trans h h' hbegun := h' (h.2 hbegun)

theorem staysHeld_halts : HaltsAfter (StaysHeld tidy) (StaysHeldHalted tidy) where
  refl _ _ := id
  trans h h' hheld hbegun := h' ((h hheld).1.symm ▸ hheld) ((h hheld).2 hbegun)

/-- Programs that stay on the connection. -/
abbrev StaysOn {α : Type} (m : M α) : Prop := Tracks (Stays tidy) (StaysHalted tidy) m

/-- Programs that stay on the connection where a state is held. -/
abbrev StaysOnHeld {α : Type} (m : M α) : Prop := Tracks (StaysHeld tidy) (StaysHeldHalted tidy) m

end Stretches

variable {tidy : Bool}

theorem stays_push (w : World) {e : Event} (he : e.movesSession = false) :
    Stays tidy w (w.push e) := ⟨rfl, fun h => h.push he⟩

theorem stays_packets : PacketSteps (Stays tidy) where
  onClient w _ hf := ⟨(hf w.client).1, id⟩
  tick _ := ⟨rfl, id⟩
  push w _ he := stays_push w (Event.not_moves_of_kind (by rw [he]; decide))
  pushPacket w _ he := stays_push w (Event.not_moves_of_kind (by rw [he]; decide))

theorem staysOnHeld_compositional : Compositional (m := M) (StaysOnHeld tidy) :=
  tracks_compositional (staysHeld_halts tidy)

theorem staysOn_traffic : Traffic (m := M) (StaysOn tidy) :=
  stays_packets.toTrafficSteps.tracking (stays_halts tidy)

theorem StaysOn.held {α : Type} {m : M α} (h : StaysOn tidy m) : StaysOnHeld tidy m := fun w =>
  (h w).mono (fun _ _ hw _ => hw) (fun _ hw _ => hw)

/-- What an operation that took the state `t` gives back. -/
theorem Stays.leave {t : ClientState} {w w₁ : World} (h : Stays tidy (w.withState t) w₁) :
    t = w₁.client.clientState ∧ Stays tidy w (w₁.withState w.client.clientState) :=
  ⟨h.1.symm, rfl, h.2⟩

/-! ## Requests -/

section Requests

variable {env : Env} {fuel : Nat} {callbacks : Callbacks M}

theorem deliverMessage_stays (hmessage : ∀ call, StaysOnHeld tidy (callbacks.message call))
    (msg : IncomingPublish) : StaysOn tidy (deliverMessage env callbacks msg) := by
  have hcomp : Compositional (m := M) (StaysOnHeld tidy) := staysOnHeld_compositional
  have hslot : ∀ itr, StaysOnHeld tidy (deliverToSlot callbacks msg itr) := by
    intro itr w
    rw [ends_deliverToSlot]
    cases slotCall w.client msg itr with
    | none => exact refl_of (StaysHeld tidy) w
    | some call =>
      have hcalled : Stays tidy w (w.push (.handlerCalled call)) := stays_push w rfl
      apply (hmessage call (w.push (.handlerCalled call))).mono
      · intro _ w' h hheld
        exact trans_of (Stays tidy) hcalled (trans_of (Stays tidy) (h hheld) (stays_push w' rfl))
      · intro w' h hheld hbegun
        exact h hheld (hcalled.2 hbegun)
  intro w
  unfold deliverMessage
  simp only [ends_bind, ends_getClientState, ends_setClientState, if_true]
  apply (hcomp.forEach hslot _ _).mono
  · intro _ w₁ h
    obtain ⟨hstate, hleft⟩ := Stays.leave (h rfl)
    rw [if_pos hstate]
    exact hleft
  · intro w₁ h
    exact h rfl

theorem waiting_stays (hmessage : ∀ call, StaysOnHeld tidy (callbacks.message call)) :
    Waiting env callbacks (StaysOn tidy) where
  toPackets := stays_packets.tracking (stays_halts tidy)
  deliverReceived msg := stays_packets.toTrafficSteps.deliverReceived (stays_halts tidy)
    (deliverMessage_stays hmessage msg)
  registerHandler _ _ w := stays_push w rfl
  clearHandlers _ w := stays_push w rfl
  modifyTimer := stays_packets.toTrafficSteps.modifyTimer

theorem performRequest_stays {operation : Operation} {internal : M IoTError}
    (hi : StaysOn tidy internal) (w : World) :
    (performRequest operation w.client.clientState internal : M IoTError).Ends
      (w.withState operation.inProgress) (fun _ => Stays tidy w) (StaysHalted tidy w) := by
  unfold performRequest
  simp only [ends_bind, ends_within, ends_pure, ends_setClientState]
  apply (hi _).mono
  · intro opRc w₁ h
    obtain ⟨hstate, hleft⟩ := Stays.leave h
    rw [if_pos hstate]
    exact hleft
  · exact fun _ h => h

theorem request_stays {operation : Operation} {internal : M IoTError} (hi : StaysOn tidy internal) :
    StaysOn tidy (request operation internal) := by
  intro w
  unfold request
  simp only [ends_bind, ends_getClientState, ends_ite, ends_pure, ends_setClientState]
  split
  · exact refl_of (Stays tidy) w
  split
  · exact refl_of (Stays tidy) w
  rw [if_pos trivial, if_neg (by simp)]
  exact performRequest_stays hi w

theorem unsubscribeRequest_stays {internal : M IoTError} (hi : StaysOn tidy internal) :
    StaysOn tidy (unsubscribeRequest internal) := by
  intro w
  unfold unsubscribeRequest
  simp only [ends_bind, ends_getClientState, ends_ite, ends_pure, ends_setClientState]
  split
  · exact refl_of (Stays tidy) w
  split
  · exact refl_of (Stays tidy) w
  rw [if_pos trivial, if_neg (by simp)]
  exact performRequest_stays hi w

theorem resubscribeRequest_stays {internal : M IoTError} (hi : StaysOn tidy internal) :
    StaysOn tidy (resubscribeRequest internal) := by
  intro w
  unfold resubscribeRequest
  simp only [ends_bind, ends_getClientState, ends_ite, ends_pure, ends_setClientState]
  split
  · exact refl_of (Stays tidy) w
  split
  case isTrue => exact refl_of (Stays tidy) w
  case isFalse hidle =>
    obtain hidle := not_not.mp hidle
    rw [if_pos hidle.symm, if_neg (by simp), ← hidle]
    exact performRequest_stays hi w

/-- The loop of resubscribe stays on the connection. -/
theorem internalResubscribe_stays (hmessage : ∀ call, StaysOnHeld tidy (callbacks.message call)) :
    StaysOn tidy (internalResubscribe env fuel callbacks) :=
  (waiting_stays hmessage).cycling.internalResubscribe fuel fun he w =>
    stays_push w (Event.not_moves_of_kind (by rw [he]; decide))

end Requests

/-! ## Calls of message handlers -/

/-- Calls that do not end the connection where a state is held. -/
def ApiCall.keepsConnection : ApiCall → Bool
  | .init _ | .disconnect => false
  | _ => true

section Handlers

variable {env : Env} {fuel : Nat} {callbacks : Callbacks M}

theorem staysOnHeld_of {α : Type} {m : M α}
    (h : ∀ w : World, w.client.clientState.isHeld = true →
      m.Ends w (fun _ => Stays tidy w) (StaysHalted tidy w)) : StaysOnHeld tidy m :=
  fun w => ends_imp (h w)

theorem attemptReconnect_stays {w : World} (hheld : w.client.clientState.isHeld = true) :
    (attemptReconnect env fuel callbacks : M IoTError).Ends w (fun _ => Stays tidy w)
      (StaysHalted tidy w) := by
  obtain ⟨-, hidle, -, -, herror⟩ := ClientState.isHeld_refused hheld
  unfold attemptReconnect
  simp only [ends_bind, ends_getClientState, ends_ite, ends_pure]
  split
  · exact refl_of (Stays tidy) w
  · apply (connect_held hheld none).mono
    · rintro rc w' rfl
      rw [if_pos hidle]
      unfold enterPending
      simp only [ends_bind, ends_setClientState, ends_emit]
      rw [if_neg (Ne.symm herror)]
      exact stays_push w' rfl
    · exact fun _ h => h.elim

/-- A call that keeps the connection stays on it where a state is held. -/
theorem dispatch_stays (hmessage : ∀ call, StaysOnHeld tidy (callbacks.message call))
    {call : ApiCall} (hcall : call.keepsConnection = true) :
    StaysOnHeld tidy (dispatch env fuel callbacks call) := by
  have hcomp : Compositional (m := M) (StaysOn tidy) := tracks_compositional (stays_halts tidy)
  have htraffic : Traffic (m := M) (StaysOn tidy) := staysOn_traffic
  have hwait : Waiting env callbacks (StaysOn tidy) := waiting_stays hmessage
  cases call with
  | init params => exact absurd hcall Bool.noConfusion
  | connect params =>
    apply staysOnHeld_of
    intro w hheld
    exact (connect_held hheld params).mono (fun _ _ heq => heq ▸ refl_of (Stays tidy) w)
      (fun _ h => h.elim)
  | publish topicName topicNameLen params =>
    show StaysOnHeld tidy (publish env fuel callbacks topicName topicNameLen params)
    apply StaysOn.held
    unfold publish
    split
    · apply hcomp.ite (fun _ => hcomp.pure _)
      exact fun _ => request_stays (hwait.cycling.internalPublish fuel _ _ _)
    · exact hcomp.pure _
  | subscribe topicName topicNameLen qos handler data =>
    show StaysOnHeld tidy (subscribe env fuel callbacks topicName topicNameLen qos handler data)
    apply StaysOn.held
    unfold subscribe
    split
    · exact request_stays (hwait.internalSubscribe fuel _ _ _ _ _)
    · exact hcomp.pure _
  | unsubscribe topicFilter topicFilterLen =>
    show StaysOnHeld tidy (unsubscribe env fuel callbacks topicFilter topicFilterLen)
    apply StaysOn.held
    unfold unsubscribe
    split
    · exact unsubscribeRequest_stays (hwait.internalUnsubscribe fuel _ _)
    · exact hcomp.pure _
  | resubscribe => exact (resubscribeRequest_stays (internalResubscribe_stays hmessage)).held
  | yield timeoutMs =>
    apply staysOnHeld_of
    intro w hheld
    exact (yield_held hheld timeoutMs).mono (fun _ _ heq => heq ▸ refl_of (Stays tidy) w)
      (fun _ h => h.elim)
  | disconnect => exact absurd hcall Bool.noConfusion
  | attemptReconnect => exact staysOnHeld_of fun w hheld => attemptReconnect_stays hheld
  | autoreconnectSetStatus newStatus => exact (htraffic.autoreconnectSetStatus newStatus).held
  | setDisconnectHandler given => exact (htraffic.setDisconnectHandler given).held
  | setConnectParams params => exact (htraffic.setConnectParams params).held
  | resetNetworkDisconnectedCount => exact htraffic.resetNetworkDisconnectedCount.held

/-- A handler whose calls keep the connection stays on it. -/
theorem runHandler_stays {nextCall : Nat → Option ApiCall} {run : ApiCall → M IoTError}
    (hnext : ∀ n call, nextCall n = some call → call.keepsConnection = true)
    (hrun : ∀ call, call.keepsConnection = true → StaysOnHeld tidy (run call)) :
    StaysOnHeld tidy (runHandler fuel nextCall run) := by
  have hcomp : Compositional (m := M) (StaysOnHeld tidy) := staysOnHeld_compositional
  apply hcomp.loop
  intro _ w
  rw [ends_bind, ends_ask]
  cases hcall : nextCall w.time with
  | none => exact refl_of (StaysHeld tidy) w
  | some call =>
    have hcalled := hrun call (hnext w.time call hcall)
    exact (hcomp.bind hcalled fun _ => hcomp.pure _) w.tick

/-- Calls that keep the connection stay on it, at any depth of handlers. -/
theorem apiCall_stays (hhandler : ∀ n call, env.messageHandler n = some call →
      call.keepsConnection = true) (fuel : Nat) : ∀ depth call, call.keepsConnection = true →
    StaysOnHeld tidy (apiCall env fuel depth call : M IoTError) := by
  have hcomp : Compositional (m := M) (StaysOnHeld tidy) := staysOnHeld_compositional
  have hemit : ∀ e : Event, e.movesSession = false → StaysOnHeld tidy (emit fun _ => e : M Unit) :=
    fun e he w _ => stays_push w he
  intro depth
  induction depth with
  | zero => intro call _; exact hcomp.halt
  | succ depth ih =>
    intro call hcall
    have hmessage : ∀ c, StaysOnHeld tidy
        ((applicationCallbacks env fuel (apiCall env fuel depth)).message c) :=
      fun _ => runHandler_stays hhandler ih
    apply hcomp.bind (hemit _ rfl)
    intro _
    apply hcomp.bind (dispatch_stays hmessage hcall)
    intro rc
    exact hcomp.bind (hemit _ rfl) fun _ => hcomp.pure _

end Handlers

/-! ## Opening a connection -/

/-- The client state is as it was, and the log is in order with something to release; after
a success the session has begun. -/
structure Opens (tidy : Bool) (rc : IoTError) (w w' : World) : Prop where
  /-- The client state is as it was. -/
  state : w'.client.clientState = w.client.clientState
  /-- The log is in order. -/
  inSession : InSession tidy w'.log
  /-- There is something to release. -/
  unreleased : session w'.log ≠ .released
  /-- After a success the session has begun. -/
  success : rc = .success → w'.Begun tidy

section Opening

variable {env : Env} {fuel : Nat} {callbacks : Callbacks M} {w₀ w : World}

theorem Opens.of_begun {rc : IoTError} {w' : World} (h : w'.Begun tidy)
    (hstate : w'.client.clientState = w.client.clientState) : Opens tidy rc w w' :=
  ⟨hstate, h.2, by rw [h.1]; decide, fun _ => h⟩

theorem Opens.of_failed {rc : IoTError} {w' : World} (hlog : InSession tidy w'.log)
    (hopen : session w'.log ≠ .released)
    (hstate : w'.client.clientState = w.client.clientState) (hrc : rc ≠ .success) :
    Opens tidy rc w w' :=
  ⟨hstate, hlog, hopen, fun h => absurd h hrc⟩

theorem Opens.of_stays {rc : IoTError} {w' : World} (hbegun : w.Begun tidy)
    (hstate : w.client.clientState = w₀.client.clientState) (h : Stays tidy w w') :
    Opens tidy rc w₀ w' := .of_begun (h.2 hbegun) (h.1.trans hstate)

/-- Sending CONNECT begins the session. -/
theorem sendPacket_opens {length : Nat} {timer : Timer} (hopened : session w.log = .opened)
    (hlog : InSession tidy w.log)
    (hconnect : (w.client.writeBuf.slice 0 length).head? = some 0x10) :
    (sendPacket env fuel length timer : M IoTError).Ends w (fun rc => Opens tidy rc w)
      (fun w' => InSession tidy w'.log) := by
  have htraffic : Traffic (m := M) (StaysOn tidy) := staysOn_traffic
  have hbegun : (w.push (sendingEvent length w)).Begun tidy := by
    constructor
    · rw [World.log_push, session_cons, hopened]
      rfl
    · rw [World.log_push, inSession_cons, hopened]
      exact ⟨by simp [sendingEvent, Session.permits, hconnect], hlog⟩
  by_cases hlen : length < w.client.writeBufSize
  · rw [ends_sendPacket hlen]
    apply (htraffic.loop (htraffic.sendPass env length timer) fuel 0 _).mono
    · intro sent w' h
      split
      · have hsent : Stays tidy w' (w'.push (sentEvent length w')) := stays_push w' rfl
        exact Opens.of_stays hbegun rfl (trans_of (Stays tidy) h hsent)
      · exact Opens.of_stays hbegun rfl h
    · exact fun w' h => (h hbegun).2
  · unfold sendPacket
    simp only [ends_bind, ends_getClient, ends_ite, ends_pure]
    rw [if_pos (by omega)]
    exact .of_failed hlog (by rw [hopened]; decide) rfl (by decide)

/-- The CONNECT packet is the first on its connection. -/
theorem exchangeConnect_opens (hmessage : ∀ call, StaysOnHeld tidy (callbacks.message call))
    (hopened : session w.log = .opened) (hlog : InSession tidy w.log) :
    (exchangeConnect env fuel callbacks : M IoTError).Ends w (fun rc => Opens tidy rc w)
      (fun w' => InSession tidy w'.log) := by
  have hwait : Waiting env callbacks (StaysOn tidy) := waiting_stays hmessage
  unfold exchangeConnect
  simp only [ends_bind, ends_getClient, ends_countdownMs, ends_modifyClient, ends_storePacket]
  split
  case h_1 => exact hlog
  case h_2 rc hser =>
    have hne : rc ≠ .success := IoTError.ne_success_of_isError (serializeConnect_error hser)
    exact .of_failed hlog (by simp [hopened]) rfl hne
  case h_3 packet hser =>
    have hlength := length_serializeConnect_lt hser
    obtain ⟨body, -, -, -, rfl⟩ := serializeConnect_packet hser
    rw [Nat.mod_eq_of_lt hlength, if_neg (by simp), ends_bind]
    -- what is sent is the packet that was stored
    refine Ends.mono (sendPacket_opens ?_ ?_ ?_) ?_ (fun _ h => h)
    · exact hopened
    · exact hlog
    · rw [World.client_onClient]
      dsimp only
      rw [Memory.slice_writeAt_self]
      rfl
    · intro rc w₁ hopens
      rw [ends_ite]
      split
      case isTrue hrc => exact .of_failed hopens.inSession hopens.unreleased hopens.state hrc
      case isFalse hrc =>
        have hw₁ : w₁.Begun tidy := hopens.success (not_not.mp hrc)
        apply (hwait.cycling.awaitConnack fuel hwait.modifyTimer _ w₁).mono
        · exact fun rc w' h => .of_stays hw₁ hopens.state h
        · exact fun w' h => (h hw₁).2

/-- A connect takes what its cleanup releases. -/
theorem internalConnect_opens (hmessage : ∀ call, StaysOnHeld tidy (callbacks.message call))
    (params : Option ConnectParams) (hlog : InSession tidy w.log)
    (hready : tidy = true → session w.log = .released) :
    (internalConnect env fuel callbacks params : M IoTError).Ends w (fun rc => Opens tidy rc w)
      (fun w' => InSession tidy w'.log) := by
  have hoptions : (overrideOptions params : M IoTError).Ends w
      (fun rc w₁ => rc = .success ∧ w₁.client.clientState = w.client.clientState ∧
        w₁.log = w.log) (fun w' => InSession tidy w'.log) := by
    cases params with
    | none => exact ⟨rfl, rfl, rfl⟩
    | some new => exact ⟨rfl, rfl, rfl⟩
  unfold internalConnect
  rw [ends_bind]
  apply hoptions.mono _ (fun _ h => h)
  rintro rc w₁ ⟨rfl, hstate, hlog₁⟩
  simp only [ends_bind, ends_ite, ends_pure, ends_netConnect]
  rw [if_neg (by simp)]
  have hpermits : (session w₁.log).permits tidy (.netConnect (env.connect w₁.time)) = true := by
    rw [hlog₁]
    cases htidy : tidy with
    | false => simp [Session.permits]
    | true => simp [Session.permits, hready htidy]
  have hpushed : InSession tidy (w₁.tick.push (.netConnect (env.connect w₁.time))).log := by
    rw [World.log_push, inSession_cons, World.log_tick]
    exact ⟨hpermits, hlog₁ ▸ hlog⟩
  split
  case isTrue hrc =>
    refine .of_failed hpushed ?_ hstate hrc
    simp [Session.after, hrc]
  case isFalse hrc =>
    refine (exchangeConnect_opens hmessage ?_ hpushed).mono ?_ (fun _ h => h)
    · simp [Session.after, not_not.mp hrc]
    · exact fun rc w' h => ⟨h.state.trans hstate, h.inSession, h.unreleased, h.success⟩

end Opening

end AwsIot.Mqtt
