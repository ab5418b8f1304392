/-
  Mqtt/BackOff.lean --- the back-off of automatic reconnects.

  A yield that loses the connection sets the back-off interval to its minimum, and
  every automatic attempt that fails doubles it.  `aws_iot_mqtt_attempt_reconnect`
  also puts the client into PENDING_RECONNECT, and neither sets the interval nor asks
  whether auto reconnect is enabled.  `RegularReconnects` has it do so only where a
  yield has started to back off and auto reconnect is enabled, and the doubling stay
  inside the interval's type; then a client that waits to reconnect is on schedule
  (`onSchedule_of_regularReconnects`).
-/
import AwsIot.Mqtt.RestingState
import Mathlib.Data.List.Infix

set_option autoImplicit false

namespace AwsIot.Mqtt

open AwsIot.Foundation Program

/-! ## What a log says about the back-off -/

/-- A yield has started to back off since the client was last connected. -/
def backingOff : List Event → Bool
  | [] => false
  | .reconnectStarted _ :: _ => true
  | .connectDone s :: log => s ≠ .connectedIdle && backingOff log
  | _ :: log => backingOff log

/-- Auto reconnect was enabled when the client was put into PENDING_RECONNECT last. -/
def enteredEnabled : List Event → Bool
  | [] => false
  | .reconnectStarted enabled :: _ => enabled
  | .reconnectPending .success enabled :: _ => enabled
  | _ :: log => enteredEnabled log

/-- How many automatic attempts have failed since the connection was lost. -/
def failedAttempts : List Event → Nat
  | [] => 0
  | .reconnectStarted _ :: _ => 0
  | .attemptFailed _ :: log => failedAttempts log + 1
  | _ :: log => failedAttempts log

/-- The newest event is no irregular wait to reconnect and no doubling that wraps. -/
def regularStep : List Event → Bool
  | .reconnectPending .success enabled :: log => enabled && backingOff log
  | .attemptFailed interval :: _ => interval * 2 < 2 ^ 32
  | _ => true

/-- `attempt_reconnect` made the client wait only while a yield had it back off and auto
reconnect was enabled, and no doubling of the interval wrapped. -/
def RegularReconnects (log : List Event) : Prop := ∀ pre, pre <:+ log → regularStep pre = true

instance (log : List Event) : Decidable (RegularReconnects log) :=
  decidable_of_iff (∀ pre ∈ log.tails, regularStep pre = true)
    (by simp [RegularReconnects, List.mem_tails])

theorem RegularReconnects.head {log : List Event} (h : RegularReconnects log) :
    regularStep log = true := h log (List.suffix_refl log)

theorem RegularReconnects.tail {e : Event} {log : List Event}
    (h : RegularReconnects (e :: log)) : RegularReconnects log :=
  fun pre hpre => h pre (hpre.trans (List.suffix_cons e log))

/-- An event that is not about reconnecting says nothing about the back-off. -/
theorem backOff_cons {e : Event} (log : List Event) (he : e.isReconnect = false) :
    backingOff (e :: log) = backingOff log ∧ enteredEnabled (e :: log) = enteredEnabled log ∧
      failedAttempts (e :: log) = failedAttempts log := by
  cases e <;> first | exact ⟨rfl, rfl, rfl⟩ | cases he

theorem Event.isReconnect_of_kind {e : Event} (he : e.kind ≠ .connection) :
    e.isReconnect = false := by
  cases e <;> first | rfl | exact absurd rfl he

/-- The end of a connect that did not leave the client idle says nothing about the
back-off. -/
theorem backingOff_connectDone {s : ClientState} (hs : s ≠ .connectedIdle) (log : List Event) :
    backingOff (.connectDone s :: log) = backingOff log := by
  simp [backingOff, hs]

theorem enteredEnabled_refused {rc : IoTError} (hrc : rc ≠ .success) (enabled : Bool)
    (log : List Event) :
    enteredEnabled (.reconnectPending rc enabled :: log) = enteredEnabled log := by
  cases rc <;> first | rfl | exact absurd rfl hrc

/-! ## The schedule -/

/-- A client that waits to reconnect has auto reconnect enabled and the back-off interval
that its failed attempts ask for, and had them whenever a yield turned to it. -/
structure OnSchedule (env : Env) (w : World) : Prop where
  /-- While backing off, the interval follows the failed attempts. -/
  interval : backingOff w.log = true → w.client.currentReconnectWaitInterval =
    env.config.minReconnectWaitInterval * 2 ^ failedAttempts w.log
  /-- A client that waits is backing off, with auto reconnect enabled. -/
  pending : w.client.clientState = .pendingReconnect →
    backingOff w.log = true ∧ enteredEnabled w.log = true
  /-- Yields that turned to a client that waits found it on schedule. -/
  due : ∀ interval pre, .reconnectDue .pendingReconnect interval :: pre <:+ w.log →
    enteredEnabled pre = true ∧
      interval = env.config.minReconnectWaitInterval * 2 ^ failedAttempts pre

/-- In a regular run, a client on schedule stays on schedule. -/
def KeepsSchedule (env : Env) (w w' : World) : Prop :=
  RegularReconnects w'.log → RegularReconnects w.log ∧ (OnSchedule env w → OnSchedule env w')

section Schedule

variable {env : Env} {w w' : World}

instance : IsPreorder World (KeepsSchedule env) where
  refl _ hregular := ⟨hregular, id⟩
  trans _ _ _ h h' hregular := by
    obtain ⟨hregular₁, hkeeps'⟩ := h' hregular
    obtain ⟨hregular, hkeeps⟩ := h hregular₁
    exact ⟨hregular, fun hw => hkeeps' (hkeeps hw)⟩

/-- The log says the same about the back-off, the interval is the same, and the client
waits no more than before. -/
theorem KeepsSchedule.of_log (hlog : w'.log = w.log)
    (hinterval : w'.client.currentReconnectWaitInterval = w.client.currentReconnectWaitInterval)
    (hstate : w'.client.clientState = .pendingReconnect →
      w.client.clientState = .pendingReconnect) : KeepsSchedule env w w' := by
  unfold KeepsSchedule
  rw [hlog]
  refine fun hregular => ⟨hregular, fun hw => ⟨?_, ?_, ?_⟩⟩
  · rw [hlog, hinterval]
    exact hw.interval
  · rw [hlog]
    exact fun hpending => hw.pending (hstate hpending)
  · rw [hlog]
    exact hw.due

/-- An event that is not a yield turning to the client adds no obligation to `due`. -/
theorem OnSchedule.due_cons (hw : OnSchedule env w) {e : Event}
    (he : ∀ interval, e ≠ .reconnectDue .pendingReconnect interval) :
    ∀ interval pre, .reconnectDue .pendingReconnect interval :: pre <:+ e :: w.log →
      enteredEnabled pre = true ∧
        interval = env.config.minReconnectWaitInterval * 2 ^ failedAttempts pre := by
  intro interval pre hpre
  rcases List.suffix_cons_iff.mp hpre with heq | hpre
  · obtain ⟨rfl, -⟩ := List.cons.inj heq
    exact absurd rfl (he interval)
  · exact hw.due interval pre hpre

/-- An event that says nothing about the back-off keeps the schedule. -/
theorem keepsSchedule_same {e : Event}
    (he : ∀ interval, e ≠ .reconnectDue .pendingReconnect interval)
    (hback : backingOff (e :: w.log) = backingOff w.log)
    (henabled : enteredEnabled (e :: w.log) = enteredEnabled w.log)
    (hfailed : failedAttempts (e :: w.log) = failedAttempts w.log) :
    KeepsSchedule env w (w.push e) := by
  refine fun hregular => ⟨hregular.tail, fun hw => ⟨?_, ?_, hw.due_cons he⟩⟩
  · rw [World.log_push, hback, hfailed]
    exact hw.interval
  · rw [World.log_push, hback, henabled]
    exact hw.pending

theorem keepsSchedule_push {e : Event} (he : e.isReconnect = false) (w : World) :
    KeepsSchedule env w (w.push e) := by
  obtain ⟨hback, henabled, hfailed⟩ := backOff_cons w.log he
  refine keepsSchedule_same ?_ hback henabled hfailed
  rintro interval rfl
  cases he

/-- Updating the handler table keeps the schedule. -/
theorem keepsSchedule_table (table : Nat → MessageHandlers) {e : Event} (he : e.kind = .table)
    (w : World) : KeepsSchedule env w
      ((w.onClient fun c => { c with messageHandlers := table }).push e) := by
  have htable : KeepsSchedule env w (w.onClient fun c => { c with messageHandlers := table }) :=
    .of_log rfl rfl id
  exact trans_of (KeepsSchedule env) htable
    (keepsSchedule_push (Event.isReconnect_of_kind (by rw [he]; decide)) _)

/-- A client that does not wait in its new state keeps the schedule. -/
theorem keepsSchedule_withState {s : ClientState} (hs : s ≠ .pendingReconnect) (w : World) :
    KeepsSchedule env w (w.withState s) :=
  .of_log rfl rfl fun h => absurd h hs

theorem keepsSchedule_steps (env : Env) : PacketSteps (KeepsSchedule env) where
  onClient w f hf := .of_log rfl (hf w.client).2.2.1 fun h => (hf w.client).1.symm.trans h
  tick _ := .of_log rfl rfl id
  push w e he := keepsSchedule_push (Event.isReconnect_of_kind (by rw [he]; decide)) w
  pushPacket w e he := keepsSchedule_push (Event.isReconnect_of_kind (by rw [he]; decide)) w

/-! ## The operations -/

theorem disconnect_keepsSchedule (env : Env) (fuel : Nat) :
    Keeps (KeepsSchedule env) (disconnect env fuel : M IoTError) := by
  have hnet : Network (m := M) (Keeps (KeepsSchedule env)) :=
    { toTraffic := (keepsSchedule_steps env).traffic
      emitConnection := fun _ he w => keepsSchedule_push (he w.client) w }
  intro w
  unfold disconnect
  simp only [ends_bind, ends_getClientState, ends_ite, ends_pure, ends_setClientState, if_true]
  split
  case isTrue hdown => exact refl_of (KeepsSchedule env) w
  case isFalse hup =>
    have hback : w.client.clientState ≠ .pendingReconnect := by
      intro hs
      rw [hs] at hup
      exact hup (by decide)
    have hheld : KeepsSchedule env w (w.withState .disconnecting) :=
      keepsSchedule_withState (by decide) w
    rw [if_neg (by simp)]
    refine (hnet.internalDisconnect env fuel _).mono ?_ (fun _ h => trans_of _ hheld h)
    intro rc w₁ h
    have hdone : KeepsSchedule env w w₁ := trans_of _ hheld h
    split
    · exact trans_of _ hdone (keepsSchedule_withState hback w₁)
    · exact trans_of _ hdone (keepsSchedule_withState (by decide) w₁)

/-- The end of a connect that succeeded: an idle client does not back off. -/
theorem connectDone_keepsSchedule (env : Env) :
    Keeps (KeepsSchedule env)
      (ClientOps.emit fun c => .connectDone c.clientState : M Unit) := by
  intro w
  show KeepsSchedule env w (w.push (.connectDone w.client.clientState))
  by_cases hidle : w.client.clientState = .connectedIdle
  · refine fun hregular => ⟨hregular.tail, fun hw => ⟨?_, ?_, hw.due_cons (by simp)⟩⟩
    · simp [backingOff, hidle]
    · simp [hidle]
  · exact keepsSchedule_same (by simp) (backingOff_connectDone hidle _) rfl rfl

/-- Waiting after a failed attempt: a regular one has a client that backs off. -/
theorem enterPending_keepsSchedule (env : Env) :
    Keeps (KeepsSchedule env) (enterPending : M Unit) := by
  intro w
  unfold enterPending
  simp only [ends_bind, ends_setClientState, ends_emit]
  split
  case isTrue hdown =>
    intro hregular
    have hhead := hregular.head
    simp only [World.log_push, World.log_withState, regularStep, Bool.and_eq_true] at hhead
    exact ⟨hregular.tail, fun hw =>
      ⟨hw.interval, fun _ => ⟨hhead.2, hhead.1⟩, hw.due_cons (by simp)⟩⟩
  case isFalse hother =>
    exact keepsSchedule_same (by simp) rfl (enteredEnabled_refused (by decide) _ _) rfl

/-- Starting to back off: the interval is at its minimum and no attempt has failed. -/
theorem startReconnecting_keepsSchedule (env : Env) (yieldRc : IoTError) :
    Keeps (KeepsSchedule env) (startReconnecting env yieldRc : M (Step IoTError IoTError)) := by
  intro w
  have hsteps := keepsSchedule_steps env
  have hcount : ∀ f : Client → Client, KeepsCore f → KeepsSchedule env w (w.onClient f) :=
    hsteps.onClient w
  unfold startReconnecting startInterval
  simp only [ends_bind, ends_modifyClient, ends_getClient, ends_ite, ends_pure,
    ends_setClientState, ends_emit, ends_countdownMs]
  split
  case isFalse hoff => exact hcount _ fun _ => ⟨rfl, rfl, rfl, rfl⟩
  case isTrue hon =>
    split
    case isFalse hother =>
      rw [if_pos (by decide)]
      exact hcount _ fun _ => ⟨rfl, rfl, rfl, rfl⟩
    case isTrue hdown =>
      rw [if_neg (by simp)]
      intro hregular
      refine ⟨hregular.tail, fun hw => ⟨fun _ => ?_, fun _ => ⟨rfl, hon⟩, hw.due_cons (by simp)⟩⟩
      show env.config.minReconnectWaitInterval = _ * 2 ^ 0
      rw [Nat.pow_zero, Nat.mul_one]

/-- A yield that turns to a client on schedule finds it on schedule. -/
theorem reconnectDue_keepsSchedule (env : Env) :
    Keeps (KeepsSchedule env) (ClientOps.emit fun c =>
      .reconnectDue c.clientState c.currentReconnectWaitInterval : M Unit) := by
  intro w hregular
  refine ⟨hregular.tail, fun hw => ⟨hw.interval, hw.pending, fun interval pre hpre => ?_⟩⟩
  rcases List.suffix_cons_iff.mp hpre with heq | hpre
  · obtain ⟨hdue, rfl⟩ := List.cons.inj heq
    obtain ⟨hstate, rfl⟩ := Event.reconnectDue.inj hdue
    obtain ⟨hback, henabled⟩ := hw.pending hstate.symm
    exact ⟨henabled, hw.interval hback⟩
  · exact hw.due interval pre hpre

/-- A failed attempt doubles the interval. -/
theorem doubleInterval_keepsSchedule (env : Env) :
    Keeps (KeepsSchedule env) (doubleInterval : M Unit) := by
  intro w
  unfold doubleInterval
  simp only [ends_bind, ends_emit, ends_modifyClient]
  intro hregular
  have hfits := hregular.head
  simp only [World.log_onClient, World.log_push, regularStep, decide_eq_true_eq] at hfits
  refine ⟨hregular.tail, fun hw => ⟨fun hback => ?_, hw.pending, hw.due_cons (by simp)⟩⟩
  show w.client.currentReconnectWaitInterval * 2 % 2 ^ 32 = _ * 2 ^ (failedAttempts w.log + 1)
  rw [Nat.mod_eq_of_lt hfits, hw.interval hback, Nat.pow_succ, Nat.mul_assoc]

theorem keepsSchedule_setClientState (env : Env) (site : StateSite) {old new : ClientState}
    (hnew : new ≠ .pendingReconnect) :
    Keeps (KeepsSchedule env) (setClientState site old new : M IoTError) := by
  intro w
  rw [ends_setClientState]
  split
  · exact keepsSchedule_withState hnew w
  · exact refl_of (KeepsSchedule env) w

theorem keepsSchedule_operations (env : Env) :
    Operations (m := M) env (Keeps (KeepsSchedule env)) where
  toTraffic := (keepsSchedule_steps env).traffic
  emitConnection _ he w := keepsSchedule_push (he w.client) w
  getClientState w := refl_of (KeepsSchedule env) w
  setClientState site _ _ hmove := keepsSchedule_setClientState env site hmove.1
  assignClientState hmove w := keepsSchedule_withState hmove.1 w
  within hx := hx
  disconnect := disconnect_keepsSchedule env
  connectDone := connectDone_keepsSchedule env
  enterPending := enterPending_keepsSchedule env
  startReconnecting := startReconnecting_keepsSchedule env
  reconnectDue := reconnectDue_keepsSchedule env
  doubleInterval := doubleInterval_keepsSchedule env

theorem keepsSchedule_everything (env : Env) :
    Everything (m := M) env (Keeps (KeepsSchedule env)) :=
  (keepsSchedule_operations env).everything
    (keepsSchedule_setClientState env .connectDone (by decide))
    (keepsSchedule_steps env).toTrafficSteps.modifyTimer fun fuel hwait =>
    hwait.internalResubscribe fuel fun he w =>
      keepsSchedule_push (Event.isReconnect_of_kind (by rw [he w.client]; decide)) w

end Schedule

/-! ## Runs -/

/-- At rest, a client that waits to reconnect backs off with auto reconnect enabled. -/
def schedule : Discipline where
  Ok := RegularReconnects
  up log := backingOff log && enteredEnabled log
  Rest s b := s.isHeld = false ∧ (s = .pendingReconnect → b = true)
  ok_tail := RegularReconnects.tail
  up_cons he := by
    obtain ⟨hback, henabled, -⟩ := backOff_cons _ (Event.isReconnect_of_kind he)
    rw [hback, henabled]
  rest_held h := h.1
  connected := ⟨rfl, by simp⟩
  dropped := ⟨rfl, by simp⟩
  disconnected := ⟨rfl, by simp⟩
  cleanup _ h := h
  handled _ _ := ⟨rfl, by simp⟩
  destroyFailed _ _ := rfl
  invalid _ _ := ⟨rfl, by simp⟩
  initialized _ := ⟨rfl, by simp⟩
  connectDone {s log} h := by
    refine ⟨h.1, fun hs => ?_⟩
    subst hs
    exact h.2 rfl
  started _ := ⟨rfl, fun _ => rfl⟩
  pending {enabled log} hok _ := by
    refine ⟨rfl, fun _ => ?_⟩
    have hhead := hok.head
    simp only [regularStep, Bool.and_eq_true] at hhead
    simp [backingOff, enteredEnabled, hhead]
  notPending {s rc enabled log} hrc h := by
    refine ⟨h.1, fun hs => ?_⟩
    rw [enteredEnabled_refused hrc]
    exact h.2 hs
  due := rfl
  failed := rfl
  idle _ := ⟨rfl, by simp⟩
  stuck _ _ _ := ⟨rfl, by simp⟩

section Runs

variable {env : Env} {fuel : Nat}

/-- A delivery restores the state it found: a client that waits is still on schedule,
because the handlers leave it backing off as they found it. -/
theorem deliverMessage_keepsSchedule {callbacks : Callbacks M}
    (hmessage : ∀ call, Keeps (KeepsSchedule env) (callbacks.message call))
    (hmoves : ∀ call, Returns (schedule.Moves .handler) (callbacks.message call))
    (msg : IncomingPublish) :
    Keeps (KeepsSchedule env) (deliverMessage env callbacks msg) := by
  have hcomp := (keepsSchedule_steps env).traffic
  have hslot : ∀ itr, Keeps (KeepsSchedule env) (deliverToSlot callbacks msg itr) := by
    intro itr
    refine hcomp.bind hcomp.getClient fun c => ?_
    dsimp only
    split
    · refine hcomp.ite (fun _ => ?_) fun _ => hcomp.pure _
      refine hcomp.bind (fun w => keepsSchedule_push rfl w) fun _ => ?_
      exact hcomp.bind (hmessage _) fun _ w => keepsSchedule_push rfl w
    · exact hcomp.pure _
  intro w
  have hheld : KeepsSchedule env w (w.withState .connectedWaitForCbReturn) :=
    keepsSchedule_withState (by decide) w
  unfold deliverMessage
  simp only [ends_bind, ends_getClientState, ends_setClientState, if_true]
  refine ((hcomp.forEach hslot _ _).and
    (Discipline.deliverSlots_moves hmoves msg _ _)).mono ?_ (fun _ h => trans_of _ hheld h.1)
  rintro - w₁ ⟨hkeeps, hmove⟩
  have hdone : KeepsSchedule env w w₁ := trans_of _ hheld hkeeps
  split
  case isFalse hother => exact hdone
  case isTrue hback =>
    intro hregular
    refine ⟨(hdone hregular).1, fun hw => ?_⟩
    have hw₁ := (hdone hregular).2 hw
    refine ⟨hw₁.interval, fun hpending => ?_, hw₁.due⟩
    have hsame : schedule.up w₁.log = schedule.up w.log := by
      rcases (hmove hregular).2 (.inl rfl) with hsame | hrest
      · exact hsame.2
      · have hnot := hrest.1
        rw [← hback] at hnot
        cases hnot
    have hfound := hw.pending hpending
    rw [← Bool.and_eq_true] at hfound ⊢
    exact hsame.trans hfound

theorem apiCall_keepsSchedule (env : Env) (fuel depth : Nat) (call : ApiCall) :
    Keeps (KeepsSchedule env) (apiCall env fuel depth call : M IoTError) := by
  have hall := keepsSchedule_everything env
  refine hall.apiCall fuel (fun he w => keepsSchedule_push
    (Event.isReconnect_of_kind (by rw [he w.client]; decide)) w) (fun depth ih => ?_) depth call
  have hwait : Waiting (m := M) env (applicationCallbacks env fuel (Mqtt.apiCall env fuel depth))
      (Keeps (KeepsSchedule env)) :=
    { hall.toTraffic with
      emitPacket := fun he w => (keepsSchedule_steps env).pushPacket w _ (he w.client)
      deliverReceived := fun msg =>
        (keepsSchedule_steps env).toTrafficSteps.deliverReceived (haltsAfter_self _)
          (deliverMessage_keepsSchedule (hall.applicationCallbacks fuel ih).1
            (fun _ => Discipline.runHandler_moves env.messageHandler
              (Discipline.apiCall_moves env fuel depth)) msg)
      modifyTimer := (keepsSchedule_steps env).toTrafficSteps.modifyTimer
      registerHandler := fun _ _ w => keepsSchedule_table _ rfl w
      clearHandlers := fun _ w => keepsSchedule_table _ rfl w }
  have hsetup : ∀ {f : Client → Client}, KeepsTable f →
      Keeps (KeepsSchedule env) (modifyClient f : M Unit) := fun hf w =>
    .of_log rfl (hf w.client).2.2 fun h => (hf w.client).1.symm.trans h
  exact hwait.serving (hall.init (fun w => keepsSchedule_table _ rfl w) (fun hf _ => hsetup hf)
    (hsetup fun _ => ⟨rfl, rfl, rfl⟩))

theorem application_keepsSchedule (env : Env) (fuel : Nat) (calls : List ApiCall) :
    Keeps (KeepsSchedule env) (application env fuel calls : M Unit) := by
  have hcomp := (keepsSchedule_steps env).traffic
  exact hcomp.forEach (fun call => hcomp.bind (apiCall_keepsSchedule env fuel fuel call)
    fun _ => hcomp.pure _) calls

theorem onSchedule_start (env : Env) : OnSchedule env World.start where
  interval h := by cases h
  pending h := by cases h
  due _ _ h := absurd (List.suffix_nil.mp h) (by simp)

/-- A yield gives up at once: it returns NETWORK_RECONNECT_TIMED_OUT_ERROR, leaves the
client alone and asks nothing of the network. -/
def YieldGivesUp (env : Env) (fuel depth timeoutMs : Nat) (w : World) : Prop :=
  (apiCall env fuel depth (.yield timeoutMs) : M IoTError).Ends w
    (fun rc w' => rc = .networkReconnectTimedOutError ∧ w'.client = w.client ∧
      w'.log = .returned (.yield timeoutMs) .networkReconnectTimedOutError ::
        .reconnectDue .pendingReconnect w.client.currentReconnectWaitInterval ::
          .called (.yield timeoutMs) :: w.log)
    (fun _ => False)

/-- Past the maximum interval, the first pass of the yield loop gives up. -/
theorem internalYield_givesUp {callbacks : Callbacks M} {w : World} {timeoutMs : Nat}
    (hpending : w.client.clientState = .pendingReconnect)
    (hmax : env.config.maxReconnectWaitInterval < w.client.currentReconnectWaitInterval)
    (htime : env.clock (w.time + 1) < env.clock w.time + timeoutMs) :
    (internalYield env (fuel + 1) callbacks timeoutMs : M IoTError).Ends w
      (fun rc w' => rc = .networkReconnectTimedOutError ∧ w' = w.tick.tick.push
        (.reconnectDue .pendingReconnect w.client.currentReconnectWaitInterval))
      (fun _ => False) := by
  unfold internalYield loop yieldPass
  simp only [ends_bind, ends_countdownMs, ends_hasTimerExpired, ends_ite, ends_pure,
    ends_getClientState, ends_emit, ends_getClient]
  have hruns : ¬ decide (env.clock w.time + timeoutMs ≤ env.clock w.tick.time) = true :=
    fun h => absurd (of_decide_eq_true h) (Nat.not_le.mpr htime)
  have hwaits : w.tick.tick.client.clientState = .pendingReconnect := hpending
  rw [if_neg hruns, if_pos hwaits, hwaits, World.client_push, World.client_tick,
    World.client_tick, if_pos hmax]
  exact ⟨trivial, rfl⟩

/-- Past the maximum interval, a yield whose timer runs at its first test gives up. -/
theorem yield_givesUp {w : World} (hpending : w.client.clientState = .pendingReconnect)
    (hmax : env.config.maxReconnectWaitInterval < w.client.currentReconnectWaitInterval)
    {timeoutMs : Nat} (hgiven : timeoutMs ≠ 0)
    (htime : env.clock (w.time + 1) < env.clock w.time + timeoutMs) (depth : Nat) :
    YieldGivesUp env (fuel + 1) (depth + 1) timeoutMs w := by
  unfold YieldGivesUp apiCall
  simp only [ends_bind, ends_emit, ends_within, ends_pure]
  rw [dispatch, yield, if_neg hgiven]
  unfold yieldRequest performYield
  simp only [ends_bind, ends_within, ends_ite, ends_pure, ends_getClientState]
  rw [World.client_push, if_neg (by simp [hpending]), if_pos hpending]
  refine (internalYield_givesUp (w := w.push (.called (.yield timeoutMs))) hpending hmax
    htime).mono ?_ (fun _ h => h)
  rintro _ _ ⟨rfl, rfl⟩
  rw [if_pos (by decide), ends_setClientState, if_neg (by simp [hpending])]
  exact ⟨rfl, rfl, rfl⟩

/-- Once a client that waits has an interval past the maximum, every yield whose timer
runs at its first test gives up. -/
def GivesUpPastMaximum (env : Env) (w : World) : Prop :=
  w.client.clientState = .pendingReconnect →
    env.config.maxReconnectWaitInterval < w.client.currentReconnectWaitInterval →
    ∀ fuel depth timeoutMs, timeoutMs ≠ 0 →
      env.clock (w.time + 1) < env.clock w.time + timeoutMs →
      YieldGivesUp env (fuel + 1) (depth + 1) timeoutMs w

/-- In every run whose reconnects are regular, a client that waits to reconnect is on
schedule, and past the maximum interval yields give up without another attempt. -/
theorem onSchedule_of_regularReconnects (env : Env) (fuel : Nat) (calls : List ApiCall)
    (hregular : RegularReconnects (World.after env fuel calls).log) :
    OnSchedule env (World.after env fuel calls) ∧
      GivesUpPastMaximum env (World.after env fuel calls) := by
  have hkeeps := ends_state_iff.mp (application_keepsSchedule env fuel calls World.start)
  exact ⟨(hkeeps hregular).2 (onSchedule_start env), fun hpending hmax _ depth _ hgiven htime =>
    yield_givesUp hpending hmax hgiven htime depth⟩

end Runs

/-! ## A reconnect of the application -/

/-- The first connect succeeds and no other; the broker does not answer a PINGREQ.  The
intervals are a few milliseconds. -/
def unreachableEnv : Env :=
  { sessionEnv [] with
    config := { minReconnectWaitInterval := 1, maxReconnectWaitInterval := 2 }
    connect := fun n => if n < 8 then .success else .sslConnectionError }

/-- A client with auto reconnect, whose connection is lost in a yield, and a client
without it that asks to be reconnected: the world they are in after their calls. -/
def World.waiting (enableAutoReconnect : Bool) (calls : List ApiCall) : World :=
  World.after unreachableEnv 8
    (.init { plainInit with enableAutoReconnect := enableAutoReconnect } ::
      .connect (some { plainConnect with keepAliveIntervalInSec := 1 }) :: calls)

/-- After two automatic attempts that failed, the interval is four times its minimum, and
yields give up. -/
theorem onSchedule_lostConnection :
    OnSchedule unreachableEnv (World.waiting true [.yield 1000]) ∧
    GivesUpPastMaximum unreachableEnv (World.waiting true [.yield 1000]) ∧
    (World.waiting true [.yield 1000]).client.clientState = .pendingReconnect ∧
    (World.waiting true [.yield 1000]).client.currentReconnectWaitInterval = 4 := by
  obtain ⟨hschedule, hgives⟩ := onSchedule_of_regularReconnects unreachableEnv 8
    [.init { plainInit with enableAutoReconnect := true },
      .connect (some { plainConnect with keepAliveIntervalInSec := 1 }), .yield 1000]
    (by decide +kernel)
  exact ⟨hschedule, hgives, by decide +kernel, by decide +kernel⟩

/-- A client without auto reconnect that disconnects and asks to be reconnected waits to
reconnect, with an interval that was never set; the next yield attempts to reconnect. -/
theorem not_onSchedule_askedReconnect :
    let w := World.waiting false [.disconnect, .attemptReconnect]
    w.client.clientState = .pendingReconnect ∧ enteredEnabled w.log = false ∧
    w.client.currentReconnectWaitInterval ≠
      unreachableEnv.config.minReconnectWaitInterval * 2 ^ failedAttempts w.log ∧
    ¬ OnSchedule unreachableEnv w ∧
    .attemptFailed 0 ∈ (World.waiting false [.disconnect, .attemptReconnect, .yield 1000]).log := by
  have hpending : (World.waiting false [.disconnect, .attemptReconnect]).client.clientState =
      .pendingReconnect := by decide +kernel
  have hdisabled : enteredEnabled (World.waiting false [.disconnect, .attemptReconnect]).log =
      false := by decide +kernel
  refine ⟨hpending, hdisabled, by decide +kernel, fun hschedule => ?_, by decide +kernel⟩
  have henabled := (hschedule.pending hpending).2
  rw [hdisabled] at henabled
  cases henabled

end AwsIot.Mqtt
