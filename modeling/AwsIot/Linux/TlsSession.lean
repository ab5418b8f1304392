/-
  Linux/TlsSession.lean --- what a TLS connection is used for, and when.

  `iot_tls_connect` makes its calls in one order and reports the one that failed
  (`iotTlsConnect_reports`).  A monitor watches over the mbedTLS objects: each is
  initialised before it is used and freed before it is initialised again, after a failed
  step there is only the cleanup and the read timeout, and data goes over the connection
  only when the handshake is done and the server is who the parameters say, as far as
  they ask for that.  What the functions of
  the wrapper keep of it, one lemma says for each.
-/
import AwsIot.Foundation.Monitor
import AwsIot.Linux.TlsConnect

set_option autoImplicit false

namespace AwsIot.Linux

open AwsIot.Foundation AwsIot.Foundation.Program
open AwsIot.Mqtt (IoTError)

/-! ## Reports -/

/-- The error that an event stands for. -/
def TlsEvent.error : TlsEvent → Option IoTError
  | .tlsInit | .connecting _ => none
  | .made call ret => call.error ret

/-- The errors of a log, newest first. -/
def errors (log : List TlsEvent) : List IoTError := log.filterMap TlsEvent.error

/-- The step that an event completes: a handshake that would block completes none. -/
def TlsEvent.step : TlsEvent → Option MbedCall
  | .tlsInit | .connecting _ => none
  | .made call ret => if call = .sslHandshake ∧ WouldBlock ret then none else some call

/-- The steps of a log, in order. -/
def steps (log : List TlsEvent) : List MbedCall := (log.filterMap TlsEvent.step).reverse

/-- The steps of `iot_tls_connect`. -/
def connectCalls (params : TLSConnectParams) : List MbedCall :=
  setupCalls params ++ [.sslHandshake, .sslGetRecordExpansion] ++ verifyCalls params ++
    [.sslConfReadTimeout iotSslReadTimeout]

section Reports

variable {calls : List MbedCall} {rc : IoTError} {log log' : List TlsEvent}
  {params : TLSConnectParams}

theorem errors_made_none {call : MbedCall} {ret : Int} (h : call.error ret = none) :
    errors (.made call ret :: log) = errors log := List.filterMap_cons_none h

theorem errors_made_some {call : MbedCall} {ret : Int} (h : call.error ret = some rc) :
    errors (.made call ret :: log) = rc :: errors log := List.filterMap_cons_some h

theorem steps_made {call : MbedCall} {ret : Int} (h : ¬ (call = .sslHandshake ∧ WouldBlock ret)) :
    steps (.made call ret :: log) = steps log ++ [call] := by
  have hstep : (TlsEvent.made call ret).step = some call := if_neg h
  simp [steps, List.filterMap_cons_some hstep]

/-- Either no call fails, or the last one does with the result. -/
theorem Goes.errors_eq (h : Goes calls rc log log') :
    errors log' = (if rc = .success then [] else [rc]) ++ errors log := by
  induction h with
  | finished => rfl
  | failed hfailed =>
    rw [if_neg (MbedCall.error_ne_success hfailed)]
    exact errors_made_some hfailed
  | passed hpassed _ ih => rw [ih, errors_made_none hpassed]

/-- The calls are made in order, and all of them if none fails. -/
theorem Goes.steps_eq (h : Goes calls rc log log') (hcalls : .sslHandshake ∉ calls) :
    ∃ done, done <+: calls ∧ steps log' = steps log ++ done ∧ (rc = .success → done = calls) := by
  induction h with
  | finished => exact ⟨[], List.prefix_refl _, by simp, fun _ => rfl⟩
  | @failed call calls ret rc log hfailed =>
    have hne : call ≠ .sslHandshake := fun heq => hcalls (heq ▸ List.mem_cons_self)
    refine ⟨[call], by simp, steps_made fun h => hne h.1, fun hrc => ?_⟩
    exact absurd hrc (MbedCall.error_ne_success hfailed)
  | @passed call calls ret rc log log' hpassed _ ih =>
    have hne : call ≠ .sslHandshake := fun heq => hcalls (heq ▸ List.mem_cons_self)
    obtain ⟨done, hprefix, hsteps, hall⟩ := ih fun hmem => hcalls (List.mem_cons_of_mem _ hmem)
    refine ⟨call :: done, List.cons_prefix_cons.mpr ⟨rfl, hprefix⟩, ?_, fun hrc => ?_⟩
    · rw [hsteps, steps_made fun h => hne h.1]
      simp
    · rw [hall hrc]

theorem error_of_wouldBlock {ret : Int} (h : WouldBlock ret) :
    MbedCall.sslHandshake.error ret = none := if_pos (.inr h)

theorem step_of_wouldBlock {ret : Int} (h : WouldBlock ret) :
    (TlsEvent.made .sslHandshake ret).step = none := if_pos ⟨rfl, h⟩

/-- Handshakes that would block are no errors and no steps. -/
theorem Waits.reports (h : Waits log log') :
    errors log' = errors log ∧ steps log' = steps log := by
  induction h with
  | started => exact ⟨rfl, rfl⟩
  | blocked hblocked _ ih =>
    obtain ⟨herrors, hsteps⟩ := ih
    refine ⟨(errors_made_none (error_of_wouldBlock hblocked)).trans herrors, ?_⟩
    rw [← hsteps, steps, List.filterMap_cons_none (step_of_wouldBlock hblocked), steps]

theorem Shakes.reports {shaken : Bool} (h : Shakes shaken log log') :
    errors log' = (if shaken = true then [] else [.sslConnectionError]) ++ errors log ∧
      steps log' = steps log ++ [.sslHandshake] := by
  obtain ⟨ret, log₁, hwaits, rfl, hended, hshaken⟩ := h
  obtain ⟨herrors, hsteps⟩ := hwaits.reports
  rw [steps_made fun h => hended h.2, hsteps]
  refine ⟨?_, rfl⟩
  by_cases hzero : ret = 0
  · have herror : MbedCall.sslHandshake.error ret = none := if_pos (.inl hzero)
    rw [if_pos (hshaken.mpr hzero), errors_made_none herror, herrors]
    rfl
  · have herror : MbedCall.sslHandshake.error ret = some .sslConnectionError :=
      if_neg (not_or.mpr ⟨hzero, hended⟩)
    have hfalse : ¬ shaken = true := fun h => hzero (hshaken.mp h)
    rw [if_neg hfalse, errors_made_some herror, herrors]
    rfl

theorem sslHandshake_notMem_setupCalls : .sslHandshake ∉ setupCalls params := by
  simp [setupCalls, initOrder, loadCalls, configureCalls]

/-- The verification is one call at most, and it is made. -/
theorem Goes.verify_steps (h : Goes (verifyCalls params) rc log log') :
    steps log' = steps log ++ verifyCalls params := by
  unfold verifyCalls at h ⊢
  by_cases hflag : params.serverVerificationFlag = true
  · rw [if_pos hflag] at h ⊢
    cases h with
    | failed _ => exact steps_made (by simp)
    | passed _ hrest =>
      cases hrest with
      | finished => exact steps_made (by simp)
  · rw [if_neg hflag] at h ⊢
    cases h with
    | finished => exact (List.append_nil _).symm

/-- What a connect reports: the steps it made are the first of those it is to make, in order,
and after SUCCESS all of them; the only one that failed, if any, is the one it reports. -/
theorem Connects.reports (h : Connects params rc log log') :
    errors log' = (if rc = .success then [] else [rc]) ++ errors log ∧
      ∃ done, done <+: connectCalls params ∧ steps log' = steps log ++ done ∧
        (rc = .success → done = connectCalls params) := by
  cases h with
  | unready hsetup hrc =>
    obtain ⟨done, hprefix, hsteps, -⟩ := hsetup.steps_eq sslHandshake_notMem_setupCalls
    refine ⟨hsetup.errors_eq, done, ?_, hsteps, fun h => absurd h hrc⟩
    unfold connectCalls
    rw [List.append_assoc, List.append_assoc]
    exact hprefix.trans (List.prefix_append _ _)
  | unshaken hsetup hshakes =>
    obtain ⟨done, -, hsteps, hall⟩ := hsetup.steps_eq sslHandshake_notMem_setupCalls
    obtain ⟨herrors', hsteps'⟩ := hshakes.reports
    refine ⟨?_, setupCalls params ++ [.sslHandshake], ?_, ?_, fun h => absurd h (by decide)⟩
    · rw [herrors', hsetup.errors_eq]
      rfl
    · unfold connectCalls
      rw [List.append_assoc, List.append_assoc]
      exact (List.prefix_append_right_inj _).mpr (List.prefix_append [_] _)
    · rw [hsteps', hsteps, hall rfl, List.append_assoc]
  | @shaken _ _ log₁ log₂ log₃ ret₁ ret₂ hsetup hshakes hverify =>
    obtain ⟨done, -, hsteps, hall⟩ := hsetup.steps_eq sslHandshake_notMem_setupCalls
    obtain ⟨herrors', hsteps'⟩ := hshakes.reports
    have hsteps'' := hverify.verify_steps
    rw [steps_made (by simp), hsteps', hsteps, hall rfl] at hsteps''
    refine ⟨?_, connectCalls params, List.prefix_refl _, ?_, fun _ => rfl⟩
    · rw [errors_made_none rfl, hverify.errors_eq, errors_made_none rfl, herrors',
        hsetup.errors_eq]
      rfl
    · rw [steps_made (by simp), hsteps'']
      simp [connectCalls]

/-- `iot_tls_connect` returns SUCCESS if no call failed, and else the error of the only one
that did; its steps are the first of those it is to make, in order, and after SUCCESS all of
them.  While it goes on shaking hands, none has failed. -/
theorem iotTlsConnect_reports (env : MbedEnv) (fuel : Nat) (given : Option TLSConnectParams)
    (n : TlsNetwork) : (iotTlsConnect env fuel given).Ends n
      (fun rc n' => errors n'.log = (if rc = .success then [] else [rc]) ++ errors n.log ∧
        ∃ done, done <+: connectCalls (n.params.override given) ∧
          steps n'.log = steps n.log ++ done ∧
          (rc = .success → done = connectCalls (n.params.override given)))
      (fun n' => errors n'.log = errors n.log ∧
        steps n'.log = steps n.log ++ setupCalls (n.params.override given)) := by
  apply (iotTlsConnect_connects given).mono
  · rintro rc n' ⟨-, hconnects⟩
    exact hconnects.reports
  · rintro n' ⟨log₁, hsetup, hwaits⟩
    obtain ⟨done, -, hsteps, hall⟩ := hsetup.steps_eq sslHandshake_notMem_setupCalls
    obtain ⟨herrors', hsteps'⟩ := hwaits.reports
    rw [herrors', hsteps', hsetup.errors_eq, hsteps, hall rfl]
    exact ⟨rfl, rfl⟩

end Reports

/-! ## The monitor -/

/-- What is known of a connection. -/
structure TlsState where
  /-- What the last connect was to connect to. -/
  params : Option TLSConnectParams
  /-- A step failed since the objects were initialised. -/
  failed : Bool
  /-- The object is initialised. -/
  live : TlsObject → Bool
  /-- The verification that is configured. -/
  authmode : Option AuthMode
  /-- The server name that is configured. -/
  hostname : Option CString
  /-- What was configured when the handshake succeeded. -/
  handshake : Option (Option AuthMode × Option CString)
  /-- The certificate of the server was found to be valid. -/
  verified : Bool

/-- Nothing is initialised. -/
def TlsState.blank : TlsState where
  params := none
  failed := false
  live _ := false
  authmode := none
  hostname := none
  handshake := none
  verified := false

/-- What an object holds is gone. -/
def TlsState.forget (s : TlsState) : TlsObject → TlsState
  | .ssl => { s with hostname := none, handshake := none, verified := false }
  | .conf => { s with authmode := none }
  | _ => s

/-- The state after a call that did what it is for. -/
def TlsState.did (s : TlsState) : MbedCall → TlsState
  | .init object => { s.forget object with
      live := Function.update s.live object true, failed := false }
  | .free object => { s.forget object with live := Function.update s.live object false }
  | .sslConfAuthmode mode => { s with authmode := some mode }
  | .sslSetHostname host => { s with hostname := some host }
  | .sslHandshake => { s with handshake := some (s.authmode, s.hostname) }
  | .sslGetVerifyResult => { s with verified := true }
  | _ => s

/-- The state after an event.  `iot_tls_init` frees nothing: what is initialised stays so. -/
def TlsState.after (s : TlsState) : TlsEvent → TlsState
  | .tlsInit => { TlsState.blank with live := s.live }
  | .connecting params => { s with params := some params }
  | .made call ret =>
      if call.error ret ≠ none then { s with failed := true }
      else if call = .sslHandshake ∧ ret ≠ 0 then s
      else s.did call

/-- The handshake was done with the server and the verification that the connect was asked
for, and verification found the server valid where it is required. -/
def TlsState.secured (s : TlsState) : Bool :=
  match s.params with
  | none => false
  | some params =>
      s.handshake == some (some params.authMode, some params.pDestinationURL) &&
        (!params.serverVerificationFlag || s.verified)

/-- Calls that carry the data of the application. -/
def MbedCall.transfers : MbedCall → Bool
  | .sslRead | .sslWrite => true
  | _ => false

/-- Calls that may come after a failed step, besides those that free the objects: a connect
whose verification failed sets the read timeout all the same. -/
def MbedCall.closes : MbedCall → Bool
  | .sslCloseNotify | .sslConfReadTimeout _ => true
  | _ => false

/-- What may be done with a connection. -/
def TlsState.permits (s : TlsState) : TlsEvent → Bool
  | .tlsInit | .connecting _ => true
  | .made (.init object) _ => !s.live object
  | .made (.free object) _ => s.live object
  | .made call _ => call.uses.all s.live && (!s.failed || call.closes) &&
      (!call.transfers || s.secured)

/-- The monitor of a connection. -/
def tlsMonitor : Monitor TlsState TlsEvent where
  start := .blank
  after := TlsState.after
  permits := TlsState.permits

/-- Every object was initialised before it was used and freed before it was initialised again,
and the connection was used only when it was secured. -/
abbrev Sound (log : List TlsEvent) : Prop := tlsMonitor.Accepts log

/-! ## What calls keep -/

/-- The state after a log. -/
abbrev tlsState (log : List TlsEvent) : TlsState := tlsMonitor.state log

/-- Calls that neither initialise nor free an object, carry no data and shake no hands. -/
def MbedCall.plain : MbedCall → Bool
  | .init _ | .free _ | .sslHandshake | .sslRead | .sslWrite => false
  | _ => true

/-- Every object is initialised, and no step failed. -/
def TlsState.Ready (s : TlsState) : Prop := (∀ object, s.live object = true) ∧ s.failed = false

section Keeping

variable {calls : List MbedCall} {call : MbedCall} {ret : Int} {rc : IoTError}
  {log log' : List TlsEvent} {params : TLSConnectParams} {s : TlsState}

theorem after_failed (h : call.error ret = some rc) :
    s.after (.made call ret) = { s with failed := true } := if_pos (by simp [h])

theorem after_passed (h : call.error ret = none) (hcall : call ≠ .sslHandshake) :
    s.after (.made call ret) = s.did call :=
  (if_neg (by simp [h])).trans (if_neg fun h => hcall h.1)

/-- A plain call keeps what is initialised. -/
theorem did_plain (hcall : call.plain = true) :
    (s.did call).live = s.live ∧ (s.did call).failed = s.failed ∧
      (s.did call).params = s.params := by
  cases call <;> first | exact ⟨rfl, rfl, rfl⟩ | exact absurd hcall Bool.noConfusion

/-- A plain call may be made when everything is ready. -/
theorem permits_plain (hcall : call.plain = true) (hready : s.Ready) :
    s.permits (.made call ret) = true := by
  obtain ⟨hlive, hfailed⟩ := hready
  cases call <;> first
    | exact absurd hcall Bool.noConfusion
    | simp [TlsState.permits, MbedCall.uses, MbedCall.transfers, hlive, hfailed]

/-- Plain calls are sound when everything is ready, and leave it ready unless one fails. -/
theorem Goes.plain (h : Goes calls rc log log') (hcalls : ∀ call ∈ calls, call.plain = true)
    (hsound : Sound log) (hready : (tlsState log).Ready) :
    Sound log' ∧ (tlsState log').live = (tlsState log).live ∧
      (tlsState log').params = (tlsState log).params ∧
      (rc = .success → (tlsState log').failed = false ∧
        tlsState log' = calls.foldl TlsState.did (tlsState log)) := by
  induction h with
  | finished => exact ⟨hsound, rfl, rfl, fun _ => ⟨hready.2, rfl⟩⟩
  | @failed call calls ret rc log hfailed =>
    have hcall : call.plain = true := hcalls call List.mem_cons_self
    have hafter : tlsState (.made call ret :: log) = { tlsState log with failed := true } :=
      after_failed hfailed
    refine ⟨Monitor.accepts_cons.mpr ⟨permits_plain hcall hready, hsound⟩, ?_, ?_, fun hrc => ?_⟩
    · rw [hafter]
    · rw [hafter]
    · exact absurd hrc (MbedCall.error_ne_success hfailed)
  | @passed call calls ret rc log log' hpassed _ ih =>
    have hcall : call.plain = true := hcalls call List.mem_cons_self
    have hafter : tlsState (.made call ret :: log) = (tlsState log).did call :=
      after_passed hpassed (fun heq => absurd (heq ▸ hcall) Bool.noConfusion)
    obtain ⟨hlive, hfailed, hparams⟩ := did_plain (s := tlsState log) hcall
    have hready' : (tlsState (.made call ret :: log)).Ready := by
      rw [hafter]
      exact ⟨fun object => by rw [hlive]; exact hready.1 object, hfailed.trans hready.2⟩
    obtain ⟨hsound', hlive', hparams', hall⟩ :=
      ih (fun c hc => hcalls c (List.mem_cons_of_mem _ hc))
        (Monitor.accepts_cons.mpr ⟨permits_plain hcall hready, hsound⟩) hready'
    rw [hafter] at hlive' hparams' hall
    exact ⟨hsound', hlive'.trans hlive, hparams'.trans hparams, hall⟩

/-- Initialising an object, or freeing it. -/
def MbedCall.turn : Bool → TlsObject → MbedCall
  | true => .init
  | false => .free

theorem error_turn (b : Bool) (object : TlsObject) : (MbedCall.turn b object).error ret = none := by
  cases b <;> rfl

/-- An object is initialised where it is not, or freed where it is initialised. -/
theorem permits_turn {b : Bool} {object : TlsObject} (hbefore : s.live object = !b) :
    s.permits (.made (.turn b object) ret) = true := by
  cases b with
  | true => simp [MbedCall.turn, TlsState.permits, hbefore]
  | false => exact hbefore

/-- Turning an object on or off keeps the others; initialising forgets what failed. -/
theorem after_turn (s : TlsState) (b : Bool) (object : TlsObject) (ret : Int) :
    (s.after (.made (.turn b object) ret)).live = Function.update s.live object b ∧
      (s.after (.made (.turn b object) ret)).params = s.params ∧
      (b = true → (s.after (.made (.turn b object) ret)).failed = false) := by
  cases b with
  | true =>
    rw [MbedCall.turn, after_passed rfl (by simp)]
    cases object <;> exact ⟨rfl, rfl, fun _ => rfl⟩
  | false =>
    rw [MbedCall.turn, after_passed rfl (by simp)]
    cases object <;> exact ⟨rfl, rfl, nofun⟩

/-- Initialising objects that are not initialised, or freeing objects that are. -/
theorem Goes.turns {b : Bool} {objects : List TlsObject}
    (h : Goes (objects.map (MbedCall.turn b)) rc log log') (hnodup : objects.Nodup)
    (hsound : Sound log) (hbefore : ∀ object ∈ objects, (tlsState log).live object = !b) :
    Sound log' ∧ (tlsState log').params = (tlsState log).params ∧
      (b = true → (tlsState log).failed = false ∨ objects ≠ [] →
        (tlsState log').failed = false) ∧
      ∀ object, (tlsState log').live object =
        if object ∈ objects then b else (tlsState log).live object := by
  induction objects generalizing log with
  | nil =>
    cases h with
    | finished =>
      exact ⟨hsound, rfl, fun _ h => h.resolve_right fun hne => hne rfl, fun object => by simp⟩
  | cons first objects ih =>
    obtain ⟨hfirst, hnodup⟩ := List.nodup_cons.mp hnodup
    cases h with
    | failed hfailed =>
      rw [error_turn] at hfailed
      cases hfailed
    | @passed _ _ ret _ _ _ _ hrest =>
      obtain ⟨hlive, hparams, hfailed⟩ := after_turn (tlsState log) b first ret
      have hpermits : (tlsState log).permits (.made (.turn b first) ret) = true :=
        permits_turn (hbefore first List.mem_cons_self)
      have hturned : (tlsState (.made (.turn b first) ret :: log)).live =
          Function.update (tlsState log).live first b := hlive
      have hbefore' : ∀ object ∈ objects,
          (tlsState (.made (.turn b first) ret :: log)).live object = !b := by
        intro object hmem
        have hne : object ≠ first := fun heq => hfirst (heq ▸ hmem)
        rw [hturned, Function.update_of_ne hne]
        exact hbefore object (List.mem_cons_of_mem _ hmem)
      obtain ⟨hsound', hparams', hfailed', hall⟩ :=
        ih hrest hnodup (Monitor.accepts_cons.mpr ⟨hpermits, hsound⟩) hbefore'
      refine ⟨hsound', hparams'.trans hparams, fun hb _ => hfailed' hb (.inl (hfailed hb)),
        fun object => ?_⟩
      rw [hall, hturned]
      by_cases heq : object = first
      · simp [heq]
      · simp [heq]

/-- Handshakes that would block change nothing. -/
theorem Waits.sound (h : Waits log log') (hsound : Sound log) (hready : (tlsState log).Ready) :
    Sound log' ∧ tlsState log' = tlsState log := by
  induction h with
  | started => exact ⟨hsound, rfl⟩
  | @blocked ret log' hblocked _ ih =>
    obtain ⟨hsound', hstate⟩ := ih
    have hpermits : (tlsState log').permits (.made .sslHandshake ret) = true := by
      rw [hstate]
      simp [TlsState.permits, MbedCall.uses, MbedCall.transfers, hready.1, hready.2]
    refine ⟨Monitor.accepts_cons.mpr ⟨hpermits, hsound'⟩, ?_⟩
    rw [← hstate]
    exact (if_neg (by simp [error_of_wouldBlock hblocked])).trans
      (if_pos ⟨rfl, fun hzero => absurd (hzero ▸ hblocked.neg) (by decide)⟩)

/-- A handshake that succeeds was done with what is configured. -/
theorem Shakes.sound {shaken : Bool} (h : Shakes shaken log log') (hsound : Sound log)
    (hready : (tlsState log).Ready) :
    Sound log' ∧ tlsState log' = if shaken = true
      then { tlsState log with
        handshake := some ((tlsState log).authmode, (tlsState log).hostname) }
      else { tlsState log with failed := true } := by
  obtain ⟨ret, log₁, hwaits, rfl, hended, hshaken⟩ := h
  obtain ⟨hsound₁, hstate⟩ := hwaits.sound hsound hready
  have hpermits : (tlsState log₁).permits (.made .sslHandshake ret) = true := by
    rw [hstate]
    simp [TlsState.permits, MbedCall.uses, MbedCall.transfers, hready.1, hready.2]
  refine ⟨Monitor.accepts_cons.mpr ⟨hpermits, hsound₁⟩, ?_⟩
  rw [← hstate]
  split
  case isTrue htrue =>
    have hzero : ret = 0 := hshaken.mp htrue
    have herror : MbedCall.sslHandshake.error ret = none := if_pos (.inl hzero)
    exact (if_neg (by simp [herror])).trans (if_neg fun h => h.2 hzero)
  case isFalse hfalse =>
    have herror : MbedCall.sslHandshake.error ret = some .sslConnectionError :=
      if_neg (not_or.mpr ⟨fun hzero => hfalse (hshaken.mpr hzero), hended⟩)
    exact after_failed herror

theorem Goes.split {calls' : List MbedCall} (h : Goes (calls ++ calls') rc log log') :
    Goes calls rc log log' ∧ rc ≠ .success ∨
      ∃ log₁, Goes calls .success log log₁ ∧ Goes calls' rc log₁ log' := by
  induction calls generalizing log with
  | nil => exact .inr ⟨log, .finished, h⟩
  | cons call calls ih =>
    cases h with
    | failed hfailed => exact .inl ⟨.failed hfailed, MbedCall.error_ne_success hfailed⟩
    | passed hpassed hrest =>
      rcases ih hrest with ⟨hleft, hrc⟩ | ⟨log₁, hleft, hright⟩
      · exact .inl ⟨.passed hpassed hleft, hrc⟩
      · exact .inr ⟨log₁, .passed hpassed hleft, hright⟩

/-- Setting up initialises every object and configures what was asked for. -/
theorem Goes.sets_up (h : Goes (setupCalls params) rc log log') (hsound : Sound log)
    (hblank : ∀ object, (tlsState log).live object = false) :
    Sound log' ∧ (∀ object, (tlsState log').live object = true) ∧
      (tlsState log').params = (tlsState log).params ∧
      (rc = .success → (tlsState log').Ready ∧
        (tlsState log').authmode = some params.authMode ∧
        (tlsState log').hostname = some params.pDestinationURL) := by
  have hinit : ∀ {rc₁ log₁}, Goes (initOrder.map (MbedCall.turn true)) rc₁ log log₁ →
      Sound log₁ ∧ (tlsState log₁).params = (tlsState log).params ∧ (tlsState log₁).Ready := by
    intro rc₁ log₁ hgoes
    obtain ⟨hsound₁, hparams₁, hfailed₁, hlive₁⟩ :=
      hgoes.turns (by decide) hsound fun object _ => hblank object
    refine ⟨hsound₁, hparams₁, fun object => ?_, hfailed₁ rfl (.inr (by decide))⟩
    rw [hlive₁]
    cases object <;> rfl
  rcases Goes.split h with ⟨hgoes, hrc⟩ | ⟨log₁, hgoes, hrest⟩
  · obtain ⟨hsound₁, hparams₁, hready₁⟩ := hinit hgoes
    exact ⟨hsound₁, hready₁.1, hparams₁, fun h => absurd h hrc⟩
  · obtain ⟨hsound₁, hparams₁, hready₁⟩ := hinit hgoes
    have hplain : ∀ call ∈ loadCalls params ++ configureCalls params, call.plain = true := by
      simp [loadCalls, configureCalls, MbedCall.plain]
    obtain ⟨hsound', hlive', hparams', hall⟩ := hrest.plain hplain hsound₁ hready₁
    have hlive : ∀ object, (tlsState log').live object = true := fun object => by
      rw [hlive']
      exact hready₁.1 object
    refine ⟨hsound', hlive, hparams'.trans hparams₁, fun hrc => ?_⟩
    obtain ⟨hfailed', hstate⟩ := hall hrc
    rw [hstate]
    exact ⟨⟨fun object => hready₁.1 object, hready₁.2⟩, rfl, rfl⟩

/-- A connect makes sound use of the objects, and what it returns SUCCESS for is secured. -/
theorem Connects.sound (h : Connects params rc log log') (hsound : Sound log)
    (hblank : ∀ object, (tlsState log).live object = false)
    (hparams : (tlsState log).params = some params) :
    Sound log' ∧ (∀ object, (tlsState log').live object = true) ∧
      (rc = .success → (tlsState log').failed = false ∧ (tlsState log').secured = true) := by
  cases h with
  | unready hsetup hrc =>
    obtain ⟨hsound', hlive, -, -⟩ := hsetup.sets_up hsound hblank
    exact ⟨hsound', hlive, fun h => absurd h hrc⟩
  | unshaken hsetup hshakes =>
    obtain ⟨hsound₁, hlive, -, hall⟩ := hsetup.sets_up hsound hblank
    obtain ⟨hsound', hstate⟩ := hshakes.sound hsound₁ (hall rfl).1
    refine ⟨hsound', fun object => ?_, fun h => absurd h (by decide)⟩
    rw [hstate]
    exact hlive object
  | @shaken _ _ log₁ log₂ log₃ ret₁ ret₂ hsetup hshakes hverify =>
    obtain ⟨hsound₁, hlive, hparams₁, hall⟩ := hsetup.sets_up hsound hblank
    obtain ⟨hready, hauthmode, hhostname⟩ := hall rfl
    obtain ⟨hsound₂, hstate⟩ := hshakes.sound hsound₁ hready
    rw [if_pos rfl, hauthmode, hhostname] at hstate
    have hready₂ : (tlsState log₂).Ready := by
      rw [hstate]
      exact hready
    have hready₃ : (tlsState (.made .sslGetRecordExpansion ret₁ :: log₂)).Ready := hready₂
    have hpermits : (tlsState log₂).permits (.made .sslGetRecordExpansion ret₁) = true :=
      permits_plain rfl hready₂
    have hsound₃ : Sound (.made .sslGetRecordExpansion ret₁ :: log₂) :=
      Monitor.accepts_cons.mpr ⟨hpermits, hsound₂⟩
    have hplain : ∀ call ∈ verifyCalls params, call.plain = true := by
      unfold verifyCalls
      split <;> simp [MbedCall.plain]
    obtain ⟨hsound₄, hlive₄, hparams₄, hall₄⟩ := hverify.plain hplain hsound₃ hready₃
    have hlive₅ : ∀ object, (tlsState log₃).live object = true := fun object => by
      rw [hlive₄]
      exact hready₃.1 object
    have hlast : (tlsState log₃).permits
        (.made (.sslConfReadTimeout iotSslReadTimeout) ret₂) = true := by
      simp [TlsState.permits, MbedCall.uses, MbedCall.transfers, MbedCall.closes, hlive₅]
    refine ⟨Monitor.accepts_cons.mpr ⟨hlast, hsound₄⟩, hlive₅, fun hrc => ?_⟩
    obtain ⟨hfailed, hverified⟩ := hall₄ hrc
    refine ⟨hfailed, ?_⟩
    show (tlsState log₃).secured = true
    have hlast₃ : tlsState (.made .sslGetRecordExpansion ret₁ :: log₂) = tlsState log₂ := rfl
    rw [hverified, hlast₃, hstate, verifyCalls]
    by_cases hflag : params.serverVerificationFlag = true
    · rw [if_pos hflag]
      simp [TlsState.secured, TlsState.did, hparams₁, hparams]
    · rw [if_neg hflag]
      simp [TlsState.secured, hparams₁, hparams, hflag]

end Keeping

end AwsIot.Linux
