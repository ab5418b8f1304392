/-
  Tirtos/NetworkRuns.lean --- the client over the port to TI-RTOS.

  `iot_tls_destroy` clears the function pointers of the network structure, and only
  `iot_tls_init` sets them again.  So the port serves one connection after each
  initialisation: a client that keeps to its sessions never reads, writes, disconnects or
  destroys through NULL, but it connects through NULL whenever it does so a second time
  (`application_connectsOnce`).
-/
import AwsIot.Mqtt.SessionRuns
import AwsIot.Tirtos.Network

set_option autoImplicit false

namespace AwsIot.Tirtos

open AwsIot.Foundation AwsIot.Foundation.Program
open AwsIot.Linux (TLSConnectParams)
open AwsIot.Mqtt (IoTError Event Session InSession session)

/-! ## Serving the client -/

section Serving

variable (env : SockEnv)

/-- What the port does where the client logs an event.  A run in which a function returns
something else than the client saw is not a run of this client. -/
def serve : Event → Sock Unit
  | .tlsInit rc => do
      let ret ← iotTlsInit env
      if ret ≠ rc then halt
  | .netConnect rc => do
      let ret ← through .connect (iotTlsConnect env)
      if ret ≠ rc then halt
  | .netRead _ _ _ len rc _ _ => do
      let ret ← through .read (iotTlsRead env len)
      if ret.1 ≠ rc then halt
  | .netWrite _ offered rc _ => do
      let ret ← through .write (iotTlsWrite env offered.length)
      if ret.1 ≠ rc then halt
  | .netDisconnect => do let _ ← through .disconnect (iotTlsDisconnect env)
  | .netDestroy rc => do
      let ret ← through .destroy iotTlsDestroy
      if ret ≠ rc then halt
  | _ => return ()

/-- What the port does for a log, whose newest event comes first. -/
def serveAll (log : List Event) : Sock Unit := forEach (serve env) log.reverse

end Serving

/-- The function pointers are set: the client was initialised since its network was
destroyed last. -/
def installed : List Event → Bool
  | [] => false
  | .tlsInit _ :: _ => true
  | .netDestroy _ :: _ => false
  | _ :: log => installed log

/-- At some moment the client connected without having been initialised since its network
was destroyed last. -/
def ConnectsAgain (log : List Event) : Prop :=
  ∃ rc pre, .netConnect rc :: pre <:+ log ∧ installed pre = false

/-- What the port holds after a log. -/
structure Ported (log : List Event) (n : Network) : Prop where
  /-- The pointers are set together. -/
  pointers : ∀ f, n.pointers f = installed log
  /-- None was called that is NULL. -/
  calledNull : n.calledNull = none
  /-- The client did not connect without them. -/
  once : ¬ ConnectsAgain log
  /-- They are set as long as there is something to release. -/
  unreleased : session log ≠ .released → installed log = true

/-- From `start` the port served the client up to a connect that it made again, and the
pointer to connect is NULL there: nothing is served after it. -/
def StopsAgain (env : SockEnv) (start : Network) (log : List Event) (n : Network) : Prop :=
  ∃ rc pre n₁, .netConnect rc :: pre <:+ log ∧ installed pre = false ∧
    (serveAll env pre).run start = .done () n₁ ∧ n = { n₁ with calledNull := some .connect }

/-- How a run breaks off: the port answers something else than the client saw, or the client
connects again. -/
def BreaksOff (env : SockEnv) (start : Network) (log : List Event) (n : Network) : Prop :=
  n.calledNull = none ∨ StopsAgain env start log n

section Served

variable {env : SockEnv} {start : Network} {log : List Event} {n : Network} {e : Event}

theorem connectsAgain_cons : ConnectsAgain (e :: log) ↔
    (∃ rc, e = .netConnect rc ∧ installed log = false) ∨ ConnectsAgain log := by
  constructor
  · rintro ⟨rc, pre, hsuffix, hpre⟩
    rcases List.suffix_cons_iff.mp hsuffix with heq | hlog
    · obtain ⟨rfl, rfl⟩ := List.cons.inj heq
      exact .inl ⟨rc, rfl, hpre⟩
    · exact .inr ⟨rc, pre, hlog, hpre⟩
  · rintro (⟨rc, rfl, hnot⟩ | ⟨rc, pre, hlog, hpre⟩)
    · exact ⟨rc, log, List.suffix_refl _, hnot⟩
    · exact ⟨rc, pre, hlog.trans (List.suffix_cons e log), hpre⟩

/-- A client that does not connect, or may, does not connect again. -/
theorem not_connectsAgain_cons (h : ¬ ConnectsAgain log)
    (he : installed log = true ∨ ∀ rc, e ≠ .netConnect rc) : ¬ ConnectsAgain (e :: log) := by
  intro hagain
  rcases connectsAgain_cons.mp hagain with ⟨rc, heq, hnot⟩ | hold
  · rcases he with hset | hne
    · exact absurd (hset.symm.trans hnot) (by simp)
    · exact hne rc heq
  · exact h hold

theorem BreaksOff.later (h : BreaksOff env start log n) : BreaksOff env start (e :: log) n := by
  apply h.imp_right
  rintro ⟨rc, pre, n₁, hsuffix, hstops⟩
  exact ⟨rc, pre, n₁, hsuffix.trans (List.suffix_cons e log), hstops⟩

theorem Ported.breaksOff {log' : List Event} (h : Ported log n) : BreaksOff env start log' n :=
  .inl h.calledNull

/-- Only a connect takes something that is to be released. -/
theorem after_released (he : ∀ rc, e ≠ .netConnect rc) : Session.released.after e = .released := by
  cases e <;> first | rfl | exact absurd rfl (he _)

/-- An event that leaves the pointers alone, and is no connect without them. -/
theorem Ported.later (h : Ported log n) (hsame : installed (e :: log) = installed log)
    (he : installed log = true ∨ ∀ rc, e ≠ .netConnect rc) : Ported (e :: log) n where
  pointers f := by rw [hsame, h.pointers]
  calledNull := h.calledNull
  once := not_connectsAgain_cons h.once he
  unreleased hsession := by
    rw [hsame]
    rcases he with hset | hne
    · exact hset
    · apply h.unreleased
      intro hreleased
      rw [Mqtt.session_cons, hreleased, after_released hne] at hsession
      exact hsession rfl

/-- A function that is called through its pointer leaves the pointers alone. -/
theorem through_ported {α : Type} {f : NetFunction} {x : Sock α} (hx : LeavesPointers x)
    (h : Ported log n) (hset : installed log = true) :
    (through f x).Ends n (fun _ n' => Ported log n') (BreaksOff env start log) := by
  have hcalled : through f x n = x n := if_pos ((h.pointers f).trans hset)
  have hleaves : ∀ n', KeepsPointers n n' → Ported log n' := by
    rintro n' ⟨hpointers, hnull⟩
    refine ⟨fun f => ?_, hnull.trans h.calledNull, h.once, h.unreleased⟩
    rw [hpointers, h.pointers]
  unfold Ends
  rw [hcalled]
  exact (hx n).mono (fun _ n' h => hleaves n' h) (fun n' h => (hleaves n' h).breaksOff)

/-- What a function returns is what the client saw, or the run breaks off. -/
theorem ends_returning {α : Type} {x : Sock α} {p : α → Prop} [DecidablePred p]
    {log' : List Event}
    (h : x.Ends n (fun _ n' => Ported log' n') (BreaksOff env start log')) :
    (x >>= fun ret => if p ret then halt else pure ()).Ends n (fun _ n' => Ported log' n')
      (BreaksOff env start log') := by
  rw [ends_bind]
  apply h.mono _ (fun _ h => h)
  intro ret n' h'
  rw [ends_ite]
  split
  · exact h'.breaksOff
  · exact h'

/-- A function of the port that a client calls in its session. -/
theorem serve_through {α : Type} {f : NetFunction} {x : Sock α} (hx : LeavesPointers x)
    (h : Ported log n) (hset : installed log = true)
    (hsame : installed (e :: log) = installed log) :
    (through f x).Ends n (fun _ n' => Ported (e :: log) n') (BreaksOff env start (e :: log)) :=
  (through_ported hx h hset).mono (fun _ _ h' => h'.later hsame (.inl hset))
    (fun _ h' => h'.later)

/-- Serving what the client may do in its session. -/
theorem serve_ported (hstart : (serveAll env log).run start = .done () n) (h : Ported log n)
    (he : (session log).permits true e = true) :
    (serve env e).Ends n (fun _ n' => Ported (e :: log) n')
      (BreaksOff env start (e :: log)) := by
  have hset : session log ≠ .released → installed log = true := h.unreleased
  cases e with
  | tlsInit rc =>
    have hinit : (iotTlsInit env).Ends n (fun _ n' => Ported (.tlsInit rc :: log) n')
        (BreaksOff env start (.tlsInit rc :: log)) := by
      have hne : ∀ rc', Event.tlsInit rc ≠ .netConnect rc' := fun rc' heq => by cases heq
      exact ⟨fun _ => rfl, h.calledNull, not_connectsAgain_cons h.once (.inr hne), fun _ => rfl⟩
    exact ends_returning hinit
  | netConnect rc =>
    cases hinstalled : installed log with
    | true => exact ends_returning (serve_through iotTlsConnect_leaves h hinstalled rfl)
    | false =>
      have hcalled : (through .connect (iotTlsConnect env)).Ends n
          (fun _ n' => Ported (.netConnect rc :: log) n')
          (BreaksOff env start (.netConnect rc :: log)) := by
        have hnull : through .connect (iotTlsConnect env) n =
            .halted { n with calledNull := some .connect } :=
          if_neg (by rw [h.pointers, hinstalled]; simp)
        unfold Ends
        rw [hnull]
        exact .inr ⟨rc, log, n, List.suffix_refl _, hinstalled, hstart, rfl⟩
      exact ends_returning hcalled
  | netRead _ _ _ len rc _ _ =>
    have hs : session log = .begun := by simpa [Session.permits] using he
    exact ends_returning (serve_through (iotTlsRead_leaves len) h (hset (by simp [hs])) rfl)
  | netWrite _ offered rc _ =>
    have hs : session log = .begun := by simpa [Session.permits] using he
    exact ends_returning
      (serve_through (iotTlsWrite_leaves offered.length) h (hset (by simp [hs])) rfl)
  | netDisconnect =>
    have hs : session log ≠ .released := by simpa [Session.permits] using he
    unfold serve
    rw [ends_bind]
    exact (serve_through iotTlsDisconnect_leaves h (hset hs) rfl).mono (fun _ _ h => h)
      (fun _ h => h)
  | netDestroy rc =>
    have hs : session log ≠ .released := by simpa [Session.permits] using he
    have hcalled : (through .destroy iotTlsDestroy).Ends n
        (fun _ n' => Ported (.netDestroy rc :: log) n')
        (BreaksOff env start (.netDestroy rc :: log)) := by
      have hdone : through .destroy iotTlsDestroy n =
          .done .success { n with pointers := fun _ => false } :=
        if_pos ((h.pointers .destroy).trans (hset hs))
      unfold Ends
      rw [hdone]
      have hne : ∀ rc', Event.netDestroy rc ≠ .netConnect rc' := fun rc' heq => by cases heq
      have hreleased : session (.netDestroy rc :: log) = .released := by
        rw [Mqtt.session_cons]
        cases session log <;> rfl
      exact ⟨fun _ => rfl, h.calledNull, not_connectsAgain_cons h.once (.inr hne),
        fun hunreleased => absurd hreleased hunreleased⟩
    exact ends_returning hcalled
  | _ => exact h.later rfl (.inr fun rc heq => by cases heq)

/-- Serving a client that keeps to its sessions. -/
theorem serveAll_ported (hpointers : ∀ f, start.pointers f = false)
    (hnull : start.calledNull = none) (h : InSession true log) :
    (serveAll env log).Ends start (fun _ n' => Ported log n') (BreaksOff env start log) := by
  induction log with
  | nil =>
    refine ⟨hpointers, hnull, fun hagain => ?_, fun hne => absurd rfl hne⟩
    obtain ⟨rc, pre, hsuffix, -⟩ := hagain
    exact absurd (List.suffix_nil.mp hsuffix) (by simp)
  | cons e log ih =>
    obtain ⟨hpermits, hlog⟩ := Mqtt.inSession_cons.mp h
    have hruns : (serveAll env log).Ends start
        (fun _ n' => (serveAll env log).run start = .done () n') (fun _ => True) :=
      ends_iff_run.mpr ⟨fun _ _ hrun => hrun, fun _ _ => trivial⟩
    rw [serveAll, List.reverse_cons, ends_forEach_append]
    apply ((ih hlog).and hruns).mono _ (fun _ h => h.1.later)
    rintro _ n₁ ⟨hn₁, hrun⟩
    rw [forEach, ends_bind]
    exact (serve_ported hrun hn₁ hpermits).mono (fun _ _ h => h) (fun _ h => h)

end Served

/-! ## Runs of the client -/

/-- A network structure as the application declares it. -/
def Network.declared (params : TLSConnectParams) : Network where
  params := params
  pointers _ := false
  ssock := none
  tlsH := none
  log := []
  calledNull := none

/-- A run of the client over the port. -/
def runOver (env : SockEnv) (params : TLSConnectParams) (given : Mqtt.Env) (fuel : Nat)
    (calls : List Mqtt.ApiCall) : Outcome Network Unit :=
  (serveAll env (Mqtt.World.after given fuel calls).log).run (.declared params)

/-- In every run of the client over the port, up to every moment and whatever the libraries
of the device answer: the only function pointer that is NULL when it is called is the one to
connect, at a connect that the client makes again, and no run in which it does goes on. -/
theorem application_connectsOnce {given : Mqtt.Env} (hdestroy : ∀ n, given.destroy n = .success)
    (hmessage : ∀ n call, given.messageHandler n = some call → call.keepsConnection = true)
    (hdisconnect : ∀ n call, given.disconnectHandler n = some call → call.leavesClosed = true)
    (fuel : Nat) (calls : List Mqtt.ApiCall) (env : SockEnv) (params : TLSConnectParams) :
    (∀ f, (runOver env params given fuel calls).state.calledNull = some f →
      f = .connect ∧ StopsAgain env (.declared params) (Mqtt.World.after given fuel calls).log
        (runOver env params given fuel calls).state) ∧
    ((runOver env params given fuel calls).value? = some () →
      ¬ ConnectsAgain (Mqtt.World.after given fuel calls).log) := by
  have hsession : InSession true (Mqtt.World.after given fuel calls).log :=
    Mqtt.application_permitted hdestroy hmessage (fun n call _ => hdisconnect n call) fuel calls
  have hserved : (serveAll env (Mqtt.World.after given fuel calls).log).Ends (.declared params)
      (fun _ n => Ported (Mqtt.World.after given fuel calls).log n)
      (BreaksOff env (.declared params) (Mqtt.World.after given fuel calls).log) :=
    serveAll_ported (fun _ => rfl) rfl hsession
  have hnull : (serveAll env (Mqtt.World.after given fuel calls).log).Ends (.declared params)
      (fun _ n => ∀ f, n.calledNull = some f → f = .connect ∧
        StopsAgain env (.declared params) (Mqtt.World.after given fuel calls).log n)
      (fun n => ∀ f, n.calledNull = some f → f = .connect ∧
        StopsAgain env (.declared params) (Mqtt.World.after given fuel calls).log n) := by
    apply hserved.mono
    · intro _ n h f hcalled
      rw [h.calledNull] at hcalled
      cases hcalled
    · rintro n (hnone | hstops) f hcalled
      · rw [hnone] at hcalled
        cases hcalled
      · refine ⟨?_, hstops⟩
        obtain ⟨_, _, _, _, _, _, heq⟩ := hstops
        rw [heq] at hcalled
        exact (Option.some.inj hcalled).symm
  exact ⟨ends_state_iff.mp hnull, fun hvalue => (hserved.of_run (run_eq_done hvalue)).once⟩

/-- Parameters that name no file and no host. -/
def blankParams : TLSConnectParams where
  pRootCALocation := default
  pDeviceCertLocation := default
  pDevicePrivateKeyLocation := default
  pDestinationURL := default
  destinationPort := 8883
  timeoutMs := 5000
  serverVerificationFlag := true

/-- `TLS_create` fails. -/
def noContextEnv : SockEnv where
  answer _ := 0
  handle _ := none
  left _ := 1000
  given _ := blankParams
  timeout := -1

/-- The client sees it as what `networkStack.connect` returns. -/
def refusingEnv : Mqtt.Env := { Mqtt.quietEnv with connect := fun _ => .networkSslInitError }

/-- A connect that fails, and another one. -/
def twoConnects : List Mqtt.ApiCall :=
  [.init Mqtt.plainInit, .connect (some Mqtt.plainConnect), .connect none]

/-- A client that connects twice. -/
theorem connectsOnce_twoConnects :
    (∀ f, (runOver noContextEnv blankParams refusingEnv 8 twoConnects).state.calledNull = some f →
      f = .connect ∧ StopsAgain noContextEnv (.declared blankParams)
        (Mqtt.World.after refusingEnv 8 twoConnects).log
        (runOver noContextEnv blankParams refusingEnv 8 twoConnects).state) ∧
    ((runOver noContextEnv blankParams refusingEnv 8 twoConnects).value? = some () →
      ¬ ConnectsAgain (Mqtt.World.after refusingEnv 8 twoConnects).log) := by
  apply application_connectsOnce (fun _ => rfl)
  · intro n call hcall
    exact absurd hcall (by simp [refusingEnv, Mqtt.quietEnv])
  · intro n call hcall
    exact absurd hcall (by simp [refusingEnv, Mqtt.quietEnv])

-- the second connect is made through NULL
example : ((runOver noContextEnv blankParams refusingEnv 8 twoConnects).state.calledNull ==
    some .connect) = true := by decide +kernel

end AwsIot.Tirtos
