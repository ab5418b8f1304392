/-
  Linux/TlsRuns.lean --- the client over the Linux port.

  The wrapper serves what the client does with its network, in the order in which the
  client does it.  A client that keeps to its sessions, and is initialised only between
  them, makes sound use of mbedTLS through it: whatever mbedTLS answers, no object is used
  before it is initialised, freed twice or initialised over one that is still in use, and
  no byte of the application is exchanged before the server is known (`application_sound`).
-/
import AwsIot.Linux.TlsSession
import AwsIot.Mqtt.SessionRuns

set_option autoImplicit false

namespace AwsIot.Linux

open AwsIot.Foundation AwsIot.Foundation.Program
open AwsIot.Mqtt (IoTError Event Session InSession session)

/-! ## Serving the client -/

variable (env : MbedEnv) (fuel : Nat)

/-- How often a transfer that begins now calls mbedTLS. -/
def countPasses : Mbed Nat := fun n => .done (env.passes n.log.length) n

/-- `iot_tls_read` or `iot_tls_write`, as far as mbedTLS sees it. -/
def transfer (call : MbedCall) : Mbed Unit := do
  let passes ← countPasses env
  forEach (fun _ => do let _ ← mbedtls env call) (List.replicate passes ())

/-- What the wrapper does where the client logs an event.  A run in which a function returns
something else than the client saw is not a run of this client. -/
def serve : Event → Mbed Unit
  | .tlsInit rc => do
      let ret ← iotTlsInit env
      if ret ≠ rc then halt
  | .netConnect rc => do
      let ret ← iotTlsConnect env fuel none
      if ret ≠ rc then halt
  | .netRead .. => transfer env .sslRead
  | .netWrite .. => transfer env .sslWrite
  | .netDisconnect => do let _ ← iotTlsDisconnect env fuel
  | .netDestroy rc => do
      let ret ← iotTlsDestroy env
      if ret ≠ rc then halt
  | _ => return ()

/-- What the wrapper does for a log, whose newest event comes first. -/
def serveAll (log : List Event) : Mbed Unit := forEach (serve env fuel) log.reverse

/-- The network was initialised only when there was nothing to release. -/
def InitsReleased : List Event → Prop
  | [] => True
  | e :: log => InitsReleased log ∧ (e.initsNetwork = true → session log = .released)

instance decidableInitsReleased : ∀ log, Decidable (InitsReleased log)
  | [] => .isTrue trivial
  | e :: log =>
      have := decidableInitsReleased log
      inferInstanceAs
        (Decidable (InitsReleased log ∧ (e.initsNetwork = true → session log = .released)))

/-- What the wrapper holds while the client is in a session. -/
structure Served (s : Session) (n : TlsNetwork) : Prop where
  /-- The use of mbedTLS was sound. -/
  sound : Sound n.log
  /-- Nothing is initialised when there is nothing to release. -/
  released : s = .released → ∀ object, (tlsState n.log).live object = false
  /-- Everything is initialised otherwise. -/
  unreleased : s ≠ .released → ∀ object, (tlsState n.log).live object = true
  /-- An open connection is secured. -/
  secured : s = .opened ∨ s = .begun →
    (tlsState n.log).failed = false ∧ (tlsState n.log).secured = true

section Serving

variable {env : MbedEnv} {fuel : Nat} {s : Session} {n : TlsNetwork} {e : Event}

/-- With nothing to release, nothing is initialised. -/
theorem served_released (hsound : Sound n.log)
    (hblank : ∀ object, (tlsState n.log).live object = false) : Served .released n where
  sound := hsound
  released _ := hblank
  unreleased hne := absurd rfl hne
  secured hopen := by simp at hopen

/-- Without a connection, but with something to release, everything is initialised. -/
theorem served_closed (hsound : Sound n.log)
    (hlive : ∀ object, (tlsState n.log).live object = true) : Served .closed n where
  sound := hsound
  released heq := by simp at heq
  unreleased _ := hlive
  secured hopen := by simp at hopen

/-- With a connection, it is secured besides. -/
theorem served_connected (hs : s ≠ .released) (hsound : Sound n.log)
    (hlive : ∀ object, (tlsState n.log).live object = true)
    (hsecured : (tlsState n.log).failed = false ∧ (tlsState n.log).secured = true) :
    Served s n where
  sound := hsound
  released heq := absurd heq hs
  unreleased _ := hlive
  secured _ := hsecured

/-- A network structure that nothing happened to. -/
theorem served_start (h : n.log = []) : Served .released n := by
  apply served_released
  · rw [h]
    exact Monitor.accepts_nil _
  · intro object
    rw [h]
    rfl

/-- What the client does besides leaves the connection as it is. -/
theorem Served.quiet (h : Served s n) (he : e.movesSession = false) : Served (s.after e) n := by
  have hafter : s.after e = s ∨ (s = .opened ∧ s.after e = .begun) := by
    cases s <;> cases e <;> first
      | exact .inl rfl
      | exact .inr ⟨rfl, rfl⟩
      | exact absurd he Bool.noConfusion
  rcases hafter with heq | ⟨rfl, hbegun⟩
  · rw [heq]
    exact h
  · rw [hbegun]
    exact served_connected (by simp) h.sound (h.unreleased (by simp)) (h.secured (.inl rfl))

/-- Data is exchanged over a secured connection. -/
theorem transfer_served {call : MbedCall} (hcall : call.transfers = true)
    (h : Served .begun n) :
    (transfer env call).Ends n (fun _ n' => Served .begun n') (fun _ => False) := by
  have hstep : ∀ n₁ : TlsNetwork, Served .begun n₁ → ∀ ret,
      Served .begun (n₁.push (.made call ret)) := by
    intro n₁ hn₁ ret
    have hlive := hn₁.unreleased (by simp)
    obtain ⟨hfailed, hsecured⟩ := hn₁.secured (.inr rfl)
    have hstate : tlsState (n₁.push (.made call ret)).log = tlsState n₁.log := by
      cases call <;> first | rfl | exact absurd hcall Bool.noConfusion
    have hpermits : (tlsState n₁.log).permits (.made call ret) = true := by
      cases call <;> first
        | exact absurd hcall Bool.noConfusion
        | simp [TlsState.permits, MbedCall.uses, MbedCall.transfers, hlive, hfailed, hsecured]
    apply served_connected (by simp)
    · exact Monitor.accepts_cons.mpr ⟨hpermits, hn₁.sound⟩
    · rw [hstate]
      exact hlive
    · rw [hstate]
      exact ⟨hfailed, hsecured⟩
  have hall : ∀ (passes : List Unit) (n₁ : TlsNetwork), Served .begun n₁ →
      (forEach (fun _ => do let _ ← mbedtls env call) passes).Ends n₁
        (fun _ n' => Served .begun n') (fun _ => False) := by
    intro passes
    induction passes with
    | nil => exact fun n₁ hn₁ => hn₁
    | cons _ passes ih =>
      intro n₁ hn₁
      rw [forEach, ends_bind, ends_bind, ends_mbedtls, ends_pure]
      exact ih _ (hstep n₁ hn₁ _)
  exact hall _ n h

/-- The objects are initialised, and the connection is secured if it is open. -/
theorem iotTlsConnect_served (h : Served .released n) :
    (iotTlsConnect env fuel none).Ends n
      (fun rc n' => Served (if rc = .success then .opened else .closed) n')
      (fun n' => Sound n'.log) := by
  have hsound : Sound (.connecting n.params :: n.log) :=
    Monitor.accepts_cons.mpr ⟨rfl, h.sound⟩
  have hblank : ∀ object, (tlsState (.connecting n.params :: n.log)).live object = false :=
    h.released rfl
  apply (iotTlsConnect_connects none).mono
  · rintro rc n' ⟨-, hconnects⟩
    obtain ⟨hsound', hlive, hsecured⟩ := hconnects.sound hsound hblank rfl
    split
    case isTrue hrc => exact served_connected (by simp) hsound' hlive (hsecured hrc)
    case isFalse => exact served_closed hsound' hlive
  · rintro n' ⟨log₁, hsetup, hwaits⟩
    obtain ⟨hsound₁, -, -, hall⟩ := hsetup.sets_up hsound hblank
    exact (hwaits.sound hsound₁ (hall rfl).1).1

/-- Closing a connection uses the objects, and leaves them initialised. -/
theorem iotTlsDisconnect_served (h : Served s n) (hs : s ≠ .released) :
    (iotTlsDisconnect env fuel).Ends n (fun _ n' => Served .closed n')
      (fun n' => Sound n'.log) := by
  have hclosed : Served .closed n := served_closed h.sound (h.unreleased hs)
  have hpass : ∀ n₁ : TlsNetwork, Served .closed n₁ → ∀ ret,
      Served .closed (n₁.push (.made .sslCloseNotify ret)) := by
    intro n₁ hn₁ ret
    have hlive := hn₁.unreleased (by simp)
    have hpermits : (tlsState n₁.log).permits (.made .sslCloseNotify ret) = true := by
      simp [TlsState.permits, MbedCall.uses, MbedCall.transfers, MbedCall.closes, hlive]
    exact served_closed (Monitor.accepts_cons.mpr ⟨hpermits, hn₁.sound⟩) hlive
  unfold iotTlsDisconnect
  rw [ends_bind]
  apply ends_loop (I := fun _ n₁ => Served .closed n₁) _ (fun _ _ h => h.sound) fuel () n hclosed
  intro _ n₁ hn₁
  simp only [ends_bind, ends_mbedtls, ends_ite, ends_pure]
  split
  · exact hpass n₁ hn₁ _
  · exact hpass n₁ hn₁ _

/-- Destroying a connection frees the objects. -/
theorem iotTlsDestroy_served (h : Served s n) (hs : s ≠ .released) :
    (iotTlsDestroy env).Ends n (fun rc n' => rc = .success ∧ Served .released n')
      (fun n' => Sound n'.log) := by
  unfold iotTlsDestroy
  rw [ends_bind]
  apply (forEach_calls fun _ _ => rfl).mono _ (fun _ h => h.elim)
  rintro _ n' ⟨-, hgoes⟩
  have hfrees : Goes (freeOrder.map (MbedCall.turn false)) .success n.log n'.log := hgoes
  obtain ⟨hsound, -, -, hlive⟩ :=
    hfrees.turns (by decide) h.sound fun object _ => h.unreleased hs object
  refine ⟨rfl, served_released hsound fun object => ?_⟩
  rw [hlive]
  cases object <;> rfl

/-- A function of the wrapper returns what the client saw, or the run is none of it. -/
theorem ends_returning {x : Mbed IoTError} {rc : IoTError} {Q : TlsNetwork → Prop}
    (h : x.Ends n (fun ret n' => Sound n'.log ∧ (ret = rc → Q n')) (fun n' => Sound n'.log)) :
    (x >>= fun ret => if ret ≠ rc then halt else pure ()).Ends n (fun _ n' => Q n')
      (fun n' => Sound n'.log) := by
  rw [ends_bind]
  apply h.mono _ (fun _ h => h)
  intro ret n' hreturned
  obtain ⟨hsound, hsame⟩ := hreturned
  rw [ends_ite]
  split
  case isTrue => exact hsound
  case isFalse heq => exact hsame (not_not.mp heq)

/-- Serving what the client may do in its session, if it initialises the network only with
nothing to release. -/
theorem serve_served (h : Served s n) (he : s.permits true e = true)
    (hinit : e.initsNetwork = true → s = .released) :
    (serve env fuel e).Ends n (fun _ n' => Served (s.after e) n') (fun n' => Sound n'.log) := by
  cases e with
  | tlsInit rc =>
    have hblank : Served .released (({ n with
        params := env.given n.log.length, flags := 0 } : TlsNetwork).push .tlsInit) :=
      served_released (Monitor.accepts_cons.mpr ⟨rfl, h.sound⟩) (h.released (hinit rfl))
    have hinit : (iotTlsInit env).Ends n
        (fun ret n' => Sound n'.log ∧ (ret = rc → Served .released n'))
        (fun n' => Sound n'.log) := ⟨hblank.sound, fun _ => hblank⟩
    exact ends_returning hinit
  | netConnect rc =>
    have hs : s = .released := by simpa [Session.permits] using he
    rw [hs] at h ⊢
    apply ends_returning
    apply (iotTlsConnect_served h).mono _ (fun _ h => h)
    intro ret n' h'
    exact ⟨h'.sound, fun heq => heq ▸ h'⟩
  | netRead _ _ _ _ _ _ _ =>
    have hs : s = .begun := by simpa [Session.permits] using he
    rw [hs] at h ⊢
    have hread : MbedCall.sslRead.transfers = true := rfl
    exact (transfer_served hread h).mono (fun _ _ h => h) (fun _ h => h.elim)
  | netWrite _ _ _ _ =>
    have hs : s = .begun := by simpa [Session.permits] using he
    rw [hs] at h ⊢
    have hwrite : MbedCall.sslWrite.transfers = true := rfl
    exact (transfer_served hwrite h).mono (fun _ _ h => h) (fun _ h => h.elim)
  | netDisconnect =>
    have hs : s ≠ .released := by simpa [Session.permits] using he
    have hafter : s.after .netDisconnect = .closed := by
      revert hs
      cases s <;> simp [Session.after]
    rw [hafter]
    show (iotTlsDisconnect env fuel >>= fun _ => pure ()).Ends n _ _
    rw [ends_bind]
    exact (iotTlsDisconnect_served h hs).mono (fun _ _ h => h) (fun _ h => h)
  | netDestroy rc =>
    have hs : s ≠ .released := by simpa [Session.permits] using he
    have hafter : s.after (.netDestroy rc) = .released := by
      cases s <;> rfl
    rw [hafter]
    apply ends_returning
    exact (iotTlsDestroy_served h hs).mono (fun _ _ h => ⟨h.2.sound, fun _ => h.2⟩) (fun _ h => h)
  | _ => exact h.quiet rfl

/-- Serving a client that keeps to its sessions. -/
theorem serveAll_served (hstart : n.log = []) {log : List Event} (h : InSession true log)
    (hinits : InitsReleased log) :
    (serveAll env fuel log).Ends n (fun _ n' => Served (session log) n')
      (fun n' => Sound n'.log) := by
  induction log with
  | nil => exact served_start hstart
  | cons e log ih =>
    obtain ⟨hpermits, hlog⟩ := Mqtt.inSession_cons.mp h
    unfold serveAll at ih ⊢
    rw [List.reverse_cons, ends_forEach_append]
    apply (ih hlog hinits.1).mono _ (fun _ h => h)
    intro _ n₁ hn₁
    rw [forEach, ends_bind]
    exact serve_served hn₁ hpermits hinits.2

end Serving

/-! ## Runs of the client -/

/-- A network structure as the application declares it. -/
def TlsNetwork.declared (params : TLSConnectParams) : TlsNetwork := ⟨params, 0, []⟩

/-- Parameters that ask for the server to be verified. -/
def verifyingParams : TLSConnectParams where
  pRootCALocation := default
  pDeviceCertLocation := default
  pDevicePrivateKeyLocation := default
  pDestinationURL := ⟨[0x68], by decide⟩
  destinationPort := 8883
  timeoutMs := 5000
  serverVerificationFlag := true

/-- Every call into mbedTLS succeeds, and a transfer makes two. -/
def willingEnv : MbedEnv where
  answer _ := 0
  given _ := verifyingParams
  passes _ := 2

end AwsIot.Linux
