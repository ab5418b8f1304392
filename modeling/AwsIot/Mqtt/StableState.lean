/-
  Mqtt/StableState.lean --- no call leaves the client between two operations.

  When an outermost call returns, the client is initialised, idle, disconnected or
  waiting to reconnect.  Yield keeps its state for two return codes, which it takes to
  come from a keep-alive that has moved the client on.  A read of a remaining-length
  byte can return them too, and then the client stays in
  CONNECTED_YIELD_IN_PROGRESS; runs with `UnbrokenYields` have no such read.
-/
import AwsIot.Mqtt.RestingState
import Mathlib.Data.List.Infix

set_option autoImplicit false

namespace AwsIot.Mqtt

open AwsIot.Foundation Program

/-- The states a client may be in between two outermost calls. -/
def ClientState.isStable : ClientState → Bool
  | .initialized | .connectedIdle | .disconnectedError | .disconnectedManually
  | .pendingReconnect => true
  | .invalid | .connecting | .connectedYieldInProgress | .connectedPublishInProgress
  | .connectedSubscribeInProgress | .connectedUnsubscribeInProgress
  | .connectedResubscribeInProgress | .connectedWaitForCbReturn | .disconnecting => false

/-- The event is not a read of a remaining-length byte that tells a yield the connection
is lost, and not an initialisation that fails. -/
def keepsStable : Event → Bool
  | .netRead .remainingLength .connectedYieldInProgress _ _ rc _ _ => !rc.isLost
  | .tlsInit rc => rc = .success
  | _ => true

/-- No yield of the run was told by a read that the connection is lost, and every
initialisation succeeded. -/
def UnbrokenYields (log : List Event) : Prop := ∀ e ∈ log, keepsStable e = true

instance (log : List Event) : Decidable (UnbrokenYields log) :=
  inferInstanceAs (Decidable (∀ e ∈ log, keepsStable e = true))

/-- At rest, the client is in a stable state. -/
def stability : Discipline where
  Ok := UnbrokenYields
  up _ := false
  Rest s _ := s.isStable = true
  ok_tail hok := fun e he => hok e (List.mem_cons_of_mem _ he)
  up_cons _ := rfl
  rest_held {s _} h := by cases s <;> first | rfl | cases h
  connected := rfl
  dropped := rfl
  disconnected := rfl
  cleanup _ h := h
  handled _ _ := rfl
  destroyFailed _ _ := rfl
  invalid hok hne := absurd (by simpa [keepsStable] using hok _ List.mem_cons_self) hne
  initialized _ := rfl
  connectDone h := h
  started _ := rfl
  pending _ _ := rfl
  notPending _ h := h
  due := rfl
  failed := rfl
  idle h := by cases h
  stuck hlost hok _ := by
    have hkeeps := hok _ List.mem_cons_self
    simp [keepsStable, hlost] at hkeeps

/-- An initialisation that succeeds leaves an initialised client. -/
theorem init_initialized {env : Env} {fuel : Nat} {params : InitParams} {w w' : World}
    (hrun : (apiCall env fuel fuel (.init params) : M IoTError).run w = .done .success w') :
    w'.client.clientState = .initialized := by
  have hinit : ∀ w, (init env params : M IoTError).Ends w
      (fun rc w' => rc = .success → w'.client.clientState = .initialized) (fun _ => True) := by
    intro w
    unfold init setConnectParams resetHandlers
    simp only [ends_bind, ends_ite, ends_pure, ends_modifyClient, ends_emit, ends_ask,
      ends_assignClientState]
    split
    · exact fun h => absurd h (by decide)
    rw [if_neg (by simp)]
    split
    case isTrue hfail => exact fun h => absurd h hfail
    case isFalse => exact fun _ => rfl
  obtain ⟨w₁, hstate, rfl⟩ := apiCall_done hrun fun _ => hinit _
  exact hstate rfl

/-- After an initialisation that succeeded, in every run with unbroken yields, whenever the
application is back from its last call, the client is in a stable state. -/
theorem stable_of_unbrokenYields (env : Env) (fuel : Nat) (params : InitParams)
    (calls : List ApiCall) (w₀ w : World)
    (hinit : (apiCall env fuel fuel (.init params) : M IoTError).run World.start =
      .done .success w₀)
    (hrun : (application env fuel calls : M Unit).run w₀ = .done () w)
    (hunbroken : UnbrokenYields w.log) : w.client.clientState.isStable = true := by
  apply Discipline.application_rests (D := stability) hrun hunbroken
  show w₀.client.clientState.isStable = true
  rw [init_initialized hinit]
  rfl

/-! ## A yield that is told -/

/-- The network is gone once the client has connected: every read says so. -/
def lostEnv : Env :=
  { sessionEnv [] with
    read := fun n =>
      if n < 11 then (sessionEnv []).read n else ⟨.networkDisconnectedError, [], 0⟩ }

/-- A client that was initialised. -/
def World.initialized (env : Env) : World :=
  ((apiCall env 8 8 (.init plainInit) : M IoTError).run World.start).state

/-- A client that connects and yields. -/
def connectAndYield (env : Env) : Outcome World Unit :=
  (application env 8 [.connect (some plainConnect), .yield 5] : M Unit).run (World.initialized env)

/-- With a network that stays, a yield leaves the client idle. -/
theorem stable_connectAndYield :
    (connectAndYield (sessionEnv [])).state.client.clientState.isStable = true :=
  stable_of_unbrokenYields (sessionEnv []) 8 plainInit [.connect (some plainConnect), .yield 5] _ _
    (run_eq_done (by decide +kernel)) (run_eq_done (by decide +kernel)) (by decide +kernel)

/-- With a network that is gone, yield returns with the client still yielding. -/
theorem not_stable_lostNetwork :
    (connectAndYield lostEnv).value? = some () ∧
    (connectAndYield lostEnv).state.client.clientState = .connectedYieldInProgress ∧
    (connectAndYield lostEnv).state.client.clientState.isStable = false := by
  decide +kernel

end AwsIot.Mqtt
