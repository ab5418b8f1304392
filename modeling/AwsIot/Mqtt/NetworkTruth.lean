/-
  Mqtt/NetworkTruth.lean --- the client state tells the truth about the network.

  The network is up from a successful `networkStack.connect` to the next disconnect
  or destroy.  `aws_iot_mqtt_is_client_connected` follows it as long as four things
  do not happen: the disconnect handler brings the client back and the client is then
  put into DISCONNECTED_ERROR, a connect cleans up a network that a handler has
  brought up meanwhile, a disconnect fails to destroy the network and goes back to
  the state before, a client is initialised over a network that is up.  `Orderly`
  rules them out, and then the truth is told (`truthful_of_orderly`).
-/
import AwsIot.Mqtt.RestingState
import Mathlib.Data.List.Infix

set_option autoImplicit false

namespace AwsIot.Mqtt

open AwsIot.Foundation Program

/-! ## The network -/

/-- The network is up after a log, newest event first. -/
def netUp : List Event → Bool
  | [] => false
  | .netConnect .success :: _ => true
  | .netDisconnect :: _ => false
  | .netDestroy _ :: _ => false
  | _ :: log => netUp log

/-- `is_client_connected` agrees with the network. -/
def World.TellsTruth (w : World) : Prop :=
  w.client.clientState.isConnected = true ↔ netUp w.log = true

/-- The newest event is none of the four that let state and network drift apart. -/
def inOrder : List Event → Bool
  | .disconnectHandled s :: _ => !s.isConnected
  | .connectCleanup s :: _ => !s.isConnected
  | .returned .disconnect _ :: .disconnectDestroyed rc :: _ => rc = .success
  | .tlsInit _ :: log => !netUp log
  | _ => true

/-- Every event was in order. -/
def Orderly (log : List Event) : Prop := ∀ pre, pre <:+ log → inOrder pre = true

instance (log : List Event) : Decidable (Orderly log) :=
  decidable_of_iff (∀ pre ∈ log.tails, inOrder pre = true) (by simp [Orderly, List.mem_tails])

theorem Orderly.head {log : List Event} (h : Orderly log) : inOrder log = true :=
  h log (List.suffix_refl log)

theorem Orderly.tail {e : Event} {log : List Event} (h : Orderly (e :: log)) : Orderly log :=
  fun pre hpre => h pre (hpre.trans (List.suffix_cons e log))

theorem netUp_cons {e : Event} {log : List Event} (he : e.kind ≠ .connection) :
    netUp (e :: log) = netUp log := by
  cases e with
  | netConnect => exact absurd rfl he
  | netDisconnect => exact absurd rfl he
  | netDestroy => exact absurd rfl he
  | _ => rfl

/-- At rest, no operation is under way and the client state tells the truth. -/
def truth : Discipline where
  Ok := Orderly
  up := netUp
  Rest s b := s.isHeld = false ∧ s.isConnected = b
  ok_tail := Orderly.tail
  up_cons := netUp_cons
  rest_held h := h.1
  connected := ⟨rfl, rfl⟩
  dropped := ⟨rfl, rfl⟩
  disconnected := ⟨rfl, rfl⟩
  cleanup hok h := ⟨h.1, show _ = false by simpa [inOrder] using hok.head⟩
  handled hok h := by
    have hdown := hok.head
    simp only [inOrder, h.2] at hdown
    exact ⟨rfl, show false = netUp (.disconnectHandled _ :: _) by simpa [netUp] using hdown.symm⟩
  destroyFailed hne hok := absurd (by simpa [inOrder] using hok.head) hne
  invalid hok _ := ⟨rfl, by simpa [inOrder, netUp, ClientState.isConnected] using hok.head⟩
  initialized hok := ⟨rfl, by simpa [inOrder, netUp, ClientState.isConnected] using hok.head⟩
  connectDone h := h
  started h := ⟨rfl, h.2⟩
  pending _ h := ⟨rfl, h.2⟩
  notPending _ h := h
  due := rfl
  failed := rfl
  idle h := ⟨rfl, h.2⟩
  stuck _ _ h := ⟨rfl, h.2⟩

/-! ## Runs -/

/-- In every run whose events are in order, whenever the application is back from its last
call, `is_client_connected` is true exactly if the network is up. -/
theorem truthful_of_orderly (env : Env) (fuel : Nat) (calls : List ApiCall) (w : World)
    (hrun : (application env fuel calls : M Unit).run World.start = .done () w)
    (horder : Orderly w.log) : w.TellsTruth := by
  have hrest : truth.RestsAt w := Discipline.application_rests hrun horder ⟨rfl, rfl⟩
  have hsame : w.client.clientState.isConnected = netUp w.log := hrest.2
  unfold World.TellsTruth
  rw [hsame]

/-! ## A handler that reconnects -/

/-- Connect parameters with a keep-alive interval of one second: the first yield is due
to send a PINGREQ. -/
def pingingConnect : ConnectParams := { plainConnect with keepAliveIntervalInSec := 1 }

/-- A client with a disconnect handler connects, and yields. -/
def pingingCalls : List ApiCall :=
  [.init { plainInit with disconnectHandler := true }, .connect (some pingingConnect), .yield 1000]

/-- The broker does not answer the PINGREQ, so the connection counts as lost; the
disconnect handler makes `call`, and a CONNACK arrives if it connects. -/
def pinglessEnv (call : Option ApiCall) : Env :=
  { sessionEnv [(32, [0x20, 2, 0, 0])] with
    disconnectHandler := fun n => if n = 26 then call else none }

/-- With a disconnect handler that does nothing, the truth is told. -/
theorem truthful_quietHandler :
    (World.after (pinglessEnv none) 8 pingingCalls).TellsTruth :=
  truthful_of_orderly (pinglessEnv none) 8 pingingCalls _ (run_eq_done (by decide +kernel))
    (by decide +kernel)

/-- With a disconnect handler that reconnects, the network is up when yield returns, and
the client is in DISCONNECTED_ERROR. -/
theorem not_truthful_reconnectingHandler :
    ((application (pinglessEnv (some .attemptReconnect)) 8 pingingCalls : M Unit).run
      World.start).value? = some () ∧
    netUp (World.after (pinglessEnv (some .attemptReconnect)) 8 pingingCalls).log = true ∧
    ¬ (World.after (pinglessEnv (some .attemptReconnect)) 8 pingingCalls).TellsTruth := by
  have hup : netUp (World.after (pinglessEnv (some .attemptReconnect)) 8 pingingCalls).log =
      true := by decide +kernel
  refine ⟨by decide +kernel, hup, fun htold => ?_⟩
  exact absurd (htold.mpr hup) (by decide +kernel)

end AwsIot.Mqtt
