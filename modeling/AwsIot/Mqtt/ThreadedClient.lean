/-
  Mqtt/ThreadedClient.lean --- a client that several threads use.

  The client built with `_ENABLE_THREAD_SUPPORT_`.  The code of the API is the one of the
  other modules; here it is cut into atomic steps, and the steps of any number of threads
  interleave.  A compare-and-set of `aws_iot_mqtt_set_client_state` is one step, under the
  state change mutex: with `isBlockOnThreadLockEnabled` it waits for the mutex, without it
  a step may find the mutex taken and fail.  The work between two of them is cut into
  steps as well, each of which reads or updates the client.  The mutexes around the
  network functions do not order more than that: a read or write that is refused by one
  is a read or write that fails.
-/
import AwsIot.Foundation.Threads
import AwsIot.Mqtt.Api

set_option autoImplicit false

namespace AwsIot.Mqtt

open AwsIot.Foundation

/-! ## Steps -/

/-- One step of a thread that uses the client. -/
inductive Action where
  /-- Read the client and its surroundings, or update them by `move`. -/
  | work (move : World → World)
  /-- `aws_iot_mqtt_set_client_state`. -/
  | setClientState (site : StateSite) (expectedCurrentState newState : ClientState)
  /-- An assignment to `clientStatus.clientState` that bypasses `set_client_state`. -/
  | assignClientState (newState : ClientState)
  /-- The thread starts on a marked stretch. -/
  | enter (mark : Mark)
  /-- The thread leaves a marked stretch. -/
  | leave (mark : Mark)

/-- What a step answers. -/
structure Reply where
  /-- The client and its surroundings before the step. -/
  world : World
  /-- The return code of `set_client_state`. -/
  rc : IoTError

/-- Programs of one thread among others. -/
abbrev Threaded := Thread Action Reply

instance : ClientOps Threaded where
  getClient := .act (.work id) fun r => .done r.world.client
  modifyClient f := .act (.work (·.onClient f)) fun _ => .done ()
  ask f := .act (.work World.tick) fun r => .done (f r.world.time)
  emit e := .act (.work fun w => w.push (e w.client)) fun _ => .done ()
  getClientState := .act (.work id) fun r => .done r.world.client.clientState
  setClientState site expectedCurrentState newState :=
    .act (.setClientState site expectedCurrentState newState) fun r => .done r.rc
  assignClientState newState := .act (.assignClientState newState) fun _ => .done ()
  within mark x :=
    .act (.enter mark) fun _ => x.bind fun a => .act (.leave mark) fun _ => .done a

/-! ## What the threads share -/

/-- The client, and what each thread is executing. -/
structure Shared where
  /-- The client and its surroundings. -/
  world : World
  /-- The marked stretches that each thread is in, innermost first. -/
  marks : Nat → List Mark

namespace Shared

/-- The client state. -/
def state (s : Shared) : ClientState := s.world.client.clientState

/-- Thread `i` is executing the body of an operation's internal function. -/
def InBody (s : Shared) (i : Nat) : Prop := ∃ operation, Mark.body operation ∈ s.marks i

/-- Thread `i` is inside an API call. -/
def InCall (s : Shared) (i : Nat) : Prop := Mark.call ∈ s.marks i

instance (s : Shared) (i : Nat) : Decidable (s.InCall i) :=
  inferInstanceAs (Decidable (_ ∈ _))

/-- At most one thread is executing the body of an operation's internal function. -/
def Exclusive (s : Shared) : Prop := ∀ i j, s.InBody i → s.InBody j → i = j

/-- No thread is inside an API call. -/
def Quiet (s : Shared) : Prop := ∀ i, ¬ s.InCall i

/-- Replace what thread `i` is executing. -/
def withMarks (s : Shared) (i : Nat) (marks : List Mark) : Shared :=
  { s with marks := Function.update s.marks i marks }

end Shared

/-- The steps of thread `i`; `lockTaken` says that the step does not wait for the state
change mutex and finds it taken. -/
def clientMachine : Machine Shared Action Reply Bool
  | _, .work move, _, s => (⟨s.world, .success⟩, { s with world := move s.world })
  | _, .setClientState _ expectedCurrentState newState, lockTaken, s =>
      if lockTaken then (⟨s.world, .mutexLockError⟩, s)
      else if expectedCurrentState = s.state then
        (⟨s.world, .success⟩, { s with world := s.world.withState newState })
      else (⟨s.world, .mqttUnexpectedClientStateError⟩, s)
  | _, .assignClientState newState, _, s =>
      (⟨s.world, .success⟩, { s with world := s.world.withState newState })
  | i, .enter mark, _, s => (⟨s.world, .success⟩, s.withMarks i (mark :: s.marks i))
  | i, .leave _, _, s => (⟨s.world, .success⟩, s.withMarks i (s.marks i).tail)

@[simp] theorem clientMachine_setClientState {i : Nat} {site : StateSite}
    {expectedCurrentState newState : ClientState} {lockTaken : Bool} {s : Shared} :
    clientMachine i (.setClientState site expectedCurrentState newState) lockTaken s =
      if lockTaken then (⟨s.world, .mutexLockError⟩, s)
      else if expectedCurrentState = s.state then
        (⟨s.world, .success⟩, { s with world := s.world.withState newState })
      else (⟨s.world, .mqttUnexpectedClientStateError⟩, s) := rfl

/-- Threads that use one client, each with the calls it makes outside its handlers. -/
def clientThreads (env : Env) (fuel : Nat) (calls : Nat → List ApiCall) (w : World) :
    System Shared Action Reply Unit where
  shared := ⟨w, fun _ => []⟩
  threads i := application env fuel (calls i)

/-! ## The operations -/

/-- The calls whose internal functions exclude each other. -/
def ApiCall.isOperation : ApiCall → Bool
  | .connect _ | .publish .. | .subscribe .. | .unsubscribe .. | .resubscribe | .yield _ => true
  | _ => false

/-- The calls of the operations that need a connected client, resubscribe apart. -/
def ApiCall.isRequestOrYield : ApiCall → Bool
  | .publish .. | .subscribe .. | .unsubscribe .. | .yield _ => true
  | _ => false

theorem ApiCall.isOperation_of_isRequestOrYield {call : ApiCall}
    (h : call.isRequestOrYield = true) : call.isOperation = true := by
  cases call <;> first | rfl | exact Bool.noConfusion h

/-! ## Branches that break exclusion -/

/-- A step of a thread with marks `marks`, in client state `s`, takes none of the branches
through which the threads get into each other's way. -/
def Careful (marks : List Mark) (action : Action) (lockTaken : Bool) (s : ClientState) : Prop :=
  match action with
  | .setClientState site expectedCurrentState _ =>
    match site with
    -- connect goes on when its compare-and-set has failed
    | .connectEnter => lockTaken = false ∧ expectedCurrentState = s
    -- a request is admitted while a handler of another thread runs
    | .requestEnter => lockTaken = false → expectedCurrentState = s →
        s = .connectedWaitForCbReturn → .callback ∈ marks
    -- unsubscribe, not admitted, undoes the admission of another thread
    | .unsubscribeUndo => lockTaken = false → expectedCurrentState ≠ s
    -- a step that gives the state back finds the mutex taken
    | .requestLeave | .yieldLeave | .deliverLeave | .connectDone | .connectFailed =>
        lockTaken = false
    -- a yield gives up the connection in the middle of its body
    | .disconnectEnter => False
    | .deliverEnter | .yieldEnter | .yieldPending | .yieldReconnected | .reconnectPending => True
  | .assignClientState _ => False
  | .work _ | .enter _ | .leave _ => True

instance (marks : List Mark) (action : Action) (lockTaken : Bool) (s : ClientState) :
    Decidable (Careful marks action lockTaken s) := by
  unfold Careful
  cases action with
  | setClientState site expectedCurrentState newState => cases site <;> infer_instance
  | _ => infer_instance

/-- Every step of an interleaving is careful. -/
def AllCareful (s : System Shared Action Reply Unit) (choices : List (Nat × Bool)) : Prop :=
  s.Meets clientMachine
    (fun i action lockTaken s => Careful (s.marks i) action lockTaken s.state) choices

instance (s : System Shared Action Reply Unit) (choices : List (Nat × Bool)) :
    Decidable (AllCareful s choices) := by
  unfold AllCareful
  infer_instance

end AwsIot.Mqtt
