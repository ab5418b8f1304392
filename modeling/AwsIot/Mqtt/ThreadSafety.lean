/-
  Mqtt/ThreadSafety.lean --- what holds of threads that share a client.

  Two things are meant to hold whatever the threads do: at most one of them is in the body
  of an operation, and a connected client from whose calls all have returned is idle.  Both
  rest on one thread at a time having taken the client.  The code lets go of that in a few
  branches, each of which breaks both: a connect goes on when its compare-and-set has
  failed, a request is admitted in WAIT_FOR_CB_RETURN whichever thread runs the handler, an
  unsubscribe that is not admitted undoes the admission of another thread, a state is not
  given back if the mutex is taken at that moment, and a yield that finds the connection
  dead gives the client up in the middle of its body.  In every interleaving without them
  both hold.
-/
import AwsIot.Mqtt.StableState
import AwsIot.Mqtt.ThreadCalls

set_option autoImplicit false

namespace AwsIot.Mqtt

open AwsIot.Foundation

/-! ## Exclusion -/

/-- The states between two operations, apart from that of a client that waits to reconnect. -/
def ClientState.isResting : ClientState → Bool
  | .initialized | .connectedIdle | .disconnectedError | .disconnectedManually => true
  | _ => false

theorem restStates_isResting : RestStates ClientState.isResting where
  notTaken {s} h := by cases s <;> first | rfl | exact Bool.noConfusion h
  notPending := rfl
  idle := rfl
  failed _ _ := rfl

/-- Threads that call the operations of a client agree on who has taken it. -/
theorem operations_agree {rests : ClientState → Bool} (hrests : RestStates rests) {env : Env}
    {fuel : Nat} {calls : Nat → List ApiCall} {w : World} {choices : List (Nat × Bool)}
    (hstart : rests w.client.clientState = true) (hhandlers : env.HandlersOperate)
    (hcalls : ∀ i, ∀ call ∈ calls i, call.isOperation = true)
    (hcareful : AllCareful (clientThreads env fuel calls w) choices) :
    ∃ g, Agrees rests env.LosesRead
      ((clientThreads env fuel calls w).run clientMachine choices).shared g :=
  agrees_of_careful hrests hstart (fun i => (application_safe hrests hhandlers (hcalls i)).mono
    fun _ _ _ => trivial) hcareful

/-- In every interleaving of careful steps, at most one thread is in the body of an
operation. -/
theorem exclusive_of_careful (env : Env) (fuel : Nat) (calls : Nat → List ApiCall) (w : World)
    (choices : List (Nat × Bool)) (hstart : w.client.clientState.isResting = true)
    (hhandlers : env.HandlersOperate)
    (hcalls : ∀ i, ∀ call ∈ calls i, call.isOperation = true)
    (hcareful : AllCareful (clientThreads env fuel calls w) choices) :
    ((clientThreads env fuel calls w).run clientMachine choices).shared.Exclusive := by
  obtain ⟨g, hagrees⟩ := operations_agree restStates_isResting hstart hhandlers hcalls hcareful
  exact hagrees.exclusive

/-- The threads of `turns` take so many steps each, one after the other, and no step finds
the mutex taken. -/
def inTurn (turns : List (Nat × Nat)) : List (Nat × Bool) :=
  turns.flatMap fun turn => List.replicate turn.2 (turn.1, false)

/-- Two threads that both connect. -/
def bothConnect (i : Nat) : List ApiCall := if i < 2 then [.connect none] else []

theorem bothConnect_isOperation (i : Nat) : ∀ call ∈ bothConnect i, call.isOperation = true := by
  intro call hmem
  unfold bothConnect at hmem
  split at hmem
  · obtain rfl := List.mem_singleton.mp hmem
    rfl
  · cases hmem

theorem quietEnv_handlersOperate : quietEnv.HandlersOperate := by
  intro n call h
  cases h

/-- The second thread comes when the first is in its body, and is refused. -/
theorem exclusive_refusedConnect : ((clientThreads quietEnv 8 bothConnect
    (World.initialized quietEnv)).run clientMachine
      (inTurn [(0, 5), (1, 6), (0, 4)])).shared.Exclusive :=
  exclusive_of_careful quietEnv 8 bothConnect (World.initialized quietEnv) _ (by decide +kernel)
    quietEnv_handlersOperate bothConnect_isOperation (by decide +kernel)

/-- Both threads read INITIALIZED, one of them moves it to CONNECTING, and both connect,
although no step finds the mutex taken. -/
theorem not_every_interleaving_exclusive :
    ¬ ∀ (env : Env) (fuel : Nat) (calls : Nat → List ApiCall) (w : World)
      (choices : List (Nat × Bool)), w.client.clientState.isResting = true →
      env.HandlersOperate → (∀ i, ∀ call ∈ calls i, call.isOperation = true) →
      (∀ choice ∈ choices, choice.2 = false) →
      ((clientThreads env fuel calls w).run clientMachine choices).shared.Exclusive := by
  intro hall
  have hboth := hall quietEnv 8 bothConnect (World.initialized quietEnv)
    (inTurn [(0, 3), (1, 3), (0, 2), (1, 2)]) (by decide +kernel) quietEnv_handlersOperate
    bothConnect_isOperation (by decide) 0 1 ⟨.connect, by decide +kernel⟩
      ⟨.connect, by decide +kernel⟩
  cases hboth

/-! ## The return to idle -/

/-- No network function fails. -/
def Env.Faultless (env : Env) : Prop :=
  ∀ n, ((env.read n).rc = .success ∨ (env.read n).rc = .networkSslNothingToRead) ∧
    (env.write n).rc = .success

/-- The step begins to disconnect, or drops the connection. -/
def Action.disconnects : Action → Bool
  | .setClientState .disconnectEnter _ _ | .assignClientState _ => true
  | _ => false

/-- No step of an interleaving disconnects. -/
def StaysConnected (s : System Shared Action Reply Unit) (choices : List (Nat × Bool)) : Prop :=
  s.Meets clientMachine (fun _ action _ _ => action.disconnects = false) choices

instance (s : System Shared Action Reply Unit) (choices : List (Nat × Bool)) :
    Decidable (StaysConnected s choices) := by
  unfold StaysConnected
  infer_instance

theorem Env.Faultless.not_losesRead {env : Env} (h : env.Faultless) : ¬ env.LosesRead := by
  rintro ⟨n, hlost⟩
  rcases (h n).1 with hread | hread
  · rw [hread] at hlost
    cases hlost
  · rw [hread] at hlost
    cases hlost

theorem restStates_idle : RestStates (· == .connectedIdle) where
  notTaken {s} h := by cases s <;> first | rfl | exact Bool.noConfusion h
  notPending := rfl
  idle := rfl
  failed {s} h hvalid := by
    obtain rfl : s = .connectedIdle := by simpa using h
    cases hvalid

/-- In every interleaving of careful steps without network errors, the client is idle
whenever no thread is inside a call. -/
theorem idle_of_careful (env : Env) (fuel : Nat) (calls : Nat → List ApiCall) (w : World)
    (choices : List (Nat × Bool)) (hstart : w.client.clientState = .connectedIdle)
    (hfaultless : env.Faultless) (hhandlers : env.HandlersOperate)
    (hcalls : ∀ i, ∀ call ∈ calls i, call.isRequestOrYield = true)
    (hcareful : AllCareful (clientThreads env fuel calls w) choices)
    (hquiet : ((clientThreads env fuel calls w).run clientMachine choices).shared.Quiet) :
    ((clientThreads env fuel calls w).run clientMachine choices).shared.state =
      .connectedIdle := by
  obtain ⟨g, hagrees⟩ := operations_agree restStates_idle (by simpa using hstart) hhandlers
    (fun i call hmem => ApiCall.isOperation_of_isRequestOrYield (hcalls i call hmem)) hcareful
  simpa using hagrees.rests_of_quiet hfaultless.not_losesRead hquiet

/-! ## A handler and a foreign publish -/

/-- A connected client with a handler in its first slot. -/
def World.serving : World where
  client := { zeroedClient with
    clientState := .connectedIdle
    commandTimeoutMs := 20000
    readBufSize := 512
    writeBufSize := 512
    messageHandlers := fun i =>
      if i = 0 then ⟨some ⟨[0x61]⟩, 1, .qos0, some 1, 0⟩ else ⟨none, 0, .qos0, none, 0⟩ }
  time := 0
  log := []
  history := []
  shadow := Shadow.zeroedRecords

/-- One thread yields, the other publishes. -/
def yieldAndPublish : Nat → List ApiCall
  | 0 => [.yield 10]
  | 1 => [.publish (some ⟨[0x62]⟩) 1 (some ⟨.qos0, 0, 0, some ⟨[0x63]⟩, 1, none⟩)]
  | _ => []

/-- A message arrives for the handler. -/
def servingEnv : Env := quietEnv.receiving [(2, [0x30, 3, 0, 1, 0x61])]

theorem yieldAndPublish_isRequestOrYield (i : Nat) :
    ∀ call ∈ yieldAndPublish i, call.isRequestOrYield = true := by
  intro call hmem
  match i with
  | 0 => obtain rfl := List.mem_singleton.mp hmem; rfl
  | 1 => obtain rfl := List.mem_singleton.mp hmem; rfl
  | _ + 2 => cases hmem

theorem readOf_success {t n : Nat} {packet : List UInt8} {out : ReadOutcome}
    (h : readOf t packet n = some out) : out.rc = .success := by
  unfold readOf at h
  split at h
  · cases h; rfl
  split at h
  · cases h; rfl
  split at h
  · cases h; rfl
  · cases h

/-- Packets that arrive are no faults. -/
theorem quietEnv_receiving_faultless (script : List (Nat × List UInt8)) :
    (quietEnv.receiving script).Faultless := by
  intro n
  refine ⟨?_, rfl⟩
  have hread : (quietEnv.receiving script).read n =
      (script.findSome? fun p => readOf p.1 p.2 n).getD (quietEnv.read n) := rfl
  rw [hread]
  cases hfound : script.findSome? fun p => readOf p.1 p.2 n with
  | none => exact .inr rfl
  | some out =>
    obtain ⟨p, -, hp⟩ := List.exists_of_findSome?_eq_some hfound
    exact .inl (readOf_success hp)

theorem servingEnv_handlersOperate : servingEnv.HandlersOperate := by
  intro n call h
  cases h

/-- A step of one thread leaves the marks of the others alone. -/
theorem marks_step_other {s : System Shared Action Reply Unit} {choice : Nat × Bool} {i : Nat}
    (hi : choice.1 ≠ i) : (s.step clientMachine choice).shared.marks i = s.shared.marks i := by
  unfold System.step
  cases s.threads choice.1 with
  | done a => rfl
  | halted => rfl
  | act action next =>
    cases action with
    | work move => rfl
    | setClientState site expected new =>
      show (clientMachine _ _ _ _).2.marks i = _
      rw [clientMachine_setClientState]
      split_ifs <;> rfl
    | assignClientState new => rfl
    | enter mark => exact Function.update_of_ne hi.symm _ _
    | leave mark => exact Function.update_of_ne hi.symm _ _

/-- A thread that is never chosen stays where it is. -/
theorem marks_run_other {choices : List (Nat × Bool)} {i : Nat}
    (hi : ∀ choice ∈ choices, choice.1 ≠ i) {s : System Shared Action Reply Unit} :
    (s.run clientMachine choices).shared.marks i = s.shared.marks i := by
  induction choices generalizing s with
  | nil => rfl
  | cons choice choices ih =>
    have hrest := ih (fun c hc => hi c (List.mem_cons_of_mem _ hc))
      (s := s.step clientMachine choice)
    exact hrest.trans (marks_step_other (hi choice List.mem_cons_self))

/-- Only threads that are chosen can be inside a call. -/
theorem quiet_of_chosen {env : Env} {fuel : Nat} {calls : Nat → List ApiCall} {w : World}
    {choices : List (Nat × Bool)} {n : Nat} (hchosen : ∀ choice ∈ choices, choice.1 < n)
    (hout : ∀ i < n,
      ¬ ((clientThreads env fuel calls w).run clientMachine choices).shared.InCall i) :
    ((clientThreads env fuel calls w).run clientMachine choices).shared.Quiet := by
  intro i
  by_cases hi : i < n
  · exact hout i hi
  · have hne : ∀ choice ∈ choices, choice.1 ≠ i := by
      intro choice hmem
      have hlt := hchosen choice hmem
      omega
    unfold Shared.InCall
    rw [marks_run_other hne]
    exact List.not_mem_nil

/-- The other thread comes while the yield reads, its publish is refused, and the yield goes on
to deliver its message: in the end the client is idle. -/
theorem idle_publishMeanwhile : ((clientThreads servingEnv 20 yieldAndPublish World.serving).run
    clientMachine (inTurn [(0, 12), (1, 20), (0, 400)])).shared.state = .connectedIdle :=
  idle_of_careful servingEnv 20 yieldAndPublish World.serving _ rfl
    (quietEnv_receiving_faultless _) servingEnv_handlersOperate yieldAndPublish_isRequestOrYield
    (by decide +kernel)
    (quiet_of_chosen
      (show ∀ choice ∈ inTurn [(0, 12), (1, 20), (0, 400)], choice.1 < 2 by decide +kernel)
      (by decide +kernel))

/-- While the handler of the yield runs, the other thread publishes: the yield cannot go
back, the publish goes back to WAIT_FOR_CB_RETURN, and there the client stays. -/
theorem not_every_interleaving_idle :
    ¬ ∀ (env : Env) (fuel : Nat) (calls : Nat → List ApiCall) (w : World)
      (choices : List (Nat × Bool)), w.client.clientState = .connectedIdle → env.Faultless →
      env.HandlersOperate → (∀ i, ∀ call ∈ calls i, call.isRequestOrYield = true) →
      StaysConnected (clientThreads env fuel calls w) choices →
      ((clientThreads env fuel calls w).run clientMachine choices).shared.Quiet →
      ((clientThreads env fuel calls w).run clientMachine choices).shared.state =
        .connectedIdle := by
  intro hall
  have hidle := hall servingEnv 20 yieldAndPublish World.serving
    (inTurn [(0, 29), (1, 5), (0, 14), (1, 14)]) rfl (quietEnv_receiving_faultless _)
    servingEnv_handlersOperate yieldAndPublish_isRequestOrYield (by decide +kernel) ?_
  · exact absurd hidle (by decide +kernel)
  · exact quiet_of_chosen (show ∀ choice ∈ inTurn [(0, 29), (1, 5), (0, 14), (1, 14)],
      choice.1 < 2 by decide) (by decide +kernel)

end AwsIot.Mqtt
