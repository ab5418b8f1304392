/-
  Mqtt/ThreadCalls.lean --- the operations among careful threads.

  An operation finds the client at rest, or in the state its own thread has taken it
  into; it takes the client from there and gives it back (`Stands`).  It does so in every
  branch but one: a yield whose body reports a lost connection keeps the client.
-/
import AwsIot.Mqtt.ThreadBodies

set_option autoImplicit false

namespace AwsIot.Mqtt

open AwsIot.Foundation Thread

variable {rests : ClientState → Bool} {lost : Prop} {g : Standing}

/-! ## Taking the client and giving it back -/

/-- A thread inside a call. -/
structure Standing.Ready (lost : Prop) (g : Standing) : Prop where
  /-- It may have taken the client, and otherwise is in no body and no handler. -/
  place : (∃ t, g.taken = some t ∧ t.isTaken = true) ∨
    g.taken = none ∧ ∀ mark ∈ g.marks, mark = .call
  /-- It is inside a call, unless a yield has `lost` the client. -/
  inside : .call ∈ g.marks ∨ lost

/-- A thread may take the client from client state `s`, and then has to give it back in `s`. -/
structure Stands (rests : ClientState → Bool) (lost : Prop) (g : Standing) (s : ClientState) :
    Prop where
  /-- Giving it back is standing as before. -/
  back : g.moved s = g
  /-- The thread is inside a call. -/
  inside : .call ∈ g.marks ∨ lost
  /-- The thread has taken the client before, or is in no body and no handler. -/
  leave : s.isTaken = true ∨ rests s = true ∧ ∀ mark ∈ g.marks, mark = .call

/-- A thread that has taken the client stands where it sees it. -/
theorem Standing.Ready.stands_of_taken (h : g.Ready lost) (hbusy : g.taken ≠ none)
    {s : ClientState} (hs : g.Sees rests s) : Stands rests lost g s := by
  obtain ⟨t, ht, htaken⟩ := h.place.resolve_right fun hfree => hbusy hfree.1
  obtain rfl : s = t := by
    unfold Standing.Sees at hs
    rw [ht] at hs
    exact hs
  refine ⟨?_, h.inside, .inl htaken⟩
  unfold Standing.moved
  rw [if_pos htaken, ← ht]

/-- A thread that sees the client at rest has not taken it. -/
theorem Standing.Ready.stands_of_rests (h : g.Ready lost) (hrests : RestStates rests)
    {s : ClientState} (hs : g.Sees rests s) (hrest : rests s = true) : Stands rests lost g s := by
  have hfree := hrests.notTaken hrest
  rcases h.place with ⟨t, ht, htaken⟩ | ⟨hnone, hcalls⟩
  · unfold Standing.Sees at hs
    rw [ht] at hs
    rw [hs, htaken] at hfree
    cases hfree
  · refine ⟨?_, h.inside, .inr ⟨hrest, hcalls⟩⟩
    unfold Standing.moved
    rw [hfree, ← hnone]
    rfl

namespace Stands

variable {s new : ClientState}

/-- A thread that may give the client back in one state of rest may do so in any other. -/
theorem rest (h : Stands rests lost g s) (hrests : RestStates rests) (hs : rests s = true)
    {s' : ClientState} (hs' : rests s' = true) : Stands rests lost g s' where
  back := by
    have hback := h.back
    unfold Standing.moved at hback ⊢
    rw [hrests.notTaken hs] at hback
    rw [hrests.notTaken hs']
    exact hback
  inside := h.inside
  leave := .inr ⟨hs', (h.leave.resolve_left fun htaken => by
    rw [hrests.notTaken hs] at htaken
    cases htaken).2⟩

/-- Taking the client. -/
theorem take (h : Stands rests lost g s) (hnew : new.isTaken = true) :
    g.MayMove rests lost s new where
  enter hnone := by
    rcases h.leave with htaken | ⟨hrest, -⟩
    · have hback := congrArg Standing.taken h.back
      simp [Standing.moved, htaken, hnone] at hback
    · exact hrest
  leave := .inl ⟨hnew, h.inside⟩

/-- Where a thread stands that has taken the client. -/
theorem taken_moved (hnew : new.isTaken = true) : (g.moved new).taken = some new := by
  unfold Standing.moved
  rw [if_pos hnew]

/-- Giving the client back. -/
theorem give (h : Stands rests lost g s) (hnew : new.isTaken = true) :
    (g.moved new).MayMove rests lost new s ∧ (g.moved new).moved s = g := by
  refine ⟨⟨fun hnone => ?_, ?_⟩, h.back⟩
  · rw [taken_moved hnew] at hnone
    cases hnone
  · exact h.leave.imp_left fun htaken => ⟨htaken, h.inside⟩

/-- The body of an operation that has taken the client. -/
theorem body (h : Stands rests lost g s) {operation : Operation} {P : IoTError → Prop}
    {internal : Threaded IoTError} (hi : Gives rests lost P internal) :
    (within (.body operation) internal : Threaded IoTError).Safe (ownership rests lost)
      (g.moved operation.inProgress) fun rc g' => g' = g.moved operation.inProgress ∧ P rc := by
  have htaken := taken_moved (g := g) operation.isTaken_inProgress
  have hin : Standing.Inside lost
      { g.moved operation.inProgress with marks := .body operation :: g.marks } :=
    ⟨⟨_, htaken, operation.isTaken_inProgress⟩, h.inside.imp_left (List.mem_cons_of_mem _)⟩
  refine safe_within (fun _ => by simp [htaken]) ((hi _ hin).mono ?_)
  rintro rc g' ⟨rfl, hrc⟩
  exact ⟨fun _ => h.inside, rfl, hrc⟩

/-- The step by which an operation gives the client back. -/
theorem leaving (h : Stands rests lost g s) (site : StateSite) {old : ClientState}
    (hold : old.isTaken = true)
    (hsite : ∀ {marks lockTaken state}, Careful marks (.setClientState site old s) lockTaken state →
      lockTaken = false) :
    (setClientState site old s : Threaded IoTError).Safe (ownership rests lost) (g.moved old)
      fun _ g' => g' = g := by
  refine safe_setClientState fun state lockTaken hsees hcareful => ?_
  obtain ⟨hmay, hback⟩ := h.give hold
  have hstate : state = old := by
    unfold Standing.Sees at hsees
    rw [taken_moved hold] at hsees
    exact hsees
  rw [hsite hcareful, if_neg (by simp), if_pos hstate.symm]
  exact ⟨hmay, hback⟩

end Stands

/-! ## Requests -/

theorem performRequest_safe {s : ClientState} (h : Stands rests lost g s) {operation : Operation}
    {internal : Threaded IoTError} (hi : Inert rests lost internal) :
    (performRequest operation s internal : Threaded IoTError).Safe (ownership rests lost)
      (g.moved operation.inProgress) fun _ g' => g' = g := by
  have hgives : Gives rests lost (fun _ => True) internal :=
    fun g hg => (hi g hg).mono fun _ _ hsame => ⟨hsame, trivial⟩
  refine safe_bind.mpr ((h.body hgives).mono ?_)
  rintro opRc g' ⟨rfl, -⟩
  refine safe_bind.mpr ((h.leaving .requestLeave operation.isTaken_inProgress id).mono ?_)
  rintro rc g' rfl
  exact rfl

section Requests

variable (hrests : RestStates rests) (hg : g.Ready lost)
include hrests hg

/-- The step by which a request takes the client. -/
theorem entering_safe {s : ClientState}
    (hs : ¬ (s ≠ .connectedIdle ∧ s ≠ .connectedWaitForCbReturn)) (operation : Operation)
    {Q : IoTError → Standing → Prop} (hrefused : ∀ rc, rc ≠ .success → Q rc g)
    (htaken : Stands rests lost g s → Q .success (g.moved operation.inProgress)) :
    (setClientState .requestEnter s operation.inProgress : Threaded IoTError).Safe
      (ownership rests lost) g Q := by
  refine safe_setClientState fun state lockTaken hsees hcareful => ?_
  by_cases hlock : lockTaken = true
  · rw [if_pos hlock]
    exact hrefused _ (by decide)
  rw [if_neg hlock]
  split
  case isFalse => exact hrefused _ (by decide)
  case isTrue he =>
    subst he
    have hstands : Stands rests lost g s := by
      by_cases hnone : g.taken = none
      · by_cases hidle : s = .connectedIdle
        · subst hidle
          exact hg.stands_of_rests hrests hsees hrests.idle
        · -- a thread in no handler is not admitted from WAIT_FOR_CB_RETURN
          have hwait : s = .connectedWaitForCbReturn := not_not.mp fun hwait => hs ⟨hidle, hwait⟩
          have hhandler := hcareful (by simpa using hlock) rfl hwait
          rcases hg.place with ⟨t, ht, -⟩ | ⟨-, hcalls⟩
          · rw [hnone] at ht
            cases ht
          · cases hcalls _ hhandler
      · exact hg.stands_of_taken hnone hsees
    exact ⟨hstands.take operation.isTaken_inProgress, htaken hstands⟩

theorem request_safe {operation : Operation} {internal : Threaded IoTError}
    (hi : Inert rests lost internal) :
    (request operation internal : Threaded IoTError).Safe (ownership rests lost) g
      fun _ g' => g' = g := by
  unfold request
  refine safe_bind.mpr (safe_getClientState fun s _ => ?_)
  dsimp only
  rw [safe_ite]
  split
  · rfl
  refine safe_bind.mpr (safe_getClientState fun s _ => ?_)
  rw [safe_ite]
  split
  · rfl
  case isFalse hs =>
    refine safe_bind.mpr (entering_safe hrests hg hs operation (fun rc hrc => ?_) fun hstands => ?_)
    · rw [safe_ite, if_pos hrc]
      rfl
    · rw [safe_ite, if_neg (by simp)]
      exact performRequest_safe hstands hi

theorem unsubscribeRequest_safe {internal : Threaded IoTError} (hi : Inert rests lost internal) :
    (unsubscribeRequest internal : Threaded IoTError).Safe (ownership rests lost) g
      fun _ g' => g' = g := by
  unfold unsubscribeRequest
  refine safe_bind.mpr (safe_getClientState fun s _ => ?_)
  dsimp only
  rw [safe_ite]
  split
  · rfl
  refine safe_bind.mpr (safe_getClientState fun s _ => ?_)
  rw [safe_ite]
  split
  · rfl
  case isFalse hs =>
    refine safe_bind.mpr (entering_safe hrests hg hs .unsubscribe (fun rc hrc => ?_)
      fun hstands => ?_)
    · rw [safe_ite, if_pos hrc]
      refine safe_setClientState fun state lockTaken _ hcareful => ?_
      by_cases hlock : lockTaken = true
      · rw [if_pos hlock]
      · rw [if_neg hlock, if_neg (hcareful (by simpa using hlock))]
    · rw [safe_ite, if_neg (by simp)]
      exact performRequest_safe hstands hi

theorem resubscribeRequest_safe {internal : Threaded IoTError} (hi : Inert rests lost internal) :
    (resubscribeRequest internal : Threaded IoTError).Safe (ownership rests lost) g
      fun _ g' => g' = g := by
  unfold resubscribeRequest
  refine safe_bind.mpr (safe_getClientState fun s _ => ?_)
  dsimp only
  rw [safe_ite]
  split
  · rfl
  refine safe_bind.mpr (safe_getClientState fun s _ => ?_)
  rw [safe_ite]
  split
  · rfl
  refine safe_bind.mpr (entering_safe hrests hg (by simp) .resubscribe (fun rc hrc => ?_)
    fun hstands => ?_)
  · rw [safe_ite, if_pos hrc]
    rfl
  · rw [safe_ite, if_neg (by simp)]
    exact performRequest_safe hstands hi

end Requests

/-! ## Connect and yield -/

section Calls

variable (hrests : RestStates rests) (hg : g.Ready lost) {env : Env} {fuel : Nat}
  {callbacks : Callbacks Threaded}
include hrests hg

theorem connectRequest_safe {internal : Threaded IoTError} (hi : Inert rests lost internal) :
    (connectRequest env internal : Threaded IoTError).Safe (ownership rests lost) g
      fun _ g' => g' = g := by
  have hgives : Gives rests lost (fun _ => True) internal :=
    fun g hg => (hi g hg).mono fun _ _ hsame => ⟨hsame, trivial⟩
  unfold connectRequest
  refine safe_bind.mpr (safe_getClientState fun s _ => ?_)
  rw [safe_ite]
  split
  · rfl
  case isFalse hvalid =>
    rw [Bool.not_eq_true, Bool.not_eq_false] at hvalid
    refine safe_bind.mpr (safe_setClientState fun state lockTaken hsees hcareful => ?_)
    obtain ⟨rfl, rfl⟩ := hcareful
    have hfree : s.isTaken ≠ true := fun htaken => by
      rw [(ClientState.isTaken_refused htaken).1] at hvalid
      cases hvalid
    have hrest : rests s = true := by
      rcases hg.place with ⟨t, ht, htaken⟩ | ⟨hnone, -⟩
      · unfold Standing.Sees at hsees
        rw [ht] at hsees
        exact absurd (hsees ▸ htaken) hfree
      · unfold Standing.Sees at hsees
        rw [hnone] at hsees
        exact hsees.resolve_right hfree
    have hstands := hg.stands_of_rests hrests hsees hrest
    have htaken : (g.moved .connecting).Inside lost := ⟨⟨_, rfl, rfl⟩, hstands.inside⟩
    rw [if_neg (by simp), if_pos rfl]
    refine ⟨hstands.take rfl, safe_bind.mpr ((hstands.body hgives).mono ?_)⟩
    rintro rc g' ⟨rfl, -⟩
    rw [safe_ite]
    split
    · refine (inert_emit _).andThen htaken fun _ => ?_
      refine inert_network.netDisconnect.andThen htaken fun _ => ?_
      refine (inert_network.netDestroy env).andThen htaken fun _ => safe_bind.mpr ?_
      exact (hstands.rest hrests hrest (hrests.failed hrest hvalid)).leaving .connectFailed rfl id
    · refine safe_bind.mpr (((hstands.rest hrests hrest hrests.idle).leaving .connectDone rfl
        id).mono ?_)
      rintro rc g' rfl
      exact safe_bind.mpr (safe_emit rfl)

/-- Yield gives the client back, unless its body reports a lost connection. -/
theorem yieldRequest_safe {internal : Threaded IoTError}
    (hi : Gives rests lost (fun rc => rc.isLost = true → lost) internal) :
    (yieldRequest internal : Threaded IoTError).Safe (ownership rests lost) g
      fun _ g' => g' = g ∨ lost ∧ g.taken = none ∧ g' = g.moved .connectedYieldInProgress := by
  unfold yieldRequest
  refine safe_bind.mpr (safe_getClientState fun s hs => ?_)
  have hpending : s ≠ .pendingReconnect := by
    rintro rfl
    rcases hg.place with ⟨t, ht, htaken⟩ | ⟨hnone, -⟩
    · unfold Standing.Sees at hs
      rw [ht] at hs
      exact (ClientState.isTaken_refused htaken).2.2.2.1 hs.symm
    · unfold Standing.Sees at hs
      rw [hnone, hrests.notPending] at hs
      rcases hs with hrest | htaken
      · cases hrest
      · cases htaken
  by_cases hmanual : s = .disconnectedManually
  · rw [safe_ite, if_pos hmanual]
    exact .inl rfl
  rw [safe_ite, if_neg hmanual, safe_ite, if_neg hpending]
  refine safe_bind.mpr (safe_getClientState fun s' _ => ?_)
  dsimp only
  rw [safe_ite]
  split
  · exact .inl rfl
  rw [safe_ite]
  split
  · exact .inl rfl
  refine safe_bind.mpr (safe_setClientState fun state lockTaken hsees _ => ?_)
  by_cases hlock : lockTaken = true
  · rw [if_pos hlock]
    exact .inl rfl
  rw [if_neg hlock]
  split
  case isFalse => exact .inl rfl
  case isTrue hidle =>
    subst hidle
    have hstands := hg.stands_of_rests hrests hsees hrests.idle
    have hnone : g.taken = none := congrArg Standing.taken hstands.back.symm
    refine ⟨hstands.take rfl, ?_⟩
    rw [safe_ite, if_neg (by simp)]
    refine safe_bind.mpr ((hstands.body hi).mono ?_)
    rintro rc g' ⟨rfl, hlost⟩
    rw [safe_ite]
    split
    · refine safe_bind.mpr ((hstands.leaving .yieldLeave rfl id).mono ?_)
      rintro rc' g' rfl
      exact .inl rfl
    case isFalse hrc =>
      refine .inr ⟨hlost ?_, hnone, rfl⟩
      by_contra hkept
      refine hrc ⟨?_, ?_⟩
      · rintro rfl
        exact hkept rfl
      · rintro rfl
        exact hkept rfl

end Calls

/-! ## The API -/

/-- A yield that reported a lost connection still has the client. -/
def KeptByYield (env : Env) (g g' : Standing) : Prop :=
  env.LosesRead ∧ g.taken = none ∧ g' = g.moved .connectedYieldInProgress

/-- The handlers of the application make calls of the operations only. -/
def Env.HandlersOperate (env : Env) : Prop :=
  ∀ n call, env.messageHandler n = some call → call.isOperation = true

section Api

variable (hrests : RestStates rests) {env : Env} {fuel : Nat}
include hrests

theorem dispatch_safe (hg : g.Ready env.LosesRead) {callbacks : Callbacks Threaded}
    (hmessage : ∀ call, Inert rests env.LosesRead (callbacks.message call)) {call : ApiCall}
    (hcall : call.isOperation = true) :
    (dispatch env fuel callbacks call : Threaded IoTError).Safe
      (ownership rests env.LosesRead) g fun _ g' => g' = g ∨ KeptByYield env g g' := by
  have hwait : Waiting env callbacks (Inert rests env.LosesRead) := inert_waiting hmessage
  have hsame : ∀ {x : Threaded IoTError},
      x.Safe (ownership rests env.LosesRead) g (fun _ g' => g' = g) →
      x.Safe (ownership rests env.LosesRead) g (fun _ g' => g' = g ∨ KeptByYield env g g') :=
    fun h => h.mono fun _ _ => .inl
  cases call with
  | connect params =>
    exact hsame (connectRequest_safe hrests hg
      (inert_network.internalConnect env fuel (hwait.exchangeConnect fuel) params))
  | publish topicName topicNameLen params =>
    refine hsame ?_
    rw [dispatch]
    unfold publish
    split
    · rw [safe_ite]
      split
      · rfl
      · exact request_safe hrests hg (hwait.cycling.internalPublish fuel _ _ _)
    · rfl
  | subscribe topicName topicNameLen qos handler data =>
    refine hsame ?_
    rw [dispatch]
    unfold subscribe
    split
    · exact request_safe hrests hg (hwait.internalSubscribe fuel _ _ _ _ _)
    · rfl
  | unsubscribe topicFilter topicFilterLen =>
    refine hsame ?_
    rw [dispatch]
    unfold unsubscribe
    split
    · exact unsubscribeRequest_safe hrests hg (hwait.internalUnsubscribe fuel _ _)
    · rfl
  | resubscribe =>
    exact hsame (resubscribeRequest_safe hrests hg
      (hwait.cycling.internalResubscribe fuel fun _ => inert_emit _))
  | yield timeoutMs =>
    rw [dispatch]
    unfold yield
    rw [safe_ite]
    split
    · exact .inl rfl
    · exact yieldRequest_safe hrests hg (gives_internalYield hmessage timeoutMs)
  | init params => cases hcall
  | disconnect => cases hcall
  | attemptReconnect => cases hcall
  | autoreconnectSetStatus newStatus => cases hcall
  | setDisconnectHandler given => cases hcall
  | setConnectParams params => cases hcall
  | resetNetworkDisconnectedCount => cases hcall

variable (hhandlers : env.HandlersOperate)
include hhandlers

omit hrests in
/-- A handler whose calls leave a thread as it was leaves it as it was. -/
theorem runHandler_inert {call : ApiCall → Threaded IoTError}
    (hcall : ∀ c, c.isOperation = true → Inert rests env.LosesRead (call c)) :
    Inert rests env.LosesRead (runHandler fuel env.messageHandler call : Threaded Unit) := by
  refine inert_compositional.loop (fun _ => Gives.inert (P := fun _ => True) ?_) fuel ()
  have hask : Gives rests env.LosesRead
      (fun next => ∀ c, next = some c → c.isOperation = true)
      (ask env.messageHandler : Threaded (Option ApiCall)) :=
    fun _ _ => ⟨fun _ => rfl, fun w _ => ⟨rfl, hhandlers w.time⟩⟩
  refine hask.bind fun next hnext => ?_
  cases next with
  | none => exact gives_pure trivial
  | some c => exact Inert.bind (hcall c (hnext c rfl)) fun _ => gives_pure trivial

/-- An operation called by a handler leaves its thread as it was. -/
theorem apiCall_inert : ∀ depth call, call.isOperation = true →
    Inert rests env.LosesRead (apiCall env fuel depth call : Threaded IoTError) := by
  intro depth
  induction depth with
  | zero => intro call _ g _; exact safe_halt
  | succ depth ih =>
    intro call hcall g hg
    obtain ⟨t, ht, htaken⟩ := hg.taken
    have hready : Standing.Ready env.LosesRead { g with marks := .call :: g.marks } :=
      ⟨.inl ⟨t, ht, htaken⟩, .inl List.mem_cons_self⟩
    refine (inert_emit _).andThen hg fun _ => safe_bind.mpr (safe_within (by simp) ?_)
    refine (dispatch_safe hrests hready (fun _ => runHandler_inert hhandlers ih)
      hcall).mono ?_
    rintro rc g' (rfl | ⟨-, hnone, -⟩)
    · exact ⟨fun _ => hg.inside, safe_bind.mpr (safe_emit rfl)⟩
    · rw [ht] at hnone
      cases hnone

/-- A thread outside all calls, which has not taken the client unless a yield has lost it. -/
structure Standing.Outside (lost : Prop) (g : Standing) : Prop where
  marks : g.marks = []
  free : g.taken = none ∨ lost ∧ ∃ t, g.taken = some t ∧ t.isTaken = true

/-- A thread of the application is safe. -/
theorem application_safe {calls : List ApiCall} (hcalls : ∀ call ∈ calls, call.isOperation = true) :
    (application env fuel calls : Threaded Unit).Safe (ownership rests env.LosesRead)
      ⟨none, []⟩ fun _ => Standing.Outside env.LosesRead := by
  refine safe_forEach (fun call hmem g hg => safe_bind.mpr ?_) ⟨rfl, .inl rfl⟩
  cases fuel with
  | zero => exact safe_halt
  | succ depth =>
    have hready : Standing.Ready env.LosesRead { g with marks := .call :: g.marks } := by
      refine ⟨?_, .inl List.mem_cons_self⟩
      rcases hg.free with hnone | ⟨-, htaken⟩
      · exact .inr ⟨hnone, by simp [hg.marks]⟩
      · exact .inl htaken
    refine safe_bind.mpr (safe_emit (safe_bind.mpr (safe_within (by simp) ?_)))
    refine (dispatch_safe hrests hready (fun _ => runHandler_inert hhandlers
      (apiCall_inert hrests hhandlers depth)) (hcalls call hmem)).mono ?_
    rintro rc g' (rfl | ⟨hlost, hnone, rfl⟩)
    · refine ⟨fun hbusy => ?_, safe_bind.mpr (safe_emit hg)⟩
      exact hg.free.elim (fun hnone => absurd hnone hbusy) fun hlost => .inr hlost.1
    · exact ⟨fun _ => .inr hlost, safe_bind.mpr (safe_emit ⟨hg.marks, .inr ⟨hlost, _, rfl, rfl⟩⟩)⟩

end Api

end AwsIot.Mqtt
