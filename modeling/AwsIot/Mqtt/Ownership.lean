/-
  Mqtt/Ownership.lean --- one thread at a time has taken the client.

  A thread that moves the client from a state of rest to a state of its own has taken the
  client: as long as every step is careful, no other thread moves the client state until
  it gives the client back.  `Standing` is what a thread may rely on, `ownership` the
  rules for its steps, and `Agrees` the invariant that relates the standings of all
  threads to the client they share.
-/
import AwsIot.Mqtt.StateMoves
import AwsIot.Mqtt.ThreadedClient

set_option autoImplicit false

namespace AwsIot.Mqtt

open AwsIot.Foundation

/-! ## Client states -/

/-- The states that a thread takes the client into. -/
def ClientState.isTaken : ClientState → Bool
  | .connecting | .connectedYieldInProgress | .connectedPublishInProgress
  | .connectedSubscribeInProgress | .connectedUnsubscribeInProgress
  | .connectedResubscribeInProgress | .connectedWaitForCbReturn => true
  | .invalid | .initialized | .connectedIdle | .disconnecting | .disconnectedError
  | .disconnectedManually | .pendingReconnect => false

/-- What refuses a client that is taken. -/
theorem ClientState.isTaken_refused {s : ClientState} (h : s.isTaken = true) :
    s.isValidForConnect = false ∧ s ≠ .connectedIdle ∧ s ≠ .disconnectedManually ∧
      s ≠ .pendingReconnect ∧ s ≠ .disconnectedError := by
  cases s <;> first | exact Bool.noConfusion h | decide

theorem Operation.isTaken_inProgress (operation : Operation) :
    operation.inProgress.isTaken = true := by
  cases operation <;> rfl

/-- The states in which no thread has taken the client. -/
structure RestStates (rests : ClientState → Bool) : Prop where
  /-- A client at rest is not taken. -/
  notTaken : ∀ {s : ClientState}, rests s = true → s.isTaken = false
  /-- A client that waits to reconnect is not at rest: a yield does not take it. -/
  notPending : rests .pendingReconnect = false
  /-- A connected client is at rest between two operations. -/
  idle : rests .connectedIdle = true
  /-- A client that could not connect is at rest. -/
  failed : ∀ {s : ClientState}, rests s = true → s.isValidForConnect = true →
    rests .disconnectedError = true

/-! ## Standings -/

/-- What a thread relies on. -/
structure Standing where
  /-- The state that the thread has taken the client into, if it has taken it. -/
  taken : Option ClientState
  /-- The marked stretches that the thread is in, innermost first. -/
  marks : List Mark

namespace Standing

variable (rests : ClientState → Bool) (lost : Prop)

/-- A client state that the thread may find. -/
def Sees (g : Standing) (s : ClientState) : Prop :=
  match g.taken with
  | none => rests s = true ∨ s.isTaken = true
  | some t => s = t

/-- The thread after a move of its own to client state `new`. -/
def moved (g : Standing) (new : ClientState) : Standing :=
  { g with taken := if new.isTaken then some new else none }

/-- A thread that has taken the client is inside a call, unless a yield has `lost` it; a
thread that has not is in no body and no handler. -/
structure Sound (g : Standing) : Prop where
  free : g.taken = none → ∀ mark ∈ g.marks, mark = .call
  busy : g.taken ≠ none → .call ∈ g.marks ∨ lost

/-- The thread may move the client state from `expected` to `new`. -/
structure MayMove (g : Standing) (expected new : ClientState) : Prop where
  /-- The client is taken from a state of rest. -/
  enter : g.taken = none → rests expected = true
  /-- It is taken inside a call, and given back outside all bodies and handlers. -/
  leave : new.isTaken = true ∧ (.call ∈ g.marks ∨ lost) ∨
    rests new = true ∧ ∀ mark ∈ g.marks, mark = .call

end Standing

section Rules

variable (rests : ClientState → Bool) (lost : Prop)

/-- What the steps of a thread may do, among threads that are careful. -/
def ownership : Rules Action Reply Standing where
  permits action g Q :=
    match action with
    | .work move => (∀ w, (move w).client.clientState = w.client.clientState) ∧
        ∀ w, g.Sees rests w.client.clientState → Q ⟨w, .success⟩ g
    | .setClientState site expected new => ∀ w lockTaken,
        g.Sees rests w.client.clientState →
        Careful g.marks (.setClientState site expected new) lockTaken w.client.clientState →
        if lockTaken then Q ⟨w, .mutexLockError⟩ g
        else if expected = w.client.clientState then
          g.MayMove rests lost expected new ∧ Q ⟨w, .success⟩ (g.moved new)
        else Q ⟨w, .mqttUnexpectedClientStateError⟩ g
    | .assignClientState _ => True
    | .enter mark => (mark ≠ .call → g.taken ≠ none) ∧
        ∀ w, Q ⟨w, .success⟩ { g with marks := mark :: g.marks }
    | .leave _ => (g.taken ≠ none → .call ∈ g.marks.tail ∨ lost) ∧
        ∀ w, Q ⟨w, .success⟩ { g with marks := g.marks.tail }
  mono := by
    intro action g Q Q' hQ h
    cases action with
    | work move => exact ⟨h.1, fun w hw => hQ _ _ (h.2 w hw)⟩
    | setClientState site expected new =>
      intro w lockTaken hsees hcareful
      have hstep := h w lockTaken hsees hcareful
      split at hstep
      case isTrue hlock => rw [if_pos hlock]; exact hQ _ _ hstep
      case isFalse hlock =>
        rw [if_neg hlock]
        split at hstep
        case isTrue he => rw [if_pos he]; exact ⟨hstep.1, hQ _ _ hstep.2⟩
        case isFalse he => rw [if_neg he]; exact hQ _ _ hstep
    | assignClientState new => trivial
    | enter mark => exact ⟨h.1, fun w => hQ _ _ (h.2 w)⟩
    | leave mark => exact ⟨h.1, fun w => hQ _ _ (h.2 w)⟩

/-- The standings of all threads agree with what they share. -/
structure Agrees (s : Shared) (g : Nat → Standing) : Prop where
  /-- The threads are in the stretches they are in. -/
  marks : ∀ i, s.marks i = (g i).marks
  /-- The client is in the state that a thread has taken it into. -/
  taken : ∀ i t, (g i).taken = some t → s.state = t ∧ t.isTaken = true
  /-- One thread at most has taken the client. -/
  unique : ∀ i j, (g i).taken ≠ none → (g j).taken ≠ none → i = j
  /-- If none has, the client is at rest. -/
  free : (∀ i, (g i).taken = none) → rests s.state = true
  /-- Every standing is sound. -/
  sound : ∀ i, (g i).Sound lost

end Rules

namespace Agrees

variable {rests : ClientState → Bool} {lost : Prop} {s : Shared} {g : Nat → Standing} {i : Nat}

/-- What a thread relies on is so. -/
theorem sees (h : Agrees rests lost s g) (i : Nat) : (g i).Sees rests s.state := by
  unfold Standing.Sees
  cases hi : (g i).taken with
  | some t => exact (h.taken i t hi).1
  | none =>
    by_cases hall : ∀ j, (g j).taken = none
    · exact .inl (h.free hall)
    · obtain ⟨j, hj⟩ := not_forall.mp hall
      obtain ⟨t, ht⟩ := Option.ne_none_iff_exists'.mp hj
      obtain ⟨hstate, htaken⟩ := h.taken j t ht
      exact .inr (hstate ▸ htaken)

/-- A thread in a body has taken the client. -/
theorem taken_of_inBody (h : Agrees rests lost s g) (hbody : s.InBody i) :
    (g i).taken ≠ none := by
  intro hfree
  obtain ⟨operation, hmem⟩ := hbody
  rw [h.marks] at hmem
  cases (h.sound i).free hfree _ hmem

/-- At most one thread is in a body. -/
theorem exclusive (h : Agrees rests lost s g) : s.Exclusive := fun i j hi hj =>
  h.unique i j (h.taken_of_inBody hi) (h.taken_of_inBody hj)

/-- Outside all calls, the client is at rest. -/
theorem rests_of_quiet (h : Agrees rests lost s g) (hkept : ¬ lost) (hquiet : s.Quiet) :
    rests s.state = true := by
  refine h.free fun i => ?_
  by_contra hbusy
  have hcall := ((h.sound i).busy hbusy).resolve_right hkept
  rw [← h.marks] at hcall
  exact hquiet i hcall

/-- A step that leaves the client state alone. -/
theorem work (h : Agrees rests lost s g) {w : World}
    (hstate : w.client.clientState = s.state) : Agrees rests lost { s with world := w } g where
  marks := h.marks
  taken i t ht := ⟨hstate.trans (h.taken i t ht).1, (h.taken i t ht).2⟩
  unique := h.unique
  free hall := (congrArg rests hstate).trans (h.free hall)
  sound := h.sound

/-- A thread enters or leaves a marked stretch. -/
theorem withMarks (h : Agrees rests lost s g) {marks : List Mark}
    (hsound : ({ g i with marks := marks } : Standing).Sound lost) :
    Agrees rests lost (s.withMarks i marks)
      (Function.update g i { g i with marks := marks }) := by
  have htaken : ∀ j, (Function.update g i { g i with marks := marks } j).taken = (g j).taken := by
    intro j
    by_cases hj : j = i
    · subst hj
      rw [Function.update_self]
    · rw [Function.update_of_ne hj]
  constructor
  case marks =>
    intro j
    show Function.update s.marks i marks j = _
    by_cases hj : j = i
    · subst hj
      rw [Function.update_self, Function.update_self]
    · rw [Function.update_of_ne hj, Function.update_of_ne hj]
      exact h.marks j
  case taken => intro j t ht; exact h.taken j t (htaken j ▸ ht)
  case unique => intro j k hj hk; exact h.unique j k (htaken j ▸ hj) (htaken k ▸ hk)
  case free => intro hall; exact h.free fun j => htaken j ▸ hall j
  case sound =>
    intro j
    by_cases hj : j = i
    · subst hj
      rw [Function.update_self]
      exact hsound
    · rw [Function.update_of_ne hj]
      exact h.sound j

/-- Only the thread that moves the client has taken it. -/
theorem others_free (h : Agrees rests lost s g) (hrests : RestStates rests) {new : ClientState}
    (hmay : (g i).MayMove rests lost s.state new) {j : Nat} (hj : j ≠ i) :
    (g j).taken = none := by
  by_contra hbusy
  by_cases hi : (g i).taken = none
  · obtain ⟨t, ht⟩ := Option.ne_none_iff_exists'.mp hbusy
    obtain ⟨hstate, htaken⟩ := h.taken j t ht
    have hfree := hrests.notTaken (hmay.enter hi)
    rw [hstate, htaken] at hfree
    cases hfree
  · exact hj (h.unique j i hbusy hi)

/-- A thread moves the client state. -/
theorem move (h : Agrees rests lost s g) (hrests : RestStates rests) {new : ClientState}
    (hmay : (g i).MayMove rests lost s.state new) :
    Agrees rests lost { s with world := s.world.withState new }
      (Function.update g i ((g i).moved new)) := by
  have hself : Function.update g i ((g i).moved new) i = (g i).moved new := Function.update_self ..
  have hother : ∀ j, j ≠ i → Function.update g i ((g i).moved new) j = g j :=
    fun j hj => Function.update_of_ne hj _ _
  have hfree : ∀ j, j ≠ i → (Function.update g i ((g i).moved new) j).taken = none := by
    intro j hj
    rw [hother j hj]
    exact h.others_free hrests hmay hj
  have hmarks : ∀ j, (Function.update g i ((g i).moved new) j).marks = (g j).marks := by
    intro j
    by_cases hj : j = i
    · subst hj
      rw [hself]
      rfl
    · rw [hother j hj]
  constructor
  case marks => intro j; rw [hmarks]; exact h.marks j
  case taken =>
    intro j t ht
    by_cases hj : j = i
    · subst hj
      rw [hself] at ht
      by_cases hnew : new.isTaken = true
      · obtain rfl : new = t := by simpa [Standing.moved, hnew] using ht
        exact ⟨rfl, hnew⟩
      · simp [Standing.moved, hnew] at ht
    · rw [hfree j hj] at ht
      cases ht
  case unique =>
    intro j k hj hk
    have hji : j = i := by_contra fun hne => hj (hfree j hne)
    have hki : k = i := by_contra fun hne => hk (hfree k hne)
    rw [hji, hki]
  case free =>
    intro hall
    have hnone := hall i
    rw [hself] at hnone
    rcases hmay.leave with ⟨hnew, -⟩ | ⟨hrest, -⟩
    · simp [Standing.moved, hnew] at hnone
    · exact hrest
  case sound =>
    intro j
    by_cases hj : j = i
    · subst hj
      rw [hself]
      constructor
      · intro hnone
        rcases hmay.leave with ⟨hnew, -⟩ | ⟨-, hcalls⟩
        · simp [Standing.moved, hnew] at hnone
        · exact hcalls
      · intro hbusy
        rcases hmay.leave with ⟨-, hinside⟩ | ⟨hrest, -⟩
        · exact hinside
        · simp [Standing.moved, hrests.notTaken hrest] at hbusy
    · rw [hother j hj]
      exact h.sound j

/-- A step that ownership permits keeps the agreement, if it is careful. -/
theorem act (hrests : RestStates rests) {action : Action} {lockTaken : Bool}
    {Q : Reply → Standing → Prop} (h : Agrees rests lost s g)
    (hcareful : Careful (s.marks i) action lockTaken s.state)
    (hpermits : (ownership rests lost).permits action (g i) Q) :
    ∃ g', Q (clientMachine i action lockTaken s).1 g' ∧
      Agrees rests lost (clientMachine i action lockTaken s).2 (Function.update g i g') := by
  have hsame : Agrees rests lost s (Function.update g i (g i)) := by
    rw [Function.update_eq_self]
    exact h
  cases action with
  | work move =>
    refine ⟨g i, hpermits.2 s.world (h.sees i), ?_⟩
    rw [Function.update_eq_self]
    exact h.work (hpermits.1 s.world)
  | setClientState site expected new =>
    rw [h.marks] at hcareful
    have hstep : if lockTaken then Q ⟨s.world, .mutexLockError⟩ (g i)
        else if expected = s.state then
          (g i).MayMove rests lost expected new ∧ Q ⟨s.world, .success⟩ ((g i).moved new)
        else Q ⟨s.world, .mqttUnexpectedClientStateError⟩ (g i) :=
      hpermits s.world lockTaken (h.sees i) hcareful
    rw [clientMachine_setClientState]
    by_cases hlock : lockTaken = true
    · rw [if_pos hlock] at hstep ⊢
      exact ⟨g i, hstep, hsame⟩
    rw [if_neg hlock] at hstep ⊢
    by_cases he : expected = s.state
    · rw [if_pos he] at hstep ⊢
      exact ⟨(g i).moved new, hstep.2, h.move hrests (he ▸ hstep.1)⟩
    · rw [if_neg he] at hstep ⊢
      exact ⟨g i, hstep, hsame⟩
  | assignClientState new => exact hcareful.elim
  | enter mark =>
    refine ⟨_, hpermits.2 s.world, ?_⟩
    show Agrees rests lost (s.withMarks i (mark :: s.marks i)) _
    rw [h.marks]
    refine h.withMarks ⟨fun hfree => ?_, fun hbusy => ?_⟩
    · have hmark : mark = .call := by_contra fun hne => hpermits.1 hne hfree
      exact List.forall_mem_cons.mpr ⟨hmark, (h.sound i).free hfree⟩
    · exact ((h.sound i).busy hbusy).imp_left (List.mem_cons_of_mem mark)
  | leave mark =>
    refine ⟨_, hpermits.2 s.world, ?_⟩
    show Agrees rests lost (s.withMarks i (s.marks i).tail) _
    rw [h.marks]
    exact h.withMarks ⟨fun hfree mark hmem =>
      (h.sound i).free hfree mark (List.mem_of_mem_tail hmem), hpermits.1⟩

end Agrees

/-! ## Interleavings -/

/-- If each thread is safe on its own, the standings agree with the client after every
interleaving of careful steps. -/
theorem agrees_of_careful {rests : ClientState → Bool} {lost : Prop} (hrests : RestStates rests)
    {env : Env} {fuel : Nat} {calls : Nat → List ApiCall} {w : World}
    (hstart : rests w.client.clientState = true)
    (hsafe : ∀ i, (application env fuel (calls i) : Threaded Unit).Safe (ownership rests lost)
      ⟨none, []⟩ fun _ _ => True)
    {choices : List (Nat × Bool)} (hcareful : AllCareful (clientThreads env fuel calls w) choices) :
    ∃ g, Agrees rests lost
      ((clientThreads env fuel calls w).run clientMachine choices).shared g := by
  have hagrees : Agrees rests lost ⟨w, fun _ => []⟩ fun _ => ⟨none, []⟩ := {
    marks := fun _ => rfl
    taken := fun _ _ h => by cases h
    unique := fun _ _ h _ => absurd rfl h
    free := fun _ => hstart
    sound := fun _ => ⟨fun _ _ h => absurd h List.not_mem_nil, fun h => absurd rfl h⟩ }
  obtain ⟨g, hg, -⟩ := System.run_safe (Agrees.act hrests) hagrees hsafe hcareful
  exact ⟨g, hg⟩

end AwsIot.Mqtt
