/-
  Foundation/Program.lean --- effectful programs that may halt.

  A C function that loops until a peer answers, or that calls back into an
  application without bound, need not return.  `Program σ α` is a state
  transformer whose run either returns a value or halts early, and in both cases
  the state reached is kept: safety properties speak about every state a run
  gets to, not only about the states of runs that return.

  Loops are written over any monad that can halt.  They carry explicit fuel and
  halt when it is spent, so a statement about every amount of fuel is a statement
  about every finite prefix of a run.

  Two ways of reasoning are provided, and the client proofs use no other:
  `Program.Ends` is the weakest precondition of a return and of a halt, and a
  `Compositional` property of programs is proved for a whole program by showing
  it for the primitives the program is built from.
-/
import Mathlib.Algebra.Group.Int.Defs
import Mathlib.Algebra.Group.Nat.Defs
import Mathlib.Order.Defs.Unbundled

set_option autoImplicit false

namespace AwsIot.Foundation

/-! ## Halting and loops -/

/-- A monad whose programs can stop without returning. -/
class Halting (m : Type → Type) where
  /-- Stop without returning. -/
  halt {α : Type} : m α

export Halting (halt)

/-- What one pass of a loop body asks for. -/
inductive Step (β γ : Type) where
  /-- Another pass, with the loop variables `next`. -/
  | again (next : β)
  /-- Leave the loop with `result`. -/
  | stop (result : γ)

/-- Run `body` until it stops.  Spent fuel is a halt, never a result. -/
def loop {m : Type → Type} [Monad m] [Halting m] {β γ : Type} (body : β → m (Step β γ)) :
    Nat → β → m γ
  | 0, _ => halt
  | n + 1, b => do
      match ← body b with
      | .again b' => loop body n b'
      | .stop c => pure c

/-- Run `body` on every member of a list, in order. -/
def forEach {m : Type → Type} [Monad m] {β : Type} (body : β → m Unit) : List β → m Unit
  | [] => pure ()
  | b :: bs => do
      body b
      forEach body bs

/-! ## Compositional properties -/

/-- A property of programs that sequencing preserves. -/
structure Compositional {m : Type → Type} [Monad m] [Halting m]
    (Ok : ∀ {α : Type}, m α → Prop) : Prop where
  /-- Returning has the property. -/
  pure : ∀ {α : Type} (a : α), Ok (pure a : m α)
  /-- Sequencing keeps it. -/
  bind : ∀ {α β : Type} {x : m α} {f : α → m β}, Ok x → (∀ a, Ok (f a)) → Ok (x >>= f)
  /-- Halting has it. -/
  halt : ∀ {α : Type}, Ok (halt : m α)

namespace Compositional

variable {m : Type → Type} [Monad m] [Halting m] {Ok : ∀ {α : Type}, m α → Prop}
  {α β γ : Type}

theorem ite (_ : Compositional (m := m) Ok) {c : Prop} [Decidable c] {x y : m α}
    (hx : c → Ok x) (hy : ¬ c → Ok y) : Ok (if c then x else y) := by
  split
  · exact hx ‹_›
  · exact hy ‹_›

theorem loop (h : Compositional (m := m) Ok) {body : β → m (Step β γ)} (hbody : ∀ b, Ok (body b)) :
    ∀ n b, Ok (Foundation.loop body n b) := by
  intro n
  induction n with
  | zero => intro b; exact h.halt
  | succ n ih =>
    intro b
    apply h.bind (hbody b)
    intro r
    cases r with
    | again b' => exact ih b'
    | stop c => exact h.pure c

theorem forEach (h : Compositional (m := m) Ok) {body : β → m Unit} (hbody : ∀ b, Ok (body b)) :
    ∀ bs, Ok (Foundation.forEach body bs) := by
  intro bs
  induction bs with
  | nil => exact h.pure ()
  | cons b bs ih => exact h.bind (hbody b) fun _ => ih

end Compositional

/-! ## State transformers -/

/-- How a run ends: it returns a value, or it halts before returning. -/
inductive Outcome (σ α : Type) where
  /-- The program returned `value` in state `state`. -/
  | done (value : α) (state : σ)
  /-- The program stopped in state `state` without returning. -/
  | halted (state : σ)

/-- The state a run ended in, returned or halted. -/
def Outcome.state {σ α : Type} : Outcome σ α → σ
  | .done _ s => s
  | .halted s => s

/-- The value a run returned, if it returned. -/
def Outcome.value? {σ α : Type} : Outcome σ α → Option α
  | .done a _ => some a
  | .halted _ => none

@[simp] theorem Outcome.state_done {σ α : Type} (a : α) (s : σ) :
    (Outcome.done a s).state = s := rfl

@[simp] theorem Outcome.state_halted {σ α : Type} (s : σ) :
    (Outcome.halted s : Outcome σ α).state = s := rfl

/-- A stateful program over `σ` that returns an `α` or halts. -/
def Program (σ α : Type) := σ → Outcome σ α

namespace Program

variable {σ α β γ : Type}

/-- Run `m` from `s`. -/
def run (m : Program σ α) (s : σ) : Outcome σ α := m s

/-- Run `f` on what `m` returned; a halt of `m` is a halt of the whole. -/
def bind (m : Program σ α) (f : α → Program σ β) : Program σ β := fun s =>
  match m s with
  | .done a s' => f a s'
  | .halted s' => .halted s'

instance : Monad (Program σ) where
  pure a := fun s => .done a s
  bind := Program.bind

instance : Halting (Program σ) where
  halt := fun s => .halted s

/-! ## Weakest preconditions -/

/-- Every end of `m` from `s` is covered: a return satisfies `Q`, a halt
satisfies `H`. -/
def Ends (m : Program σ α) (s : σ) (Q : α → σ → Prop) (H : σ → Prop) : Prop :=
  match m s with
  | .done a s' => Q a s'
  | .halted s' => H s'

variable {m : Program σ α} {s s' : σ} {Q Q' : α → σ → Prop} {H H' : σ → Prop}

@[simp] theorem ends_pure {a : α} :
    (pure a : Program σ α).Ends s Q H ↔ Q a s := Iff.rfl

@[simp] theorem ends_halt : (halt : Program σ α).Ends s Q H ↔ H s := Iff.rfl

@[simp] theorem ends_bind {f : α → Program σ β} {Q : β → σ → Prop} :
    (m >>= f).Ends s Q H ↔ m.Ends s (fun a s' => (f a).Ends s' Q H) H := by
  show (match Program.bind m f s with | .done a s' => Q a s' | .halted s' => H s') ↔ _
  simp only [Program.bind, Ends]
  cases m s <;> rfl

@[simp] theorem ends_ite {c : Prop} [Decidable c] {m₁ m₂ : Program σ α} :
    (if c then m₁ else m₂).Ends s Q H ↔
      if c then m₁.Ends s Q H else m₂.Ends s Q H := by
  split <;> rfl

theorem Ends.mono (h : m.Ends s Q H) (hQ : ∀ a s', Q a s' → Q' a s')
    (hH : ∀ s', H s' → H' s') : m.Ends s Q' H' := by
  unfold Ends at h ⊢
  cases hm : m s with
  | done a s' => rw [hm] at h; exact hQ a s' h
  | halted s' => rw [hm] at h; exact hH s' h

/-- Only what a return satisfies is asked for. -/
theorem Ends.onReturn (h : m.Ends s Q H) : m.Ends s Q (fun _ => True) :=
  h.mono (fun _ _ h => h) (fun _ _ => trivial)

/-- A conjunction of postconditions is proved one conjunct at a time. -/
theorem Ends.and (h : m.Ends s Q H) (h' : m.Ends s Q' H') :
    m.Ends s (fun a s' => Q a s' ∧ Q' a s') (fun s' => H s' ∧ H' s') := by
  unfold Ends at h h' ⊢
  cases hm : m s with
  | done a s' => rw [hm] at h h'; exact ⟨h, h'⟩
  | halted s' => rw [hm] at h h'; exact ⟨h, h'⟩

theorem Ends.of_run (h : m.Ends s Q H) {a : α} (hr : m.run s = .done a s') : Q a s' := by
  have hm : m s = .done a s' := hr
  simpa [Ends, hm] using h

theorem Ends.of_halt (h : m.Ends s Q H) (hr : m.run s = .halted s') : H s' := by
  have hm : m s = .halted s' := hr
  simpa [Ends, hm] using h

theorem ends_iff_run : m.Ends s Q H ↔
    (∀ a s', m.run s = .done a s' → Q a s') ∧ (∀ s', m.run s = .halted s' → H s') := by
  constructor
  · intro h; exact ⟨fun a s' hr => h.of_run hr, fun s' hr => h.of_halt hr⟩
  · rintro ⟨hd, hh⟩
    unfold Ends
    cases hm : m s with
    | done a s' => exact hd a s' hm
    | halted s' => exact hh s' hm

/-- What holds of every end holds of the end reached. -/
theorem ends_state_iff {P : σ → Prop} : m.Ends s (fun _ => P) P ↔ P (m.run s).state := by
  unfold Ends run
  cases m s <;> rfl

theorem run_eq_done_iff {a : α} : m.run s = .done a s' ↔
    m.Ends s (fun a' s'' => a' = a ∧ s'' = s') (fun _ => False) := by
  unfold Ends run
  cases m s with
  | done a' s'' => simp
  | halted s'' => simp

theorem value?_eq_some_iff {a : α} :
    (m.run s).value? = some a ↔ m.Ends s (fun a' _ => a' = a) (fun _ => False) := by
  unfold Ends run
  cases m s with
  | done a' s' => simp [Outcome.value?]
  | halted s' => simp [Outcome.value?]

/-- A run that returned ended in the state it reached. -/
theorem run_eq_done {a : α} (h : (m.run s).value? = some a) :
    m.run s = .done a (m.run s).state := by
  cases hm : m.run s with
  | done a' s' =>
    rw [hm] at h
    obtain rfl := Option.some.inj h
    rfl
  | halted s' => rw [hm] at h; cases h

/-- A program that cannot halt returns. -/
theorem exists_run_of_ends (h : m.Ends s Q (fun _ => False)) :
    ∃ a s', m.run s = .done a s' ∧ Q a s' := by
  unfold Ends at h
  unfold run
  cases hm : m s with
  | done a s' => rw [hm] at h; exact ⟨a, s', rfl, h⟩
  | halted s' => rw [hm] at h; exact h.elim

/-- The ends of a program whose run is known. -/
theorem ends_of_run_eq {a : α} (h : m.run s = .done a s') : m.Ends s Q H ↔ Q a s' := by
  have hm : m s = .done a s' := h
  simp [Ends, hm]

/-- The loop rule: `I` holds before every pass, a pass that asks for another one
re-establishes it, and a pass that stops gives the postcondition.  A halt inside
a pass, or on spent fuel, gives `H`. -/
theorem ends_loop {body : β → Program σ (Step β γ)} {I : β → σ → Prop} {Q : γ → σ → Prop}
    (hpass : ∀ b s, I b s → (body b).Ends s
      (fun r s' => match r with | .again b' => I b' s' | .stop c => Q c s') H)
    (hfuel : ∀ b s, I b s → H s) :
    ∀ n b s, I b s → (loop body n b).Ends s Q H := by
  intro n
  induction n with
  | zero => intro b s hI; exact hfuel b s hI
  | succ n ih =>
    intro b s hI
    refine ends_bind.mpr ((hpass b s hI).mono ?_ (fun _ h => h))
    intro r s' hr
    cases r with
    | again b' => exact ih b' s' hr
    | stop c => exact hr

/-- The loop rule with the passes counted: `I` also knows how many came before, and a loop
that spends its fuel has made that many passes. -/
theorem ends_loop_counted {body : β → Program σ (Step β γ)} {I : Nat → β → σ → Prop}
    {Q : γ → σ → Prop}
    (hpass : ∀ k b s, I k b s → (body b).Ends s
      (fun r s' => match r with | .again b' => I (k + 1) b' s' | .stop c => Q c s') H) :
    ∀ n k b s, I k b s → (loop body n b).Ends s Q (fun s' => H s' ∨ ∃ b', I (k + n) b' s') := by
  intro n
  induction n with
  | zero => intro k b s hI; exact .inr ⟨b, hI⟩
  | succ n ih =>
    intro k b s hI
    refine ends_bind.mpr ((hpass k b s hI).mono ?_ (fun _ h => .inl h))
    intro r s' hr
    cases r with
    | again b' =>
      have hrest := ih (k + 1) b' s' hr
      rw [Nat.add_right_comm, Nat.add_assoc] at hrest
      exact hrest
    | stop c => exact hr

/-- A loop with fuel runs its body once and goes on as the body asks. -/
theorem run_loop_succ {body : β → Program σ (Step β γ)} {n : Nat} {b : β} :
    (loop body (n + 1) b).run s = match (body b).run s with
      | .done (.again b') s' => (loop body n b').run s'
      | .done (.stop c) s' => .done c s'
      | .halted s' => .halted s' := by
  show Program.bind (body b) _ s = _
  unfold Program.bind run
  cases body b s with
  | done r s' => cases r <;> rfl
  | halted s' => rfl

/-- A pass that asks for another one passes the loop on. -/
theorem ends_loop_again {body : β → Program σ (Step β γ)} {n : Nat} {b b' : β}
    {Q : γ → σ → Prop} (h : (body b).run s = .done (.again b') s') :
    (loop body (n + 1) b).Ends s Q H ↔ (loop body n b').Ends s' Q H :=
  ends_bind.trans (ends_of_run_eq h)

/-- A pass that stops ends the loop. -/
theorem ends_loop_stop {body : β → Program σ (Step β γ)} {n : Nat} {b : β} {c : γ}
    {Q : γ → σ → Prop} (h : (body b).run s = .done (.stop c) s') :
    (loop body (n + 1) b).Ends s Q H ↔ Q c s' :=
  ends_bind.trans (ends_of_run_eq h)

/-- Running over one list and then over another is running over both. -/
theorem ends_forEach_append {body : β → Program σ Unit} {bs bs' : List β}
    {Q : Unit → σ → Prop} : (forEach body (bs ++ bs')).Ends s Q H ↔
      (forEach body bs).Ends s (fun _ s' => (forEach body bs').Ends s' Q H) H := by
  induction bs generalizing s with
  | nil => exact Iff.rfl
  | cons b bs ih =>
    rw [List.cons_append, forEach, forEach, ends_bind, ends_bind]
    simp only [ih]

/-! ## Two-state relations -/

/-- `m` moves the state along `R` when it returns, and along `H` when it halts. -/
def Tracks (R H : σ → σ → Prop) {α : Type} (m : Program σ α) : Prop :=
  ∀ s, m.Ends s (fun _ s' => R s s') (H s)

/-- What a halt may do after a stretch that returned is what it may do. -/
structure HaltsAfter (R H : σ → σ → Prop) : Prop where
  /-- A halt may do nothing. -/
  refl : ∀ s, H s s
  /-- A halt may come after a stretch that returned. -/
  trans : ∀ {s s₁ s'}, R s s₁ → H s₁ s' → H s s'

/-- Moving along a preorder up to a return, and along `H` up to a halt, is
compositional. -/
theorem tracks_compositional {R H : σ → σ → Prop} [IsPreorder σ R] (h : HaltsAfter R H) :
    Compositional (m := Program σ) (Tracks R H) where
  pure _ s := refl_of R s
  halt s := h.refl s
  bind hm hf s := ends_bind.mpr <| (hm s).mono
    (fun a s₁ h₁ => (hf a s₁).mono (fun _ _ h₂ => trans_of R h₁ h₂)
      (fun _ h₂ => h.trans h₁ h₂))
    (fun _ h => h)

/-- `m` moves the state along `R`, whether it returns or halts. -/
def Keeps (R : σ → σ → Prop) {α : Type} (m : Program σ α) : Prop := Tracks R R m

theorem haltsAfter_self (R : σ → σ → Prop) [IsPreorder σ R] : HaltsAfter R R where
  refl := refl_of R
  trans := trans_of R

/-- Moving along a preorder is compositional. -/
theorem keeps_compositional (R : σ → σ → Prop) [IsPreorder σ R] :
    Compositional (m := Program σ) (Keeps R) :=
  tracks_compositional (haltsAfter_self R)

/-- `m` moves the state along `R` when it returns. -/
def Returns (R : σ → σ → Prop) {α : Type} (m : Program σ α) : Prop :=
  Tracks R (fun _ _ => True) m

theorem haltsAfter_any (R : σ → σ → Prop) : HaltsAfter R (fun _ _ => True) where
  refl _ := trivial
  trans _ _ := trivial

/-- Moving along a preorder up to a return is compositional. -/
theorem returns_compositional (R : σ → σ → Prop) [IsPreorder σ R] :
    Compositional (m := Program σ) (Returns R) :=
  tracks_compositional (haltsAfter_any R)

/-- Some program ends somehow. -/
theorem ends_true : m.Ends s (fun _ _ => True) (fun _ => True) :=
  ends_iff_run.mpr ⟨fun _ _ _ => trivial, fun _ _ => trivial⟩

/-- What a program does under a hypothesis, where the hypothesis may fail. -/
theorem ends_imp {P : Prop} (h : P → m.Ends s Q H) :
    m.Ends s (fun a s' => P → Q a s') (fun s' => P → H s') := by
  by_cases hP : P
  · exact (h hP).mono (fun _ _ hQ _ => hQ) (fun _ hH _ => hH)
  · exact ends_true.mono (fun _ _ _ hP' => absurd hP' hP) (fun _ _ hP' => absurd hP' hP)

end Program

end AwsIot.Foundation
