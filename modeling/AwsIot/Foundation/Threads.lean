/-
  Foundation/Threads.lean --- programs that run side by side.

  A thread is a program cut into atomic actions; between two actions of one thread the
  other threads may run.  `Thread A R α` is the tree of the actions a program asks for,
  each continued by the answer it gets.  A machine says what an action does to the state
  that the threads share.  Whose action is next, and how a machine decides what is left
  open, is a list of choices: a statement about every list of choices is a statement about
  every interleaving.

  Invariants are proved thread by thread.  Each thread has a standing, which is what it may
  rely on; `Rules` say which actions a standing permits and what the thread may rely on
  afterwards.  If every permitted action keeps an invariant of the shared state and the
  standings of all threads, then the invariant holds after every interleaving of threads
  that are safe each on its own (`System.run_safe`).
-/
import AwsIot.Foundation.Program
import Mathlib.Logic.Function.Basic

set_option autoImplicit false

namespace AwsIot.Foundation

/-! ## Threads -/

/-- A program of one thread, over actions `A` that are answered by an `R`. -/
inductive Thread (A R α : Type) : Type where
  /-- The program returned `value`. -/
  | done (value : α)
  /-- The program stopped without returning. -/
  | halted
  /-- The program asks for `action` and goes on with what it is answered. -/
  | act (action : A) (next : R → Thread A R α)

/-- What a thread may do.  A thread is in a standing, a `γ`: what it may rely on. -/
structure Rules (A R γ : Type) where
  /-- Standing `g` permits `action`, and every answer it can get, with the standing the
  thread has then, satisfies `Q`. -/
  permits (action : A) (g : γ) (Q : R → γ → Prop) : Prop
  /-- What permits more than is asked for permits what is asked for. -/
  mono : ∀ {action : A} {g : γ} {Q Q' : R → γ → Prop}, (∀ r g', Q r g' → Q' r g') →
    permits action g Q → permits action g Q'

namespace Thread

variable {A R γ α β : Type}

/-- Go on with `f` when `x` returns. -/
def bind : Thread A R α → (α → Thread A R β) → Thread A R β
  | .done a, f => f a
  | .halted, _ => .halted
  | .act action next, f => .act action fun r => (next r).bind f

instance : Monad (Thread A R) where
  pure := .done
  bind := Thread.bind

instance : Halting (Thread A R) where
  halt := .halted

/-! ## Safety of one thread -/

/-- From standing `g`, every action of the program is permitted, and a return satisfies
`Q`. -/
def Safe (rules : Rules A R γ) : Thread A R α → γ → (α → γ → Prop) → Prop
  | .done a, g, Q => Q a g
  | .halted, _, _ => True
  | .act action next, g, Q => rules.permits action g fun r g' => (next r).Safe rules g' Q

variable {rules : Rules A R γ} {x : Thread A R α} {g : γ} {Q Q' : α → γ → Prop}

@[simp] theorem safe_pure {a : α} : (pure a : Thread A R α).Safe rules g Q ↔ Q a g := Iff.rfl

@[simp] theorem safe_halt : (halt : Thread A R α).Safe rules g Q := trivial

@[simp] theorem safe_act {action : A} {next : R → Thread A R α} :
    (act action next).Safe rules g Q ↔
      rules.permits action g fun r g' => (next r).Safe rules g' Q := Iff.rfl

@[simp] theorem safe_bind {f : α → Thread A R β} {Q : β → γ → Prop} :
    (x >>= f).Safe rules g Q ↔ x.Safe rules g fun a g' => (f a).Safe rules g' Q := by
  show (Thread.bind x f).Safe rules g Q ↔ _
  induction x generalizing g with
  | done a => exact Iff.rfl
  | halted => exact Iff.rfl
  | act action next ih =>
    simp only [Thread.bind, Safe]
    constructor
    · exact rules.mono fun r g' h => (ih r).mp h
    · exact rules.mono fun r g' h => (ih r).mpr h

@[simp] theorem safe_ite {c : Prop} [Decidable c] {x y : Thread A R α} :
    (if c then x else y).Safe rules g Q ↔
      if c then x.Safe rules g Q else y.Safe rules g Q := by
  split <;> rfl

theorem Safe.mono (h : x.Safe rules g Q) (hQ : ∀ a g', Q a g' → Q' a g') :
    x.Safe rules g Q' := by
  induction x generalizing g with
  | done a => exact hQ a g h
  | halted => trivial
  | act action next ih => exact rules.mono (fun r g' h => ih r h) h

/-- The loop rule: `I` holds before every pass, a pass that asks for another one
re-establishes it, and a pass that stops gives the postcondition. -/
theorem safe_loop {δ : Type} {body : β → Thread A R (Step β δ)} {I : β → γ → Prop}
    {Q : δ → γ → Prop}
    (hpass : ∀ b g, I b g → (body b).Safe rules g fun r g' =>
      match r with | .again b' => I b' g' | .stop c => Q c g') :
    ∀ n b g, I b g → (loop body n b).Safe rules g Q := by
  intro n
  induction n with
  | zero => intro b g _; exact safe_halt
  | succ n ih =>
    intro b g hI
    refine safe_bind.mpr ((hpass b g hI).mono ?_)
    intro r g' hr
    cases r with
    | again b' => exact ih b' g' hr
    | stop c => exact hr

/-- Running over a list keeps what every member keeps. -/
theorem safe_forEach {body : β → Thread A R Unit} {I : γ → Prop} {bs : List β}
    (hbody : ∀ b ∈ bs, ∀ g, I g → (body b).Safe rules g fun _ => I) (hI : I g) :
    (forEach body bs).Safe rules g fun _ => I := by
  induction bs generalizing g with
  | nil => exact hI
  | cons b bs ih =>
    refine safe_bind.mpr ((hbody b List.mem_cons_self g hI).mono fun _ g' hg' => ?_)
    exact ih (fun b hb => hbody b (List.mem_cons_of_mem _ hb)) hg'

/-- From every standing in `P` the program is safe and comes back to it. -/
def Keeps (rules : Rules A R γ) (P : γ → Prop) {α : Type} (x : Thread A R α) : Prop :=
  ∀ g, P g → x.Safe rules g fun _ g' => g' = g

/-- Coming back to where one stood is compositional. -/
theorem keeps_compositional (rules : Rules A R γ) (P : γ → Prop) :
    Compositional (m := Thread A R) (Keeps rules P) where
  pure _ _ _ := rfl
  halt _ _ := trivial
  bind hx hf g hg := safe_bind.mpr <| (hx g hg).mono fun a _ hsame => hsame ▸ hf a g hg

end Thread

/-! ## Threads side by side -/

/-- A machine: what an action of thread `i` answers and does to the shared state, by a
choice `k` of what is left open. -/
abbrev Machine (σ A R κ : Type) := (i : Nat) → (action : A) → (k : κ) → (s : σ) → R × σ

/-- The threads of a program and what they share. -/
structure System (σ A R α : Type) where
  /-- The state that the threads share. -/
  shared : σ
  /-- What each thread still has to do. -/
  threads : Nat → Thread A R α

namespace System

variable {σ A R κ γ α : Type} (machine : Machine σ A R κ)

/-- The chosen thread performs its next action; a thread that is over does nothing. -/
def step (s : System σ A R α) (choice : Nat × κ) : System σ A R α :=
  match s.threads choice.1 with
  | .act action next =>
      let answer := machine choice.1 action choice.2 s.shared
      ⟨answer.2, Function.update s.threads choice.1 (next answer.1)⟩
  | .done _ | .halted => s

/-- An interleaving, choice by choice. -/
def run (s : System σ A R α) (choices : List (Nat × κ)) : System σ A R α :=
  choices.foldl (step machine) s

/-- What the chosen thread does next satisfies `ok`. -/
def StepMeets (ok : Nat → A → κ → σ → Prop) (s : System σ A R α) (choice : Nat × κ) : Prop :=
  match s.threads choice.1 with
  | .act action _ => ok choice.1 action choice.2 s.shared
  | .done _ | .halted => True

/-- Every step of an interleaving satisfies `ok`. -/
def Meets (ok : Nat → A → κ → σ → Prop) : System σ A R α → List (Nat × κ) → Prop
  | _, [] => True
  | s, choice :: choices => s.StepMeets ok choice ∧ Meets ok (s.step machine choice) choices

instance (ok : Nat → A → κ → σ → Prop) [∀ i a k s, Decidable (ok i a k s)]
    (s : System σ A R α) (choice : Nat × κ) : Decidable (s.StepMeets ok choice) := by
  unfold StepMeets
  cases s.threads choice.1 <;> infer_instance

instance decidableMeets (ok : Nat → A → κ → σ → Prop) [∀ i a k s, Decidable (ok i a k s)] :
    ∀ (s : System σ A R α) (choices : List (Nat × κ)), Decidable (s.Meets machine ok choices)
  | _, [] => inferInstanceAs (Decidable True)
  | s, choice :: choices =>
      have := decidableMeets ok (s.step machine choice) choices
      inferInstanceAs (Decidable (_ ∧ _))

variable {machine}

/-- The step lemma: what the actions keep, a step of a safe thread keeps, and the thread
stays safe. -/
theorem step_safe {rules : Rules A R γ} {I : σ → (Nat → γ) → Prop}
    {ok : Nat → A → κ → σ → Prop}
    (hact : ∀ {i action k s g Q}, I s g → ok i action k s → rules.permits action (g i) Q →
      ∃ g', Q (machine i action k s).1 g' ∧ I (machine i action k s).2 (Function.update g i g'))
    {s : System σ A R α} {g : Nat → γ} {Q : α → γ → Prop} (hI : I s.shared g)
    (hsafe : ∀ i, (s.threads i).Safe rules (g i) Q) {choice : Nat × κ}
    (hok : s.StepMeets ok choice) :
    ∃ g', I (s.step machine choice).shared g' ∧
      ∀ i, ((s.step machine choice).threads i).Safe rules (g' i) Q := by
  have hchosen := hsafe choice.1
  unfold StepMeets at hok
  unfold step
  cases hthread : s.threads choice.1 with
  | done a => exact ⟨g, hI, hsafe⟩
  | halted => exact ⟨g, hI, hsafe⟩
  | act action next =>
    rw [hthread] at hok hchosen
    obtain ⟨g', hnext, hI'⟩ := hact hI hok hchosen
    refine ⟨Function.update g choice.1 g', hI', fun i => ?_⟩
    by_cases hi : i = choice.1
    · subst hi
      simpa using hnext
    · simpa [Function.update_of_ne hi] using hsafe i

/-- The run lemma: an invariant that every permitted action keeps holds after every
interleaving of safe threads. -/
theorem run_safe {rules : Rules A R γ} {I : σ → (Nat → γ) → Prop}
    {ok : Nat → A → κ → σ → Prop}
    (hact : ∀ {i action k s g Q}, I s g → ok i action k s → rules.permits action (g i) Q →
      ∃ g', Q (machine i action k s).1 g' ∧ I (machine i action k s).2 (Function.update g i g'))
    {Q : α → γ → Prop} {choices : List (Nat × κ)} :
    ∀ {s : System σ A R α} {g : Nat → γ}, I s.shared g →
      (∀ i, (s.threads i).Safe rules (g i) Q) → s.Meets machine ok choices →
      ∃ g', I (s.run machine choices).shared g' ∧
        ∀ i, ((s.run machine choices).threads i).Safe rules (g' i) Q := by
  induction choices with
  | nil => intro s g hI hsafe _; exact ⟨g, hI, hsafe⟩
  | cons choice choices ih =>
    intro s g hI hsafe hok
    obtain ⟨g₁, hI₁, hsafe₁⟩ := step_safe hact hI hsafe hok.1
    exact ih hI₁ hsafe₁ hok.2

end System

end AwsIot.Foundation
