/-
  Foundation/Monitor.lean --- logs that a monitor accepts.

  A program that logs what it does is safe when a monitor that reads the log permits
  every event in the state that the events before it led to.  Logs have their newest
  event first.
-/
import Mathlib.Data.List.Infix

set_option autoImplicit false

namespace AwsIot.Foundation

/-- A deterministic automaton that says what may happen next. -/
structure Monitor (σ ε : Type) where
  /-- The state before anything happened. -/
  start : σ
  /-- The state after an event. -/
  after : σ → ε → σ
  /-- The event may happen. -/
  permits : σ → ε → Bool

namespace Monitor

variable {σ ε : Type} (m : Monitor σ ε)

/-- The state after a log. -/
def state (log : List ε) : σ := log.foldr (fun e s => m.after s e) m.start

/-- The newest event was permitted. -/
def permitted : List ε → Bool
  | [] => true
  | e :: log => m.permits (m.state log) e

/-- Every event was permitted when it happened. -/
def Accepts (log : List ε) : Prop := ∀ pre, pre <:+ log → m.permitted pre = true

instance (log : List ε) : Decidable (m.Accepts log) :=
  decidable_of_iff (∀ pre ∈ log.tails, m.permitted pre = true) (by simp [Accepts, List.mem_tails])

@[simp] theorem state_nil : m.state [] = m.start := rfl

@[simp] theorem state_cons (e : ε) (log : List ε) :
    m.state (e :: log) = m.after (m.state log) e := rfl

theorem accepts_nil : m.Accepts [] := by
  intro pre h
  rw [List.suffix_nil.mp h]
  rfl

variable {m}

@[simp] theorem accepts_cons {e : ε} {log : List ε} :
    m.Accepts (e :: log) ↔ m.permits (m.state log) e = true ∧ m.Accepts log := by
  constructor
  · intro h
    have hold : m.Accepts log := fun pre hsuffix => h pre (hsuffix.trans (List.suffix_cons e log))
    exact ⟨h (e :: log) (List.suffix_refl _), hold⟩
  · intro h pre hsuffix
    obtain ⟨hnew, hold⟩ := h
    rcases List.suffix_cons_iff.mp hsuffix with heq | hlog
    · rw [heq]
      exact hnew
    · exact hold pre hlog

end Monitor

end AwsIot.Foundation
