/-
  Foundation/Peek.lean --- programs that look at memory byte by byte.

  A `Peek` is a program whose only way of looking at a memory is to ask for the byte at
  an index.  It has a value in every memory, and a list of the indices that it asks for
  there; `Below n` says that all of them are smaller than `n`.  The rules for `Below` are
  equivalences, so what a program reads comes out exactly and not only from above.
-/
import AwsIot.Foundation.Memory

set_option autoImplicit false

namespace AwsIot.Foundation

/-- A program that reads bytes of a memory and returns an `α`. -/
inductive Peek (α : Type) where
  /-- Return a value. -/
  | ret (a : α)
  /-- Read the byte at index `i` and go on with it. -/
  | byte (i : Nat) (next : UInt8 → Peek α)

namespace Peek

variable {α β : Type}

/-- Go on with what the first program returns. -/
def bind : Peek α → (α → Peek β) → Peek β
  | ret a, f => f a
  | byte i next, f => byte i fun b => bind (next b) f

instance : Monad Peek where
  pure := ret
  bind := bind

/-- Read the byte at index `i`. -/
def byteAt (i : Nat) : Peek UInt8 := byte i ret

/-- What the program returns. -/
def run : Peek α → Memory → α
  | ret a, _ => a
  | byte i next, m => (next (m i)).run m

/-- The indices that the program reads, in order. -/
def reads : Peek α → Memory → List Nat
  | ret _, _ => []
  | byte i next, m => i :: (next (m i)).reads m

/-- The program reads only indices below `n`. -/
def Below (p : Peek α) (m : Memory) (n : Nat) : Prop := ∀ i ∈ p.reads m, i < n

instance (p : Peek α) (m : Memory) (n : Nat) : Decidable (p.Below m n) :=
  inferInstanceAs (Decidable (∀ i ∈ p.reads m, i < n))

variable {m : Memory} {n : Nat}

@[simp] theorem run_pure (a : α) : (pure a : Peek α).run m = a := rfl

@[simp] theorem run_byteAt (i : Nat) : (byteAt i).run m = m i := rfl

@[simp] theorem run_bind (p : Peek α) (f : α → Peek β) :
    (p >>= f).run m = (f (p.run m)).run m := by
  induction p with
  | ret a => rfl
  | byte i next ih => exact ih (m i)

theorem reads_bind (p : Peek α) (f : α → Peek β) :
    (p >>= f).reads m = p.reads m ++ (f (p.run m)).reads m := by
  induction p with
  | ret a => rfl
  | byte i next ih => exact congrArg (List.cons i) (ih (m i))

@[simp] theorem below_pure (a : α) : (pure a : Peek α).Below m n :=
  fun _ hi => absurd hi List.not_mem_nil

@[simp] theorem below_byteAt (i : Nat) : (byteAt i).Below m n ↔ i < n := by
  show (∀ j ∈ [i], j < n) ↔ i < n
  simp

@[simp] theorem below_bind (p : Peek α) (f : α → Peek β) :
    (p >>= f).Below m n ↔ p.Below m n ∧ (f (p.run m)).Below m n := by
  unfold Below
  rw [reads_bind]
  exact List.forall_mem_append

end Peek

end AwsIot.Foundation
