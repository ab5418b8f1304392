/-
  Foundation/Reader.lean --- reading values off a byte string.

  A `Reader` takes a value from the front of a byte string and hands back the
  rest.  `Reads p bytes x` says that `p` takes exactly `bytes`, whatever follows,
  and returns `x`; stated with an arbitrary rest it composes through
  concatenation, so a round trip is proved one field at a time.

  Readers are the yardstick a serializer is measured with: they are written from
  the format, not from the serializer.
-/
import Mathlib.Algebra.Group.Int.Defs
import Mathlib.Algebra.Group.Nat.Defs
import Mathlib.Data.List.Basic

set_option autoImplicit false

namespace AwsIot.Foundation

/-- Takes a value off the front of a byte string. -/
abbrev Reader := StateT (List UInt8) Option

namespace Reader

variable {α β : Type}

/-- `p` takes exactly `bytes` and returns `x`. -/
def Reads (p : Reader α) (bytes : List UInt8) (x : α) : Prop :=
  ∀ rest, p.run (bytes ++ rest) = some (x, rest)

theorem Reads.pure (x : α) : Reads (Pure.pure x : Reader α) [] x := fun _ => rfl

theorem Reads.bind {p : Reader α} {f : α → Reader β} {b d : List UInt8} {x : α} {y : β}
    (hp : Reads p b x) (hf : Reads (f x) d y) : Reads (p >>= f) (b ++ d) y := by
  intro rest
  rw [StateT.run_bind, List.append_assoc, hp (d ++ rest)]
  exact hf rest

theorem Reads.ite {c : Prop} [Decidable c] {p q : Reader α} {bytes : List UInt8} {x : α}
    (hp : c → Reads p bytes x) (hq : ¬ c → Reads q bytes x) :
    Reads (if c then p else q) bytes x := by
  split
  · exact hp ‹_›
  · exact hq ‹_›

/-- Go on only if `c` holds. -/
def check (c : Bool) : Reader Unit := fun bytes => if c then some ((), bytes) else none

theorem Reads.check {c : Bool} (hc : c = true) : Reads (Reader.check c) [] () := by
  subst hc; exact fun _ => rfl

/-- Read one byte. -/
def byte : Reader UInt8 := fun bytes =>
  match bytes with
  | [] => none
  | b :: rest => some (b, rest)

theorem Reads.byte (b : UInt8) : Reads Reader.byte [b] b := fun _ => rfl

/-- Read `n` bytes. -/
def take (n : Nat) : Reader (List UInt8) := fun bytes =>
  if n ≤ bytes.length then some (bytes.take n, bytes.drop n) else none

theorem Reads.take (bytes : List UInt8) : Reads (Reader.take bytes.length) bytes bytes := by
  intro rest
  simp [Reader.take, StateT.run]

/-- Read a 16-bit number, high byte first. -/
def uint16 : Reader UInt16 := do
  let high ← byte
  let low ← byte
  return UInt16.ofNat (256 * high.toNat + low.toNat)

theorem Reads.uint16 (n : UInt16) :
    Reads Reader.uint16 [UInt8.ofNat (n.toNat / 256), UInt8.ofNat (n.toNat % 256)] n := by
  have hlt := n.toNat_lt
  have hn : UInt16.ofNat (256 * (UInt8.ofNat (n.toNat / 256)).toNat +
      (UInt8.ofNat (n.toNat % 256)).toNat) = n := by
    apply UInt16.toNat_inj.mp
    simp only [UInt16.toNat_ofNat', UInt8.toNat_ofNat']
    omega
  intro rest
  show some (UInt16.ofNat _, rest) = some (n, rest)
  rw [hn]

/-- Read a number to the base 128 in at most `left` bytes, low digit first; every
byte but the last has its top bit set. -/
def base128 : Nat → Reader Nat
  | 0 => fun _ => none
  | left + 1 => do
      let b ← byte
      if b.toNat < 128 then return b.toNat
      let high ← base128 left
      return b.toNat - 128 + 128 * high

/-- Run a reader on all of a byte string; bytes left over are an error. -/
def readAll (p : Reader α) (bytes : List UInt8) : Option α :=
  match p.run bytes with
  | some (x, []) => some x
  | _ => none

theorem Reads.readAll {p : Reader α} {bytes : List UInt8} {x : α} (h : Reads p bytes x) :
    p.readAll bytes = some x := by
  have hrun := h []
  rw [List.append_nil] at hrun
  rw [Reader.readAll, hrun]

/-! ## To the end -/

/-- `p` takes all of `bytes` and returns `x`. -/
def ReadsAll (p : Reader α) (bytes : List UInt8) (x : α) : Prop := p.run bytes = some (x, [])

theorem ReadsAll.readAll {p : Reader α} {bytes : List UInt8} {x : α} (h : ReadsAll p bytes x) :
    p.readAll bytes = some x := by
  rw [Reader.readAll, show p.run bytes = some (x, []) from h]

theorem Reads.all {p : Reader α} {bytes : List UInt8} {x : α} (h : Reads p bytes x) :
    ReadsAll p bytes x := by
  have hrun := h []
  rw [List.append_nil] at hrun
  exact hrun

/-- A field, and then everything behind it. -/
theorem Reads.bindAll {p : Reader α} {f : α → Reader β} {b d : List UInt8} {x : α} {y : β}
    (hp : Reads p b x) (hf : ReadsAll (f x) d y) : ReadsAll (p >>= f) (b ++ d) y := by
  unfold ReadsAll
  rw [StateT.run_bind, hp d]
  exact hf

theorem ReadsAll.bind {p : Reader α} {f : α → Reader β} {b : List UInt8} {x : α} {y : β}
    (hp : ReadsAll p b x) (hf : ReadsAll (f x) [] y) : ReadsAll (p >>= f) b y := by
  unfold ReadsAll at hp ⊢
  rw [StateT.run_bind, hp]
  exact hf

/-- Read the bytes that are left. -/
def rest : Reader (List UInt8) := fun bytes => some (bytes, [])

theorem ReadsAll.rest (bytes : List UInt8) : ReadsAll Reader.rest bytes bytes := rfl

/-- Read values until nothing is left; `left` bounds their number. -/
def manyUpTo (p : Reader α) : Nat → List UInt8 → Option (List α)
  | _, [] => some []
  | 0, _ :: _ => none
  | left + 1, b :: bytes =>
      match p.run (b :: bytes) with
      | none => none
      | some (x, behind) => (manyUpTo p left behind).map (x :: ·)

/-- Read values until nothing is left. -/
def many (p : Reader α) : Reader (List α) := fun bytes =>
  (manyUpTo p bytes.length bytes).map fun xs => (xs, [])

/-- What is written value by value, none of them in no bytes, is read value by
value. -/
theorem manyUpTo_mapM {p : Reader β} {write : α → Option (List UInt8)} {value : α → β}
    (hreads : ∀ a bytes, write a = some bytes → Reads p bytes (value a))
    (hne : ∀ a bytes, write a = some bytes → bytes ≠ []) :
    ∀ (l : List α) (fields : List (List UInt8)) (left : Nat), l.mapM write = some fields →
      fields.flatten.length ≤ left → manyUpTo p left fields.flatten = some (l.map value) := by
  intro l
  induction l with
  | nil =>
    intro fields left hfields _
    obtain rfl := Option.some.inj hfields
    cases left <;> rfl
  | cons a l ih =>
    intro fields left hfields hleft
    rw [List.mapM_cons] at hfields
    obtain ⟨first, hfirst, hfields⟩ := Option.bind_eq_some_iff.mp hfields
    obtain ⟨others, hothers, hfields⟩ := Option.bind_eq_some_iff.mp hfields
    obtain rfl := Option.some.inj hfields
    obtain ⟨b, bytes, rfl⟩ := List.exists_cons_of_ne_nil (hne a first hfirst)
    simp only [List.flatten_cons, List.length_append, List.length_cons] at hleft
    obtain ⟨left, rfl⟩ : ∃ n, left = n + 1 := ⟨left - 1, by omega⟩
    have hrun := hreads a (b :: bytes) hfirst others.flatten
    rw [List.cons_append] at hrun
    rw [List.flatten_cons, List.cons_append, manyUpTo, hrun]
    dsimp only
    rw [ih others left hothers (by omega), Option.map_some, List.map_cons]

theorem ReadsAll.many {p : Reader β} {write : α → Option (List UInt8)} {value : α → β}
    (hreads : ∀ a bytes, write a = some bytes → Reads p bytes (value a))
    (hne : ∀ a bytes, write a = some bytes → bytes ≠ []) {l : List α}
    {fields : List (List UInt8)} (h : l.mapM write = some fields) :
    ReadsAll (Reader.many p) fields.flatten (l.map value) := by
  show (manyUpTo p fields.flatten.length fields.flatten).map _ = _
  rw [manyUpTo_mapM hreads hne l fields _ h (Nat.le_refl _)]
  rfl

end Reader

end AwsIot.Foundation
