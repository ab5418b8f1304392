/-
  Foundation/Writer.lean --- writing a buffer through a moving pointer.

  A `Cursor` is a pointer into a buffer with the stores made through it.  A
  `Writer` moves it; `Writes p bytes x` says that `p` stores exactly `bytes`, one
  behind the other from wherever the cursor stands, and returns `x`, or that it
  faults.  As with `Reads`, the statement is about every cursor and composes.

  Where a store goes is part of the cursor, so "nothing behind the buffer was
  written" is a statement about the stores and not about the memory they leave.
-/
import AwsIot.Foundation.Program

set_option autoImplicit false

namespace AwsIot.Foundation

/-- A pointer into a buffer. -/
structure Cursor where
  /-- The offset it points at. -/
  pos : Nat
  /-- The offset and the byte of every store, oldest first. -/
  stores : List (Nat × UInt8)

/-- The stores of `bytes` from offset `pos` on. -/
def storesFrom : Nat → List UInt8 → List (Nat × UInt8)
  | _, [] => []
  | pos, b :: bytes => (pos, b) :: storesFrom (pos + 1) bytes

@[simp] theorem length_storesFrom : ∀ (bytes : List UInt8) (pos : Nat),
    (storesFrom pos bytes).length = bytes.length := by
  intro bytes
  induction bytes with
  | nil => intro pos; rfl
  | cons b bytes ih => intro pos; simp [storesFrom, ih]

theorem storesFrom_append : ∀ (first second : List UInt8) (pos : Nat),
    storesFrom pos (first ++ second) =
      storesFrom pos first ++ storesFrom (pos + first.length) second := by
  intro first
  induction first with
  | nil => intro second pos; rfl
  | cons b first ih =>
    intro second pos
    rw [List.cons_append, storesFrom, ih, storesFrom, List.cons_append, List.length_cons,
      Nat.add_assoc, Nat.add_comm 1]

theorem storesFrom_injective : ∀ (first second : List UInt8) (pos : Nat),
    storesFrom pos first = storesFrom pos second → first = second := by
  intro first
  induction first with
  | nil =>
    intro second pos h
    cases second with
    | nil => rfl
    | cons b second => cases h
  | cons b first ih =>
    intro second pos h
    cases second with
    | nil => cases h
    | cons b' second =>
      obtain ⟨hhead, htail⟩ := List.cons.inj h
      rw [ih second (pos + 1) htail, (Prod.mk.inj hhead).2]

/-- A run of stores fills the offsets from its first on. -/
theorem exists_mem_storesFrom : ∀ (bytes : List UInt8) (pos i : Nat),
    (∃ b, (i, b) ∈ storesFrom pos bytes) ↔ pos ≤ i ∧ i < pos + bytes.length := by
  intro bytes
  induction bytes with
  | nil =>
    intro pos i
    simp [storesFrom]
  | cons b bytes ih =>
    intro pos i
    have htail := ih (pos + 1) i
    simp only [storesFrom, List.mem_cons, Prod.mk.injEq, List.length_cons, exists_or, htail]
    constructor
    · rintro (⟨_, rfl, -⟩ | h)
      · omega
      · omega
    · intro h
      rcases Nat.eq_or_lt_of_le h.1 with hi | hi
      · exact .inl ⟨b, hi.symm, rfl⟩
      · exact .inr (by omega)

/-- A run of stores stays below a limit when its bytes fit in front of it. -/
theorem storesFrom_below_iff (bytes : List UInt8) (limit : Nat) :
    (∀ s ∈ storesFrom 0 bytes, s.1 < limit) ↔ bytes.length ≤ limit := by
  constructor
  · intro h
    refine Nat.le_of_not_lt fun hlt => ?_
    obtain ⟨b, hb⟩ := (exists_mem_storesFrom bytes 0 limit).mpr (by omega)
    exact absurd (h _ hb) (Nat.lt_irrefl limit)
  · rintro h ⟨i, b⟩ hs
    have hi := ((exists_mem_storesFrom bytes 0 i).mp ⟨b, hs⟩).2
    show i < limit
    omega

namespace Cursor

/-- The cursor at the start of a buffer nothing was stored in. -/
def start : Cursor := ⟨0, []⟩

/-- Store `bytes` and move behind them. -/
def advance (k : Cursor) (bytes : List UInt8) : Cursor :=
  ⟨k.pos + bytes.length, k.stores ++ storesFrom k.pos bytes⟩

@[simp] theorem advance_nil (k : Cursor) : k.advance [] = k := by
  simp [advance, storesFrom]

theorem advance_append (k : Cursor) (first second : List UInt8) :
    k.advance (first ++ second) = (k.advance first).advance second := by
  simp [advance, storesFrom_append, Nat.add_assoc]

@[simp] theorem pos_start_advance (bytes : List UInt8) :
    (start.advance bytes).pos = bytes.length := by
  simp [advance, start]

@[simp] theorem stores_start_advance (bytes : List UInt8) :
    (start.advance bytes).stores = storesFrom 0 bytes := by
  simp [advance, start]

end Cursor

/-- Moves a cursor; `none` is a fault, after which nothing is defined. -/
abbrev Writer := StateT Cursor Option

namespace Writer

variable {α β : Type}

/-- `p` stores `bytes` one behind the other and returns `x`; with `none` for `bytes`
it faults. -/
def Writes (p : Writer α) (bytes : Option (List UInt8)) (x : α) : Prop :=
  ∀ k, p.run k = bytes.map fun bytes => (x, k.advance bytes)

theorem Writes.pure (x : α) : Writes (Pure.pure x : Writer α) (some []) x := by
  intro k
  simp

theorem Writes.bind {p : Writer α} {f : α → Writer β} {b d : Option (List UInt8)} {x : α} {y : β}
    (hp : Writes p b x) (hf : Writes (f x) d y) :
    Writes (p >>= f) (b.bind fun first => d.map fun second => first ++ second) y := by
  intro k
  rw [StateT.run_bind, hp k]
  cases b with
  | none => rfl
  | some first =>
    show (f x).run (k.advance first) = _
    rw [hf]
    cases d with
    | none => rfl
    | some second => simp [Cursor.advance_append]

/-- The bytes of a writer may be given in another form. -/
theorem Writes.congr {p : Writer α} {b d : Option (List UInt8)} {x : α} (hp : Writes p b x)
    (h : b = d) : Writes p d x := h ▸ hp

theorem Writes.ite {c : Prop} [Decidable c] {p q : Writer α} {b d : Option (List UInt8)} {x : α}
    (hp : c → Writes p b x) (hq : ¬ c → Writes q d x) :
    Writes (if c then p else q) (if c then b else d) x := by
  split
  · exact hp ‹_›
  · exact hq ‹_›

/-- Store one byte. -/
def store (b : UInt8) : Writer Unit := modify fun k => k.advance [b]

theorem Writes.store (b : UInt8) : Writes (Writer.store b) (some [b]) () := fun _ => rfl

/-- Store a run of bytes. -/
def storeAll (bytes : List UInt8) : Writer Unit := modify fun k => k.advance bytes

theorem Writes.storeAll (bytes : List UInt8) :
    Writes (Writer.storeAll bytes) (some bytes) () := fun _ => rfl

/-- Nothing is defined from here on. -/
def fault : Writer α := StateT.lift none

theorem Writes.fault (x : α) : Writes (Writer.fault : Writer α) none x := fun _ => rfl

/-- A loop stores what its passes store. -/
theorem Writes.forEach {body : β → Writer Unit} {bytes : β → Option (List UInt8)}
    (h : ∀ b, Writes (body b) (bytes b) ()) (bs : List β) :
    Writes (Foundation.forEach body bs) ((bs.mapM bytes).map List.flatten) () := by
  induction bs with
  | nil => exact (Writes.pure ()).congr rfl
  | cons b bs ih =>
    apply ((h b).bind ih).congr
    rw [List.mapM_cons]
    cases bytes b with
    | none => rfl
    | some first =>
      cases hbs : bs.mapM bytes with
      | none => rfl
      | some rest => rfl

/-- Where the cursor stands. -/
def tell : Writer Nat := do return (← get).pos

end Writer

end AwsIot.Foundation
