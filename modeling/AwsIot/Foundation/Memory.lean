/-
  Foundation/Memory.lean --- byte memory seen from a pointer.

  A `Memory` gives the byte at every offset from some address.  Reads and writes
  of whole runs of bytes are `slice` and `writeAt`; the lemmas say what a slice
  sees of a write, so that no proof looks at single bytes.
-/
import Mathlib.Algebra.Group.Int.Defs
import Mathlib.Algebra.Group.Nat.Defs
import Mathlib.Data.List.Basic

set_option autoImplicit false

namespace AwsIot.Foundation

/-- The bytes from an address on. -/
def Memory := Nat → UInt8

namespace Memory

/-- Store `bytes` from offset `off` on. -/
def writeAt (m : Memory) (off : Nat) (bytes : List UInt8) : Memory := fun i =>
  if off ≤ i then bytes.getD (i - off) (m i) else m i

/-- The `n` bytes from offset `off` on. -/
def slice (m : Memory) (off n : Nat) : List UInt8 :=
  (List.range n).map fun i => m (off + i)

variable {m : Memory} {off i n k : Nat} {bytes : List UInt8}

theorem writeAt_of_lt (h : i < off) : writeAt m off bytes i = m i := by
  simp [writeAt, Nat.not_le.mpr h]

theorem writeAt_of_ge (h : off + bytes.length ≤ i) : writeAt m off bytes i = m i := by
  have hlen : bytes.length ≤ i - off := by omega
  simp [writeAt, List.getD_eq_getElem?_getD, List.getElem?_eq_none hlen]

theorem writeAt_add (h : i < bytes.length) : writeAt m off bytes (off + i) = bytes[i] := by
  simp [writeAt, List.getD_eq_getElem?_getD, List.getElem?_eq_getElem h]

@[simp] theorem length_slice : (slice m off n).length = n := by
  simp [slice]

@[simp] theorem slice_zero : slice m off 0 = [] := rfl

theorem getElem_slice (h : i < (slice m off n).length) : (slice m off n)[i] = m (off + i) := by
  simp [slice]

theorem slice_congr {m' : Memory} (h : ∀ i, i < n → m (off + i) = m' (off + i)) :
    slice m off n = slice m' off n := by
  apply List.map_congr_left
  intro i hi
  exact h i (List.mem_range.mp hi)

theorem eq_of_slice_eq {m' : Memory} (h : slice m' off n = slice m off n) (hi : i < n) :
    m' (off + i) = m (off + i) := by
  have hget : (slice m' off n)[i]? = (slice m off n)[i]? := by rw [h]
  simpa [slice, hi] using hget

theorem slice_add : slice m off (n + k) = slice m off n ++ slice m (off + n) k := by
  simp [slice, List.range_add, Nat.add_assoc]

theorem slice_succ : slice m off (n + 1) = m off :: slice m (off + 1) n := by
  rw [Nat.add_comm, slice_add]
  rfl

theorem take_slice (h : k ≤ n) : (slice m off n).take k = slice m off k := by
  obtain ⟨d, rfl⟩ := Nat.exists_eq_add_of_le h
  rw [slice_add, List.take_left' length_slice]

/-- A slice reads back the bytes just written, whole or a prefix of them. -/
theorem slice_writeAt (h : n ≤ bytes.length) :
    slice (writeAt m off bytes) off n = bytes.take n := by
  apply List.ext_getElem (by simp [h])
  intro i hi _
  rw [getElem_slice, List.getElem_take]
  exact writeAt_add (by simp at hi; omega)

theorem slice_writeAt_self : slice (writeAt m off bytes) off bytes.length = bytes := by
  rw [slice_writeAt (Nat.le_refl _), List.take_length]

/-- A slice that ends before the written bytes does not see them. -/
theorem slice_writeAt_before (h : off + n ≤ k) :
    slice (writeAt m k bytes) off n = slice m off n :=
  slice_congr fun _ _ => writeAt_of_lt (by omega)

end Memory

end AwsIot.Foundation
