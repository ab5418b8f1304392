/-
  Foundation/TextBuffer.lean --- strings of C, and printing them into arrays.

  A `CString` has no NUL inside, so that its length is what `strlen` returns.  A
  `TextBuffer` is an array of characters that holds one, together with the end of what has
  ever been stored into the array: printing past the end of an array is a fact about that
  number and not about the string.
-/
import Mathlib.Algebra.Group.Int.Defs
import Mathlib.Algebra.Group.Nat.Defs
import Mathlib.Data.List.Basic

set_option autoImplicit false

namespace AwsIot.Foundation

/-! ## Strings -/

/-- A string of C, without the NUL that ends it. -/
@[ext] structure CString where
  /-- The characters. -/
  bytes : List UInt8
  /-- The NUL that ends the string is its only one. -/
  noNul : 0 ∉ bytes
  deriving DecidableEq

namespace CString

/-- `strlen`. -/
def length (s : CString) : Nat := s.bytes.length

instance : Inhabited CString := ⟨⟨[], List.not_mem_nil⟩⟩

instance : Append CString where
  append s t := ⟨s.bytes ++ t.bytes, fun h => (List.mem_append.mp h).elim s.noNul t.noNul⟩

/-- The first `n` characters. -/
def take (n : Nat) (s : CString) : CString :=
  ⟨s.bytes.take n, fun h => s.noNul (List.mem_of_mem_take h)⟩

@[simp] theorem bytes_append (s t : CString) : (s ++ t).bytes = s.bytes ++ t.bytes := rfl

@[simp] theorem length_append (s t : CString) : (s ++ t).length = s.length + t.length :=
  List.length_append

@[simp] theorem bytes_take (n : Nat) (s : CString) : (s.take n).bytes = s.bytes.take n := rfl

@[simp] theorem length_take (n : Nat) (s : CString) : (s.take n).length = min n s.length :=
  List.length_take

theorem take_of_length_le {n : Nat} {s : CString} (h : s.length ≤ n) : s.take n = s :=
  CString.ext (List.take_of_length_le h)

@[simp] theorem append_default (s : CString) : s ++ default = s :=
  CString.ext (List.append_nil _)

theorem append_assoc (s t u : CString) : s ++ t ++ u = s ++ (t ++ u) :=
  CString.ext (List.append_assoc _ _ _)

/-! ### Numbers -/

/-- The decimal digits of a number. -/
def digits (n : Nat) : List UInt8 := (Nat.toDigits 10 n).map fun c => UInt8.ofNat c.toNat

/-- The codes of the digits. -/
theorem toNat_of_isDigit {c : Char} (h : c.isDigit = true) :
    (UInt8.ofNat c.toNat).toNat = c.toNat ∧ 0x30 ≤ c.toNat ∧ c.toNat ≤ 0x39 := by
  simp only [Char.isDigit, Bool.and_eq_true, decide_eq_true_eq] at h
  have hlow : 0x30 ≤ c.toNat := UInt32.le_iff_toNat_le.mp h.1
  have hhigh : c.toNat ≤ 0x39 := UInt32.le_iff_toNat_le.mp h.2
  refine ⟨?_, hlow, hhigh⟩
  rw [UInt8.toNat_ofNat']
  exact Nat.mod_eq_of_lt (by omega)

theorem mem_digits {n : Nat} {b : UInt8} (h : b ∈ digits n) : 0x30 ≤ b.toNat ∧ b.toNat ≤ 0x39 := by
  obtain ⟨c, hc, rfl⟩ := List.mem_map.mp h
  have hdigit := toNat_of_isDigit (Nat.isDigit_of_mem_toDigits (by decide) (by decide) hc)
  omega

theorem zero_notMem_digits (n : Nat) : 0 ∉ digits n := fun h =>
  absurd (mem_digits h).1 (by decide)

/-- What `%u` prints. -/
def ofNat (n : Nat) : CString := ⟨digits n, zero_notMem_digits n⟩

/-- What `%d` prints. -/
def ofInt : Int → CString
  | .ofNat n => ofNat n
  | .negSucc n => ⟨0x2D :: digits (n + 1), by
      simp only [List.mem_cons, not_or]
      exact ⟨by decide, zero_notMem_digits (n + 1)⟩⟩

theorem bytes_ofInt_of_neg {n : Int} (h : n < 0) :
    (ofInt n).bytes = 0x2D :: digits n.natAbs := by
  cases n with
  | ofNat n => exact absurd h (by simp)
  | negSucc n => rfl

theorem bytes_ofInt_of_nonneg {n : Int} (h : 0 ≤ n) : (ofInt n).bytes = digits n.natAbs := by
  cases n with
  | ofNat n => rfl
  | negSucc n => exact absurd h (by simp)

theorem digits_ne_nil (n : Nat) : digits n ≠ [] := by
  rw [digits, Ne, List.map_eq_nil_iff]
  exact Nat.toDigits_ne_nil

/-- Reading the digits as a number gives the number back. -/
theorem foldl_digits (n : Nat) :
    (digits n).foldl (fun n c => 10 * n + (c.toNat - 0x30)) 0 = n := by
  have hread : ∀ (l : List Char) (k : Nat), (∀ c ∈ l, c.isDigit = true) →
      (l.map fun c => UInt8.ofNat c.toNat).foldl (fun n c => 10 * n + (c.toNat - 0x30)) k =
        Nat.ofDigitChars 10 l k := by
    intro l
    induction l with
    | nil => intro k _; rfl
    | cons c l ih =>
      intro k hl
      rw [List.map_cons, List.foldl_cons, Nat.ofDigitChars_cons,
        (toNat_of_isDigit (hl c List.mem_cons_self)).1]
      exact ih _ fun c hc => hl c (List.mem_cons_of_mem _ hc)
  rw [digits, hread _ 0 fun c hc => Nat.isDigit_of_mem_toDigits (by decide) (by decide) hc]
  exact Nat.ofDigitChars_ten_toDigits

theorem digits_injective {m n : Nat} (h : digits m = digits n) : m = n := by
  rw [← foldl_digits m, h, foldl_digits]

/-- Only zero is written with a zero in front. -/
theorem head?_digits {n : Nat} (h : (digits n).head? = some 0x30) : n = 0 := by
  induction n using Nat.strongRecOn with
  | ind n ih =>
    rcases Nat.lt_or_ge n 10 with hn | hn
    · exact (by decide : ∀ n < 10, (digits n).head? = some 0x30 → n = 0) n hn h
    · rw [digits, Nat.toDigits_of_base_le (by decide) hn, List.map_append,
        List.head?_append_of_ne_nil _ (by simp)] at h
      have hzero := ih (n / 10) (by omega) h
      omega

end CString

/-! ## Arrays -/

/-- An array of characters that holds a string. -/
structure TextBuffer where
  /-- The string, up to the first NUL. -/
  text : CString
  /-- Not in the array: the end of what has been stored into it. -/
  extent : Nat
  deriving Inhabited

/-- What `snprintf` returns for `s`: its length, if that is an `int`. -/
def printResult (s : CString) : Int := if s.length < 2 ^ 31 then s.length else -1

namespace TextBuffer

/-- `snprintf` of `s` from `offset` on, with the size `size`: what does not fit with the NUL is
cut off. -/
def print (buffer : TextBuffer) (offset size : Nat) (s : CString) : TextBuffer :=
  if size = 0 then buffer
  else
    { text := buffer.text.take offset ++ s.take (size - 1)
      extent := max buffer.extent (offset + (s.take (size - 1)).length + 1) }

variable {buffer : TextBuffer} {offset size limit : Nat} {s : CString}

/-- A string that is shorter than the size is printed whole. -/
theorem text_print (h : s.length < size) :
    (buffer.print offset size s).text = buffer.text.take offset ++ s := by
  rw [print, if_neg (by omega)]
  show buffer.text.take offset ++ s.take (size - 1) = _
  rw [CString.take_of_length_le (s := s) (by omega)]

theorem text_print_length (h : s.length < size) :
    (buffer.print buffer.text.length size s).text = buffer.text ++ s := by
  rw [text_print h, CString.take_of_length_le (Nat.le_refl _)]

/-- Printing goes past a limit if what it stores does. -/
theorem extent_print_le_iff (h : 0 < size) : (buffer.print offset size s).extent ≤ limit ↔
    buffer.extent ≤ limit ∧ offset + min (size - 1) s.length < limit := by
  rw [print, if_neg (by omega)]
  show max buffer.extent (offset + (s.take (size - 1)).length + 1) ≤ limit ↔ _
  rw [CString.length_take]
  omega

/-- What has been stored stays stored. -/
theorem extent_le_print : buffer.extent ≤ (buffer.print offset size s).extent := by
  unfold print
  split
  · exact Nat.le_refl _
  · exact Nat.le_max_left _ _

end TextBuffer

end AwsIot.Foundation
