/-
  Foundation/Scanf.lean --- integers as `sscanf` reads them.

  `%i` and `%u` skip white space, take an optional sign and as many digits as there are,
  `%i` in the base that the first characters of the numeral tell.  What has been taken is
  converted by `strtol` or `strtoul`, which go to the end of the range of a `long` when it
  is too big for that.  Cutting it down to the type of the variable is left to the caller.
-/
import Mathlib.Algebra.Group.Int.Defs
import Mathlib.Algebra.Group.Nat.Defs
import Mathlib.Data.List.Basic

set_option autoImplicit false

namespace AwsIot.Foundation

/-- `isspace`. -/
def isspace (c : UInt8) : Bool := c == 0x20 || (0x09 ≤ c && c ≤ 0x0D)

/-- What the character is worth as a digit. -/
def digitValue (c : UInt8) : Option Nat :=
  if 0x30 ≤ c ∧ c ≤ 0x39 then some (c.toNat - 0x30)
  else if 0x61 ≤ c ∧ c ≤ 0x7A then some (c.toNat - 0x61 + 10)
  else if 0x41 ≤ c ∧ c ≤ 0x5A then some (c.toNat - 0x41 + 10)
  else none

/-- The character is a digit in the base. -/
def isDigitIn (base : Nat) (c : UInt8) : Bool := (digitValue c).any (· < base)

/-- What the digits are worth together. -/
def digitsValue (base : Nat) (digits : List UInt8) : Nat :=
  digits.foldl (fun n c => base * n + (digitValue c).getD 0) 0

/-- The base of a numeral of `%i`, and the numeral without what only tells the base. -/
def baseOf (text : List UInt8) : Nat × List UInt8 :=
  if text.head? = some 0x30 then
    if text.tail.head? = some 0x78 ∨ text.tail.head? = some 0x58 then (16, text.drop 2)
    else (8, text)
  else (10, text)

/-- What `%i` (in any base) or `%u` takes: is there a minus sign, and the value of the
digits. -/
def takeInteger (anyBase : Bool) (text : List UInt8) : Option (Bool × Nat) :=
  let text := text.dropWhile isspace
  let negative := text.head? == some 0x2D
  let text := if negative || text.head? == some 0x2B then text.tail else text
  let (base, text) := if anyBase then baseOf text else (10, text)
  let digits := text.takeWhile (isDigitIn base)
  if digits = [] then none else some (negative, digitsValue base digits)

/-- `strtol` for a `long` of `longBits` bits. -/
def strtol (longBits : Nat) (negative : Bool) (n : Nat) : Int :=
  if negative then max (-2 ^ (longBits - 1)) (-n) else min (2 ^ (longBits - 1) - 1) n

/-- `strtoul` for a `long` of `longBits` bits. -/
def strtoul (longBits : Nat) (negative : Bool) (n : Nat) : Nat :=
  if 2 ^ longBits ≤ n then 2 ^ longBits - 1
  else if negative then (2 ^ longBits - n) % 2 ^ longBits else n

/-- `sscanf` with `%i`: the `long` that is stored. -/
def sscanfSigned (longBits : Nat) (text : List UInt8) : Option Int :=
  (takeInteger true text).map fun (negative, n) => strtol longBits negative n

/-- `sscanf` with `%u`: the `unsigned long` that is stored. -/
def sscanfUnsigned (longBits : Nat) (text : List UInt8) : Option Nat :=
  (takeInteger false text).map fun (negative, n) => strtoul longBits negative n

/-! ## Decimal numerals -/

/-- The character is a decimal digit. -/
def isDecimal (c : UInt8) : Bool := 0x30 ≤ c && c ≤ 0x39

/-- The digits are a decimal numeral without leading zeros. -/
structure Numeral (digits : List UInt8) : Prop where
  /-- There is a digit. -/
  ne_nil : digits ≠ []
  /-- They are decimal digits. -/
  decimal : ∀ c ∈ digits, isDecimal c = true
  /-- Only zero starts with zero. -/
  no_leading_zero : digits.head? = some 0x30 → digits = [0x30]

/-- The text does not go on with a numeral that ends in front of it. -/
def EndsNumeral (rest : List UInt8) : Prop :=
  ∀ c, rest.head? = some c → isDecimal c = false ∧ c ≠ 0x78 ∧ c ≠ 0x58

theorem digitValue_of_isDecimal {c : UInt8} (h : isDecimal c = true) :
    digitValue c = some (c.toNat - 0x30) := by
  obtain ⟨hlow, hhigh⟩ := Bool.and_eq_true_iff.mp h
  exact if_pos ⟨of_decide_eq_true hlow, of_decide_eq_true hhigh⟩

theorem isDigitIn_ten (c : UInt8) : isDigitIn 10 c = isDecimal c := by
  cases h : isDecimal c with
  | true =>
    rw [isDigitIn, digitValue_of_isDecimal h]
    obtain ⟨hlow, hhigh⟩ := Bool.and_eq_true_iff.mp h
    have hle : c.toNat ≤ 0x39 := of_decide_eq_true hhigh
    exact decide_eq_true (show c.toNat - 0x30 < 10 by omega)
  | false =>
    have hno : ¬ (0x30 ≤ c ∧ c ≤ 0x39) := by
      rintro ⟨hlow, hhigh⟩
      rw [isDecimal, decide_eq_true hlow, decide_eq_true hhigh] at h
      cases h
    unfold isDigitIn digitValue
    rw [if_neg hno]
    split
    · exact decide_eq_false (show ¬ c.toNat - 0x61 + 10 < 10 by omega)
    split
    · exact decide_eq_false (show ¬ c.toNat - 0x41 + 10 < 10 by omega)
    · rfl

theorem isDigitIn_eight_of_not_isDecimal {c : UInt8} (h : isDecimal c = false) :
    isDigitIn 8 c = false := by
  rw [← isDigitIn_ten] at h
  unfold isDigitIn at h ⊢
  cases hvalue : digitValue c with
  | none => rfl
  | some value =>
    rw [hvalue] at h
    have hten : ¬ value < 10 := of_decide_eq_false h
    exact decide_eq_false (show ¬ value < 8 by omega)

/-- The digits in front of a text that does not go on with them. -/
theorem takeWhile_digits {p : UInt8 → Bool} {digits rest : List UInt8}
    (hdigits : ∀ c ∈ digits, p c = true) (hrest : ∀ c, rest.head? = some c → p c = false) :
    (digits ++ rest).takeWhile p = digits := by
  rw [List.takeWhile_append_of_pos hdigits]
  cases rest with
  | nil => rw [List.takeWhile_nil, List.append_nil]
  | cons c rest => rw [List.takeWhile_cons_of_neg (by simp [hrest c rfl]), List.append_nil]

/-- A decimal numeral is taken as a whole, with or without bases: none of it tells another
base, and nothing behind it belongs to it. -/
theorem takeWhile_baseOf (anyBase : Bool) {digits rest : List UInt8}
    (hnumeral : Numeral digits) (hrest : EndsNumeral rest) :
    ∃ base text, (if anyBase then baseOf (digits ++ rest) else (10, digits ++ rest)) =
        (base, text) ∧ text.takeWhile (isDigitIn base) = digits ∧
      digitsValue base digits = digitsValue 10 digits := by
  have hten : (digits ++ rest).takeWhile (isDigitIn 10) = digits :=
    takeWhile_digits (fun c hc => (isDigitIn_ten c).trans (hnumeral.decimal c hc))
      fun c hc => (isDigitIn_ten c).trans (hrest c hc).1
  cases anyBase with
  | false => exact ⟨10, digits ++ rest, rfl, hten, rfl⟩
  | true =>
    by_cases hzero : digits.head? = some 0x30
    · obtain rfl := hnumeral.no_leading_zero hzero
      have hnohex : ¬ (rest.head? = some 0x78 ∨ rest.head? = some 0x58) := by
        rintro (hx | hX)
        · exact (hrest _ hx).2.1 rfl
        · exact (hrest _ hX).2.2 rfl
      refine ⟨8, [0x30] ++ rest, ?_, ?_, rfl⟩
      · exact (if_pos rfl).trans (if_neg hnohex)
      · exact takeWhile_digits (List.forall_mem_singleton.mpr (by decide))
          fun c hc => isDigitIn_eight_of_not_isDecimal (hrest c hc).1
    · obtain ⟨c, digits, rfl⟩ := List.exists_cons_of_ne_nil hnumeral.ne_nil
      exact ⟨10, c :: digits ++ rest, if_neg hzero, hten, rfl⟩

theorem isDecimal_ne {c d : UInt8} (hc : isDecimal c = true) (hd : isDecimal d = false) :
    c ≠ d := by
  rintro rfl
  rw [hc] at hd
  cases hd

theorem not_isspace_of_isDecimal {c : UInt8} (h : isDecimal c = true) : isspace c = false := by
  have hlow : (0x30 : UInt8) ≤ c := of_decide_eq_true (Bool.and_eq_true_iff.mp h).1
  have hblank : (c == 0x20) = false := beq_false_of_ne (isDecimal_ne h rfl)
  have hcontrol : ¬ c ≤ 0x0D := fun hle => absurd (UInt8.le_trans hlow hle) (by decide)
  rw [isspace, hblank, decide_eq_false hcontrol, Bool.and_false]
  rfl

/-- A decimal numeral is taken for what it is worth. -/
theorem takeInteger_numeral {anyBase : Bool} {digits rest : List UInt8}
    (hnumeral : Numeral digits) (hrest : EndsNumeral rest) :
    takeInteger anyBase (digits ++ rest) = some (false, digitsValue 10 digits) := by
  obtain ⟨base, text, hbase, hdigits, hvalue⟩ := takeWhile_baseOf anyBase hnumeral hrest
  obtain ⟨c, tail, rfl⟩ := List.exists_cons_of_ne_nil hnumeral.ne_nil
  have hc := hnumeral.decimal c List.mem_cons_self
  have hminus : (c == 0x2D) = false := beq_false_of_ne (isDecimal_ne hc rfl)
  have hplus : (c == 0x2B) = false := beq_false_of_ne (isDecimal_ne hc rfl)
  unfold takeInteger
  rw [List.cons_append, List.dropWhile_cons_of_neg (by simp [not_isspace_of_isDecimal hc])]
  simp only [List.head?_cons, Option.some_beq_some, hminus, hplus, Bool.or_self,
    Bool.false_eq_true, if_false]
  rw [List.cons_append] at hbase
  rw [hbase]
  simp only [hdigits, hvalue]
  exact if_neg hnumeral.ne_nil

/-- So is one with a minus sign. -/
theorem takeInteger_minus_numeral {anyBase : Bool} {digits rest : List UInt8}
    (hnumeral : Numeral digits) (hrest : EndsNumeral rest) :
    takeInteger anyBase (0x2D :: digits ++ rest) = some (true, digitsValue 10 digits) := by
  obtain ⟨base, text, hbase, hdigits, hvalue⟩ := takeWhile_baseOf anyBase hnumeral hrest
  unfold takeInteger
  rw [List.cons_append, List.dropWhile_cons_of_neg (by decide)]
  simp only [List.head?_cons, BEq.rfl, Bool.true_or, if_true, List.tail_cons]
  rw [hbase]
  simp only [hdigits, hvalue]
  exact if_neg hnumeral.ne_nil

/-- A text that starts with neither white space, nor a sign, nor a digit is no integer. -/
theorem takeInteger_eq_none {anyBase : Bool} {c : UInt8} {text : List UInt8}
    (hspace : isspace c = false) (hminus : c ≠ 0x2D) (hplus : c ≠ 0x2B)
    (hdigit : isDecimal c = false) : takeInteger anyBase (c :: text) = none := by
  have hbase : (if anyBase then baseOf (c :: text) else (10, c :: text)) = (10, c :: text) := by
    cases anyBase with
    | false => rfl
    | true => exact if_neg fun hzero => absurd (Option.some.inj hzero) (by rintro rfl; cases hdigit)
  unfold takeInteger
  rw [List.dropWhile_cons_of_neg (by simp [hspace])]
  simp only [List.head?_cons, Option.some_beq_some, beq_false_of_ne hminus,
    beq_false_of_ne hplus, Bool.or_self, Bool.false_eq_true, if_false]
  rw [hbase]
  simp only [List.takeWhile_cons, isDigitIn_ten, hdigit]
  rfl

/-- Only the numeral 0 is worth nothing. -/
theorem Numeral.eq_zero {digits : List UInt8} (hnumeral : Numeral digits)
    (hvalue : digitsValue 10 digits = 0) : digits = [0x30] := by
  have hgrows : ∀ (rest : List UInt8) (n : Nat),
      n ≤ rest.foldl (fun n c => 10 * n + (digitValue c).getD 0) n := by
    intro rest
    induction rest with
    | nil => exact fun n => Nat.le_refl n
    | cons c rest ih =>
      intro n
      have hstep : n ≤ 10 * n + (digitValue c).getD 0 := by omega
      exact Nat.le_trans hstep (ih _)
  obtain ⟨c, rest, rfl⟩ := List.exists_cons_of_ne_nil hnumeral.ne_nil
  have hc := hnumeral.decimal c List.mem_cons_self
  have hfirst := hgrows rest (10 * 0 + (digitValue c).getD 0)
  rw [digitsValue, List.foldl_cons] at hvalue
  rw [hvalue, digitValue_of_isDecimal hc] at hfirst
  have hlow : 0x30 ≤ c.toNat := of_decide_eq_true (Bool.and_eq_true_iff.mp hc).1
  have hzero : c.toNat = 0x30 := by
    change 10 * 0 + (c.toNat - 0x30) ≤ 0 at hfirst
    omega
  exact hnumeral.no_leading_zero (congrArg some (UInt8.toNat_inj.mp hzero))

/-! ## Values in range -/

theorem strtol_of_fits {longBits n : Nat} {negative : Bool}
    (hlow : -2 ^ (longBits - 1) ≤ if negative then -(n : Int) else n)
    (hhigh : (if negative then -(n : Int) else n) < 2 ^ (longBits - 1)) :
    strtol longBits negative n = if negative then -(n : Int) else n := by
  unfold strtol
  split
  case isTrue hnegative =>
    rw [if_pos hnegative] at hlow
    exact Int.max_eq_right hlow
  case isFalse hnegative =>
    rw [if_neg hnegative] at hhigh
    exact Int.min_eq_right (by omega)

theorem strtoul_of_fits {longBits n : Nat} (hn : n < 2 ^ longBits) :
    strtoul longBits false n = n :=
  (if_neg (Nat.not_le_of_lt hn)).trans (if_neg Bool.false_ne_true)

end AwsIot.Foundation
