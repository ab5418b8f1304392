/-
  Mqtt/Wire.lean --- the MQTT 3.1.1 wire format, independent of the client.

  Readers for the fields MQTT packets are made of, and that each of the client's
  field writers writes what its reader reads.
-/
import AwsIot.Foundation.Reader
import AwsIot.Mqtt.Packet

set_option autoImplicit false

namespace AwsIot.Mqtt

open AwsIot.Foundation Reader

/-! ## Strings -/

/-- Read a length-prefixed string. -/
def readString : Reader (List UInt8) := do
  let len ← uint16
  take len.toNat

theorem reads_writeUint16 (n : UInt16) : Reads uint16 (writeUint16 n) n := Reads.uint16 n

theorem reads_string (p : CharPtr) (len : UInt16) :
    Reads readString (writeUint16 len ++ p.take len.toNat) (p.take len.toNat) := by
  apply (reads_writeUint16 len).bind
  have h := Reads.take (p.take len.toNat)
  rwa [CharPtr.length_take] at h

theorem reads_emptyString : Reads readString (writeUint16 0) [] := by
  have h := reads_string ⟨[]⟩ 0
  simpa [CharPtr.take] using h

/-- The string a pointer and a length stand for; NULL is the empty string. -/
def stringAt (p : Option CharPtr) (len : UInt16) : List UInt8 :=
  match p with
  | some p => p.take len.toNat
  | none => []

theorem reads_writeUtf8String {p : Option CharPtr} {len : UInt16} {bytes : List UInt8}
    (h : writeUtf8String p len = some bytes) : Reads readString bytes (stringAt p len) := by
  unfold writeUtf8String at h
  by_cases hpos : len > 0
  · rw [if_pos hpos] at h
    cases p with
    | none => simp at h
    | some p =>
      obtain rfl := Option.some.inj h
      exact reads_string p len
  · rw [if_neg hpos] at h
    obtain rfl := Option.some.inj h
    obtain rfl : len = 0 := by
      apply UInt16.toNat_inj.mp
      have : ¬ 0 < len.toNat := hpos
      simpa using this
    have hempty : stringAt p 0 = [] := by cases p <;> rfl
    rw [hempty]
    exact reads_emptyString

theorem length_writeUtf8String {p : Option CharPtr} {len : UInt16} {bytes : List UInt8}
    (h : writeUtf8String p len = some bytes) : bytes.length = 2 + len.toNat := by
  unfold writeUtf8String at h
  by_cases hpos : len > 0
  · rw [if_pos hpos] at h
    cases p with
    | none => simp at h
    | some p =>
      obtain rfl := Option.some.inj h
      simp [writeUint16]
      omega
  · rw [if_neg hpos] at h
    obtain rfl := Option.some.inj h
    have : ¬ 0 < len.toNat := hpos
    simp [writeUint16]
    omega

/-! ## The remaining length -/

theorem toNat_digit_or : ∀ n < 128, (UInt8.ofNat n ||| 0x80).toNat = n + 128 := by decide

theorem reads_lastDigit (left : Nat) {n : Nat} (h : n < 128) :
    Reads (base128 (left + 1)) [UInt8.ofNat n] n := by
  have hn : (UInt8.ofNat n).toNat = n := by
    rw [UInt8.toNat_ofNat', Nat.mod_eq_of_lt (by omega)]
  apply (Reads.byte (UInt8.ofNat n)).bind (d := [])
  rw [hn, if_pos h]
  exact Reads.pure n

/-- The digits the client writes are the digits the format asks for. -/
theorem reads_writeLenDigits : ∀ (left fuel n : Nat), n < 128 ^ (left + 1) → left ≤ fuel →
    Reads (base128 (left + 1)) (writeLenDigits (fuel + 1) n) n := by
  intro left
  induction left with
  | zero =>
    intro fuel n hn _
    have hdiv : ¬ n / 128 > 0 := by omega
    rw [writeLenDigits, if_neg hdiv, Nat.mod_eq_of_lt (by omega)]
    exact reads_lastDigit 0 (by omega)
  | succ left ih =>
    intro fuel n hn hfuel
    by_cases hdiv : n / 128 > 0
    · obtain ⟨fuel, rfl⟩ : ∃ f, fuel = f + 1 := ⟨fuel - 1, by omega⟩
      have hdigit : (UInt8.ofNat (n % 128) ||| 0x80).toNat = n % 128 + 128 :=
        toNat_digit_or _ (Nat.mod_lt n (by omega))
      have hhigh := ih fuel (n / 128)
        (by rw [Nat.div_lt_iff_lt_mul (by omega), ← Nat.pow_succ]; exact hn) (by omega)
      rw [writeLenDigits, if_pos hdiv]
      apply (Reads.byte _).bind
      rw [hdigit, if_neg (by omega)]
      have hsum : n % 128 + 128 - 128 + 128 * (n / 128) = n := by omega
      have htail := hhigh.bind (d := []) (f := fun high =>
        pure (n % 128 + 128 - 128 + 128 * high)) (Reads.pure _)
      rw [hsum, List.append_nil] at htail
      exact htail
    · rw [writeLenDigits, if_neg hdiv, Nat.mod_eq_of_lt (by omega)]
      exact reads_lastDigit (left + 1) (by omega)

/-- The client's remaining-length field is read back by the format's reader, for
every length the format admits. -/
theorem reads_writeLenToBuffer {n : Nat} (h : n < 128 ^ 4) :
    Reads (base128 4) (writeLenToBuffer n) n :=
  reads_writeLenDigits 3 4 n h (by omega)

/-- Past the lengths a reader of `left` digits admits, it fails. -/
theorem base128_writeLenDigits_none : ∀ (left fuel n : Nat) (rest : List UInt8),
    128 ^ left ≤ n → left < fuel → (base128 left).run (writeLenDigits fuel n ++ rest) = none := by
  intro left
  induction left with
  | zero => intro _ _ _ _ _; rfl
  | succ left ih =>
    intro fuel n rest hn hfuel
    obtain ⟨fuel, rfl⟩ : ∃ f, fuel = f + 1 := ⟨fuel - 1, by omega⟩
    have hhigh : 128 ^ left ≤ n / 128 := by
      rwa [Nat.le_div_iff_mul_le (by omega), ← Nat.pow_succ]
    have hdiv : n / 128 > 0 := Nat.lt_of_lt_of_le (Nat.pow_pos (by omega)) hhigh
    have hdigit : (UInt8.ofNat (n % 128) ||| 0x80).toNat = n % 128 + 128 :=
      toNat_digit_or _ (Nat.mod_lt n (by omega))
    rw [writeLenDigits, if_pos hdiv, List.cons_append, base128, StateT.run_bind]
    show ((if (UInt8.ofNat (n % 128) ||| 0x80).toNat < 128 then _ else _ : Reader Nat).run _) = none
    rw [hdigit, if_neg (by omega), StateT.run_bind, ih fuel (n / 128) rest hhigh (by omega)]
    rfl

theorem length_writeLenDigits_le : ∀ (fuel n : Nat), (writeLenDigits fuel n).length ≤ fuel := by
  intro fuel
  induction fuel with
  | zero => intro n; exact Nat.le_refl 0
  | succ fuel ih =>
    intro n
    simp only [writeLenDigits]
    split
    · simpa using ih (n / 128)
    · simp

theorem digit_low : ∀ n < 128, (UInt8.ofNat n &&& 127).toNat = n := by decide

theorem digit_top : ∀ n < 128, UInt8.ofNat n &&& 128 = 0 := by decide

theorem digit_or_low : ∀ n < 128, ((UInt8.ofNat n ||| 0x80) &&& 127).toNat = n := by decide

theorem digit_or_top : ∀ n < 128, (UInt8.ofNat n ||| 0x80) &&& 128 ≠ 0 := by decide

/-- The client's own decoder reads back the digits that stand in memory, if there
are at most as many as its check admits. -/
theorem decodeLenDigits_writeLenDigits (buf : Memory) :
    ∀ (left fuel n pos multiplier acc len : Nat),
    0 < left → left ≤ fuel →
    buf.slice pos (writeLenDigits fuel n).length = writeLenDigits fuel n →
    decodeLenDigits buf left pos multiplier acc len =
      if n < 128 ^ left then some (acc + n * multiplier, len + (writeLenDigits fuel n).length)
      else none := by
  intro left
  induction left with
  | zero => intro _ _ _ _ _ _ h; omega
  | succ left ih =>
    intro fuel n pos multiplier acc len _ hfuel hslice
    obtain ⟨fuel, rfl⟩ : ∃ f, fuel = f + 1 := ⟨fuel - 1, by omega⟩
    by_cases hdiv : n / 128 > 0
    · have hdigits : writeLenDigits (fuel + 1) n =
          (UInt8.ofNat (n % 128) ||| 0x80) :: writeLenDigits fuel (n / 128) := by
        rw [writeLenDigits, if_pos hdiv]
      rw [hdigits, List.length_cons, Nat.add_comm _ 1, Memory.slice_add] at hslice
      obtain ⟨hbyte, hrest⟩ := List.cons.inj (show buf (pos + 0) :: _ = _ from hslice)
      rw [Nat.add_zero] at hbyte
      have hlow : n % 128 < 128 := Nat.mod_lt n (by omega)
      rw [decodeLenDigits, hbyte, if_pos (digit_or_top _ hlow), digit_or_low _ hlow, hdigits,
        List.length_cons]
      have hlt : n < 128 ^ (left + 1) ↔ n / 128 < 128 ^ left := by
        rw [Nat.div_lt_iff_lt_mul (by omega), ← Nat.pow_succ]
      cases left with
      | zero =>
        have : ¬ n < 128 ^ (0 + 1) := by omega
        rw [if_neg this]
        rfl
      | succ left =>
        rw [ih fuel (n / 128) (pos + 1) (multiplier * 128) _ (len + 1) (by omega) (by omega) hrest]
        by_cases hn : n < 128 ^ (left + 1 + 1)
        · have hsum : n % 128 * multiplier + n / 128 * (multiplier * 128) = n * multiplier := by
            rw [Nat.mul_comm multiplier 128, ← Nat.mul_assoc, ← Nat.add_mul]
            congr 1
            omega
          rw [if_pos hn, if_pos (hlt.mp hn), Nat.add_assoc acc, hsum]
          congr 2
          omega
        · rw [if_neg hn, if_neg (fun h => hn (hlt.mpr h))]
    · have hn : n < 128 := by omega
      have hdigits : writeLenDigits (fuel + 1) n = [UInt8.ofNat n] := by
        rw [writeLenDigits, if_neg hdiv, Nat.mod_eq_of_lt hn]
      rw [hdigits] at hslice ⊢
      have hbyte : buf pos = UInt8.ofNat n := by
        have := (List.cons.inj (show buf (pos + 0) :: _ = _ from hslice)).1
        rwa [Nat.add_zero] at this
      have hlt : n < 128 ^ (left + 1) :=
        Nat.lt_of_lt_of_le hn (Nat.le_self_pow (by omega) 128)
      rw [decodeLenDigits, hbyte, if_neg (not_not.mpr (digit_top n hn)), digit_low n hn, if_pos hlt]
      rfl

/-- The errors of the parsers of answers. -/
def parseErrors : List IoTError :=
  [.failure, .mqttRxBufferTooShortError, .mqttDecodeRemainingLengthError]

theorem isError_of_mem_parseErrors : ∀ rc ∈ parseErrors, rc.isError = true := by decide

theorem decodeRemainingLengthFromBuffer_mem {buf : Memory} {pos : Nat} {rc : IoTError}
    (h : decodeRemainingLengthFromBuffer buf pos = .error rc) : rc ∈ parseErrors := by
  unfold decodeRemainingLengthFromBuffer at h
  split at h
  · cases h; decide
  · cases h

theorem decodeRemainingLengthFromBuffer_error {buf : Memory} {pos : Nat} {rc : IoTError}
    (h : decodeRemainingLengthFromBuffer buf pos = .error rc) : rc.isError = true :=
  isError_of_mem_parseErrors rc (decodeRemainingLengthFromBuffer_mem h)

theorem decodeRemainingLengthFromBuffer_eq {buf : Memory} {pos n : Nat}
    (h : buf.slice pos (writeLenToBuffer n).length = writeLenToBuffer n) :
    decodeRemainingLengthFromBuffer buf pos =
      if n < 128 ^ 4 then .ok (n, (writeLenToBuffer n).length)
      else .error .mqttDecodeRemainingLengthError := by
  have hdigits := decodeLenDigits_writeLenDigits buf 4 5 n pos 1 0 0 (by omega) (by omega) h
  unfold decodeRemainingLengthFromBuffer maxNoOfRemainingLengthBytes
  rw [hdigits]
  by_cases hn : n < 128 ^ 4
  · rw [if_pos hn, if_pos hn, Nat.zero_add, Nat.zero_add, Nat.mul_one]
    rfl
  · rw [if_neg hn, if_neg hn]

end AwsIot.Mqtt
