/-
  Mqtt/LengthCodec.lean --- the remaining length, written and read back.

  `aws_iot_mqtt_internal_write_len_to_buffer` writes the shortest encoding of a length, and
  `aws_iot_mqtt_internal_decode_remaining_length_from_buffer` takes any encoding of at most
  four bytes.  `lengthCodec` says in which sense they are inverse, and what that means for
  `read_packet`, which writes again what it has read.
-/
import AwsIot.Mqtt.PacketReads
import AwsIot.Mqtt.TransmitBuffer

set_option autoImplicit false

namespace AwsIot.Mqtt

open AwsIot.Foundation Program

/-- The field ends with a digit that adds nothing: a zero byte behind another byte. -/
def Superfluous (field : List UInt8) : Prop := 1 < field.length ∧ field.getLast? = some 0

/-- After a packet of `remLen` bytes was read, its body, which question `t` delivered, stands
where the deserializers look for it: behind the length they decode. -/
def BodyInPlace (env : Env) (t remLen : Nat) (w : World) : Prop :=
  ∃ len, decodeRemainingLengthFromBuffer w.client.readBuf 1 = .ok (remLen, len) ∧
    w.client.readBuf.slice (1 + len) ((env.read t).bytes.take remLen).length =
      (env.read t).bytes.take remLen

section Digits

variable {buf : Memory} {pos k : Nat}

/-- The number that digits make, from the lowest one on. -/
theorem digitsValue_succ (buf : Memory) (pos : Nat) : ∀ n,
    digitsValue buf pos (n + 1) = (buf pos).toNat % 128 + 128 * digitsValue buf (pos + 1) n := by
  intro n
  induction n with
  | zero => simp [digitsValue]
  | succ n ih =>
    have hpos : pos + (n + 1) = pos + 1 + n := by omega
    have hpow : 128 ^ (n + 1) = 128 * 128 ^ n := by rw [Nat.pow_succ, Nat.mul_comm]
    rw [digitsValue, ih, digitsValue, hpos, hpow, Nat.mul_add, Nat.mul_left_comm, Nat.add_assoc]

theorem EndsAt.succ (h : EndsAt buf pos (k + 1)) :
    128 ≤ (buf pos).toNat ∧ EndsAt buf (pos + 1) k := by
  refine ⟨h.1 0 (Nat.succ_pos k), fun i hi => ?_, ?_⟩
  · rw [Nat.add_assoc, Nat.add_comm 1 i]
    exact h.1 (i + 1) (Nat.succ_lt_succ hi)
  · rw [Nat.add_assoc, Nat.add_comm 1 k]
    exact h.2

/-- If the digits make zero, so does the last one. -/
theorem EndsAt.last_of_zero (h : EndsAt buf pos k) (hzero : digitsValue buf pos (k + 1) = 0) :
    buf (pos + k) = 0 := by
  have hdigit : (buf (pos + k)).toNat % 128 * 128 ^ k = 0 := by
    rw [digitsValue] at hzero
    omega
  rcases Nat.mul_eq_zero.mp hdigit with hbyte | hpow
  · apply UInt8.toNat_inj.mp
    rw [Nat.mod_eq_of_lt h.2] at hbyte
    exact hbyte
  · exact absurd hpow (Nat.ne_of_gt (Nat.pow_pos (by omega)))

theorem ofNat_or_continue (b : UInt8) (h : 128 ≤ b.toNat) :
    UInt8.ofNat (b.toNat % 128) ||| 0x80 = b := by
  apply UInt8.toNat_inj.mp
  have hlt := b.toNat_lt
  rw [toNat_digit_or _ (Nat.mod_lt _ (by omega))]
  omega

/-- Writing the value of a field gives the field back, unless its last digit adds
nothing. -/
theorem writeLenDigits_digitsValue : ∀ {k : Nat} (fuel pos : Nat), k < fuel → EndsAt buf pos k →
    (writeLenDigits fuel (digitsValue buf pos (k + 1)) = buf.slice pos (k + 1) ↔
      (k = 0 ∨ buf (pos + k) ≠ 0)) := by
  intro k
  induction k with
  | zero =>
    intro fuel pos hfuel h
    obtain ⟨fuel, rfl⟩ := Nat.exists_eq_add_of_lt hfuel
    have hlast : (buf pos).toNat < 128 := h.2
    have hvalue : digitsValue buf pos 1 = (buf pos).toNat := by
      simp [digitsValue, Nat.mod_eq_of_lt hlast]
    have hdiv : ¬ (buf pos).toNat / 128 > 0 := by omega
    refine iff_of_true ?_ (.inl rfl)
    rw [hvalue, writeLenDigits, if_neg hdiv, Nat.mod_eq_of_lt hlast, Memory.slice_succ]
    simp
  | succ k ih =>
    intro fuel pos hfuel h
    obtain ⟨fuel, rfl⟩ := Nat.exists_eq_add_of_lt (Nat.lt_of_le_of_lt (Nat.zero_le _) hfuel)
    rw [Nat.zero_add] at hfuel ⊢
    obtain ⟨hmore, hrest⟩ := h.succ
    have hlast : pos + 1 + k = pos + (k + 1) := by omega
    have hdiv : digitsValue buf pos (k + 1 + 1) / 128 = digitsValue buf (pos + 1) (k + 1) := by
      rw [digitsValue_succ]
      omega
    have hmod : digitsValue buf pos (k + 1 + 1) % 128 = (buf pos).toNat % 128 := by
      rw [digitsValue_succ]
      omega
    rw [writeLenDigits, hdiv, hmod, Memory.slice_succ]
    by_cases hzero : digitsValue buf (pos + 1) (k + 1) > 0
    · rw [if_pos hzero, ofNat_or_continue _ hmore, List.cons.injEq,
        and_iff_right rfl, ih fuel (pos + 1) (by omega) hrest, hlast]
      constructor
      · rintro (rfl | hne)
        · refine .inr fun hbyte => ?_
          rw [Nat.zero_add] at hbyte
          simp [digitsValue, hbyte] at hzero
        · exact .inr hne
      · rintro (hk | hne)
        · exact absurd hk (Nat.succ_ne_zero k)
        · exact .inr hne
    · have hbyte := hrest.last_of_zero (Nat.eq_zero_of_not_pos hzero)
      rw [hlast] at hbyte
      rw [if_neg hzero]
      refine iff_of_false (fun heq => ?_) ?_
      · have hlen := congrArg List.length (List.cons.inj heq).2
        simp at hlen
      · rintro (hk | hne)
        · exact absurd hk (Nat.succ_ne_zero k)
        · exact hne hbyte

/-- What the decoder accepts is a field that ends within four bytes. -/
theorem endsAt_of_decode {n len : Nat}
    (h : decodeRemainingLengthFromBuffer buf pos = .ok (n, len)) :
    ∃ k < 4, EndsAt buf pos k ∧ n = digitsValue buf pos (k + 1) ∧ len = k + 1 := by
  rcases continues_or_endsAt buf pos 4 with hmore | ⟨k, hk, hends⟩
  · rw [decodeRemainingLengthFromBuffer_continues hmore] at h
    cases h
  · rw [decodeRemainingLengthFromBuffer_endsAt hk hends] at h
    cases h
    exact ⟨k, hk, hends, rfl, rfl⟩

theorem superfluous_slice_iff :
    Superfluous (buf.slice pos (k + 1)) ↔ k ≠ 0 ∧ buf (pos + k) = 0 := by
  have hlast : (buf.slice pos (k + 1)).getLast? = some (buf (pos + k)) := by
    rw [Memory.slice_add]
    exact List.getLast?_concat
  have hlen : 1 < (buf.slice pos (k + 1)).length ↔ k ≠ 0 := by
    rw [Memory.length_slice]
    omega
  rw [Superfluous, hlast, hlen, Option.some.injEq]

/-- Writing again what the decoder made of a field writes the field, unless its last digit
adds nothing. -/
theorem writeLenToBuffer_decoded {n len : Nat}
    (h : decodeRemainingLengthFromBuffer buf pos = .ok (n, len)) :
    writeLenToBuffer n = buf.slice pos len ↔ ¬ Superfluous (buf.slice pos len) := by
  obtain ⟨k, hk, hends, rfl, rfl⟩ := endsAt_of_decode h
  rw [writeLenToBuffer, writeLenDigits_digitsValue 5 pos (by omega) hends, superfluous_slice_iff,
    not_and_or, not_not]

end Digits

/-! ## The reader -/

section Reading

variable {env : Env} {w : World} {remLen : Nat}

/-- The length in the read buffer is the one that the body was placed behind. -/
theorem decode_bodyRead (hsmall : remLen < 128 ^ 4)
    (hlen : w.client.readBuf.slice 1 (writeLenToBuffer remLen).length = writeLenToBuffer remLen) :
    decodeRemainingLengthFromBuffer w.client.readBuf 1 =
      .ok (remLen, (writeLenToBuffer remLen).length) := by
  rw [decodeRemainingLengthFromBuffer_eq hlen, if_pos hsmall]

theorem bodyInPlace_lengthStored (t : Nat) :
    BodyInPlace env t 0 (w.lengthStored 0) :=
  ⟨_, decode_bodyRead (by omega) Memory.slice_writeAt_self, by simp⟩

theorem bodyInPlace_bodyRead (hsmall : remLen < 128 ^ 4) :
    BodyInPlace env w.time remLen (w.bodyRead env remLen) := by
  have hmod : remLen % 2 ^ 32 = remLen := Nat.mod_eq_of_lt (by omega)
  have hoffset : bodyOffset remLen = 1 + (writeLenToBuffer remLen).length := by
    rw [bodyOffset, hmod]
  have hbuf : (w.bodyRead env remLen).client.readBuf =
      (w.client.readBuf.writeAt 1 (writeLenToBuffer remLen)).writeAt
        (1 + (writeLenToBuffer remLen).length) ((env.read w.time).bytes.take remLen) := by
    show (w.client.readBuf.writeAt 1 (writeLenToBuffer (remLen % 2 ^ 32))).writeAt
      (bodyOffset remLen) _ = _
    rw [hoffset, hmod]
  refine ⟨(writeLenToBuffer remLen).length, decode_bodyRead hsmall ?_, ?_⟩
  · rw [hbuf, Memory.slice_writeAt_before (Nat.le_refl _), Memory.slice_writeAt_self]
  · rw [hbuf, Memory.slice_writeAt_self]

/-- A body that `read_packet` reports is where the deserializers look for it. -/
theorem readPacket_bodyInPlace {n fuel : Nat} {packetType : UInt8}
    (hends : env.LengthEnds (w.time + 1) n)
    (hsmall : env.lengthValue (w.time + 1) (n + 1) < 128 ^ 4) :
    (readPacket env fuel packetType : M (IoTError × UInt8)).Ends w
      (fun r w' => r.1 = .success →
        BodyInPlace env (w.time + n + 3) (env.lengthValue (w.time + 1) (n + 1)) w')
      (fun _ => True) := by
  refine readPacket_rule (fun _ h => by cases h) ?_ (fun _ _ => trivial) ?_
  · intro _ k rc hfails
    exact absurd hfails hends.not_fails
  · intro _ k hends'
    obtain rfl := hends.unique hends'
    have htime : ((w.headerRead env).lengthRead env (n + 1)).time = w.time + n + 3 := by
      rw [World.time_lengthRead]
      show w.time + 1 + 1 + (n + 1) = _
      omega
    by_cases hlong : env.lengthValue (w.time + 1) (n + 1) ≥
        ((w.headerRead env).lengthRead env (n + 1)).client.readBufSize
    · unfold readBody
      simp only [ends_bind, ends_getClient, if_pos hlong, ends_pure]
      exact ends_true.mono (fun _ _ _ h => by cases h) (fun _ _ => trivial)
    · rw [ends_readBody_of_fits (Nat.lt_of_not_le hlong), ← htime]
      split
      · split
        · exact fun h => by cases h
        · exact fun _ => bodyInPlace_bodyRead hsmall
      · rename_i hempty
        rw [Nat.eq_zero_of_not_pos hempty]
        exact fun _ => bodyInPlace_lengthStored _

end Reading

/-- Every length below 268435456 is read back from what is written for it, and takes one to
four bytes; what is written for a larger one is rejected; writing again what the decoder
accepted gives the same bytes exactly if they have no superfluous zero; and `read_packet`,
which writes the length again, places the body where the deserializers look for it. -/
theorem lengthCodec :
    (∀ n < 268435456, 1 ≤ (writeLenToBuffer n).length ∧ (writeLenToBuffer n).length ≤ 4 ∧
      ∀ (buf : Memory) pos,
        buf.slice pos (writeLenToBuffer n).length = writeLenToBuffer n →
          decodeRemainingLengthFromBuffer buf pos = .ok (n, (writeLenToBuffer n).length)) ∧
    (∀ n, 268435456 ≤ n → n < 2 ^ 32 → ∀ (buf : Memory) pos,
      buf.slice pos (writeLenToBuffer n).length = writeLenToBuffer n →
        decodeRemainingLengthFromBuffer buf pos = .error .mqttDecodeRemainingLengthError) ∧
    (∀ (buf : Memory) pos n len, decodeRemainingLengthFromBuffer buf pos = .ok (n, len) →
      (writeLenToBuffer n = buf.slice pos len ↔ ¬ Superfluous (buf.slice pos len))) ∧
    ∀ (env : Env) (w : World) n fuel (packetType type : UInt8) w',
      env.LengthEnds (w.time + 1) n → env.lengthValue (w.time + 1) (n + 1) < 268435456 →
        (readPacket env fuel packetType : M (IoTError × UInt8)).run w =
          .done (.success, type) w' →
        BodyInPlace env (w.time + n + 3) (env.lengthValue (w.time + 1) (n + 1)) w' := by
  refine ⟨fun n hn => ⟨length_writeLenDigits_pos 4 n, ?_, fun buf pos h => ?_⟩,
    fun n hn _ buf pos h => ?_, fun buf pos n len => writeLenToBuffer_decoded, ?_⟩
  · exact length_writeLenDigits_of_lt 3 5 n hn
  · rw [decodeRemainingLengthFromBuffer_eq h, if_pos (by omega)]
  · rw [decodeRemainingLengthFromBuffer_eq h, if_neg (by omega)]
  · intro env w n fuel packetType type w' hends hsmall hrun
    exact (readPacket_bodyInPlace hends hsmall).of_run hrun rfl

end AwsIot.Mqtt
