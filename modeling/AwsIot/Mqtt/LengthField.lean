/-
  Mqtt/LengthField.lean --- the remaining length, read from the network and from memory.

  `_aws_iot_mqtt_internal_decode_packet_remaining_len` reads the field byte by byte from
  the network, `aws_iot_mqtt_internal_decode_remaining_length_from_buffer` from memory.
  The first one counts its bytes in the variable that `networkStack.read` overwrites, so
  its limit of four bytes never takes effect: the two agree exactly on the streams whose
  field ends within four bytes (`lengthDecodersAgree_iff`).
-/
import AwsIot.Mqtt.Framing

set_option autoImplicit false

namespace AwsIot.Mqtt

open AwsIot.Foundation Program

/-! ## Digits in memory -/

/-- The number that `n` digits to the base 128 make, which stand at `pos`. -/
def digitsValue (buf : Memory) (pos : Nat) : Nat → Nat
  | 0 => 0
  | n + 1 => digitsValue buf pos n + (buf (pos + n)).toNat % 128 * 128 ^ n

/-- Each of the `n` bytes from `pos` on announces another one. -/
def Continues (buf : Memory) (pos n : Nat) : Prop := ∀ i < n, 128 ≤ (buf (pos + i)).toNat

/-- The field that starts at `pos` ends with its byte `n`. -/
def EndsAt (buf : Memory) (pos n : Nat) : Prop :=
  Continues buf pos n ∧ (buf (pos + n)).toNat < 128

section Memory

variable {buf : Memory} {pos n left : Nat}

theorem digitsValue_lt (buf : Memory) (pos : Nat) : ∀ n, digitsValue buf pos n < 128 ^ n := by
  intro n
  induction n with
  | zero => exact Nat.one_pos
  | succ n ih =>
    have hdigit : (buf (pos + n)).toNat % 128 * 128 ^ n ≤ 127 * 128 ^ n :=
      Nat.mul_le_mul_right _ (by omega)
    rw [digitsValue, Nat.pow_succ]
    omega

/-- A field either goes on for `n` bytes or ends before. -/
theorem continues_or_endsAt (buf : Memory) (pos : Nat) :
    ∀ n, Continues buf pos n ∨ ∃ k < n, EndsAt buf pos k := by
  intro n
  induction n with
  | zero => exact .inl fun i hi => absurd hi (Nat.not_lt_zero i)
  | succ n ih =>
    rcases ih with hmore | ⟨k, hk, hends⟩
    · by_cases hlast : (buf (pos + n)).toNat < 128
      · exact .inr ⟨n, Nat.lt_succ_self n, hmore, hlast⟩
      · refine .inl fun i hi => ?_
        rcases Nat.lt_succ_iff_lt_or_eq.mp hi with hlt | rfl
        · exact hmore i hlt
        · exact Nat.le_of_not_lt hlast
    · exact .inr ⟨k, Nat.lt_succ_of_lt hk, hends⟩

theorem EndsAt.not_continues (h : EndsAt buf pos n) {k : Nat} (hk : n < k) :
    ¬ Continues buf pos k :=
  fun hmore => absurd h.2 (Nat.not_lt.mpr (hmore n hk))

theorem EndsAt.unique {k : Nat} (h : EndsAt buf pos n) (h' : EndsAt buf pos k) : n = k := by
  rcases Nat.lt_trichotomy n k with hlt | heq | hgt
  · exact absurd h'.1 (h.not_continues hlt)
  · exact heq
  · exact absurd h.1 (h'.not_continues hgt)

theorem decodeLenDigits_continues : ∀ {left pos multiplier decodedLen len : Nat},
    Continues buf pos left → decodeLenDigits buf left pos multiplier decodedLen len = none := by
  intro left
  induction left with
  | zero => intros; rfl
  | succ left ih =>
    intro pos multiplier decodedLen len hmore
    have hfirst : 128 ≤ (buf pos).toNat := hmore 0 (Nat.succ_pos left)
    rw [decodeLenDigits, if_pos ((byte_and_128 _).mpr hfirst)]
    refine ih fun i hi => ?_
    rw [Nat.add_assoc, Nat.add_comm 1 i]
    exact hmore (i + 1) (Nat.succ_lt_succ hi)

/-- The decoder's loop behind the first `j` digits. -/
theorem decodeLenDigits_endsAt : ∀ {k : Nat} (left j : Nat), k < left → EndsAt buf pos (j + k) →
    decodeLenDigits buf left (pos + j) (128 ^ j) (digitsValue buf pos j) j =
      some (digitsValue buf pos (j + k + 1), j + k + 1) := by
  intro k
  induction k with
  | zero =>
    intro left j hleft hends
    obtain ⟨left, rfl⟩ := Nat.exists_eq_succ_of_ne_zero (Nat.ne_of_gt hleft)
    have hlast : (buf (pos + j)).toNat < 128 := hends.2
    rw [decodeLenDigits, if_neg (fun h => absurd ((byte_and_128 _).mp h) (Nat.not_le.mpr hlast)),
      byte_and_127]
    rfl
  | succ k ih =>
    intro left j hleft hends
    obtain ⟨left, rfl⟩ := Nat.exists_eq_add_of_lt (Nat.lt_of_le_of_lt (Nat.zero_le _) hleft)
    rw [Nat.zero_add] at hleft ⊢
    have hmore : 128 ≤ (buf (pos + j)).toNat := hends.1 j (by omega)
    rw [decodeLenDigits, if_pos ((byte_and_128 _).mpr hmore), byte_and_127]
    have hrest := ih left (j + 1) (by omega) (by rwa [Nat.add_right_comm, Nat.add_assoc])
    rw [Nat.add_right_comm j 1 k] at hrest
    exact hrest

/-- What the decoder makes of a field that ends within four bytes. -/
theorem decodeRemainingLengthFromBuffer_endsAt (hn : n < 4) (h : EndsAt buf pos n) :
    decodeRemainingLengthFromBuffer buf pos = .ok (digitsValue buf pos (n + 1), n + 1) := by
  have hdigits := decodeLenDigits_endsAt 4 0 hn (by rwa [Nat.zero_add])
  rw [Nat.zero_add] at hdigits
  unfold decodeRemainingLengthFromBuffer maxNoOfRemainingLengthBytes
  rw [show decodeLenDigits buf 4 pos 1 0 0 = some (digitsValue buf pos (n + 1), n + 1) from hdigits]

/-- The decoder rejects four bytes that announce a fifth. -/
theorem decodeRemainingLengthFromBuffer_continues (h : Continues buf pos 4) :
    decodeRemainingLengthFromBuffer buf pos = .error .mqttDecodeRemainingLengthError := by
  unfold decodeRemainingLengthFromBuffer maxNoOfRemainingLengthBytes
  rw [decodeLenDigits_continues h]

end Memory

/-! ## Digits on the network -/

/-- What the decoder's variable holds after `n` reads, the first of which is question
`t + 1`.  A read that stores nothing leaves it. -/
def Env.lengthByte (env : Env) (t : Nat) : Nat → UInt8
  | 0 => env.indeterminate t
  | n + 1 => (env.read (t + 1 + n)).bytes.headD (env.lengthByte t n)

/-- What these reads make of `*rem_len`, a `size_t`. -/
def Env.lengthValue (env : Env) (t : Nat) : Nat → Nat
  | 0 => 0
  | n + 1 => (env.lengthValue t n +
      (env.lengthByte t (n + 1) &&& 127).toNat * (128 ^ n % 2 ^ 64)) % 2 ^ 64

/-- The first `n` reads succeed, and each of their bytes announces another one. -/
def Env.LengthContinues (env : Env) (t n : Nat) : Prop :=
  ∀ i < n, (env.read (t + 1 + i)).rc = .success ∧ 128 ≤ (env.lengthByte t (i + 1)).toNat

/-- The field ends with the byte of read `n`. -/
def Env.LengthEnds (env : Env) (t n : Nat) : Prop :=
  env.LengthContinues t n ∧ (env.read (t + 1 + n)).rc = .success ∧
    (env.lengthByte t (n + 1)).toNat < 128

/-- Read `n` of the field fails with `rc`. -/
def Env.LengthFails (env : Env) (t n : Nat) (rc : IoTError) : Prop :=
  env.LengthContinues t n ∧ (env.read (t + 1 + n)).rc = rc ∧ rc ≠ .success

/-- The world after `n` reads of the field. -/
def World.lengthRead (w : World) (env : Env) : Nat → World
  | 0 => w.tick
  | n + 1 => (w.lengthRead env n).tick.push (.netRead .remainingLength w.client.clientState 0 1
      (env.read (w.time + 1 + n)).rc (min (env.read (w.time + 1 + n)).readLen 1)
      ((env.read (w.time + 1 + n)).bytes.take 1))

section Network

variable {env : Env} {fuel n k t : Nat} {w : World} {rc : IoTError}

@[simp] theorem World.client_lengthRead : ∀ n, (w.lengthRead env n).client = w.client
  | 0 => rfl
  | n + 1 => World.client_lengthRead n

@[simp] theorem World.time_lengthRead : ∀ n, (w.lengthRead env n).time = w.time + 1 + n
  | 0 => rfl
  | n + 1 => congrArg (· + 1) (World.time_lengthRead n)

theorem World.streamPosition_lengthRead :
    ∀ n, streamPosition (w.lengthRead env n).log = streamPosition w.log + n
  | 0 => rfl
  | n + 1 => congrArg (· + 1) (World.streamPosition_lengthRead n)

theorem Env.LengthEnds.not_continues (h : env.LengthEnds t n) (hk : n < k) :
    ¬ env.LengthContinues t k :=
  fun hmore => absurd h.2.2 (Nat.not_lt.mpr (hmore n hk).2)

theorem Env.LengthFails.not_continues (h : env.LengthFails t n rc) (hk : n < k) :
    ¬ env.LengthContinues t k :=
  fun hmore => h.2.2 (h.2.1.symm.trans (hmore n hk).1)

theorem Env.LengthEnds.unique (h : env.LengthEnds t n) (h' : env.LengthEnds t k) : n = k := by
  rcases Nat.lt_trichotomy n k with hlt | heq | hgt
  · exact absurd h'.1 (h.not_continues hlt)
  · exact heq
  · exact absurd h.1 (h'.not_continues hgt)

theorem Env.LengthEnds.not_fails (h : env.LengthEnds t n) : ¬ env.LengthFails t k rc := by
  intro h'
  rcases Nat.lt_trichotomy n k with hlt | rfl | hgt
  · exact h.not_continues hlt h'.1
  · exact h'.2.2 (h'.2.1.symm.trans h.2.1)
  · exact h'.not_continues hgt h.1

/-- The decoder's variables in front of read `n`.  Its counter is what the read before
reported, never more than one. -/
def DecodingAt (env : Env) (w : World) (n : Nat) (v : DecodeVars) (w' : World) : Prop :=
  w' = w.lengthRead env n ∧ env.LengthContinues w.time n ∧ v.len ≤ 1 ∧
    v.multiplier = 128 ^ n % 2 ^ 64 ∧ v.remLen = env.lengthValue w.time n ∧
    v.encodedByte = env.lengthByte w.time n

theorem decodeRemainingLenPass_at (v : DecodeVars) (w' : World) (h : DecodingAt env w n v w') :
    (decodeRemainingLenPass env v : M (Step DecodeVars (IoTError × Nat))).Ends w'
      (fun r w'' => match r with
        | .again v' => DecodingAt env w (n + 1) v' w''
        | .stop c => ∃ n, w'' = w.lengthRead env (n + 1) ∧
            (env.LengthEnds w.time n ∧ c = (.success, env.lengthValue w.time (n + 1)) ∨
              env.LengthFails w.time n c.1))
      (fun _ => False) := by
  obtain ⟨rfl, hmore, hlen, hmult, hrem, hbyte⟩ := h
  have hlimit : ¬ v.len + 1 > maxNoOfRemainingLengthBytes := by
    unfold maxNoOfRemainingLengthBytes
    omega
  unfold decodeRemainingLenPass
  simp only [if_neg hlimit, ends_bind, ends_netReadByte, World.time_lengthRead,
    World.client_lengthRead]
  by_cases hrc : (env.read (w.time + 1 + n)).rc = .success
  · rw [if_neg (not_not.mpr hrc)]
    have hread : (env.read (w.time + 1 + n)).bytes.headD v.encodedByte =
        env.lengthByte w.time (n + 1) := by rw [hbyte]; rfl
    have hvalue : (v.remLen +
        (env.lengthByte w.time (n + 1) &&& 127).toNat * v.multiplier) % 2 ^ 64 =
        env.lengthValue w.time (n + 1) := by rw [hrem, hmult]; rfl
    rw [hread, hvalue]
    split
    case isTrue hcont =>
      refine ⟨rfl, fun i hi => ?_, Nat.min_le_right _ _, ?_, rfl, rfl⟩
      · rcases Nat.lt_succ_iff_lt_or_eq.mp hi with hlt | rfl
        · exact hmore i hlt
        · exact ⟨hrc, (byte_and_128 _).mp hcont⟩
      · show v.multiplier * 128 % 2 ^ 64 = 128 ^ (n + 1) % 2 ^ 64
        have hpow : 128 ^ (n + 1) = 128 ^ n * 128 := Nat.pow_succ _ _
        rw [hmult, hpow, Nat.mod_mul_mod]
    case isFalse hlast =>
      have hsmall : (env.lengthByte w.time (n + 1)).toNat < 128 :=
        Nat.lt_of_not_le fun h => hlast ((byte_and_128 _).mpr h)
      exact ⟨n, rfl, .inl ⟨⟨hmore, hrc, hsmall⟩, by rw [hrc]⟩⟩
  · rw [if_pos hrc]
    exact ⟨n, rfl, .inr ⟨hmore, rfl, hrc⟩⟩

/-- How the decoder ends: with the byte that ends the field, with the first read that
fails, or not within its fuel. -/
theorem decodePacketRemainingLen_ends :
    (decodePacketRemainingLen env fuel : M (IoTError × Nat)).Ends w
      (fun r w' => ∃ n, w' = w.lengthRead env (n + 1) ∧
        (env.LengthEnds w.time n ∧ r = (.success, env.lengthValue w.time (n + 1)) ∨
          env.LengthFails w.time n r.1))
      (fun w' => w' = w.lengthRead env fuel ∧ env.LengthContinues w.time fuel) := by
  unfold decodePacketRemainingLen
  simp only [ends_bind, ends_ask]
  refine (ends_loop_counted (I := DecodingAt env w) (H := fun _ => False) ?_ fuel 0 _ _ ?_).mono
    (fun _ _ h => h) ?_
  · intro n v w' h
    refine (decodeRemainingLenPass_at v w' h).mono ?_ (fun _ h => h)
    intro r w'' hr
    cases r with
    | again v' => exact hr
    | stop c => exact hr
  · exact ⟨rfl, fun i hi => absurd hi (Nat.not_lt_zero i), Nat.zero_le 1, rfl, rfl, rfl⟩
  · rintro w' (hfalse | ⟨v, heq, hmore, -⟩)
    · exact hfalse.elim
    · rw [Nat.zero_add] at heq hmore
      exact ⟨heq, hmore⟩

/-- With fuel for all bytes of the field, the decoder returns its value. -/
theorem decodePacketRemainingLen_run (h : env.LengthEnds w.time n) (hfuel : n < fuel) :
    (decodePacketRemainingLen env fuel : M (IoTError × Nat)).run w =
      .done (.success, env.lengthValue w.time (n + 1)) (w.lengthRead env (n + 1)) := by
  refine run_eq_done_iff.mpr (decodePacketRemainingLen_ends.mono ?_ ?_)
  · rintro r w' ⟨k, rfl, ⟨hends, rfl⟩ | hfails⟩
    · obtain rfl := h.unique hends
      exact ⟨rfl, rfl⟩
    · exact absurd hfails h.not_fails
  · rintro w' ⟨-, hmore⟩
    exact h.not_continues hfuel hmore

end Network

/-! ## Agreement -/

/-- Surroundings whose reads deliver `stream` from question `t` on, one byte per call. -/
def Env.delivering (env : Env) (t : Nat) (stream : Memory) : Env :=
  { env with read := fun n => ⟨.success, [stream (n - t)], 1⟩ }

/-- On `stream`, the decoder that reads the network does what the one that reads memory
does: it returns the same value after the same number of bytes, or the same error after
at most four. -/
def LengthDecodersAgree (env : Env) (w : World) (stream : Memory) : Prop :=
  match decodeRemainingLengthFromBuffer stream 0 with
  | .ok (decodedLen, readBytesLen) => ∃ fuel w',
      (decodePacketRemainingLen (env.delivering (w.time + 1) stream) fuel : M (IoTError × Nat)).run
        w = .done (.success, decodedLen) w' ∧
      streamPosition w'.log = streamPosition w.log + readBytesLen
  | .error rc => ∃ fuel w' remLen,
      (decodePacketRemainingLen (env.delivering (w.time + 1) stream) fuel : M (IoTError × Nat)).run
        w = .done (rc, remLen) w' ∧
      streamPosition w'.log ≤ streamPosition w.log + maxNoOfRemainingLengthBytes

section Agreement

variable {env : Env} {w : World} {stream : Memory} {n : Nat}

theorem lengthByte_delivering (t i : Nat) :
    (env.delivering (t + 1) stream).lengthByte t (i + 1) = stream i := by
  show stream (t + 1 + i - (t + 1)) = stream i
  rw [Nat.add_sub_cancel_left]

theorem lengthContinues_delivering (t : Nat) :
    (env.delivering (t + 1) stream).LengthContinues t n ↔ Continues stream 0 n := by
  unfold Env.LengthContinues Continues
  simp only [lengthByte_delivering, Nat.zero_add]
  exact ⟨fun h i hi => (h i hi).2, fun h i hi => ⟨rfl, h i hi⟩⟩

theorem lengthEnds_delivering (t : Nat) :
    (env.delivering (t + 1) stream).LengthEnds t n ↔ EndsAt stream 0 n := by
  unfold Env.LengthEnds EndsAt
  rw [lengthContinues_delivering, lengthByte_delivering, Nat.zero_add]
  exact ⟨fun h => ⟨h.1, h.2.2⟩, fun h => ⟨h.1, rfl, h.2⟩⟩

/-- Over such a network the decoder never returns an error. -/
theorem success_of_run_delivering {fuel : Nat} {r : IoTError × Nat} {w' : World}
    (hrun : (decodePacketRemainingLen (env.delivering (w.time + 1) stream) fuel :
      M (IoTError × Nat)).run w = .done r w') : r.1 = .success := by
  obtain ⟨n, -, ⟨-, rfl⟩ | hfails⟩ := decodePacketRemainingLen_ends.of_run hrun
  · rfl
  · exact absurd hfails.2.1.symm hfails.2.2

/-- Up to four digits, the two sums are the same. -/
theorem lengthValue_delivering (t : Nat) : ∀ n ≤ 4,
    (env.delivering (t + 1) stream).lengthValue t n = digitsValue stream 0 n := by
  intro n
  induction n with
  | zero => intro _; rfl
  | succ n ih =>
    intro hn
    have hpow : 128 ^ (n + 1) ≤ 128 ^ 4 := Nat.pow_le_pow_right (by omega) hn
    have hmult : 128 ^ n % 2 ^ 64 = 128 ^ n := by
      have hle : 128 ^ n ≤ 128 ^ 4 := Nat.pow_le_pow_right (by omega) (by omega)
      exact Nat.mod_eq_of_lt (by omega)
    have hvalue : (digitsValue stream 0 (n + 1)) % 2 ^ 64 = digitsValue stream 0 (n + 1) := by
      have hlt := digitsValue_lt stream 0 (n + 1)
      exact Nat.mod_eq_of_lt (by omega)
    rw [Env.lengthValue, ih (by omega), lengthByte_delivering, hmult, byte_and_127]
    rw [digitsValue, Nat.zero_add] at hvalue ⊢
    exact hvalue

/-- The two decoders of a remaining length agree on a stream exactly if one of its first
four bytes ends the field. -/
theorem lengthDecodersAgree_iff (env : Env) (w : World) (stream : Memory) :
    LengthDecodersAgree env w stream ↔ ∃ i < 4, (stream i).toNat < 128 := by
  unfold LengthDecodersAgree
  rcases continues_or_endsAt stream 0 4 with hmore | ⟨n, hn, hends⟩
  · rw [decodeRemainingLengthFromBuffer_continues hmore]
    refine iff_of_false ?_ ?_
    · rintro ⟨fuel, w', remLen, hrun, -⟩
      cases success_of_run_delivering hrun
    · rintro ⟨i, hi, hlast⟩
      have hbyte := hmore i hi
      rw [Nat.zero_add] at hbyte
      omega
  · rw [decodeRemainingLengthFromBuffer_endsAt hn hends]
    refine iff_of_true ?_ ⟨n, hn, by simpa using hends.2⟩
    have harrives : (env.delivering (w.time + 1) stream).LengthEnds w.time n :=
      (lengthEnds_delivering w.time).mpr hends
    have hrun := decodePacketRemainingLen_run harrives (Nat.lt_succ_self n)
    rw [lengthValue_delivering w.time (n + 1) hn] at hrun
    exact ⟨n + 1, _, hrun, World.streamPosition_lengthRead (n + 1)⟩

/-- A run of continuation bytes is rejected from memory, and never from the network. -/
theorem not_lengthDecodersAgree_continuation :
    ¬ LengthDecodersAgree quietEnv World.start (fun _ => 0x80) := by
  rintro ⟨fuel, w', remLen, hrun, -⟩
  cases success_of_run_delivering hrun

end Agreement

end AwsIot.Mqtt
