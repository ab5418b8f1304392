/-
  Mqtt/PacketReads.lean --- what one call of the reader asks the network for.

  `_aws_iot_mqtt_internal_read_packet` reads a header byte, the remaining length and the
  body.  It compares the remaining length alone with the size of the read buffer, and goes
  on after a header read that failed.  `staysInside_iff` says for which incoming lengths
  its reads stay inside the buffer, `genuine_iff` for which outcomes of its reads a packet
  it reports was really delivered.
-/
import AwsIot.Mqtt.LengthField

set_option autoImplicit false

namespace AwsIot.Mqtt

open AwsIot.Foundation Program

/-! ## The reader in two halves -/

/-- `read_packet` behind the remaining length. -/
def readBody (env : Env) (fuel : Nat) (packetType : UInt8) (remLen : Nat) :
    M (IoTError × UInt8) := do
  let c ← getClient
  if remLen ≥ c.readBufSize then
    loop (dropPass env c.readBufSize remLen) fuel (0, c.readBufSize)
    return (.mqttRxBufferTooShortError, packetType)
  let lenBytes := writeLenToBuffer (remLen % 2 ^ 32)
  modifyClient fun c => { c with readBuf := c.readBuf.writeAt 1 lenBytes }
  let len := 1 + lenBytes.length
  if remLen > 0 then
    let (rc, readLen) ← netRead env .body len remLen
    if rc ≠ .success ∨ readLen ≠ remLen then return (.failure, packetType)
  emit fun c => .packetRead (c.readBuf.slice 0 (len + remLen))
  let c ← getClient
  return (.success, headerType (c.readBuf 0))

/-- The world after the header read. -/
def World.headerRead (w : World) (env : Env) : World :=
  (w.tick.push (.netRead .header w.client.clientState 0 1 (env.read w.time).rc
    (min (env.read w.time).readLen 1) ((env.read w.time).bytes.take 1))).onClient
      fun c => { c with readBuf := c.readBuf.writeAt 0 ((env.read w.time).bytes.take 1) }

/-- Where the body goes: behind the header byte and the re-encoded remaining length. -/
def bodyOffset (remLen : Nat) : Nat := 1 + (writeLenToBuffer (remLen % 2 ^ 32)).length

/-- The world with the remaining length in the read buffer. -/
def World.lengthStored (w : World) (remLen : Nat) : World :=
  w.onClient fun c => { c with
    readBuf := c.readBuf.writeAt 1 (writeLenToBuffer (remLen % 2 ^ 32)) }

/-- The world after the body read. -/
def World.bodyRead (w : World) (env : Env) (remLen : Nat) : World :=
  ((w.lengthStored remLen).tick.push (.netRead .body w.client.clientState (bodyOffset remLen) remLen
    (env.read w.time).rc (min (env.read w.time).readLen remLen)
    ((env.read w.time).bytes.take remLen))).onClient
      fun c => { c with
        readBuf := c.readBuf.writeAt (bodyOffset remLen) ((env.read w.time).bytes.take remLen) }

/-- The world after a packet is complete. -/
def World.packetComplete (w : World) (remLen : Nat) : World :=
  w.push (.packetRead (w.client.readBuf.slice 0 (bodyOffset remLen + remLen)))

section Rules

variable {env : Env} {fuel n remLen : Nat} {packetType : UInt8} {w : World}
  {Q : IoTError × UInt8 → World → Prop} {H : World → Prop}

/-- The rule of `read_packet`: nothing to read, a length field that fails or never ends,
or the second half. -/
theorem readPacket_rule
    (hnothing : (env.read w.time).rc = .networkSslNothingToRead →
      Q (.mqttNothingToRead, packetType) (w.headerRead env))
    (hfails : (env.read w.time).rc ≠ .networkSslNothingToRead → ∀ n rc,
      env.LengthFails (w.time + 1) n rc →
        Q (rc, packetType) ((w.headerRead env).lengthRead env (n + 1)))
    (hcontinues : (env.read w.time).rc ≠ .networkSslNothingToRead →
      env.LengthContinues (w.time + 1) fuel → H ((w.headerRead env).lengthRead env fuel))
    (hends : (env.read w.time).rc ≠ .networkSslNothingToRead → ∀ n,
      env.LengthEnds (w.time + 1) n →
        (readBody env fuel packetType (env.lengthValue (w.time + 1) (n + 1))).Ends
          ((w.headerRead env).lengthRead env (n + 1)) Q H) :
    (readPacket env fuel packetType : M (IoTError × UInt8)).Ends w Q H := by
  unfold readPacket
  rw [ends_bind, ends_netRead]
  by_cases hrc : (env.read w.time).rc = .networkSslNothingToRead
  · simp only [if_pos hrc]
    exact hnothing hrc
  · simp only [if_neg hrc]
    refine ends_bind.mpr ((decodePacketRemainingLen_ends (w := w.headerRead env)).mono ?_ ?_)
    · rintro ⟨rc, remLen⟩ w₁ ⟨n, rfl, ⟨hfield, heq⟩ | hfail⟩
      · cases heq
        exact hends hrc n hfield
      · dsimp only
        rw [if_pos hfail.2.2]
        exact hfails hrc n rc hfail
    · rintro w₁ ⟨rfl, hmore⟩
      exact hcontinues hrc hmore

/-- With the length field known, `read_packet` is its second half. -/
theorem ends_readPacket_of_ends (hrc : (env.read w.time).rc ≠ .networkSslNothingToRead)
    (hends : env.LengthEnds (w.time + 1) n) (hfuel : n < fuel) :
    (readPacket env fuel packetType : M (IoTError × UInt8)).Ends w Q H ↔
      (readBody env fuel packetType (env.lengthValue (w.time + 1) (n + 1))).Ends
        ((w.headerRead env).lengthRead env (n + 1)) Q H := by
  have hrun := decodePacketRemainingLen_run (w := w.headerRead env) hends hfuel
  unfold readPacket
  rw [ends_bind, ends_netRead]
  simp only [if_neg hrc]
  exact ends_bind.trans (ends_of_run_eq hrun)

/-- A body that fits is read in one piece. -/
theorem ends_readBody_of_fits (hfits : remLen < w.client.readBufSize) :
    (readBody env fuel packetType remLen).Ends w Q H ↔
      if remLen > 0 then
        if (env.read w.time).rc ≠ .success ∨ min (env.read w.time).readLen remLen ≠ remLen then
          Q (.failure, packetType) (w.bodyRead env remLen)
        else Q (.success, headerType ((w.bodyRead env remLen).client.readBuf 0))
          ((w.bodyRead env remLen).packetComplete remLen)
      else Q (.success, headerType ((w.lengthStored remLen).client.readBuf 0))
        ((w.lengthStored remLen).packetComplete remLen) := by
  have hlong : ¬ remLen ≥ w.client.readBufSize := Nat.not_le.mpr hfits
  unfold readBody
  simp only [ends_bind, ends_getClient, if_neg hlong, ends_modifyClient]
  split
  · simp only [ends_bind, ends_netRead, ends_ite, ends_pure, ends_emit, ends_getClient]
    exact Iff.rfl
  · simp only [ends_bind, ends_emit, ends_getClient, ends_pure]
    exact Iff.rfl

end Rules

/-! ## Inside the buffer -/

/-- A read into the read buffer ends within its first `size` bytes. -/
def Event.readInside (size : Nat) : Event → Bool
  | .netRead _ _ offset len _ _ _ => decide (offset + len ≤ size)
  | _ => true

/-- Between `w` and `w'`, every read asked for bytes of the first `size` only, and nothing
behind them was written. -/
structure Inside (size : Nat) (w w' : World) : Prop where
  /-- The reads. -/
  reads : ∃ new, w'.log = new ++ w.log ∧ ∀ e ∈ new, e.readInside size = true
  /-- The bytes behind the buffer. -/
  memory : ∀ i, size ≤ i → w'.client.readBuf i = w.client.readBuf i

/-- The world with `readBuf` as the read buffer's contents. -/
def World.holding (w : World) (readBuf : Memory) : World :=
  w.onClient fun c => { c with readBuf := readBuf }

/-- Whatever the read buffer holds, a call of `read_packet` stays inside it. -/
def StaysInside (env : Env) (w : World) (packetType : UInt8) : Prop :=
  ∀ fuel readBuf, Inside w.client.readBufSize (w.holding readBuf)
    ((readPacket env fuel packetType : M (IoTError × UInt8)).run (w.holding readBuf)).state

/-- The packet whose header is read by question `t` fits: if its remaining length is below
the size of the buffer, so is the end of its body. -/
def Env.PacketFits (env : Env) (t size : Nat) : Prop :=
  (env.read t).rc ≠ .networkSslNothingToRead → ∀ n, env.LengthEnds (t + 1) n →
    env.lengthValue (t + 1) (n + 1) < size →
      bodyOffset (env.lengthValue (t + 1) (n + 1)) + env.lengthValue (t + 1) (n + 1) ≤ size

section Bounds

variable {env : Env} {fuel n size remLen : Nat} {packetType : UInt8} {w w₁ w' : World}

theorem Inside.refl (size : Nat) (w : World) : Inside size w w :=
  ⟨⟨[], rfl, by simp⟩, fun _ _ => rfl⟩

theorem Inside.trans (h : Inside size w w₁) (h' : Inside size w₁ w') : Inside size w w' := by
  obtain ⟨⟨new, hnew, hreads⟩, hmemory⟩ := h
  obtain ⟨⟨more, hmore, hreads'⟩, hmemory'⟩ := h'
  refine ⟨⟨more ++ new, by rw [hmore, hnew, List.append_assoc], fun e he => ?_⟩, fun i hi => ?_⟩
  · rcases List.mem_append.mp he with hmem | hmem
    · exact hreads' e hmem
    · exact hreads e hmem
  · rw [hmemory' i hi, hmemory i hi]

theorem Inside.push (h : Inside size w w') {e : Event} (he : e.readInside size = true) :
    Inside size w (w'.push e) := by
  refine h.trans ⟨⟨[e], rfl, ?_⟩, fun _ _ => rfl⟩
  intro e' hmem
  rw [List.mem_singleton.mp hmem]
  exact he

theorem Inside.tick (h : Inside size w w') : Inside size w w'.tick :=
  h.trans ⟨⟨[], rfl, by simp⟩, fun _ _ => rfl⟩

/-- Bytes stored inside the buffer. -/
theorem Inside.write (h : Inside size w w') {offset : Nat} {bytes : List UInt8}
    (hfits : offset + bytes.length ≤ size) :
    Inside size w (w'.onClient fun c => { c with readBuf := c.readBuf.writeAt offset bytes }) := by
  refine h.trans ⟨⟨[], rfl, by simp⟩, fun i hi => ?_⟩
  exact Memory.writeAt_of_ge (Nat.le_trans hfits hi)

/-- A read into the buffer. -/
theorem Inside.read (h : Inside size w w') {offset len : Nat} (hfits : offset + len ≤ size)
    {site : ReadSite} {state : ClientState} {rc : IoTError} {readLen : Nat} {bytes : List UInt8} :
    Inside size w
      ((w'.tick.push (.netRead site state offset len rc readLen (bytes.take len))).onClient
        fun c => { c with readBuf := c.readBuf.writeAt offset (bytes.take len) }) := by
  refine (h.tick.push (e := .netRead site state offset len rc readLen (bytes.take len))
    (decide_eq_true hfits)).write ?_
  exact Nat.le_trans (Nat.add_le_add_left (List.length_take_le _ _) _) hfits

theorem inside_headerRead (hsize : 1 ≤ size) : Inside size w (w.headerRead env) :=
  (Inside.refl size w).read (by omega)

theorem Inside.lengthRead (h : Inside size w w') (hsize : 1 ≤ size) :
    ∀ n, Inside size w (w'.lengthRead env n) := by
  intro n
  induction n with
  | zero => exact h.tick
  | succ n ih =>
    refine ih.tick.push (decide_eq_true ?_)
    rwa [Nat.zero_add]

/-- The re-encoded length always has room. -/
theorem bodyOffset_le (hsize : 5 ≤ size) (hfits : remLen < size) : bodyOffset remLen ≤ size := by
  have hlen := length_writeLenDigits_le 5 (remLen % 2 ^ 32)
  unfold bodyOffset writeLenToBuffer
  by_cases hsmall : remLen % 2 ^ 32 < 128
  · have hdiv : ¬ remLen % 2 ^ 32 / 128 > 0 := by omega
    rw [writeLenDigits, if_neg hdiv, List.length_singleton]
    omega
  · have hle : remLen % 2 ^ 32 ≤ remLen := Nat.mod_le _ _
    omega

/-- Dropping a packet reads pieces of at most the buffer's size. -/
theorem Inside.drop (h : Inside size w w') :
    (loop (dropPass env size remLen) fuel (0, size) : M Unit).Ends w' (fun _ => Inside size w)
      (Inside size w) := by
  refine ends_loop (I := fun v w₁ => v.2 ≤ size ∧ Inside size w w₁) ?_ (fun _ _ h => h.2) fuel _ _
    ⟨Nat.le_refl size, h⟩
  rintro ⟨total, chunk⟩ w₁ ⟨hchunk, hinside⟩
  have hread : 0 + chunk ≤ size := by rwa [Nat.zero_add]
  unfold dropPass
  simp only [ends_bind, ends_netRead, ends_ite, ends_pure]
  split
  · exact hinside.read hread
  · split
    · refine ⟨?_, hinside.read hread⟩
      show (if _ ≥ size then size else _) ≤ size
      split
      · exact Nat.le_refl size
      · omega
    · exact hinside.read hread

/-- The second half of the reader stays inside the buffer, for a packet that fits. -/
theorem Inside.body (h : Inside w'.client.readBufSize w w') (hsize : 5 ≤ w'.client.readBufSize)
    (hfits : remLen < w'.client.readBufSize → bodyOffset remLen + remLen ≤ w'.client.readBufSize) :
    (readBody env fuel packetType remLen).Ends w' (fun _ => Inside w'.client.readBufSize w)
      (Inside w'.client.readBufSize w) := by
  by_cases hlong : remLen ≥ w'.client.readBufSize
  · unfold readBody
    simp only [ends_bind, ends_getClient, if_pos hlong, ends_pure]
    exact h.drop
  · have hshort : remLen < w'.client.readBufSize := Nat.lt_of_not_le hlong
    have hstored : Inside w'.client.readBufSize w (w'.lengthStored remLen) :=
      h.write (bodyOffset_le hsize hshort)
    have hread : Inside w'.client.readBufSize w (w'.bodyRead env remLen) :=
      hstored.read (hfits hshort)
    rw [ends_readBody_of_fits hshort]
    split
    · split
      · exact hread
      · exact hread.push rfl
    · exact hstored.push rfl

/-- What was logged behind `w` is new. -/
theorem Inside.mem (h : Inside size w w') {e : Event} (pre : List Event) {mid : List Event}
    (hlog : w'.log = pre ++ e :: mid) (hmid : w.log <:+ mid) : e.readInside size = true := by
  obtain ⟨new, hnew, hreads⟩ := h.reads
  obtain ⟨m, rfl⟩ := hmid
  apply hreads e
  have heq : new = pre ++ e :: m := by
    have hsum : new ++ w.log = (pre ++ e :: m) ++ w.log := by
      rw [← hnew, hlog, List.append_assoc]
      rfl
    exact List.append_cancel_right hsum
  rw [heq]
  exact List.mem_append_right pre List.mem_cons_self

theorem lengthRead_grows (w : World) (env : Env) : ∀ n, LogGrows w (w.lengthRead env n)
  | 0 => List.suffix_refl w.log
  | n + 1 => trans_of LogGrows (lengthRead_grows w env n) (logGrows_push _ _)

/-- A call of `read_packet` stays inside a read buffer of at least five bytes exactly if
the packet that arrives fits. -/
theorem staysInside_iff (env : Env) (w : World) (packetType : UInt8)
    (hsize : 5 ≤ w.client.readBufSize) :
    StaysInside env w packetType ↔ env.PacketFits w.time w.client.readBufSize := by
  constructor
  · intro hinside hrc n hends hshort
    have hcall := hinside (n + 1) w.client.readBuf
    by_cases hempty : env.lengthValue (w.time + 1) (n + 1) > 0
    · -- the body read is in the log
      refine (ends_state_iff (P := fun w' => Inside w.client.readBufSize w w' →
        bodyOffset _ + _ ≤ w.client.readBufSize)).mp ?_ hcall
      rw [show w.holding w.client.readBuf = w from rfl,
        ends_readPacket_of_ends hrc hends (Nat.lt_succ_self n), ends_readBody_of_fits
          (by rw [World.client_lengthRead]; exact hshort), if_pos hempty]
      have hgrows : w.log <:+ ((w.headerRead env).lengthRead env (n + 1)).log :=
        List.IsSuffix.trans (List.suffix_cons _ w.log)
          (lengthRead_grows (w.headerRead env) env (n + 1))
      split
      · exact fun h => of_decide_eq_true (h.mem [] rfl hgrows)
      · exact fun h => of_decide_eq_true (h.mem [_] rfl hgrows)
    · have hzero : env.lengthValue (w.time + 1) (n + 1) = 0 := by omega
      rw [hzero, Nat.add_zero]
      exact bodyOffset_le hsize (by omega)
  · intro hfits fuel readBuf
    apply ends_state_iff.mp
    have hheader : Inside w.client.readBufSize (w.holding readBuf)
        ((w.holding readBuf).headerRead env) :=
      inside_headerRead (by omega)
    have hlength : ∀ n, Inside w.client.readBufSize (w.holding readBuf)
        (((w.holding readBuf).headerRead env).lengthRead env n) := hheader.lengthRead (by omega)
    refine readPacket_rule (fun _ => hheader) (fun _ n _ _ => hlength (n + 1))
      (fun _ _ => hlength fuel) ?_
    intro hrc n hends
    have hbuf : (((w.holding readBuf).headerRead env).lengthRead env (n + 1)).client.readBufSize =
        w.client.readBufSize := by
      rw [World.client_lengthRead]
      rfl
    have hlast := hlength (n + 1)
    rw [← hbuf] at hlast hsize ⊢
    apply hlast.body hsize
    rw [hbuf]
    exact hfits hrc n hends

end Bounds

/-- A client whose read buffer has five bytes. -/
def fiveByteClient : World :=
  ⟨{ zeroedClient with readBufSize := 5 }, 0, [], [], Shadow.zeroedRecords⟩

/-- Surroundings in which a PUBLISH with remaining length `len` arrives; question 1 is not
a read. -/
def arriving (len : UInt8) : Env :=
  quietEnv.delivering 0 (Memory.writeAt (fun _ => 0) 0 [0x30, 0, len])

/-- A body of two bytes stays inside. -/
theorem staysInside_two : StaysInside (arriving 2) fiveByteClient 0 := by
  apply (staysInside_iff (arriving 2) fiveByteClient 0 (by decide)).mpr
  intro _ n hends _
  have hfirst : (arriving 2).LengthEnds 1 0 :=
    ⟨fun i hi => absurd hi (Nat.not_lt_zero i), rfl, by decide⟩
  obtain rfl := hends.unique hfirst
  decide

/-- A body of four bytes is read to the offsets 2 to 5. -/
theorem not_staysInside_four : ¬ StaysInside (arriving 4) fiveByteClient 0 := by
  intro hinside
  obtain ⟨new, hnew, hreads⟩ := (hinside 8 fiveByteClient.client.readBuf).reads
  rw [show fiveByteClient.holding fiveByteClient.client.readBuf = fiveByteClient from rfl,
    show fiveByteClient.log = [] from rfl, List.append_nil] at hnew
  rw [← hnew] at hreads
  revert hreads
  decide +kernel

/-! ## Delivered bytes -/

/-- A read returned SUCCESS with everything it was asked for. -/
def Event.delivered : Event → Bool
  | .netRead _ _ _ len rc readLen _ => decide (rc = .success ∧ readLen = len)
  | _ => true

/-- A call of `read_packet` makes no packet up: it reports one only if every one of its
reads was delivered, and after a header read that did not return SUCCESS it returns,
without SUCCESS and without another read. -/
structure Genuine (env : Env) (w : World) (packetType : UInt8) : Prop where
  /-- What stands behind a packet that is reported. -/
  delivered : ∀ fuel type w',
    (readPacket env fuel packetType : M (IoTError × UInt8)).run w = .done (.success, type) w' →
      ∀ e ∈ w.since w', e.delivered = true
  /-- What becomes of a failed header read. -/
  stopped : (env.read w.time).rc ≠ .success → ∀ fuel, ∃ rc w',
    (readPacket env fuel packetType : M (IoTError × UInt8)).run w = .done (rc, packetType) w' ∧
      (rc = .mqttNothingToRead ∨ rc.isError = true) ∧
      streamPosition w'.log = streamPosition w.log + 1

/-- The packet whose header is read by question `t` is completed: its length field ends
with read `n`, its body fits into a buffer of `size` bytes, and the body read returns
SUCCESS with all of it. -/
def Env.Completes (env : Env) (t size n : Nat) : Prop :=
  env.LengthEnds (t + 1) n ∧ env.lengthValue (t + 1) (n + 1) < size ∧
    (0 < env.lengthValue (t + 1) (n + 1) → (env.read (t + n + 3)).rc = .success ∧
      env.lengthValue (t + 1) (n + 1) ≤ (env.read (t + n + 3)).readLen)

/-- The header read of question `t` finds nothing, or returns SUCCESS; and if the packet is
completed then no read of its header and its length field came back empty. -/
def Env.ReadsHeader (env : Env) (t size : Nat) : Prop :=
  (env.read t).rc = .networkSslNothingToRead ∨
    (env.read t).rc = .success ∧ ∀ n, env.Completes t size n →
      1 ≤ (env.read t).readLen ∧ ∀ i ≤ n, 1 ≤ (env.read (t + 2 + i)).readLen

section Delivered

variable {env : Env} {fuel n remLen : Nat} {packetType : UInt8} {w w' : World}

/-- The count a read reports is cut to what was asked for. -/
theorem delivered_netRead {site : ReadSite} {state : ClientState} {offset len readLen : Nat}
    {rc : IoTError} {bytes : List UInt8} :
    (Event.netRead site state offset len rc (min readLen len) bytes).delivered = true ↔
      rc = .success ∧ len ≤ readLen := by
  rw [Event.delivered, decide_eq_true_iff]
  refine and_congr_right fun _ => ?_
  omega

/-- Every read since `w` was delivered. -/
def DeliveredSince (w w' : World) : Prop := ∀ e ∈ w.since w', e.delivered = true

theorem deliveredSince_refl (w : World) : DeliveredSince w w := by
  intro e he
  rw [World.since_of_append (l := []) rfl] at he
  cases he

theorem deliveredSince_push (w' : World) (h : LogGrows w w') (e : Event) :
    DeliveredSince w (w'.push e) ↔ e.delivered = true ∧ DeliveredSince w w' := by
  obtain ⟨new, hnew⟩ := h
  have hpush : w.since (w'.push e) = e :: new :=
    World.since_of_append (by rw [World.log_push, ← hnew]; rfl)
  unfold DeliveredSince
  rw [hpush, World.since_of_append hnew.symm, List.forall_mem_cons]

theorem headerRead_grows (w : World) (env : Env) : LogGrows w (w.headerRead env) :=
  List.suffix_cons _ w.log

theorem deliveredSince_headerRead : DeliveredSince w (w.headerRead env) ↔
    (env.read w.time).rc = .success ∧ 1 ≤ (env.read w.time).readLen := by
  have hpush := deliveredSince_push w.tick (List.suffix_refl w.log)
    (.netRead .header w.client.clientState 0 1 (env.read w.time).rc
      (min (env.read w.time).readLen 1) ((env.read w.time).bytes.take 1))
  apply hpush.trans
  rw [and_iff_left (show DeliveredSince w w.tick from deliveredSince_refl w), delivered_netRead]

theorem deliveredSince_lengthRead (h : LogGrows w w') : ∀ n,
    DeliveredSince w (w'.lengthRead env n) ↔ (∀ i < n, (env.read (w'.time + 1 + i)).rc = .success ∧
      1 ≤ (env.read (w'.time + 1 + i)).readLen) ∧ DeliveredSince w w' := by
  intro n
  induction n with
  | zero => exact (and_iff_right fun i hi => absurd hi (Nat.not_lt_zero i)).symm
  | succ n ih =>
    refine (deliveredSince_push (w'.lengthRead env n).tick
      (trans_of LogGrows h (lengthRead_grows w' env n)) _).trans ?_
    have hrest : DeliveredSince w (w'.lengthRead env n).tick ↔ _ := ih
    rw [hrest, delivered_netRead, Nat.forall_lt_succ_right]
    exact ⟨fun h => ⟨⟨h.2.1, h.1⟩, h.2.2⟩, fun h => ⟨h.1.2, h.1.1, h.2⟩⟩

/-- The reads in front of the body. -/
theorem deliveredSince_header (hends : env.LengthEnds (w.time + 1) n) :
    DeliveredSince w ((w.headerRead env).lengthRead env (n + 1)) ↔
      (env.read w.time).rc = .success ∧ 1 ≤ (env.read w.time).readLen ∧
        ∀ i ≤ n, 1 ≤ (env.read (w.time + 2 + i)).readLen := by
  have hcodes : ∀ i ≤ n, (env.read (w.time + 2 + i)).rc = .success := by
    intro i hi
    rcases Nat.lt_or_eq_of_le hi with hlt | rfl
    · exact (hends.1 i hlt).1
    · exact hends.2.1
  rw [deliveredSince_lengthRead (headerRead_grows w env), deliveredSince_headerRead]
  constructor
  · rintro ⟨hfield, hrc, hlen⟩
    exact ⟨hrc, hlen, fun i hi => (hfield i (Nat.lt_succ_of_le hi)).2⟩
  · rintro ⟨hrc, hlen, hfield⟩
    refine ⟨fun i hi => ?_, hrc, hlen⟩
    have hle : i ≤ n := Nat.le_of_lt_succ hi
    exact ⟨hcodes i hle, hfield i hle⟩

theorem length_grows (w : World) (env : Env) (n : Nat) :
    LogGrows w ((w.headerRead env).lengthRead env n) :=
  trans_of LogGrows (headerRead_grows w env) (lengthRead_grows _ env n)

theorem bodyRead_grows (w : World) (env : Env) (remLen : Nat) :
    LogGrows w (w.bodyRead env remLen) :=
  List.suffix_cons _ w.log

/-- Behind a length field that fits, a packet is reported exactly if its body is read
whole, and then with no further read that was not delivered. -/
theorem readBody_reads (hgrows : LogGrows w w') (hfits : remLen < w'.client.readBufSize) :
    (readBody env fuel packetType remLen).Ends w'
      (fun r w'' => (r.1 = .success ↔ (0 < remLen → (env.read w'.time).rc = .success ∧
          remLen ≤ (env.read w'.time).readLen)) ∧
        (r.1 = .success → (DeliveredSince w w'' ↔ DeliveredSince w w'))) (fun _ => False) := by
  rw [ends_readBody_of_fits hfits]
  split
  case isTrue hpos =>
    split
    case isTrue hfailed =>
      refine ⟨iff_of_false (by simp) fun hread => ?_, fun h => absurd h (by simp)⟩
      obtain ⟨hok, hlen⟩ := hread hpos
      rcases hfailed with hrc | hshort
      · exact hrc hok
      · omega
    case isFalse hread =>
      obtain ⟨hrc, hwhole⟩ := not_or.mp hread
      have hok : (env.read w'.time).rc = .success := not_not.mp hrc
      have hlen : remLen ≤ (env.read w'.time).readLen := by omega
      refine ⟨iff_of_true rfl fun _ => ⟨hok, hlen⟩, fun _ => ?_⟩
      have hbody : (Event.netRead .body w'.client.clientState (bodyOffset remLen) remLen
          (env.read w'.time).rc (min (env.read w'.time).readLen remLen)
          ((env.read w'.time).bytes.take remLen)).delivered = true :=
        delivered_netRead.mpr ⟨hok, hlen⟩
      refine (deliveredSince_push _
        (trans_of LogGrows hgrows (bodyRead_grows w' env remLen)) _).trans ?_
      rw [and_iff_right (show Event.delivered (.packetRead _) = true from rfl)]
      apply (deliveredSince_push (w'.lengthStored remLen).tick hgrows _).trans
      rw [and_iff_right hbody]
      exact Iff.rfl
  case isFalse hempty =>
    refine ⟨iff_of_true rfl fun hpos => absurd hpos hempty, fun _ => ?_⟩
    apply (deliveredSince_push (w'.lengthStored remLen) hgrows _).trans
    rw [and_iff_right (show Event.delivered (.packetRead _) = true from rfl)]
    exact Iff.rfl

theorem time_length (w : World) (env : Env) (n : Nat) :
    ((w.headerRead env).lengthRead env (n + 1)).time = w.time + n + 3 := by
  rw [World.time_lengthRead]
  show w.time + 1 + 1 + (n + 1) = w.time + n + 3
  omega

theorem readBufSize_length (w : World) (env : Env) (n : Nat) :
    ((w.headerRead env).lengthRead env n).client.readBufSize = w.client.readBufSize := by
  rw [World.client_lengthRead]
  rfl

/-- A packet that is completed is reported. -/
theorem readPacket_of_completes (hrc : (env.read w.time).rc ≠ .networkSslNothingToRead)
    (hcompletes : env.Completes w.time w.client.readBufSize n) (hfuel : n < fuel) :
    (readPacket env fuel packetType : M (IoTError × UInt8)).Ends w
      (fun r w' => r.1 = .success ∧ (DeliveredSince w w' ↔
        DeliveredSince w ((w.headerRead env).lengthRead env (n + 1)))) (fun _ => False) := by
  obtain ⟨hends, hfits, hbody⟩ := hcompletes
  rw [← readBufSize_length w env (n + 1)] at hfits
  rw [← time_length w env n] at hbody
  rw [ends_readPacket_of_ends hrc hends hfuel]
  refine (readBody_reads (length_grows w env (n + 1)) hfits).mono ?_ (fun _ h => h)
  rintro r w' ⟨hreported, hreads⟩
  have hok := hreported.mpr hbody
  exact ⟨hok, hreads hok⟩

/-- A packet that is reported was completed. -/
theorem completes_of_readPacket :
    (readPacket env fuel packetType : M (IoTError × UInt8)).Ends w
      (fun r w' => r.1 = .success → ∃ n, env.Completes w.time w.client.readBufSize n ∧
        (DeliveredSince w w' ↔
          DeliveredSince w ((w.headerRead env).lengthRead env (n + 1)))) (fun _ => True) := by
  refine readPacket_rule (fun _ h => absurd h (by simp))
    (fun _ n rc hfails h => absurd h hfails.2.2)
    (fun _ _ => trivial) ?_
  intro _ n hends
  have hgrows := length_grows w env (n + 1)
  have hsize := readBufSize_length w env (n + 1)
  by_cases hfits : env.lengthValue (w.time + 1) (n + 1) <
      ((w.headerRead env).lengthRead env (n + 1)).client.readBufSize
  · refine (readBody_reads hgrows hfits).mono ?_ (fun _ h => h.elim)
    rintro r w' ⟨hreported, hreads⟩ hok
    have hbody := hreported.mp hok
    rw [time_length] at hbody
    rw [hsize] at hfits
    exact ⟨n, ⟨hends, hfits, hbody⟩, hreads hok⟩
  · unfold readBody
    simp only [ends_bind, ends_getClient, if_pos (Nat.le_of_not_lt hfits), ends_pure]
    exact ends_true.mono (fun _ _ _ h => absurd h (by simp)) (fun _ _ => trivial)

theorem readBody_grows (env : Env) (fuel : Nat) (packetType : UInt8) (remLen : Nat) :
    Keeps LogGrows (readBody env fuel packetType remLen) := by
  have hall := (logGrows_steps env).packets
  have htail : ∀ len, Keeps LogGrows (do
      emit fun c => .packetRead (c.readBuf.slice 0 len)
      let c ← getClient
      pure (IoTError.success, headerType (c.readBuf 0)) : M (IoTError × UInt8)) := fun _ =>
    hall.bind (hall.emitPacket fun _ => rfl) fun _ =>
      hall.bind hall.getClient fun _ => hall.pure _
  unfold readBody
  refine hall.bind hall.getClient fun c => hall.ite (fun _ => ?_) fun _ => ?_
  · exact hall.bind (hall.loop (hall.dropPass env _ _) fuel _) fun _ => hall.pure _
  · refine hall.bind (hall.modifyClient fun _ => rfl) fun _ => ?_
    refine hall.ite (fun _ => ?_) fun _ => htail _
    exact hall.bind (hall.netRead env _ _ _) fun _ =>
      hall.ite (fun _ => hall.pure _) fun _ => htail _

theorem streamPosition_le (h : LogGrows w w') : streamPosition w.log ≤ streamPosition w'.log := by
  obtain ⟨new, hnew⟩ := h
  rw [← hnew]
  clear hnew
  induction new with
  | nil => exact Nat.le_refl _
  | cons e new ih =>
    cases e with
    | netRead site state offset len rc readLen bytes => exact Nat.le_add_right_of_le ih
    | _ => exact ih

/-- After a header read, whatever it returned, at least one more byte is asked for, unless
there was nothing to read. -/
theorem readPacket_reads_on (hrc : (env.read w.time).rc ≠ .networkSslNothingToRead) :
    (readPacket env fuel packetType : M (IoTError × UInt8)).Ends w
      (fun _ w' => streamPosition w.log + 2 ≤ streamPosition w'.log) (fun _ => True) := by
  have hfield : ∀ n, streamPosition ((w.headerRead env).lengthRead env (n + 1)).log =
      streamPosition w.log + 1 + (n + 1) := fun n => World.streamPosition_lengthRead (n + 1)
  refine readPacket_rule (fun h => absurd h hrc) (fun _ n _ _ => by rw [hfield]; omega)
    (fun _ _ => trivial) ?_
  intro _ n _
  refine (readBody_grows env fuel packetType _ _).mono ?_ (fun _ _ => trivial)
  intro _ w' h
  have hle := streamPosition_le h
  rw [hfield] at hle
  omega

end Delivered

/-- For every outcome of every read: a call of `read_packet` makes no packet up exactly if
its header read finds nothing or returns SUCCESS, and no read in front of the body of a
packet that is completed returns SUCCESS with nothing. -/
theorem genuine_iff (env : Env) (w : World) (packetType : UInt8) :
    Genuine env w packetType ↔ env.ReadsHeader w.time w.client.readBufSize := by
  by_cases hnothing : (env.read w.time).rc = .networkSslNothingToRead
  · -- the call returns right away
    have hreturns : ∀ fuel, (readPacket env fuel packetType : M (IoTError × UInt8)).run w =
        .done (.mqttNothingToRead, packetType) (w.headerRead env) := fun fuel =>
      run_eq_done_iff.mpr (readPacket_rule (fun _ => ⟨rfl, rfl⟩) (fun h => absurd hnothing h)
        (fun h => absurd hnothing h) (fun h => absurd hnothing h))
    refine iff_of_true ⟨fun fuel type w' hrun => ?_, fun _ fuel => ?_⟩ (.inl hnothing)
    · rw [hreturns] at hrun
      cases hrun
    · exact ⟨_, _, hreturns fuel, .inl rfl, rfl⟩
  by_cases hrc : (env.read w.time).rc = .success
  · constructor
    · intro hgenuine
      refine .inr ⟨hrc, fun n hcompletes => ?_⟩
      have hfuel : n < n + 1 := Nat.lt_succ_self n
      cases hrun : (readPacket env (n + 1) packetType : M (IoTError × UInt8)).run w with
      | done r w' =>
        obtain ⟨hok, hreads⟩ := (readPacket_of_completes hnothing hcompletes hfuel).of_run hrun
        have hdone : r = (.success, r.2) := Prod.ext hok rfl
        rw [hdone] at hrun
        have hall := hreads.mp (hgenuine.delivered (n + 1) r.2 w' hrun)
        exact ((deliveredSince_header hcompletes.1).mp hall).2
      | halted w' => exact ((readPacket_of_completes hnothing hcompletes hfuel).of_halt hrun).elim
    · rintro (h | ⟨-, hall⟩)
      · exact absurd h hnothing
      · refine ⟨fun fuel type w' hrun => ?_, fun h => absurd hrc h⟩
        obtain ⟨n, hcompletes, hreads⟩ := completes_of_readPacket.of_run hrun rfl
        exact hreads.mpr ((deliveredSince_header hcompletes.1).mpr ⟨hrc, hall n hcompletes⟩)
  · refine iff_of_false (fun hgenuine => ?_) (fun h => h.elim hnothing fun h => hrc h.1)
    obtain ⟨rc, w', hrun, -, hposition⟩ := hgenuine.stopped hrc 1
    have hmore := (readPacket_reads_on hnothing).of_run hrun
    omega


/-- Surroundings in which the header read times out, and the reads behind it deliver
zeros. -/
def headerFails : Env :=
  { quietEnv with
    read := fun n => if n = 0 then ⟨.networkSslReadTimeoutError, [], 0⟩ else ⟨.success, [0], 1⟩ }

/-- A client whose read buffer still holds the header byte of an earlier PUBLISH. -/
def staleClient : World :=
  ⟨{ zeroedClient with readBufSize := 5, readBuf := fun _ => 0x30 }, 0, [], [],
    Shadow.zeroedRecords⟩

/-- The stale header byte is reported as a new PUBLISH. -/
theorem not_genuine_headerFails : ¬ Genuine headerFails staleClient 0 := by
  intro hgenuine
  obtain ⟨rc, w', hrun, -, -⟩ := hgenuine.stopped (by decide) 8
  have hvalue : ((readPacket headerFails 8 0 : M (IoTError × UInt8)).run staleClient).value? =
      some (.success, 3) := by decide +kernel
  rw [hrun] at hvalue
  exact absurd (Option.some.inj hvalue) (by simp)

end AwsIot.Mqtt
