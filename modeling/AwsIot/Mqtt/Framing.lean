/-
  Mqtt/Framing.lean --- the reader and the packet boundaries.

  The incoming bytes are a stream of frames: a header byte, a remaining-length
  field of one to four bytes, and as many body bytes.  A network that serves a run
  from a stream is a `Feed`; the header byte of a frame may be late.  A call of
  `read_packet` that finds one takes exactly one frame from the stream, also when
  the frame is too long for the read buffer and is dropped piece by piece
  (`readPacket_served`, `readPackets_frames`).
-/
import AwsIot.Mqtt.Relations
import AwsIot.Mqtt.Wire

set_option autoImplicit false

namespace AwsIot.Mqtt

open AwsIot.Foundation Program

/-! ## Frames of the stream -/

/-- A frame as the peer sends it.  Its remaining-length field is any encoding of one to
four bytes, not only the shortest. -/
structure WireFrame where
  /-- The header byte. -/
  header : UInt8
  /-- The remaining-length field. -/
  lengthField : List UInt8
  /-- The body. -/
  body : List UInt8
  /-- The field says how long the body is. -/
  valid : (Reader.base128 4).run lengthField = some (body.length, [])

/-- The bytes of a frame. -/
def WireFrame.bytes (f : WireFrame) : List UInt8 := f.header :: (f.lengthField ++ f.body)

/-- The parts of a frame are shorter than the frame. -/
theorem WireFrame.parts_lt (f : WireFrame) {n : Nat} (h : f.bytes.length ≤ n) :
    f.lengthField.length < n ∧ f.body.length < n := by
  have hfield : f.lengthField ≠ [] := by
    intro hnil
    have hvalid := f.valid
    rw [hnil] at hvalid
    cases hvalid
  have hpos := List.length_pos_iff.mpr hfield
  rw [WireFrame.bytes, List.length_cons, List.length_append] at h
  omega

/-- How much of the stream the reads of a log have taken: each takes what it asks for. -/
def streamPosition : List Event → Nat
  | [] => 0
  | .netRead _ _ _ len _ _ _ :: log => streamPosition log + len
  | _ :: log => streamPosition log

/-- A read was served with exactly the bytes it asked for, from `position` on. -/
def Event.servedFrom (stream : Memory) (position : Nat) : Event → Bool
  | .netRead _ _ _ len rc readLen bytes =>
      rc = .success && readLen = len && bytes = stream.slice position len
  | _ => true

/-- Every read was served from the stream. -/
def Served (stream : Memory) : List Event → Prop
  | [] => True
  | e :: log => Served stream log ∧ e.servedFrom stream (streamPosition log) = true

instance decidableServed (stream : Memory) : ∀ log, Decidable (Served stream log)
  | [] => .isTrue trivial
  | e :: log =>
      have := decidableServed stream log
      inferInstanceAs
        (Decidable (Served stream log ∧ e.servedFrom stream (streamPosition log) = true))

/-- `n` calls of `read_packet`, one after the other, with what each returns. -/
def readPackets (env : Env) (fuel : Nat) (packetType : UInt8) : Nat → M (List (IoTError × UInt8))
  | 0 => return []
  | n + 1 => do
      let r ← readPacket env fuel packetType
      let rs ← readPackets env fuel packetType n
      return r :: rs

/-- What `read_packet` is to report for a frame: that it was dropped, or its type. -/
def WireFrame.report (f : WireFrame) (readBufSize : Nat) (packetType : UInt8) :
    IoTError × UInt8 :=
  if readBufSize ≤ f.body.length then (.mqttRxBufferTooShortError, packetType)
  else (.success, headerType f.header)

variable {env : Env} {fuel : Nat} {w w' : World}

/-! ## Networks that serve a stream -/

/-- The only thing that happened since `w` is that the network had no header byte. -/
def NothingRead (w w' : World) : Prop := ∃ state offset len readLen bytes,
  w'.log = .netRead .header state offset len .networkSslNothingToRead readLen bytes :: w.log ∧
  w'.history = ⟨.netRead .header state offset len .networkSslNothingToRead readLen bytes, w'.time,
    w.client⟩ :: w.history

/-- The last thing that happened is a read that succeeded, just now. -/
def JustServed (w : World) : Prop := ∃ site state offset len readLen bytes client older,
  w.history = ⟨.netRead site state offset len .success readLen bytes, w.time, client⟩ :: older

/-- A network that serves a run from a stream.  In a run that it served fairly so far, every
read took the next bytes of the stream, or looked for a header byte and found none. -/
structure Feed where
  /-- The bytes of the stream. -/
  stream : Memory
  /-- How many of them the reads of a run have taken. -/
  position : World → Nat
  /-- The network has begun to serve. -/
  since : World → Prop
  /-- It served the run so far. -/
  fair : World → Prop
  /-- Where a run that it served may halt. -/
  mayHalt : World → Prop
  /-- How a program that returns moves along the run. -/
  along : World → World → Prop
  /-- How a program that halts does. -/
  alongHalted : World → World → Prop
  since_along : ∀ {w w'}, since w → along w w' → since w'
  fair_along : ∀ {w w'}, along w w' → fair w' → fair w
  fair_alongHalted : ∀ {w w'}, alongHalted w w' → fair w' → fair w
  position_eq : ∀ {w w'}, w'.log = w.log → w'.history = w.history → position w' = position w
  position_packet : ∀ w packet, position (w.push (.packetRead packet)) = position w
  /-- What a read does. -/
  read : ∀ {w site state offset len rc readLen bytes}, since w →
    fair (w.push (.netRead site state offset len rc readLen bytes)) →
    rc = .success ∧ readLen = len ∧ bytes = stream.slice (position w) len ∧
        position (w.push (.netRead site state offset len rc readLen bytes)) = position w + len ∨
      site = .header ∧ rc = .networkSslNothingToRead ∧
        position (w.push (.netRead site state offset len rc readLen bytes)) = position w

namespace Feed

/-- A run that the network served ends in `Q`; no other end is looked at. -/
def Ends (F : Feed) {α : Type} (m : M α) (w : World) (Q : α → World → Prop) : Prop :=
  m.Ends w (fun a w' => F.since w' ∧ (F.fair w' → Q a w')) (fun w' => F.fair w' → F.mayHalt w')

/-- What moves along the run. -/
abbrev Moves (F : Feed) {α : Type} (m : M α) : Prop := Tracks F.along F.alongHalted m

variable {F : Feed}

theorem Ends.pure {α : Type} {a : α} {Q : α → World → Prop} (hw : F.since w)
    (h : F.fair w → Q a w) : F.Ends (pure a) w Q := ⟨hw, h⟩

/-- Only where the run was served so far is anything to be shown. -/
theorem Ends.of_fair {α : Type} {m : M α} {Q : α → World → Prop} (hm : F.Moves m) (hw : F.since w)
    (h : F.fair w → F.Ends m w Q) : F.Ends m w Q := by
  by_cases hfair : F.fair w
  · exact h hfair
  · refine (hm w).mono ?_ ?_
    · exact fun _ w' halong => ⟨F.since_along hw halong, fun hfair' =>
        absurd (F.fair_along halong hfair') hfair⟩
    · exact fun w' halong hfair' => absurd (F.fair_alongHalted halong hfair') hfair

theorem Ends.bind {α β : Type} {m : M α} {f : α → M β} {P : α → World → Prop}
    {Q : β → World → Prop} (hf : ∀ a, F.Moves (f a)) (h : F.Ends m w P)
    (hk : ∀ a w₁, F.since w₁ → F.fair w₁ → P a w₁ → F.Ends (f a) w₁ Q) :
    F.Ends (m >>= f) w Q := by
  refine ends_bind.mpr (Program.Ends.mono h ?_ (fun _ h => h))
  exact fun a w₁ h₁ => Ends.of_fair (hf a) h₁.1 fun hfair => hk a w₁ h₁.1 hfair (h₁.2 hfair)

theorem Ends.mono {α : Type} {m : M α} {Q Q' : α → World → Prop} (h : F.Ends m w Q)
    (hQ : ∀ a w', F.fair w' → Q a w' → Q' a w') : F.Ends m w Q' :=
  Program.Ends.mono h (fun a w' h => ⟨h.1, fun hfair => hQ a w' hfair (h.2 hfair)⟩)
    (fun _ h => h)

/-- The loop rule for runs that are served: a pass that asks for another one makes `v`
smaller. -/
theorem Ends.loop {β γ : Type} {body : β → M (Step β γ)} {v : World → Nat}
    {I : β → World → Prop} {Q : γ → World → Prop}
    (hcomp : Compositional (m := M) F.Moves) (hbody : ∀ b, F.Moves (body b))
    (hpass : ∀ b w, F.since w → I b w → F.Ends (body b) w fun r w' => match r with
      | .again b' => I b' w' ∧ v w' < v w
      | .stop c => Q c w') :
    ∀ n b w, v w < n → F.since w → I b w → F.Ends (loop body n b) w Q := by
  intro n
  induction n with
  | zero => intro b w hv; exact absurd hv (Nat.not_lt_zero _)
  | succ n ih =>
    intro b w hv hw hI
    refine Ends.bind ?_ (hpass b w hw hI) ?_
    · intro r
      cases r with
      | again b' => exact hcomp.loop hbody n b'
      | stop c => exact hcomp.pure c
    · intro r w' hsince _ hr
      cases r with
      | again b' => exact ih b' w' (by omega) hsince hr.1
      | stop c => exact .pure hsince fun _ => hr

/-! ## Served reads -/

variable (hmoves : Packets (m := M) F.Moves)
include hmoves

/-- A read stores the next bytes, or looked for a header byte and found none. -/
theorem netRead_fed (site : ReadSite) (offset len : Nat) (hw : F.since w) :
    F.Ends (netRead env site offset len) w fun r w' =>
      w'.client.readBufSize = w.client.readBufSize ∧
      (r = (.success, len) ∧
          w'.client.readBuf =
            w.client.readBuf.writeAt offset (F.stream.slice (F.position w) len) ∧
          F.position w' = F.position w + len ∧ JustServed w' ∨
        site = .header ∧ r.1 = .networkSslNothingToRead ∧ F.position w' = F.position w ∧
          NothingRead w w') := by
  have htick : F.since w.tick := F.since_along hw (hmoves.ask env.read w)
  have halong := ends_netRead.mp (hmoves.netRead env site offset len w)
  refine ends_netRead.mpr ⟨F.since_along hw halong, fun hfair => ⟨rfl, ?_⟩⟩
  have hkept : ∀ (w₁ : World) (f : Client → Client), F.position (w₁.onClient f) = F.position w₁ :=
    fun w₁ f => F.position_eq rfl rfl
  have hstored := hmoves.modifyClient (f := fun c => { c with
    readBuf := c.readBuf.writeAt offset ((env.read w.time).bytes.take len) }) fun _ => rfl
  have hpushed := F.fair_along (hstored _) hfair
  have hposition : F.position w.tick = F.position w := F.position_eq rfl rfl
  rcases F.read htick hpushed with ⟨hrc, hread, hbytes, hmoved⟩ | ⟨hsite, hrc, hstays⟩
  · rw [hposition] at hbytes hmoved
    refine .inl ⟨by rw [hrc, hread], ?_, (hkept _ _).trans hmoved, ?_⟩
    · exact congrArg (w.client.readBuf.writeAt offset) hbytes
    · refine ⟨site, w.client.clientState, offset, len, min (env.read w.time).readLen len,
        (env.read w.time).bytes.take len, w.client, w.history, ?_⟩
      rw [World.history_onClient, World.history_push, hrc]
      rfl
  · refine .inr ⟨hsite, hrc, ((hkept _ _).trans hstays).trans hposition, ?_⟩
    refine ⟨w.client.clientState, offset, len, min (env.read w.time).readLen len,
      (env.read w.time).bytes.take len, ?_, ?_⟩
    · rw [World.log_onClient, World.log_push, hsite, hrc]
      rfl
    · rw [World.history_onClient, World.history_push, hsite, hrc]
      rfl

/-- Behind the header byte every read stores the next bytes. -/
theorem netRead_served (site : ReadSite) (hsite : site ≠ .header) (offset len : Nat)
    (hw : F.since w) :
    F.Ends (netRead env site offset len) w fun r w' => r = (.success, len) ∧
      w'.client.readBuf =
        w.client.readBuf.writeAt offset (F.stream.slice (F.position w) len) ∧
      w'.client.readBufSize = w.client.readBufSize ∧
      F.position w' = F.position w + len ∧ JustServed w' :=
  (netRead_fed hmoves site offset len hw).mono fun _ _ _ h => by
    rcases h.2 with ⟨hr, hbuf, hposition, hserved⟩ | ⟨hheader, -⟩
    · exact ⟨hr, hbuf, h.1, hposition, hserved⟩
    · exact absurd hheader hsite

theorem netReadByte_served (site : ReadSite) (hsite : site ≠ .header) (before : UInt8)
    (hw : F.since w) :
    F.Ends (netReadByte env site before) w fun r w' =>
      r = (.success, 1, F.stream (F.position w)) ∧ w'.client = w.client ∧
        F.position w' = F.position w + 1 := by
  have htick : F.since w.tick := F.since_along hw (hmoves.ask env.read w)
  refine ends_netReadByte.mpr ⟨F.since_along hw
    (ends_netReadByte.mp (hmoves.netReadByte env site before w)), fun hfair => ?_⟩
  have hposition : F.position w.tick = F.position w := F.position_eq rfl rfl
  rcases F.read htick hfair with ⟨hrc, hread, hbytes, hmoved⟩ | ⟨hheader, -⟩
  · rw [hposition] at hbytes hmoved
    replace hbytes : (env.read w.time).bytes.take 1 = [F.stream (F.position w)] := hbytes
    refine ⟨?_, rfl, hmoved⟩
    cases hall : (env.read w.time).bytes with
    | nil => rw [hall] at hbytes; cases hbytes
    | cons b rest =>
      rw [hall] at hbytes
      rw [hrc, hread, List.headD_cons, (List.cons.inj hbytes).1]
  · exact absurd hheader hsite

end Feed

/-! ## The remaining length -/

theorem byte_and_127 (b : UInt8) : (b &&& 127).toNat = b.toNat % 128 := by
  rw [UInt8.toNat_and]
  exact Nat.and_two_pow_sub_one_eq_mod b.toNat 7

theorem byte_and_128 (b : UInt8) : b &&& 128 ≠ 0 ↔ 128 ≤ b.toNat := by
  have hall : ∀ n < 256, UInt8.ofNat n &&& 128 ≠ 0 ↔ 128 ≤ n := by decide +kernel
  simpa using hall b.toNat b.toNat_lt

/-- The first byte of a field. -/
theorem base128_run {left n : Nat} {field : List UInt8}
    (h : (Reader.base128 left).run field = some (n, [])) :
    ∃ left' b rest, left = left' + 1 ∧ field = b :: rest ∧
      (b.toNat < 128 ∧ rest = [] ∧ n = b.toNat ∨
        128 ≤ b.toNat ∧ ∃ high, (Reader.base128 left').run rest = some (high, []) ∧
          n = b.toNat - 128 + 128 * high) := by
  cases left with
  | zero => cases h
  | succ left =>
    cases field with
    | nil => cases h
    | cons b rest =>
      refine ⟨left, b, rest, rfl, rfl, ?_⟩
      have hrun : (if b.toNat < 128 then pure b.toNat
          else do
            let high ← Reader.base128 left
            pure (b.toNat - 128 + 128 * high) : Reader Nat).run rest = some (n, []) := h
      split at hrun
      case isTrue hlast =>
        cases hrun
        exact .inl ⟨hlast, rfl, rfl⟩
      case isFalse hmore =>
        rw [StateT.run_bind] at hrun
        cases hhigh : (Reader.base128 left).run rest with
        | none => rw [hhigh] at hrun; cases hrun
        | some r =>
          rw [hhigh] at hrun
          obtain ⟨high, rest'⟩ := r
          cases hrun
          exact .inr ⟨by omega, high, rfl, rfl⟩

theorem base128_lt : ∀ {left n : Nat} {field : List UInt8},
    (Reader.base128 left).run field = some (n, []) → n < 128 ^ left := by
  intro left
  induction left with
  | zero => intro n field h; cases h
  | succ left ih =>
    intro n field h
    obtain ⟨left', b, rest, hleft, -, hdigit⟩ := base128_run h
    obtain rfl := Nat.succ.inj hleft
    have hpos : 0 < 128 ^ left := Nat.pow_pos (by omega)
    rw [Nat.pow_succ]
    rcases hdigit with ⟨hlast, -, rfl⟩ | ⟨-, high, hhigh, rfl⟩
    · omega
    · have hb := b.toNat_lt
      have hlt := ih hhigh
      omega

/-- The loop variables of the decoder in front of the digits `field`, which stand next in
the stream; `n` is the number all digits make, and `stop` is where they end. -/
def DecodesTo (F : Feed) (readBuf : Memory) (readBufSize n stop : Nat) (v : DecodeVars)
    (w : World) : Prop :=
  w.client.readBuf = readBuf ∧ w.client.readBufSize = readBufSize ∧
  ∃ left field m, v.len ≤ 1 ∧ (Reader.base128 left).run field = some (m, []) ∧
    F.stream.slice (F.position w) field.length = field ∧
    F.position w + field.length = stop ∧ v.remLen + m * v.multiplier = n ∧
    v.multiplier * 128 ^ left = 128 ^ 4 ∧ v.remLen < v.multiplier

section Feed

variable {F : Feed} (hmoves : Packets (m := M) F.Moves)
include hmoves

theorem decodeRemainingLenPass_served {readBuf : Memory} {readBufSize n stop : Nat}
    (v : DecodeVars) (w : World) (hw : F.since w)
    (h : DecodesTo F readBuf readBufSize n stop v w) :
    F.Ends (decodeRemainingLenPass env v) w fun r w' => match r with
      | .again v' => DecodesTo F readBuf readBufSize n stop v' w' ∧
          stop - F.position w' < stop - F.position w
      | .stop c => c = (.success, n) ∧ w'.client.readBuf = readBuf ∧
          w'.client.readBufSize = readBufSize ∧ F.position w' = stop := by
  obtain ⟨hbuf, hsize, left, field, m, hlen, hrun, hslice, hstop, hsum, hmult, hlow⟩ := h
  obtain ⟨left, b, rest, rfl, rfl, hdigit⟩ := base128_run hrun
  have hpow : v.multiplier * 128 * 128 ^ left = 128 ^ 4 := by
    rw [← hmult, Nat.pow_succ, Nat.mul_assoc, Nat.mul_comm 128]
  have hbound : v.multiplier * 128 ≤ 128 ^ 4 := by
    rw [← hpow]
    exact Nat.le_mul_of_pos_right _ (Nat.pow_pos (by omega))
  rw [List.length_cons, Memory.slice_succ] at hslice
  obtain ⟨hbyte, hrest⟩ := List.cons.inj hslice
  rw [List.length_cons] at hstop
  unfold decodeRemainingLenPass
  rw [if_neg (show ¬ v.len + 1 > maxNoOfRemainingLengthBytes by
    unfold maxNoOfRemainingLengthBytes; omega)]
  refine Feed.Ends.bind ?_
    (Feed.netReadByte_served hmoves .remainingLength (by decide) v.encodedByte hw) ?_
  · exact fun r => hmoves.ite (fun _ => hmoves.pure _) fun _ =>
      hmoves.ite (fun _ => hmoves.pure _) fun _ => hmoves.pure _
  rintro _ w' hw' - ⟨rfl, hclient, hposition⟩
  dsimp only
  rw [if_neg (by simp), hbyte, byte_and_127]
  have hdigitBound : b.toNat % 128 * v.multiplier ≤ 127 * v.multiplier :=
    Nat.mul_le_mul_right _ (by omega)
  have hsmall : (v.remLen + b.toNat % 128 * v.multiplier) % 2 ^ 64 =
      v.remLen + b.toNat % 128 * v.multiplier := Nat.mod_eq_of_lt (by omega)
  rw [hsmall]
  rcases hdigit with ⟨hlast, rfl, rfl⟩ | ⟨hmore, high, hhigh, rfl⟩
  · rw [if_neg (fun h => absurd ((byte_and_128 b).mp h) (by omega))]
    refine .pure hw' fun _ => ?_
    refine ⟨?_, by rw [hclient, hbuf], by rw [hclient, hsize], by rw [hposition, ← hstop]; rfl⟩
    rw [Nat.mod_eq_of_lt hlast, hsum]
  · rw [if_pos ((byte_and_128 b).mpr hmore)]
    have hlow' : b.toNat % 128 = b.toNat - 128 := by have := b.toNat_lt; omega
    have hmult' : v.multiplier * 128 % 2 ^ 64 = v.multiplier * 128 := Nat.mod_eq_of_lt (by omega)
    refine .pure hw' fun _ => ?_
    refine ⟨⟨by rw [hclient, hbuf], by rw [hclient, hsize], left, rest, high, Nat.le_refl 1, hhigh,
      ?_, ?_, ?_, ?_, ?_⟩, ?_⟩
    · rw [hposition]; exact hrest
    · rw [hposition, ← hstop]; omega
    · show v.remLen + b.toNat % 128 * v.multiplier + high * (v.multiplier * 128 % 2 ^ 64) = n
      rw [hmult', hlow', ← hsum, Nat.add_mul, Nat.mul_comm v.multiplier 128, ← Nat.mul_assoc,
        Nat.mul_comm high 128, Nat.add_assoc]
    · show v.multiplier * 128 % 2 ^ 64 * 128 ^ left = 128 ^ 4
      rw [hmult', hpow]
    · show v.remLen + b.toNat % 128 * v.multiplier < v.multiplier * 128 % 2 ^ 64
      omega
    · rw [hposition]; omega

theorem decodePacketRemainingLen_served {field : List UInt8} {n : Nat}
    (hfield : (Reader.base128 4).run field = some (n, [])) (hfuel : field.length < fuel) (w : World)
    (hw : F.since w) (hslice : F.stream.slice (F.position w) field.length = field) :
    F.Ends (decodePacketRemainingLen env fuel) w fun r w' =>
      r = (.success, n) ∧ w'.client.readBuf = w.client.readBuf ∧
        w'.client.readBufSize = w.client.readBufSize ∧
        F.position w' = F.position w + field.length := by
  have hposition : F.position w.tick = F.position w := F.position_eq rfl rfl
  unfold decodePacketRemainingLen Feed.Ends
  simp only [ends_bind, ends_ask]
  refine Feed.Ends.loop (F := F)
    (v := fun w' => F.position w + field.length - F.position w')
    (I := DecodesTo F w.client.readBuf w.client.readBufSize n (F.position w + field.length))
    hmoves.toCompositional (hmoves.decodeRemainingLenPass env) ?_ fuel _ _ ?_
    (F.since_along hw (hmoves.ask env.indeterminate w)) ?_
  · intro v w₁ hw₁ h
    apply (decodeRemainingLenPass_served hmoves v w₁ hw₁ h).mono
    intro r w' _ hr
    cases r with
    | again v' => exact hr
    | stop c => exact hr
  · rw [hposition]
    omega
  · exact ⟨rfl, rfl, 4, field, n, Nat.zero_le 1, hfield, by rw [hposition]; exact hslice,
      by rw [hposition], by simp, by simp, by simp⟩

/-! ## Frames that are too long -/

/-- The loop variables of the drop loop, `taken` bytes into a body of `n`. -/
def Dropping (F : Feed) (readBufSize n start : Nat) (v : Nat × Nat) (w : World) : Prop :=
  w.client.readBufSize = readBufSize ∧ v.2 = min readBufSize (n - v.1) ∧ v.1 < n ∧
    F.position w = start + v.1

theorem dropPass_served {readBufSize n start : Nat} (hsize : 0 < readBufSize) (v : Nat × Nat)
    (w : World) (hw : F.since w) (h : Dropping F readBufSize n start v w) :
    F.Ends (dropPass env readBufSize n v) w fun r w' => match r with
      | .again v' => Dropping F readBufSize n start v' w' ∧
          start + n - F.position w' < start + n - F.position w
      | .stop _ => w'.client.readBufSize = readBufSize ∧ F.position w' = start + n ∧
          JustServed w' := by
  obtain ⟨hbuf, hchunk, hmore, hposition⟩ := h
  unfold dropPass
  refine Feed.Ends.bind ?_ (Feed.netRead_served hmoves .drop (by decide) 0 v.2 hw) ?_
  · exact fun r => hmoves.ite (fun _ => hmoves.pure _) fun _ =>
      hmoves.ite (fun _ => hmoves.pure _) fun _ => hmoves.pure _
  rintro _ w' hw' - ⟨rfl, -, hsize', hposition', hserved⟩
  dsimp only
  rw [if_neg (by simp)]
  by_cases hlast : v.1 + v.2 < n
  · rw [if_pos hlast]
    refine .pure hw' fun _ =>
      ⟨⟨hsize'.trans hbuf, ?_, hlast, by rw [hposition', hposition]; omega⟩, ?_⟩
    · show (if n - (v.1 + v.2) ≥ readBufSize then readBufSize else n - (v.1 + v.2)) = _
      split <;> omega
    · omega
  · rw [if_neg hlast]
    exact .pure hw' fun _ => ⟨hsize'.trans hbuf, by omega, hserved⟩

/-- Dropping takes all of a body that does not fit, in pieces of the buffer's size. -/
theorem drop_served {readBufSize n : Nat} (hsize : 0 < readBufSize) (hlong : readBufSize ≤ n)
    (hfuel : n < fuel) (w : World) (hw : F.since w) (hbuf : w.client.readBufSize = readBufSize) :
    F.Ends (loop (dropPass env readBufSize n) fuel (0, readBufSize)) w fun _ w' =>
      w'.client.readBufSize = readBufSize ∧ F.position w' = F.position w + n ∧ JustServed w' := by
  refine Feed.Ends.loop (v := fun w' => F.position w + n - F.position w')
    (I := Dropping F readBufSize n (F.position w)) hmoves.toCompositional
    (hmoves.dropPass env _ _) ?_ fuel _ _ (by omega) hw ⟨hbuf, ?_, ?_, rfl⟩
  · intro v w₁ hw₁ h
    apply (dropPass_served hmoves hsize v w₁ hw₁ h).mono
    intro r w' _ hr
    cases r with
    | again v' => exact hr
    | stop c => exact hr
  · show readBufSize = min readBufSize (n - 0)
    omega
  · show 0 < n
    omega

/-! ## One frame, and many -/

/-- What one call of `read_packet` does with a frame, once the network has its header byte. -/
theorem readPacket_served (f : WireFrame) (packetType : UInt8) (hw : F.since w)
    (hsize : 0 < w.client.readBufSize)
    (hfuel : f.lengthField.length < fuel ∧ f.body.length < fuel)
    (hslice : F.stream.slice (F.position w) f.bytes.length = f.bytes) :
    F.Ends (readPacket env fuel packetType) w fun r w' =>
      w'.client.readBufSize = w.client.readBufSize ∧
      (r = f.report w.client.readBufSize packetType ∧
          F.position w' = F.position w + f.bytes.length ∧ (r.1 ≠ .success → JustServed w') ∨
        r = (.mqttNothingToRead, packetType) ∧ F.position w' = F.position w ∧
          NothingRead w w') := by
  have hlength : f.bytes.length = f.lengthField.length + f.body.length + 1 := by
    rw [WireFrame.bytes, List.length_cons, List.length_append]
  have hbound : f.body.length < 2 ^ 32 := by
    have := base128_lt f.valid
    omega
  rw [hlength, Memory.slice_succ] at hslice
  obtain ⟨hheader, hrest⟩ := List.cons.inj hslice
  rw [Memory.slice_add] at hrest
  obtain ⟨hfield, -⟩ := List.append_inj hrest Memory.length_slice
  have htail : ∀ len, F.Moves (do
      emit fun c => .packetRead (c.readBuf.slice 0 len)
      let c ← getClient
      pure (IoTError.success, headerType (c.readBuf 0)) : M (IoTError × UInt8)) := fun _ =>
    hmoves.bind (hmoves.emitPacket fun _ => rfl) fun _ =>
      hmoves.bind hmoves.getClient fun _ => hmoves.pure _
  have hbody : ∀ len remLen, F.Moves (do
      let r ← netRead env .body len remLen
      if r.1 ≠ .success ∨ r.2 ≠ remLen then return (.failure, packetType)
      emit fun c => .packetRead (c.readBuf.slice 0 (len + remLen))
      let c ← getClient
      return (.success, headerType (c.readBuf 0)) : M (IoTError × UInt8)) := fun _ _ =>
    hmoves.bind (hmoves.netRead env _ _ _) fun _ =>
      hmoves.ite (fun _ => hmoves.pure _) fun _ => htail _
  have hdrop : ∀ size remLen v, F.Moves (do
      loop (dropPass env size remLen) fuel v
      return (.mqttRxBufferTooShortError, packetType) : M (IoTError × UInt8)) := fun _ _ _ =>
    hmoves.bind (hmoves.loop (hmoves.dropPass env _ _) fuel _) fun _ => hmoves.pure _
  unfold readPacket
  refine Feed.Ends.bind ?_ (Feed.netRead_fed hmoves .header 0 1 hw) ?_
  · refine fun r => hmoves.ite (fun _ => hmoves.pure _) fun _ => ?_
    refine hmoves.bind (hmoves.decodePacketRemainingLen env fuel) fun d => ?_
    refine hmoves.ite (fun _ => hmoves.pure _) fun _ => hmoves.bind hmoves.getClient fun c => ?_
    refine hmoves.ite (fun _ => hdrop _ _ _) fun _ => ?_
    refine hmoves.bind (hmoves.modifyClient fun _ => rfl) fun _ => ?_
    exact hmoves.ite (fun _ => hbody _ _) fun _ => htail _
  rintro ⟨rc, readLen⟩ w₁ hw₁ -
    ⟨hsize₁, ⟨hserved, hbuf₁, hposition₁, -⟩ | ⟨-, hnothing, hposition₁, hread⟩⟩
  case inr =>
    dsimp only at hnothing ⊢
    rw [if_pos hnothing]
    exact .pure hw₁ fun _ => ⟨hsize₁, .inr ⟨rfl, hposition₁, hread⟩⟩
  obtain ⟨rfl, rfl⟩ := Prod.mk.inj hserved
  dsimp only
  rw [if_neg (by simp)]
  refine Feed.Ends.bind ?_
    (decodePacketRemainingLen_served hmoves f.valid hfuel.1 w₁ hw₁
      (by rw [hposition₁]; exact hfield)) ?_
  · refine fun d => hmoves.ite (fun _ => hmoves.pure _) fun _ => ?_
    refine hmoves.bind hmoves.getClient fun c => ?_
    refine hmoves.ite (fun _ => hdrop _ _ _) fun _ => ?_
    refine hmoves.bind (hmoves.modifyClient fun _ => rfl) fun _ => ?_
    exact hmoves.ite (fun _ => hbody _ _) fun _ => htail _
  rintro _ w₂ hw₂ - ⟨rfl, hbuf₂, hsize₂, hposition₂⟩
  dsimp only
  rw [if_neg (by simp)]
  have hsize' : w₂.client.readBufSize = w.client.readBufSize := hsize₂.trans hsize₁
  have hposition : F.position w₂ + f.body.length = F.position w + f.bytes.length := by
    rw [hposition₂, hposition₁, hlength]
    omega
  have hfirst : ∀ mem, (Memory.writeAt (Memory.writeAt w₂.client.readBuf 1
      (writeLenToBuffer (f.body.length % 2 ^ 32)))
        (1 + (writeLenToBuffer (f.body.length % 2 ^ 32)).length) mem) 0 = f.header := by
    intro mem
    rw [Memory.writeAt_of_lt (by omega), Memory.writeAt_of_lt (by omega), hbuf₂, hbuf₁,
      ← hheader]
    rfl
  refine ends_bind.mpr (ends_getClient.mpr ?_)
  unfold WireFrame.report
  rw [← hsize']
  by_cases hlong : w₂.client.readBufSize ≤ f.body.length
  · rw [if_pos hlong, if_pos hlong]
    refine Feed.Ends.bind (fun _ => hmoves.pure _)
      (drop_served hmoves (hsize'.symm ▸ hsize) hlong hfuel.2 w₂ hw₂ rfl) ?_
    rintro _ w₃ hw₃ - ⟨hsize₃, hposition₃, hserved⟩
    exact .pure hw₃ fun _ => ⟨hsize₃, .inl ⟨rfl, by rw [hposition₃, hposition], fun _ => hserved⟩⟩
  · rw [if_neg hlong, if_neg hlong]
    simp only [Nat.mod_eq_of_lt hbound] at hfirst ⊢
    refine ends_bind.mpr (ends_modifyClient.mpr ?_)
    have hstored := F.since_along hw₂ (hmoves.modifyClient (f := fun c => { c with
      readBuf := c.readBuf.writeAt 1 (writeLenToBuffer f.body.length) }) (fun _ => rfl) w₂)
    have hpacket : ∀ (w₃ : World) len, F.since w₃ → F.position w₃ = F.position w + f.bytes.length →
        w₃.client.readBufSize = w₂.client.readBufSize → w₃.client.readBuf 0 = f.header →
        F.Ends (do
          emit fun c => .packetRead (c.readBuf.slice 0 len)
          let c ← getClient
          pure (IoTError.success, headerType (c.readBuf 0)) : M (IoTError × UInt8)) w₃
          fun r w' => w'.client.readBufSize = w₂.client.readBufSize ∧
            (r = (.success, headerType f.header) ∧
              F.position w' = F.position w + f.bytes.length ∧ (r.1 ≠ .success → JustServed w') ∨
            r = (.mqttNothingToRead, packetType) ∧ F.position w' = F.position w ∧
              NothingRead w w') := by
      intro w₃ len hw₃ hposition₃ hsize₃ hbuf₃
      have hread := hmoves.emitPacket (e := fun c => .packetRead (c.readBuf.slice 0 len))
        (fun _ => rfl) w₃
      refine ends_bind.mpr (ends_emit.mpr (ends_bind.mpr (ends_getClient.mpr ?_)))
      refine Feed.Ends.pure (F.since_along hw₃ hread) fun _ =>
        ⟨hsize₃, .inl ⟨?_, ?_, fun h => absurd rfl h⟩⟩
      · rw [World.client_push, hbuf₃]
      · rw [F.position_packet, hposition₃]
    by_cases hempty : f.body.length > 0
    · rw [if_pos hempty]
      refine Feed.Ends.bind (fun _ => hmoves.ite (fun _ => hmoves.pure _) fun _ => htail _)
        (Feed.netRead_served hmoves .body (by decide) _ f.body.length hstored) ?_
      rintro _ w₃ hw₃ - ⟨rfl, hbuf₃, hsize₃, hposition₃, -⟩
      dsimp only
      rw [if_neg (by simp)]
      refine hpacket w₃ _ hw₃ ?_ hsize₃ (by rw [hbuf₃]; exact hfirst _)
      rw [hposition₃, ← hposition]
      exact congrArg (· + f.body.length) (F.position_eq rfl rfl)
    · rw [if_neg hempty]
      refine hpacket _ _ hstored ?_ rfl ?_
      · rw [← hposition, Nat.eq_zero_of_not_pos hempty]
        exact F.position_eq rfl rfl
      · have h := hfirst []
        rw [Memory.writeAt_of_lt (by omega)] at h
        exact h

end Feed

/-! ## Reads that are all served -/

section Served

variable {stream : Memory}

theorem Served.of_suffix {log log' : List Event} (h : Served stream log') (hlog : log <:+ log') :
    Served stream log := by
  obtain ⟨new, rfl⟩ := hlog
  induction new with
  | nil => exact h
  | cons e new ih => exact ih h.1

/-- A network that never lets a read wait. -/
def servedFeed (stream : Memory) : Feed where
  stream := stream
  position w := streamPosition w.log
  since _ := True
  fair w := Served stream w.log
  mayHalt _ := False
  along := LogGrows
  alongHalted := LogGrows
  since_along _ _ := trivial
  fair_along hgrows h := h.of_suffix hgrows
  fair_alongHalted hgrows h := h.of_suffix hgrows
  position_eq hlog _ := congrArg streamPosition hlog
  position_packet _ _ := rfl
  read := by
    intro w site state offset len rc readLen bytes _ hfair
    have hserved := hfair.2
    simp only [Event.servedFrom, Bool.and_eq_true, decide_eq_true_eq] at hserved
    exact .inl ⟨hserved.1.1, hserved.1.2, hserved.2, rfl⟩

theorem servedFeed_moves (stream : Memory) (env : Env) :
    Packets (m := M) (servedFeed stream).Moves := (logGrows_steps env).packets

/-- A read of such a network finds something. -/
theorem NothingRead.not_served (h : NothingRead w w') : ¬ Served stream w'.log := by
  obtain ⟨state, offset, len, readLen, bytes, hlog, -⟩ := h
  rw [hlog]
  rintro ⟨-, hserved⟩
  simp [Event.servedFrom] at hserved

/-- Every call takes one frame, and reports it. -/
theorem readPackets_served (packetType : UInt8) : ∀ (frames : List WireFrame) (w : World),
    0 < w.client.readBufSize →
    (∀ f ∈ frames, f.lengthField.length < fuel ∧ f.body.length < fuel) →
    stream.slice (streamPosition w.log) (frames.flatMap WireFrame.bytes).length =
      frames.flatMap WireFrame.bytes →
    (servedFeed stream).Ends (readPackets env fuel packetType frames.length) w fun rs w' =>
      rs = frames.map (fun f => f.report w.client.readBufSize packetType) ∧
        streamPosition w'.log =
          streamPosition w.log + (frames.flatMap WireFrame.bytes).length := by
  have hmoves := servedFeed_moves stream env
  have hmany : ∀ n, (servedFeed stream).Moves (readPackets env fuel packetType n) := by
    intro n
    induction n with
    | zero => exact hmoves.pure _
    | succ n ih =>
      exact hmoves.bind (hmoves.readPacket env fuel packetType) fun _ =>
        hmoves.bind ih fun _ => hmoves.pure _
  intro frames
  induction frames with
  | nil => intro w _ _ _; exact .pure trivial fun _ => ⟨rfl, rfl⟩
  | cons f frames ih =>
    intro w hsize hfuel hslice
    rw [List.flatMap_cons, List.length_append, Memory.slice_add] at hslice
    obtain ⟨hfirst, hrest⟩ := List.append_inj hslice Memory.length_slice
    refine Feed.Ends.bind (fun _ => hmoves.bind (hmany _) fun _ => hmoves.pure _)
      (readPacket_served hmoves f packetType trivial hsize (hfuel f List.mem_cons_self) hfirst) ?_
    rintro _ w₁ - hserved ⟨hsize₁, ⟨rfl, hposition₁, -⟩ | ⟨-, -, hnothing⟩⟩
    case inr => exact absurd hserved hnothing.not_served
    refine Feed.Ends.bind (fun _ => hmoves.pure _) (ih w₁ (by omega)
      (fun g hg => hfuel g (List.mem_cons_of_mem f hg))
      (by rw [show streamPosition w₁.log = _ from hposition₁]; exact hrest)) ?_
    rintro _ w₂ - - ⟨rfl, hposition₂⟩
    refine .pure trivial fun _ => ⟨by rw [hsize₁]; rfl, ?_⟩
    rw [hposition₂, show streamPosition w₁.log = _ from hposition₁, List.flatMap_cons,
      List.length_append]
    exact Nat.add_assoc _ _ _

end Served

/-- The reader never loses packet boundaries.  The stream continues with `frames`, and the
network serves every read with exactly the bytes it asks for.  Then for every `k` the
first `k` calls of `read_packet` return, report the first `k` frames, and leave the stream at
the first byte behind them; a frame is reported as dropped exactly if its remaining length
is at least the size of the read buffer, and with its type otherwise. -/
theorem readPackets_frames (env : Env) (stream : Memory) (frames : List WireFrame) (w : World)
    (packetType : UInt8) (fuel k : Nat)
    (hsize : 0 < w.client.readBufSize)
    (harrive : stream.slice (streamPosition w.log) (frames.flatMap WireFrame.bytes).length =
      frames.flatMap WireFrame.bytes)
    (hfuel : ∀ f ∈ frames, f.bytes.length ≤ fuel)
    (hserved : Served stream
      ((readPackets env fuel packetType (frames.take k).length).run w).state.log) :
    ∃ w', (readPackets env fuel packetType (frames.take k).length).run w =
        .done ((frames.take k).map fun f => f.report w.client.readBufSize packetType) w' ∧
      streamPosition w'.log =
        streamPosition w.log + ((frames.take k).flatMap WireFrame.bytes).length := by
  have htake : stream.slice (streamPosition w.log)
      ((frames.take k).flatMap WireFrame.bytes).length =
      (frames.take k).flatMap WireFrame.bytes := by
    rw [← List.take_append_drop k frames, List.flatMap_append, List.length_append,
      Memory.slice_add] at harrive
    exact (List.append_inj harrive Memory.length_slice).1
  have hshort : ∀ f ∈ frames.take k, f.lengthField.length < fuel ∧ f.body.length < fuel :=
    fun f hf => f.parts_lt (hfuel f (List.mem_of_mem_take hf))
  have hends : (servedFeed stream).Ends
      (readPackets env fuel packetType (frames.take k).length) w fun rs w' =>
        rs = (frames.take k).map (fun f => f.report w.client.readBufSize packetType) ∧
        streamPosition w'.log =
          streamPosition w.log + ((frames.take k).flatMap WireFrame.bytes).length :=
    readPackets_served packetType (frames.take k) w hsize hshort htake
  cases hrun : (readPackets env fuel packetType (frames.take k).length).run w with
  | done rs w' =>
    rw [hrun] at hserved
    obtain ⟨rfl, hposition⟩ := (Program.Ends.of_run hends hrun).2 hserved
    exact ⟨w', rfl, hposition⟩
  | halted w' =>
    rw [hrun] at hserved
    exact (Program.Ends.of_halt hends hrun hserved).elim

/-! ## A short stream -/

/-- A PINGRESP, a PUBLISH whose remaining length is not encoded in the shortest way, and a
PUBACK. -/
def shortFrames : List WireFrame :=
  [⟨0xD0, [0], [], rfl⟩, ⟨0x30, [0x85, 0], [1, 2, 3, 4, 5], rfl⟩, ⟨0x40, [2], [0, 1], rfl⟩]

/-- The stream of these frames. -/
def shortStream : Memory := Memory.writeAt (fun _ => 0) 0 (shortFrames.flatMap WireFrame.bytes)

/-- A network that delivers the stream; the questions that are reads find it where the
reads before them left it. -/
def shortEnv : Env :=
  { quietEnv with read := fun n =>
      ⟨.success, shortStream.slice ([0, 1, 1, 2, 3, 3, 4, 5, 9, 10, 11, 11, 12].getD n 14) 8, 8⟩ }

/-- A client with a read buffer of four bytes. -/
def shortClient : World := ⟨{ zeroedClient with readBufSize := 4 }, 0, [], [], Shadow.zeroedRecords⟩

/-- The second frame does not fit and is dropped; the third is read whole. -/
theorem readPackets_shortFrames : ∃ w', (readPackets shortEnv 10 0 3).run shortClient =
      .done [(.success, 13), (.mqttRxBufferTooShortError, 0), (.success, 4)] w' ∧
    streamPosition w'.log = 14 :=
  readPackets_frames shortEnv shortStream shortFrames shortClient 0 10 3 (by decide)
    (by decide +kernel) (by decide) (by decide +kernel)

end AwsIot.Mqtt
