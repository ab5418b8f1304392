/-
  Mqtt/AnswerSeen.lean --- what the wait for an answer reads.

  A request waits for its answer with `wait_for_read`, which drops the packets of
  other types; what a handler's wait reads in between, the request never sees.  The
  wait returns SUCCESS exactly if it read a packet of the awaited type itself, and
  the parser that then looks at the read buffer looks at that packet
  (`waitForRead_sees`, `parserAccepts_iff`).
-/
import AwsIot.Mqtt.HeldState
import AwsIot.Mqtt.Suback

set_option autoImplicit false

namespace AwsIot.Mqtt

open AwsIot.Foundation Program

/-! ## What the parsers accept -/

/-- The parser for an answer of type `t` accepts what stands in `rxBuf`. -/
def parserAccepts (t : MessageType) (rxBuf : Memory) (rxBufLen : Nat) : Bool :=
  match t with
  | .suback => (deserializeSuback 1 rxBuf rxBufLen).rc = .success
  | .unsuback => (deserializeUnsuback rxBuf rxBufLen).isOk
  | _ => (deserializeAck rxBuf rxBufLen).isOk

/-- The parser for an answer of type `t` accepts `packet`. -/
def accepts (t : MessageType) (rxBufLen : Nat) (packet : List UInt8) : Bool :=
  parserAccepts t (Memory.writeAt (fun _ => 0) 0 packet) rxBufLen

/-- Whether a frame of type `t` is accepted. -/
def Frame.IsAccepted (t : MessageType) (rxBufLen : Nat) (f : Frame) : Prop :=
  match t with
  | .suback => 5 ≤ rxBufLen ∧ ∃ codes, subackCodes f.bytes = some codes ∧ codes.length ≤ 2
  | _ => 4 ≤ rxBufLen ∧ f.body.length % 2 ^ 32 < 128 ^ 4 ∧ 2 ≤ f.body.length % 2 ^ 32

section Parsers

variable {f : Frame} {c : Client}

theorem deserializeAck_frame (hheld : f.HeldBy c) :
    deserializeAck c.readBuf c.readBufSize =
      if 4 > c.readBufSize then .error .mqttRxBufferTooShortError
      else if ¬ f.body.length % 2 ^ 32 < 128 ^ 4 then .error .mqttDecodeRemainingLengthError
      else if f.body.length % 2 ^ 32 < 2 then .error .failure
      else .ok ⟨headerType f.header, headerDup f.header,
        readUint16 c.readBuf (1 + f.lenBytes.length)⟩ := by
  have hdecode := decodeRemainingLengthFromBuffer_eq hheld.rest.1
  unfold deserializeAck
  rw [hheld.header, hdecode]
  by_cases hlt : f.body.length % 2 ^ 32 < 128 ^ 4
  · rw [if_pos hlt, if_neg (not_not.mpr hlt)]
    rfl
  · rw [if_neg hlt, if_pos hlt]

theorem deserializeAck_isOk_iff (hheld : f.HeldBy c) :
    (deserializeAck c.readBuf c.readBufSize).isOk = true ↔
      4 ≤ c.readBufSize ∧ f.body.length % 2 ^ 32 < 128 ^ 4 ∧ 2 ≤ f.body.length % 2 ^ 32 := by
  rw [deserializeAck_frame hheld]
  split
  case isTrue hshort => exact iff_of_false (by decide) (by omega)
  split
  case isTrue hlong => exact iff_of_false (by decide) fun h => hlong h.2.1
  split
  case isTrue htwo => exact iff_of_false (by decide) (by omega)
  case isFalse hbuf hlt htwo =>
    exact iff_of_true rfl ⟨by omega, not_not.mp hlt, Nat.le_of_not_lt htwo⟩

theorem deserializeAck_type {rxBuf : Memory} {rxBufLen : Nat} {ack : IncomingAck}
    (h : deserializeAck rxBuf rxBufLen = .ok ack) : ack.packetType = headerType (rxBuf 0) := by
  unfold deserializeAck at h
  split at h
  · cases h
  split at h
  · cases h
  · split at h
    · cases h
    · cases h
      rfl

/-- On a frame of type `t` the parsers look at nothing else. -/
theorem parserAccepts_iff {t : MessageType} (hheld : f.HeldBy c)
    (htype : headerType f.header = t.code) :
    parserAccepts t c.readBuf c.readBufSize = true ↔ f.IsAccepted t c.readBufSize := by
  cases t with
  | suback =>
    show decide ((deserializeSuback 1 c.readBuf c.readBufSize).rc = .success) = true ↔ _
    rw [decide_eq_true_iff]
    exact deserializeSuback_success_iff hheld htype
  | unsuback =>
    show (deserializeUnsuback c.readBuf c.readBufSize).isOk = true ↔ _
    have hsame : (deserializeUnsuback c.readBuf c.readBufSize).isOk =
        (deserializeAck c.readBuf c.readBufSize).isOk := by
      unfold deserializeUnsuback
      cases hack : deserializeAck c.readBuf c.readBufSize with
      | error rc => rfl
      | ok ack =>
        dsimp only
        rw [deserializeAck_type hack, hheld.header, if_neg (not_not.mpr htype)]
        rfl
    rw [hsame]
    exact deserializeAck_isOk_iff hheld
  | _ => exact deserializeAck_isOk_iff hheld

/-- What the parser says of a frame it says of the frame alone. -/
theorem parserAccepts_eq_accepts {t : MessageType} (hheld : f.HeldBy c)
    (htype : headerType f.header = t.code) :
    parserAccepts t c.readBuf c.readBufSize = accepts t c.readBufSize f.bytes := by
  have halone : f.HeldBy { c with readBuf := Memory.writeAt (fun _ => 0) 0 f.bytes } := by
    show (Memory.writeAt _ 0 f.bytes).slice 0 f.bytes.length = f.bytes
    exact Memory.slice_writeAt_self
  exact Bool.eq_iff_iff.mpr
    ((parserAccepts_iff hheld htype).trans (parserAccepts_iff halone htype).symm)

end Parsers

/-! ## Answers seen outside the handlers -/

/-- The event reads a packet of type `t`. -/
def ackOf (t : MessageType) : Event → Option (List UInt8)
  | .packetRead packet => if headerType (packet.headD 0) = t.code then some packet else none
  | _ => none

theorem ackOf_eq_none {t : MessageType} {e : Event} (he : e.kind ≠ .packet) : ackOf t e = none := by
  cases e <;> first | rfl | exact absurd rfl he

/-- Since `w`, the answers of type `t` that were read outside the handlers are `seen`. -/
abbrev Sees (t : MessageType) (seen : List (List UInt8)) : World → World → Prop :=
  Shows (ackOf t) seen

/-- Since `w`, no answer of type `t` was read outside the handlers, up to a halt. -/
abbrev SeesNoneHalted (t : MessageType) : World → World → Prop := ShowsHalted (ackOf t) []

theorem sees_steps (t : MessageType) : TrafficSteps (Sees t []) :=
  shows_steps fun _ he => ackOf_eq_none (by rw [he]; decide)

theorem sees_push {t : MessageType} {e : Event} (he : e.kind ≠ .handler) (he' : e.kind ≠ .packet)
    (w : World) : Sees t [] w (w.push e) := by
  have hpush := shows_push (ackOf t) he w
  rw [ackOf_eq_none he'] at hpush
  exact hpush

/-- The frame `f` of type `t` is the only answer read since `w`, and stands in the read
buffer. -/
structure Received (t : MessageType) (w : World) (f : Frame) (w' : World) : Prop where
  /-- The frame is in the read buffer. -/
  held : f.HeldBy w'.client
  /-- It is of the awaited type. -/
  type : headerType f.header = t.code
  /-- No other answer was read. -/
  sees : Sees t [f.bytes] w w'

theorem Received.after {t : MessageType} {w w₁ w' : World} {f : Frame} (h : Sees t [] w w₁)
    (h' : Received t w₁ f w') : Received t w f w' :=
  ⟨h'.held, h'.type, h.trans h'.sees⟩

section Waits

variable {env : Env} {fuel : Nat} {callbacks : Callbacks M} {t : MessageType} {w : World}

/-- What a delivery reads, the handlers read. -/
theorem deliverMessage_sees (hmessage : ∀ call, Tracks Nests NestsHalted (callbacks.message call))
    (msg : IncomingPublish) :
    Tracks (Sees t []) (SeesNoneHalted t) (deliverMessage env callbacks msg : M IoTError) := by
  have hcomp := tracks_compositional (showsHalted_after (ackOf t))
  have hset : ∀ site old new, Tracks (Sees t []) (SeesNoneHalted t)
      (setClientState site old new : M IoTError) := by
    intro site old new w
    rw [ends_setClientState]
    split
    · exact Shows.of_log (w.log_withState new)
    · exact Shows.of_log rfl
  have hslot : ∀ itr, Tracks (Sees t []) (SeesNoneHalted t)
      (deliverToSlot callbacks msg itr : M Unit) := by
    intro itr w
    have hshows := deliverToSlot_shows hmessage (ackOf t) msg itr w
    have hnone : (slotCall w.client msg itr).bind (fun call => ackOf t (.handlerCalled call)) =
        none := by
      cases slotCall w.client msg itr <;> rfl
    rw [hnone] at hshows
    exact hshows
  refine hcomp.bind (fun w => Shows.of_log rfl) fun s => hcomp.bind (hset _ _ _) fun _ => ?_
  exact hcomp.bind (hcomp.forEach hslot _) fun _ => hset _ _ _

/-- Whatever moves no packets outside the handlers reads no answer there. -/
theorem delivering_sees (hmessage : ∀ call, Tracks Nests NestsHalted (callbacks.message call)) :
    Delivering env callbacks (Tracks (Sees t []) (SeesNoneHalted t)) where
  toTraffic := (sees_steps t).tracking (showsHalted_after _)
  deliverReceived msg := (sees_steps t).deliverReceived (showsHalted_after _)
    (deliverMessage_sees hmessage msg)

/-- `read_packet` reads one packet, if any. -/
theorem readPacket_sees (packetType : UInt8) :
    (readPacket env fuel packetType : M (IoTError × UInt8)).Ends w
      (fun r w' => if r.1 = .success then ∃ f : Frame, f.HeldBy w'.client ∧
          r.2 = headerType f.header ∧
          Sees t (if headerType f.header = t.code then [f.bytes] else []) w w'
        else Sees t [] w w' ∧ r.2 = packetType)
      (SeesNoneHalted t w) := by
  refine (readPacket_read ((sees_steps t).tracking (showsHalted_after _)) (showsHalted_after _)
    packetType).mono ?_ (fun _ h => h)
  intro r w' h
  split
  case isTrue hok =>
    rw [if_pos hok] at h
    obtain ⟨f, w₁, hnone, rfl, hheld, htype⟩ := h
    refine ⟨f, hheld, htype, ?_⟩
    have hread := shows_push (ackOf t) (e := .packetRead f.bytes) (by simp [Event.kind]) w₁
    have hack : (ackOf t (.packetRead f.bytes)).toList =
        if headerType f.header = t.code then [f.bytes] else [] := by
      show (if headerType f.header = t.code then some f.bytes else none).toList = _
      split <;> rfl
    rw [hack] at hread
    exact hnone.trans hread
  case isFalse hfail =>
    rw [if_neg hfail] at h
    exact h

variable (hdeliver : Delivering env callbacks (Tracks (Sees t []) (SeesNoneHalted t)))
  (ht : t.isReported = true)
include hdeliver ht

/-- A pass of the wait reports the awaited type exactly if it received an answer. -/
theorem cycleRead_sees (timer : Timer) {packetType : UInt8} (hne : packetType ≠ t.code) :
    (cycleRead env fuel callbacks timer packetType : M (IoTError × UInt8)).Ends w
      (fun r w' => r = (.success, t.code) ∧ (∃ f, Received t w f w') ∨
        r.2 ≠ t.code ∧ Sees t [] w w')
      (SeesNoneHalted t w) := by
  unfold cycleRead
  refine ends_bind.mpr ((readPacket_sees packetType).mono ?_ (fun _ h => h))
  rintro ⟨rc, readType⟩ w₁ h₁
  dsimp only at h₁ ⊢
  rw [ends_ite]
  split
  case isTrue hnothing =>
    rw [if_neg (by rw [hnothing]; decide)] at h₁
    exact .inr ⟨h₁.2 ▸ hne, h₁.1⟩
  rw [ends_ite]
  split
  case isTrue hrc =>
    rw [if_neg hrc] at h₁
    exact .inr ⟨h₁.2 ▸ hne, h₁.1⟩
  case isFalse hrc =>
    rw [if_pos (not_not.mp hrc)] at h₁
    obtain ⟨f, hheld, htype, hsees⟩ := h₁
    by_cases hown : headerType f.header = t.code
    · rw [if_pos hown] at hsees
      rw [if_pos (htype.trans hown ▸ (MessageType.isReported_spec ht).1)]
      exact .inl ⟨by rw [htype, hown], f, hheld, hown, hsees⟩
    · -- what is done with a packet of another type reads none outside the handlers
      rw [if_neg hown] at hsees
      have hother : readType ≠ t.code := fun heq => hown (htype.symm.trans heq)
      have hlater : ∀ {w₂}, Sees t [] w₁ w₂ → readType ≠ t.code ∧ Sees t [] w w₂ :=
        fun h => ⟨hother, hsees.trans h⟩
      rw [ends_ite]
      split
      · exact .inr ⟨hother, hsees⟩
      rw [ends_ite]
      split
      · refine ends_bind.mpr ((hdeliver.handlePublish fuel timer w₁).mono ?_ ?_)
        · exact fun rc w₂ h => .inr (hlater h)
        · exact fun w₂ h => hsees.halted h
      · rw [ends_ite]
        split
        · simp only [ends_bind, ends_getClient, ends_countdownSec, ends_modifyClient, ends_pure]
          exact .inr (hlater (Shows.of_log rfl))
        · exact .inr ⟨hother, hsees⟩

/-- The loop of the wait ends with an answer, or without SUCCESS. -/
theorem waitPass_sees (timer : Timer) {readType : UInt8} (hne : readType ≠ t.code) :
    (waitPass env fuel callbacks t.code timer readType : M (Step UInt8 (IoTError × UInt8))).Ends w
      (fun r w' => match r with
        | .again readType' => readType' ≠ t.code ∧ Sees t [] w w'
        | .stop c => c = (.success, t.code) ∧ (∃ f, Received t w f w') ∨
            (c.1 = .mqttRequestTimeoutError ∨ c.1 = .networkDisconnectedError) ∧ Sees t [] w w')
      (SeesNoneHalted t w) := by
  unfold waitPass
  simp only [ends_bind, ends_hasTimerExpired, ends_ite, ends_pure]
  have htick : Sees t [] w w.tick := Shows.of_log w.log_tick
  split
  · exact .inr ⟨.inl trivial, htick⟩
  refine (cycleRead_sees hdeliver ht timer hne).mono ?_ (fun _ h => htick.halted h)
  rintro ⟨rc, readType'⟩ w' (⟨heq, f, hf⟩ | ⟨hother, hsees⟩)
  · obtain ⟨rfl, rfl⟩ := Prod.mk.inj heq
    rw [if_neg (by simp)]
    exact .inl ⟨rfl, f, hf.after htick⟩
  · have hsees' : Sees t [] w w' := htick.trans hsees
    split
    case isTrue => exact ⟨hother, hsees'⟩
    case isFalse hstop =>
      refine .inr ⟨.inr ?_, hsees'⟩
      by_contra hup
      exact hstop ⟨hup, hother⟩

/-- `wait_for_read` returns SUCCESS exactly if it received an answer, and otherwise has read
none. -/
theorem waitForRead_sees (timer : Timer) :
    (waitForRead env fuel callbacks t timer : M IoTError).Ends w
      (fun rc w' => rc = .success ∧ (∃ f, Received t w f w') ∨ rc ≠ .success ∧ Sees t [] w w')
      (SeesNoneHalted t w) := by
  have hloop : (loop (waitPass env fuel callbacks t.code timer) fuel 0 :
      M (IoTError × UInt8)).Ends w
      (fun c w' => c = (.success, t.code) ∧ (∃ f, Received t w f w') ∨
        (c.1 = .mqttRequestTimeoutError ∨ c.1 = .networkDisconnectedError) ∧ Sees t [] w w')
      (SeesNoneHalted t w) := by
    refine ends_loop (I := fun readType w₁ => readType ≠ t.code ∧ Sees t [] w w₁) ?_
      (fun _ w₁ h => h.2.halted (showsHalted_after _ |>.refl w₁)) fuel 0 w
      ⟨(MessageType.isReported_spec ht).2.symm, Shows.of_log rfl⟩
    rintro readType w₁ ⟨hne, h₁⟩
    refine (waitPass_sees hdeliver ht timer hne).mono ?_ (fun _ h => h₁.halted h)
    intro r w₂ hr
    cases r with
    | again readType' => exact ⟨hr.1, h₁.trans hr.2⟩
    | stop c =>
      rcases hr with ⟨hc, f, hf⟩ | ⟨hc, hsees⟩
      · exact .inl ⟨hc, f, hf.after h₁⟩
      · exact .inr ⟨hc, h₁.trans hsees⟩
  unfold waitForRead
  refine ends_bind.mpr (hloop.mono ?_ (fun _ h => h))
  rintro ⟨rc, readType⟩ w' h
  simp only [ends_bind, ends_emit, ends_pure]
  have hlogged : ∀ rc, Sees t [] w' (w'.push (.waited t rc)) := fun rc =>
    sees_push (by simp [Event.kind]) (by simp [Event.kind]) w'
  rcases h with ⟨heq, f, hf⟩ | ⟨hrc, hsees⟩
  · obtain ⟨rfl, rfl⟩ := Prod.mk.inj heq
    rw [if_neg (by simp)]
    exact .inl ⟨rfl, f, hf.held, hf.type, by simpa using hf.sees.trans (hlogged .success)⟩
  · refine .inr ⟨?_, hsees.trans (hlogged _)⟩
    rcases hrc with rfl | rfl
    · simp
    · simp

end Waits

end AwsIot.Mqtt
