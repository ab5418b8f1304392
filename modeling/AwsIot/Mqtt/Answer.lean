/-
  Mqtt/Answer.lean --- requests and the packets that answer them.

  Publish with QoS 1, subscribe, unsubscribe and resubscribe send a packet, wait
  for one of a given type and look at it.  When the wait returns SUCCESS, the last
  packet read is of the awaited type, it was read after the request was sent, and
  it still stands in the read buffer, whatever the application's handlers did in
  between.  `ends_exchange` is the rule for all four.
-/
import AwsIot.Mqtt.Relations
import AwsIot.Mqtt.SendPacket
import AwsIot.Mqtt.Wire

set_option autoImplicit false

namespace AwsIot.Mqtt

open AwsIot.Foundation Program

/-! ## Frames -/

/-- A packet as `read_packet` leaves it in the read buffer: the header byte and
what stands behind the re-encoded remaining length. -/
structure Frame where
  /-- The header byte. -/
  header : UInt8
  /-- The bytes behind the remaining length. -/
  body : List UInt8

/-- The remaining length in front of a frame's body. -/
def Frame.lenBytes (f : Frame) : List UInt8 := writeLenToBuffer (f.body.length % 2 ^ 32)

/-- The bytes of a frame. -/
def Frame.bytes (f : Frame) : List UInt8 := f.header :: (f.lenBytes ++ f.body)

/-- The frame stands at the start of the read buffer. -/
def Frame.HeldBy (f : Frame) (c : Client) : Prop :=
  c.readBuf.slice 0 f.bytes.length = f.bytes

theorem Frame.HeldBy.header {f : Frame} {c : Client} (h : f.HeldBy c) :
    c.readBuf 0 = f.header := by
  have hslice : c.readBuf.slice 0 f.bytes.length = f.bytes := h
  rw [Frame.bytes, List.length_cons, Nat.add_comm, Memory.slice_add] at hslice
  exact (List.cons.inj (show c.readBuf 0 :: _ = _ from hslice)).1

theorem Frame.HeldBy.rest {f : Frame} {c : Client} (h : f.HeldBy c) :
    c.readBuf.slice 1 f.lenBytes.length = f.lenBytes ∧
    c.readBuf.slice (1 + f.lenBytes.length) f.body.length = f.body := by
  have hslice : c.readBuf.slice 0 f.bytes.length = f.bytes := h
  rw [Frame.bytes, List.length_cons, Nat.add_comm, Memory.slice_add] at hslice
  have htail := (List.cons.inj (show c.readBuf 0 :: _ = _ from hslice)).2
  rw [List.length_append, Memory.slice_add] at htail
  exact List.append_inj htail Memory.length_slice

theorem Frame.heldBy_of_slices {c : Client} {remLen : Nat}
    (hlen : c.readBuf.slice 1 (writeLenToBuffer (remLen % 2 ^ 32)).length =
      writeLenToBuffer (remLen % 2 ^ 32)) :
    ∃ f : Frame, f.HeldBy c ∧
      f.bytes = c.readBuf.slice 0 (1 + (writeLenToBuffer (remLen % 2 ^ 32)).length + remLen) := by
  let len := 1 + (writeLenToBuffer (remLen % 2 ^ 32)).length
  let f : Frame := ⟨c.readBuf 0, c.readBuf.slice len remLen⟩
  have hbytes : f.bytes = c.readBuf.slice 0 (len + remLen) := by
    rw [Memory.slice_add, Memory.slice_add, Nat.zero_add, Nat.zero_add, hlen]
    simp [f, Frame.bytes, Frame.lenBytes, Memory.slice]
  refine ⟨f, ?_, hbytes⟩
  have hlength : f.bytes.length = len + remLen := by rw [hbytes, Memory.length_slice]
  show c.readBuf.slice 0 f.bytes.length = f.bytes
  rw [hlength, hbytes]

/-- A packet was read after `w`, it was the last thing that happened, and it stands
in the read buffer. -/
def JustRead (w : World) (f : Frame) (w' : World) : Prop :=
  f.HeldBy w'.client ∧ ∃ pre, w'.log = .packetRead f.bytes :: pre ∧ w.log <:+ pre

/-! ## Reading one packet -/

section

variable {env : Env} {fuel : Nat} {w : World}

/-- `read_packet` returns SUCCESS with a packet read at its very end, and reports its
type. -/
theorem readPacket_read {R H : World → World → Prop} [IsPreorder World R]
    (hall : Traffic (m := M) (Tracks R H)) (hhalt : HaltsAfter R H) (packetType : UInt8) :
    (readPacket env fuel packetType : M (IoTError × UInt8)).Ends w
      (fun r w' => if r.1 = .success then ∃ f w₁, R w w₁ ∧
          w' = w₁.push (.packetRead (Frame.bytes f)) ∧ f.HeldBy w'.client ∧
          r.2 = headerType f.header
        else R w w' ∧ r.2 = packetType)
      (H w) := by
  -- the packet is complete in `w₁`
  have hcomplete : ∀ (w₁ : World) (remLen : Nat), R w w₁ →
      w₁.client.readBuf.slice 1 (writeLenToBuffer (remLen % 2 ^ 32)).length =
        writeLenToBuffer (remLen % 2 ^ 32) →
      ∃ f w₂, R w w₂ ∧ w₁.push (.packetRead (w₁.client.readBuf.slice 0
          (1 + (writeLenToBuffer (remLen % 2 ^ 32)).length + remLen))) =
        w₂.push (.packetRead (Frame.bytes f)) ∧ f.HeldBy w₁.client ∧
        headerType (w₁.client.readBuf 0) = headerType f.header := by
    intro w₁ remLen h₁ hlen
    obtain ⟨f, hheld, hbytes⟩ := Frame.heldBy_of_slices hlen
    exact ⟨f, w₁, h₁, by rw [hbytes], hheld, by rw [hheld.header]⟩
  unfold readPacket
  refine ends_bind.mpr ((hall.netRead env .header 0 1 w).mono ?_ (fun _ h => h))
  rintro ⟨rc, readLen⟩ w₁ h₁
  dsimp only
  rw [ends_ite]
  split
  case isTrue => simpa using h₁
  refine ends_bind.mpr ((hall.decodePacketRemainingLen env fuel w₁).mono ?_
    (fun _ h => hhalt.trans h₁ h))
  rintro ⟨rc, remLen⟩ w₂ h₂
  have hw₂ : R w w₂ := trans_of R h₁ h₂
  dsimp only
  rw [ends_ite]
  split
  case isTrue hrc => simpa [hrc] using hw₂
  case isFalse =>
    simp only [ends_bind, ends_getClient, ends_ite]
    split
    · refine (hall.loop (hall.dropPass env _ _) fuel _ w₂).mono ?_ (fun _ h => hhalt.trans hw₂ h)
      intro _ w₃ h₃
      simpa using trans_of R hw₂ h₃
    · have hstored : R w (w₂.onClient fun c => { c with
          readBuf := c.readBuf.writeAt 1 (writeLenToBuffer (remLen % 2 ^ 32)) }) := by
        refine trans_of R hw₂ (hall.modifyClient (f := fun c => { c with
          readBuf := c.readBuf.writeAt 1 (writeLenToBuffer (remLen % 2 ^ 32)) }) ?_ w₂)
        exact fun _ => rfl
      simp only [ends_modifyClient, ends_emit, ends_pure]
      split
      · have hbody := hall.netRead env .body
          (1 + (writeLenToBuffer (remLen % 2 ^ 32)).length) remLen
          (w₂.onClient fun c => { c with
            readBuf := c.readBuf.writeAt 1 (writeLenToBuffer (remLen % 2 ^ 32)) })
        rw [ends_netRead] at hbody ⊢
        have hw₃ := trans_of R hstored hbody
        dsimp only at hw₃ ⊢
        split
        · simpa using hw₃
        · rw [if_pos trivial]
          apply hcomplete _ remLen hw₃
          show (Memory.writeAt (Memory.writeAt _ 1 _) _ _).slice 1 _ = _
          rw [Memory.slice_writeAt_before (Nat.le_refl _), Memory.slice_writeAt_self]
      · rw [if_pos trivial]
        exact hcomplete _ remLen hstored Memory.slice_writeAt_self

/-- `read_packet` returns SUCCESS with a packet just read, and reports its type. -/
theorem readPacket_justRead (packetType : UInt8) :
    (readPacket env fuel packetType : M (IoTError × UInt8)).Ends w
      (fun r w' => if r.1 = .success then ∃ f, JustRead w f w' ∧ r.2 = headerType f.header
        else r.2 = packetType)
      (fun _ => True) := by
  refine (readPacket_read (logGrows_steps env).toTrafficSteps.returning
    (haltsAfter_any LogGrows) packetType).mono ?_ (fun _ _ => trivial)
  intro r w' h
  split
  case isTrue hok =>
    rw [if_pos hok] at h
    obtain ⟨f, w₁, hgrows, rfl, hheld, htype⟩ := h
    exact ⟨f, ⟨hheld, w₁.log, rfl, hgrows⟩, htype⟩
  case isFalse hfail =>
    rw [if_neg hfail] at h
    exact h.2

/-! ## Waiting for an answer -/

/-- The packet types that `cycle_read` only reports. -/
def MessageType.isReported : MessageType → Bool
  | .connack | .puback | .suback | .unsuback | .pubrec | .pubcomp => true
  | .unknown | .connect | .publish | .pubrel | .subscribe | .unsubscribe | .pingreq
  | .pingresp | .disconnect => false

theorem MessageType.isReported_spec {t : MessageType} (h : t.isReported = true) :
    t.code ∈ [MessageType.connack.code, MessageType.puback.code, MessageType.suback.code,
      MessageType.unsuback.code, MessageType.pubrec.code, MessageType.pubcomp.code] ∧
    t.code ≠ 0 := by
  cases t <;> first | exact absurd h (by decide) | decide

variable {callbacks : Callbacks M}

theorem JustRead.trans {w₁ w₂ : World} {f : Frame} (h : LogGrows w w₁) (h' : JustRead w₁ f w₂) :
    JustRead w f w₂ := by
  obtain ⟨hheld, pre, hlog, hpre⟩ := h'
  exact ⟨hheld, pre, hlog, List.IsSuffix.trans h hpre⟩

theorem cycleRead_justRead {t : MessageType}
    (ht : t.isReported = true) (timer : Timer) (packetType : UInt8) :
    (cycleRead env fuel callbacks timer packetType : M (IoTError × UInt8)).Ends w
      (fun r w' => r.2 = t.code → packetType ≠ t.code → r.1 = .success ∧
        ∃ f, JustRead w f w' ∧ headerType f.header = t.code)
      (fun _ => True) := by
  unfold cycleRead
  refine ends_bind.mpr ((readPacket_justRead packetType).mono ?_ (fun _ _ => trivial))
  rintro ⟨rc, readType⟩ w₁ h₁
  dsimp only at h₁ ⊢
  rw [ends_ite]
  split
  case isTrue hnothing =>
    rw [if_neg (by rw [hnothing]; decide)] at h₁
    exact fun heq hne => absurd (h₁.symm.trans heq) hne
  rw [ends_ite]
  split
  case isTrue hrc =>
    rw [if_neg hrc] at h₁
    exact fun heq hne => absurd (h₁.symm.trans heq) hne
  case isFalse hrc =>
    rw [if_pos (not_not.mp hrc)] at h₁
    obtain ⟨f, hjust, htype⟩ := h₁
    by_cases hmem : readType ∈ [MessageType.connack.code, MessageType.puback.code,
        MessageType.suback.code, MessageType.unsuback.code, MessageType.pubrec.code,
        MessageType.pubcomp.code]
    · rw [if_pos hmem]
      exact fun heq _ => ⟨rfl, f, hjust, htype.symm.trans heq⟩
    · -- every other type differs from the awaited one
      have hne : readType ≠ t.code := fun heq => hmem (heq ▸ (MessageType.isReported_spec ht).1)
      rw [if_neg hmem, ends_ite]
      split
      · refine ends_bind.mpr (ends_true.mono ?_ (fun _ _ => trivial))
        exact fun rc w₂ _ heq => absurd heq hne
      · rw [ends_ite]
        split
        · simp only [ends_bind, ends_getClient, ends_countdownSec, ends_modifyClient, ends_pure]
          exact fun heq => absurd heq hne
        · exact fun heq => absurd heq hne

/-- A pass that asks for another one has not seen the awaited type. -/
theorem waitPass_justRead (hwait : Cycling env callbacks (Keeps LogGrows)) {t : MessageType}
    (ht : t.isReported = true) (timer : Timer) {readType : UInt8} {w₁ : World}
    (hne : readType ≠ t.code) (hgrows : LogGrows w w₁) :
    (waitPass env fuel callbacks t.code timer readType :
      M (Step UInt8 (IoTError × UInt8))).Ends w₁
      (fun r w₂ => match r with
        | .again readType' => readType' ≠ t.code ∧ LogGrows w w₂
        | .stop c => LogGrows w w₂ ∧ (c.1 = .mqttRequestTimeoutError ∨
            c.1 = .networkDisconnectedError ∨
            c = (.success, t.code) ∧ ∃ f, JustRead w f w₂ ∧ headerType f.header = t.code))
      (fun _ => True) := by
  unfold waitPass
  simp only [ends_bind, ends_hasTimerExpired, ends_ite, ends_pure]
  split
  · exact ⟨hgrows, .inl trivial⟩
  refine ((cycleRead_justRead ht timer readType).and
    (hwait.cycleRead fuel timer readType w₁.tick)).mono ?_ (fun _ _ => trivial)
  rintro ⟨rc, readType'⟩ w₂ ⟨hread, hlog⟩
  have hgrows' : LogGrows w w₂ := trans_of LogGrows hgrows hlog
  dsimp only at hread ⊢
  split
  case isTrue hagain => exact ⟨hagain.2, hgrows'⟩
  case isFalse hstop =>
    refine ⟨hgrows', .inr ?_⟩
    by_cases hdown : rc = .networkDisconnectedError
    · exact .inl hdown
    · have htype : readType' = t.code := by
        by_contra hother
        exact hstop ⟨hdown, hother⟩
      obtain ⟨rfl, f, hjust, hf⟩ := hread htype hne
      exact .inr ⟨by rw [htype], f, JustRead.trans hgrows hjust, hf⟩

/-- A wait for a packet of type `t` is over: the frame `f` answered it. -/
structure Answered (t : MessageType) (w : World) (f : Frame) (w' : World) : Prop where
  /-- The frame is in the read buffer. -/
  held : f.HeldBy w'.client
  /-- It is of the awaited type. -/
  type : headerType f.header = t.code
  /-- It was read after the wait began, and nothing happened since. -/
  log : ∃ pre, w'.log = .waited t .success :: .packetRead f.bytes :: pre ∧ w.log <:+ pre

/-- `wait_for_read` ends with its result on the log.  SUCCESS means that an answer was
read; the only other results are a timeout and a lost connection. -/
theorem waitForRead_answered (hwait : Cycling env callbacks (Keeps LogGrows)) {t : MessageType}
    (ht : t.isReported = true) (timer : Timer) :
    (waitForRead env fuel callbacks t timer : M IoTError).Ends w
      (fun rc w' => (∃ pre, w'.log = .waited t rc :: pre ∧ w.log <:+ pre) ∧
        (rc = .mqttRequestTimeoutError ∨ rc = .networkDisconnectedError ∨
          rc = .success ∧ ∃ f, Answered t w f w'))
      (fun _ => True) := by
  have hloop : (loop (waitPass env fuel callbacks t.code timer) fuel 0 :
      M (IoTError × UInt8)).Ends w
      (fun c w₂ => LogGrows w w₂ ∧ (c.1 = .mqttRequestTimeoutError ∨
        c.1 = .networkDisconnectedError ∨
        c = (.success, t.code) ∧ ∃ f, JustRead w f w₂ ∧ headerType f.header = t.code))
      (fun _ => True) := by
    refine ends_loop (I := fun readType w₂ => readType ≠ t.code ∧ LogGrows w w₂) ?_
      (fun _ _ _ => trivial) fuel 0 w
      ⟨(MessageType.isReported_spec ht).2.symm, refl_of LogGrows w⟩
    intro readType w₁ hI
    refine (waitPass_justRead hwait ht timer hI.1 hI.2).mono ?_ (fun _ _ => trivial)
    intro r w₂ hr
    cases r with
    | again readType' => exact hr
    | stop c => exact hr
  unfold waitForRead
  refine ends_bind.mpr (hloop.mono ?_ (fun _ _ => trivial))
  rintro ⟨rc, readType⟩ w₂ ⟨hgrows, hread⟩
  dsimp only at hread ⊢
  simp only [ends_bind, ends_emit, ends_pure]
  refine ⟨⟨_, rfl, hgrows⟩, ?_⟩
  rcases hread with rfl | rfl | ⟨heq, f, ⟨hheld, pre, hlog, hpre⟩, hf⟩
  · exact .inl (by simp)
  · exact .inr (.inl (by simp))
  · obtain ⟨rfl, rfl⟩ := Prod.mk.inj heq
    rw [if_neg (by simp)]
    exact .inr (.inr ⟨rfl, f, hheld, hf, pre, by rw [World.log_push, hlog], hpre⟩)

/-! ## Sending a request -/

/-- The event is part of sending a packet. -/
def Event.isSend : Event → Bool
  | .netWrite .. | .sending _ | .sent _ => true
  | .netConnect _ | .netRead .. | .netDisconnect | .netDestroy _ | .packetRead _ | .waited ..
  | .idStored .. | .registered .. | .cleared _ | .tableReset | .tlsInit _ | .resubscribing ..
  | .connectCleanup _ | .disconnectDestroyed _ | .handlerCalled _ | .handlerReturned
  | .disconnectHandled _ | .connectDone _ | .reconnectStarted _ | .reconnectPending ..
  | .reconnectDue .. | .attemptFailed _ | .called _ | .returned .. => false

/-- Nothing but sending happened, and the client is as before. -/
def OnlySends (w w' : World) : Prop :=
  w'.client = w.client ∧ ∃ new, w'.log = new ++ w.log ∧ ∀ e ∈ new, e.isSend = true

instance : IsPreorder World OnlySends where
  refl _ := ⟨rfl, [], rfl, by simp⟩
  trans := by
    rintro w w₁ w₂ ⟨hc, new, hlog, hsend⟩ ⟨hc', new', hlog', hsend'⟩
    refine ⟨hc'.trans hc, new' ++ new, by rw [hlog', hlog, List.append_assoc], ?_⟩
    intro e he
    rcases List.mem_append.mp he with he | he
    · exact hsend' e he
    · exact hsend e he

theorem OnlySends.logGrows {w w' : World} (h : OnlySends w w') : LogGrows w w' := by
  obtain ⟨-, new, hlog, -⟩ := h
  exact ⟨new, hlog.symm⟩

theorem OnlySends.push (w : World) {e : Event} (he : e.isSend = true) : OnlySends w (w.push e) :=
  ⟨rfl, [e], rfl, by simpa using he⟩

theorem sendPass_onlySends (length : Nat) (timer : Timer) (sent : Nat) :
    Keeps OnlySends (sendPass env length timer sent : M (Step Nat Nat)) := by
  intro w
  have htick : ∀ w : World, OnlySends w w.tick := fun _ => ⟨rfl, [], rfl, by simp⟩
  have hwrite : OnlySends w (w.tick.tick.push (writeEvent env length sent w)) :=
    trans_of OnlySends (htick w) (trans_of OnlySends (htick _) (OnlySends.push _ rfl))
  rw [ends_sendPass]
  split
  · split
    · exact htick w
    · split
      · exact hwrite
      · exact hwrite
  · exact refl_of OnlySends w

/-- `send_packet` only sends; after SUCCESS the packet is the last thing on the
log. -/
theorem sendPacket_sent (length : Nat) (timer : Timer) :
    (sendPacket env fuel length timer : M IoTError).Ends w
      (fun rc w' => OnlySends w w' ∧ (rc.isError = true ∨ rc = .success ∧ ∃ pre,
        w'.log = .sent (w.client.writeBuf.slice 0 length) :: pre ∧ w.log <:+ pre))
      (fun _ => True) := by
  by_cases hlen : length < w.client.writeBufSize
  · rw [ends_sendPacket hlen]
    have hstart : OnlySends w (w.push (sendingEvent length w)) := OnlySends.push w rfl
    have hpass : ∀ sent, Keeps OnlySends (sendPass env length timer sent : M (Step Nat Nat)) :=
      sendPass_onlySends length timer
    have hloop := (keeps_compositional OnlySends).loop hpass fuel 0
      (w.push (sendingEvent length w))
    refine hloop.mono ?_ (fun _ _ => trivial)
    intro sent w' hw'
    have hall : OnlySends w w' := trans_of OnlySends hstart hw'
    split
    · refine ⟨trans_of OnlySends hall (OnlySends.push w' rfl),
        .inr ⟨rfl, w'.log, ?_, hall.logGrows⟩⟩
      rw [World.log_push, sentEvent, hall.1]
    · exact ⟨hall, .inl rfl⟩
  · have hge : length ≥ w.client.writeBufSize := Nat.le_of_not_lt hlen
    simp [sendPacket, hge, refl_of OnlySends w, IoTError.isError]

/-! ## An exchange -/

/-- The packet that ended the last wait of a stretch of the log, if the wait was
for type `t` and ended with SUCCESS. -/
def lastAnswer (t : MessageType) : List Event → Option (List UInt8)
  | .waited t' rc :: .packetRead packet :: _ =>
      if t' = t ∧ rc = .success then some packet else none
  | .waited .. :: _ => none
  | _ :: log => lastAnswer t log
  | [] => none

/-- Since `w` no wait for type `t` was answered, or another wait came after it. -/
def Unanswered (t : MessageType) (w w' : World) : Prop :=
  ∃ new, w'.log = new ++ w.log ∧ lastAnswer t new = none

/-- Since `w` the packet `request` was sent, and then the frame `f` of type `t`
answered the wait. -/
structure Exchanged (t : MessageType) (request : List UInt8) (w : World) (f : Frame)
    (w' : World) : Prop where
  /-- The frame is in the read buffer. -/
  held : f.HeldBy w'.client
  /-- It is of the awaited type. -/
  type : headerType f.header = t.code
  /-- It was read after the request was sent, and nothing happened since. -/
  log : ∃ mid pre, w'.log =
    .waited t .success :: .packetRead f.bytes :: (mid ++ .sent request :: (pre ++ w.log))

theorem lastAnswer_of_isSend {t : MessageType} : ∀ {new : List Event},
    (∀ e ∈ new, e.isSend = true) → lastAnswer t new = none := by
  intro new
  induction new with
  | nil => intro _; rfl
  | cons e new ih =>
    intro h
    have he : e.isSend = true := h e (by simp)
    have hnew := ih fun e he => h e (List.mem_cons_of_mem _ he)
    cases e with
    | waited => simp [Event.isSend] at he
    | _ => exact hnew

theorem Exchanged.answer {t : MessageType} {request : List UInt8} {w w' : World} {f : Frame}
    (h : Exchanged t request w f w') :
    ∃ new, w'.log = new ++ w.log ∧ lastAnswer t new = some f.bytes := by
  obtain ⟨mid, pre, hlog⟩ := h.log
  refine ⟨.waited t .success :: .packetRead f.bytes :: (mid ++ .sent request :: pre),
    by simp [hlog], ?_⟩
  simp [lastAnswer]

/-- The rule of an exchange: the packet in the write buffer is sent, a packet of
type `t` is awaited, and `k` looks at the answer. -/
theorem ends_exchange (hwait : Cycling env callbacks (Keeps LogGrows)) {t : MessageType}
    (ht : t.isReported = true) {length : Nat} {timer : Timer} {k : M IoTError}
    {Q : IoTError → World → Prop}
    (hfail : ∀ rc w', rc.isError = true → Unanswered t w w' → Q rc w')
    (hk : ∀ f w', Exchanged t (w.client.writeBuf.slice 0 length) w f w' →
      k.Ends w' Q (fun _ => True)) :
    (do let rc ← sendPacket env fuel length timer
        if rc ≠ .success then return rc
        let rc ← waitForRead env fuel callbacks t timer
        if rc ≠ .success then return rc
        k : M IoTError).Ends w Q (fun _ => True) := by
  refine ends_bind.mpr ((sendPacket_sent length timer).mono ?_ (fun _ _ => trivial))
  rintro rc w₁ ⟨⟨-, new, hnew, hsend⟩, herror | ⟨rfl, pre, hlog, before, hbefore⟩⟩
  · rw [if_pos (IoTError.ne_success_of_isError herror)]
    exact hfail rc w₁ herror ⟨new, hnew, lastAnswer_of_isSend hsend⟩
  rw [if_neg (by simp)]
  refine ends_bind.mpr ((waitForRead_answered hwait ht timer).mono ?_ (fun _ _ => trivial))
  rintro rc w₂ ⟨⟨pre₂, hlog₂, mid₂, hmid₂⟩, hanswer⟩
  have hunanswered : rc ≠ .success → Unanswered t w w₂ := by
    intro hrc
    refine ⟨.waited t rc :: (mid₂ ++ new), by rw [hlog₂, ← hmid₂, hnew]; simp, ?_⟩
    cases mid₂ ++ new with
    | nil => rfl
    | cons e rest => cases e <;> simp [lastAnswer, hrc]
  rcases hanswer with rfl | rfl | ⟨rfl, f, hheld, htype, pre₃, hlog₃, mid, hmid⟩
  · exact hfail _ w₂ rfl (hunanswered (by decide))
  · exact hfail _ w₂ rfl (hunanswered (by decide))
  · rw [if_neg (by simp)]
    exact hk f w₂ ⟨hheld, htype, mid, before, by rw [hlog₃, ← hmid, hlog, ← hbefore]⟩

end

end AwsIot.Mqtt
