/-
  Mqtt/AnswerDelivered.lean --- the wait for an answer that the network delivers.

  While a request waits for its answer, the messages that arrive are delivered, and
  a handler may make requests of its own, whose waits read from the same stream.
  The request's wait itself takes the packets one by one: from one pass to the next
  it stays in front of its answer, and in time (`waitPass_onTheWay`), as long as no
  handler takes the answer and the client comes back to the stream before the timer
  expires.  So the wait ends with SUCCESS (`waitForRead_onTheWay`).
-/
import AwsIot.Mqtt.AnswerSeen
import AwsIot.Mqtt.DeliveredStream

set_option autoImplicit false

namespace AwsIot.Mqtt

open AwsIot.Foundation Program

theorem Feed.Ends.and {F : Feed} {α : Type} {m : M α} {w : World} {Q P : α → World → Prop}
    {H : World → Prop} (h : F.Ends m w Q) (h' : m.Ends w P H) :
    F.Ends m w fun a w' => Q a w' ∧ P a w' :=
  (Program.Ends.and h h').mono (fun _ _ h => ⟨h.1.1, fun hfair => ⟨h.1.2 hfair, h.2⟩⟩)
    (fun _ h => h.1)

section Waits

variable {env : Env} {fuel latest deadline : Nat} {callbacks : Callbacks M} {d : Delivery}
  {t : MessageType} {w₀ w : World}

/-- The call that began in `w₀` stands in front of its answer, and is in time. -/
def OnTheWay (env : Env) (d : Delivery) (deadline : Nat) (w₀ w : World) : Prop :=
  d.InFront (takenBytes w₀.history) (takenBytes w.history) ∧ env.clock w.time < deadline

/-- What the wait for an answer needs: a clock that runs, a stream that arrives, fuel for its
packets and up to the deadline, and room for the answer. -/
structure Provided (env : Env) (fuel latest deadline : Nat) (d : Delivery) (t : MessageType)
    (w₀ : World) : Prop where
  /-- The clock does not go back. -/
  clock : Monotone env.clock
  /-- The answer arrives. -/
  arrives : d.Arrives env.clock deadline t w₀
  /-- The deadline passes. -/
  passes : deadline ≤ env.clock latest
  /-- Fuel up to then. -/
  lasts : latest < w₀.time + fuel
  /-- Fuel for every packet. -/
  frames : ∀ f ∈ d.packets, f.bytes.length ≤ fuel
  /-- The read buffer can hold the answer. -/
  fits : d.answer.body.length + 2 ≤ w₀.client.readBufSize

theorem Provided.lt (h : Provided env fuel latest deadline d t w₀)
    (hw : env.clock w.time < deadline) : w.time < latest := by
  by_contra hle
  have hclock := h.clock (Nat.le_of_not_lt hle)
  have hpasses := h.passes
  omega

theorem Provided.fuel_lt (h : Provided env fuel latest deadline d t w₀) (hw : Along w₀ w)
    (hclock : env.clock w.time < deadline) : latest - w.time < fuel := by
  have hlasts := h.lasts
  have hlt := h.lt hclock
  have hgoes := hw.1.1
  omega

variable (hp : Provided env fuel latest deadline d t w₀)
include hp

/-- An event that is no read keeps the call on the way. -/
theorem OnTheWay.push (hw : Grows w₀ w)
    (h : d.InFront (takenBytes w₀.history) (takenBytes w.history)) {e : Event}
    (htakes : e.takes = 0) (hfound : e.foundNothing = false) (hbehind : e.questionsBehind = 0)
    (hfair : d.Fair env.clock deadline w₀ (w.push e)) : OnTheWay env d deadline w₀ (w.push e) := by
  have hposition : takenBytes (w.push e).history = takenBytes w.history := by
    show takenBytes w.history + e.takes = takenBytes w.history
    rw [htakes, Nat.add_zero]
  have htime := hfair.inTime hp.clock hp.arrives hw.length_le rfl hfound
    (by rw [hposition]; exact h.le)
  refine ⟨by rw [hposition]; exact h, ?_⟩
  dsimp only at htime
  rw [hbehind] at htime
  exact htime

/-! ## Acknowledging a message -/

theorem sendPass_onTheWay (length sent : Nat) (hw : Along w₀ w)
    (h : OnTheWay env d deadline w₀ w) :
    (d.feed env.clock deadline w₀).Ends (sendPass env length deadline sent) w fun r w' =>
      match r with
        | .again _ => OnTheWay env d deadline w₀ w' ∧ latest - w'.time < latest - w.time
        | .stop _ => OnTheWay env d deadline w₀ w' := by
  have hlt : w.time < latest := hp.lt h.2
  have hasked : Along w₀ w.tick.tick :=
    trans_of Along hw (trans_of Along (along_steps.tick w) (along_steps.tick _))
  have hwritten : Along w₀ (w.tick.tick.push (writeEvent env length sent w)) :=
    trans_of Along hasked (along_push (by simp [writeEvent, Event.kind]) _)
  unfold Feed.Ends
  rw [ends_sendPass]
  split
  case isFalse => exact ⟨hw, fun _ => h⟩
  rw [if_neg (Nat.not_le_of_lt h.2)]
  split
  · exact ⟨hwritten, fun hfair => OnTheWay.push hp hasked.1 h.1 rfl rfl rfl hfair⟩
  · refine ⟨hwritten, fun hfair => ⟨OnTheWay.push hp hasked.1 h.1 rfl rfl rfl hfair, ?_⟩⟩
    show latest - (w.time + 2) < latest - w.time
    omega

/-- Sending keeps the call on the way. -/
theorem sendPacket_onTheWay (length : Nat) (hw : Along w₀ w) (h : OnTheWay env d deadline w₀ w) :
    (d.feed env.clock deadline w₀).Ends (sendPacket env fuel length deadline) w fun _ w' =>
      OnTheWay env d deadline w₀ w' := by
  have hmoves := d.feed_moves env.clock deadline w₀
  have htail : ∀ sent, (d.feed env.clock deadline w₀).Moves (do
      if sent ≠ length then return .failure
      emit fun c => .sent (c.writeBuf.slice 0 length)
      return .success : M IoTError) := fun sent =>
    hmoves.ite (fun _ => hmoves.pure _) fun _ =>
      hmoves.bind (hmoves.emit fun _ => rfl) fun _ => hmoves.pure _
  unfold sendPacket
  refine ends_bind.mpr (ends_getClient.mpr ?_)
  split
  · exact ⟨hw, fun _ => h⟩
  have hsending : (d.feed env.clock deadline w₀).Ends
      (emit fun c => .sending (c.writeBuf.slice 0 length) : M Unit) w
      fun _ w' => OnTheWay env d deadline w₀ w' :=
    ends_emit.mpr ⟨trans_of Along hw (along_push (by simp [Event.kind]) w), fun hfair =>
      OnTheWay.push hp hw.1 h.1 rfl rfl rfl hfair⟩
  refine Feed.Ends.bind
    (fun _ => hmoves.bind (hmoves.loop (hmoves.sendPass env length deadline) fuel 0) htail)
    hsending ?_
  intro _ w₁ hw₁ _ h₁
  refine Feed.Ends.bind htail (P := fun _ w' => OnTheWay env d deadline w₀ w')
    (Feed.Ends.loop (v := fun w' => latest - w'.time)
      (I := fun _ w' => OnTheWay env d deadline w₀ w') hmoves.toCompositional
      (hmoves.sendPass env length deadline) ?_ fuel 0 w₁ (hp.fuel_lt hw₁ h₁.2) hw₁ h₁) ?_
  · intro sent w₂ hw₂ h₂
    refine (sendPass_onTheWay hp length sent hw₂ h₂).mono ?_
    intro r w₃ _ hr
    cases r with
    | again sent' => exact hr
    | stop sent' => exact hr
  · intro sent w₂ hw₂ _ h₂
    split
    · exact .pure hw₂ fun _ => h₂
    · exact ends_bind.mpr (ends_emit.mpr ⟨trans_of Along hw₂ (along_push (by simp [Event.kind]) w₂),
        fun hfair => OnTheWay.push hp hw₂.1 h₂.1 rfl rfl rfl hfair⟩)

/-! ## Delivering a message -/

section Delivering

variable (hmessage : ∀ call, Tracks Along Grows (callbacks.message call))
  (hnests : ∀ call, Tracks Nests NestsHalted (callbacks.message call))
include hmessage hnests

/-- A handler that returns has left the answer to the call. -/
theorem deliverToSlot_onTheWay (msg : IncomingPublish) (itr : Nat) (hw : Along w₀ w)
    (h : OnTheWay env d deadline w₀ w) :
    (d.feed env.clock deadline w₀).Ends (deliverToSlot callbacks msg itr) w fun _ w' =>
      OnTheWay env d deadline w₀ w' := by
  unfold Feed.Ends
  rw [ends_deliverToSlot]
  cases slotCall w.client msg itr with
  | none => exact ⟨hw, fun _ => h⟩
  | some call =>
    refine ((hmessage call _).and (hnests call _)).mono ?_ ?_
    · rintro - w' ⟨halong, -⟩
      have hgrows : Grows w₀ w' :=
        trans_of Grows hw.1 (trans_of Grows (grows_push w _) halong.1)
      refine ⟨trans_of Along hw (along_handler halong), fun hfair => ?_⟩
      have hleft := hfair.left _ (newest_passed hgrows.length_le rfl) rfl
      exact OnTheWay.push hp hgrows hleft rfl rfl rfl hfair
    · -- a handler that does not return is still running
      rintro w' ⟨-, new, hnew, hunfinished⟩ -
      obtain ⟨before, hbefore, hbalanced⟩ := hw.2.1
      refine ⟨before ++ .handlerCalled call :: new, ?_, ?_⟩
      · exact hbefore.trans (((Extends.refl w).push _).trans hnew)
      · rw [depthAfter_append, hbalanced.depth]
        exact hunfinished.depth 1

theorem deliverMessage_onTheWay (msg : IncomingPublish) (hw : Along w₀ w)
    (h : OnTheWay env d deadline w₀ w) :
    (d.feed env.clock deadline w₀).Ends (deliverMessage env callbacks msg) w fun _ w' =>
      OnTheWay env d deadline w₀ w' := by
  have hstate : ∀ (w₁ : World) s, Along w₀ w₁ → Along w₀ (w₁.withState s) := fun w₁ s hw₁ =>
    trans_of Along hw₁ ⟨refl_of Grows w₁, nests_of_log rfl, refl_of LogGrows w₁, .inl rfl⟩
  have hcomp := tracks_compositional along_halted
  have hslots : ∀ (slots : List Nat) (w₁ : World), Along w₀ w₁ → OnTheWay env d deadline w₀ w₁ →
      (d.feed env.clock deadline w₀).Ends (forEach (deliverToSlot callbacks msg) slots) w₁
        fun _ w' => OnTheWay env d deadline w₀ w' := by
    intro slots
    induction slots with
    | nil => exact fun w₁ hw₁ h₁ => ⟨hw₁, fun _ => h₁⟩
    | cons itr slots ih =>
      intro w₁ hw₁ h₁
      exact Feed.Ends.bind (fun _ => hcomp.forEach (deliverToSlot_along hmessage msg) slots)
        (deliverToSlot_onTheWay hp hmessage hnests msg itr hw₁ h₁)
        fun _ w₂ hw₂ _ h₂ => ih w₂ hw₂ h₂
  unfold Feed.Ends deliverMessage
  simp only [ends_bind, ends_getClientState, ends_setClientState, if_true]
  refine Program.Ends.mono (hslots _ _ (hstate w _ hw) h) ?_ (fun _ h => h)
  rintro _ w₁ ⟨hw₁, h₁⟩
  split
  · have hsame : ∀ s, Grows w₁ (w₁.withState s) := fun _ => refl_of Grows w₁
    exact ⟨hstate w₁ _ hw₁, fun hfair => h₁ (Delivery.Fair.of_grows (hsame _) hfair)⟩
  · exact ⟨hw₁, h₁⟩

omit hmessage hnests in
theorem acknowledgeReceived_onTheWay (id : UInt16) (hw : Along w₀ w)
    (h : OnTheWay env d deadline w₀ w) :
    (d.feed env.clock deadline w₀).Ends (acknowledgeReceived env fuel deadline id : M IoTError) w
      fun _ w' => OnTheWay env d deadline w₀ w' := by
  unfold Feed.Ends acknowledgeReceived
  simp only [ends_bind, ends_getClient, ends_storePacket]
  split
  case h_1 hser =>
    exfalso
    unfold serializeAck at hser
    split at hser
    · cases hser
    · split at hser <;> cases hser
  case h_2 rc hser => exact ⟨hw, fun _ => h⟩
  case h_3 packet hser =>
    have hstored := along_steps.onClient w
      (fun c => { c with writeBuf := c.writeBuf.writeAt 0 packet }) fun _ => ⟨rfl, rfl, rfl, rfl⟩
    exact sendPacket_onTheWay hp (packet.length % 2 ^ 32) (trans_of Along hw hstored) h

/-- Handling a PUBLISH keeps the call on the way. -/
theorem handlePublish_onTheWay (hw : Along w₀ w) (h : OnTheWay env d deadline w₀ w) :
    (d.feed env.clock deadline w₀).Ends (handlePublish env fuel callbacks deadline) w
      fun _ w' => OnTheWay env d deadline w₀ w' := by
  have hmoves := d.feed_moves env.clock deadline w₀
  have hids : ∀ (w₁ : World) (f : List (Option UInt16) → List (Option UInt16)), Along w₁
      (w₁.onClient fun c => { c with receivedIds := f c.receivedIds }) := fun w₁ f =>
    along_steps.onClient w₁ _ fun _ => ⟨rfl, rfl, rfl, rfl⟩
  unfold handlePublish
  refine ends_bind.mpr (ends_getClient.mpr ?_)
  split
  case h_1 rc _ => exact ⟨hw, fun _ => h⟩
  case h_2 msg _ =>
    have hdelivered : (d.feed env.clock deadline w₀).Ends (deliverReceived env callbacks msg) w
        fun _ w' => OnTheWay env d deadline w₀ w' := by
      unfold Feed.Ends
      rw [ends_deliverReceived]
      have hreceiving : Along w₀ (w.receiving msg) :=
        trans_of Along hw (hids w fun ids => msg.id :: ids)
      refine Program.Ends.mono (deliverMessage_onTheWay hp hmessage hnests msg hreceiving h) ?_
        (fun _ h => h)
      rintro rc w₁ ⟨hw₁, h₁⟩
      have hreceived : Along w₁ w₁.received := hids w₁ List.tail
      exact ⟨trans_of Along hw₁ hreceived, fun hfair =>
        h₁ (Delivery.Fair.of_grows hreceived.1 hfair)⟩
    refine Feed.Ends.bind (fun r => hmoves.ite (fun _ => hmoves.pure _) fun _ =>
      hmoves.ite (fun _ => hmoves.pure _) fun _ => hmoves.acknowledgeReceived env fuel deadline _)
      hdelivered ?_
    rintro ⟨rc, id⟩ w₁ hw₁ - h₁
    dsimp only
    split
    · exact ⟨hw₁, fun _ => h₁⟩
    split
    · exact ⟨hw₁, fun _ => h₁⟩
    · exact acknowledgeReceived_onTheWay hp (id.getD 0) hw₁ h₁

/-! ## The wait -/

omit hmessage hnests in
/-- A packet in front of the answer was dropped. -/
theorem onTheWay_dropped {w₁ : World} (hw : Along w₀ w) (hgrows : Grows w w₁)
    (hlt : takenBytes w.history < takenBytes w₁.history)
    (h : d.InFront (takenBytes w₀.history) (takenBytes w₁.history)) (hserved : JustServed w₁)
    (hfair : d.Fair env.clock deadline w₀ w₁) : OnTheWay env d deadline w₀ w₁ := by
  obtain ⟨site, state, offset, len, readLen, bytes, client, older, hhistory⟩ := hserved
  have hle : w₀.history.length ≤ older.length := by
    have hbefore := hw.1.length_le
    obtain ⟨-, new, hnew, -⟩ := hgrows
    cases new with
    | nil =>
      rw [hnew] at hlt
      exact absurd hlt (Nat.lt_irrefl _)
    | cons m new =>
      rw [hnew] at hhistory
      have holder : older = new ++ w.history := (List.cons.inj hhistory).2.symm
      rw [holder, List.length_append]
      omega
  exact ⟨h, hfair.inTime hp.clock hp.arrives hle hhistory rfl h.le⟩

/-- A pass of the wait finds nothing, takes a packet in front of the answer, or reads one of
the awaited type. -/
theorem cycleRead_onTheWay (ht : t.isReported = true) {packetType : UInt8}
    (hne : packetType ≠ t.code) (hw : Along w₀ w)
    (h : d.InFront (takenBytes w₀.history) (takenBytes w.history)) :
    (d.feed env.clock deadline w₀).Ends (cycleRead env fuel callbacks deadline packetType) w
      fun r w' => r = (.success, t.code) ∨
        r.1 ≠ .networkDisconnectedError ∧ r.2 ≠ t.code ∧ OnTheWay env d deadline w₀ w' := by
  have hmoves := d.feed_moves env.clock deadline w₀
  have hwait : Waiting env callbacks (d.feed env.clock deadline w₀).Moves := waiting_along hmessage
  refine Feed.Ends.of_fair (hwait.cycleRead fuel deadline packetType) hw fun hfair => ?_
  obtain ⟨f, hmem, hslice, hnext⟩ := h.next hp.arrives.stream
  have hframe := f.parts_lt (hp.frames f hmem)
  have hsize : w.client.readBufSize = w₀.client.readBufSize := hfair.size hw
  have hfits := hp.fits
  have hbytes : 0 < f.bytes.length := by rw [WireFrame.bytes, List.length_cons]; omega
  unfold cycleRead
  refine Feed.Ends.bind ?_ (((readPacket_served hmoves f packetType hw (by omega) hframe hslice).and
    (hmoves.readPacket env fuel packetType w)).and
    (readPacket_read (along_steps.toTrafficSteps.tracking along_halted) along_halted packetType)) ?_
  · have hdone : ∀ r, (d.feed env.clock deadline w₀).Moves (pure r : M (IoTError × UInt8)) :=
      fun _ => hmoves.pure _
    refine fun r => hmoves.ite (fun _ => hdone _) fun _ => hmoves.ite (fun _ => hdone _) fun _ => ?_
    refine hmoves.ite (fun _ => hdone _) fun _ => hmoves.ite (fun _ => ?_) fun _ =>
      hmoves.ite (fun _ => ?_) fun _ => hdone _
    · exact hmoves.bind (hwait.handlePublish fuel deadline) fun _ => hdone _
    · refine hmoves.bind hmoves.getClient fun c => ?_
      refine hmoves.bind (hmoves.countdownSec env _) fun t => ?_
      exact hmoves.bind (hwait.modifyTimer ⟨fun _ => ⟨rfl, rfl, rfl, rfl⟩, fun _ => rfl⟩) fun _ =>
        hdone _
  rintro ⟨rc, readType⟩ w₁ hw₁ hfair₁ ⟨⟨⟨hsize₁, hcases⟩, halong⟩, hread⟩
  dsimp only at hread ⊢
  rcases hcases with ⟨hreport, hposition, hserved⟩ | ⟨hnothing, hposition, hread'⟩
  case inr =>
    -- no packet has arrived
    obtain ⟨rfl, rfl⟩ := Prod.mk.inj hnothing
    rw [if_pos rfl]
    refine .pure hw₁ fun _ => .inr ⟨by simp, hne, ?_, ?_⟩
    · rw [show takenBytes w₁.history = _ from hposition]
      exact h
    · exact hfair₁.inTime_of_nothing hp.clock hp.arrives hw.1 hread' h.le
  have hbehind : f ≠ d.answer → d.InFront (takenBytes w₀.history) (takenBytes w₁.history) := by
    intro hother
    rw [show takenBytes w₁.history = _ from hposition]
    exact hnext.resolve_right hother
  unfold WireFrame.report at hreport
  split at hreport
  case isTrue hlong =>
    -- a packet that is too long is dropped; the answer is not
    obtain ⟨rfl, rfl⟩ := Prod.mk.inj hreport
    have hother : f ≠ d.answer := by
      rintro rfl
      omega
    rw [if_neg (by simp), if_pos (by simp)]
    refine .pure hw₁ fun _ => .inr ⟨by simp, hne, ?_⟩
    refine onTheWay_dropped hp hw halong.1 ?_ (hbehind hother) (hserved (by simp)) hfair₁
    rw [show takenBytes w₁.history = _ from hposition]
    exact Nat.lt_add_of_pos_right hbytes
  obtain ⟨rfl, rfl⟩ := Prod.mk.inj hreport
  rw [if_neg (by simp), if_neg (by simp)]
  by_cases hown : headerType f.header = t.code
  · rw [if_pos (hown ▸ (MessageType.isReported_spec ht).1)]
    exact .pure hw₁ fun _ => .inl (by rw [hown])
  have hother : f ≠ d.answer := by
    rintro rfl
    exact hown hp.arrives.type
  -- the packet was read just now, and the client is in time
  obtain ⟨g, w₂, hw₂, rfl, -, hg⟩ := by rw [if_pos rfl] at hread; exact hread
  have hgrows₂ : Grows w₀ w₂ := trans_of Grows hw.1 hw₂.1
  have hnow := hfair₁.inTime hp.clock hp.arrives hgrows₂.length_le rfl rfl (hbehind hother).le
  have hontheway : OnTheWay env d deadline w₀ (w₂.push (.packetRead g.bytes)) :=
    ⟨hbehind hother, Nat.lt_of_le_of_lt (hp.clock (Nat.le_add_right _ _)) hnow⟩
  split
  · exact .pure hw₁ fun _ => .inr ⟨by simp, hown, hontheway⟩
  split
  · refine Feed.Ends.bind (fun _ => hmoves.pure _)
      ((handlePublish_onTheWay hp hmessage hnests hw₁ hontheway).and
        (handlePublish_notLost deadline _)) ?_
    rintro rc w₃ hw₃ - ⟨h₃, hlost⟩
    refine .pure hw₃ fun _ => .inr ⟨?_, hown, h₃⟩
    rintro rfl
    cases hlost
  split
  case isTrue hping =>
    -- the ping timer asks for the time once more
    have hasked : env.clock (w₂.time + 1) < deadline := by
      have hquestions : (Event.packetRead g.bytes).questionsBehind = 1 := by
        show (if headerType ((g.bytes).headD 0) = MessageType.pingresp.code then 1 else 0) = 1
        exact if_pos (hg.symm.trans hping)
      rw [hquestions] at hnow
      exact hnow
    have hset : ∀ (w₃ : World) timer, Along w₃
        (w₃.onClient fun c => { c with isPingOutstanding := false, pingTimer := timer }) :=
      fun w₃ _ => along_steps.onClient w₃ _ fun _ => ⟨rfl, rfl, rfl, rfl⟩
    unfold Feed.Ends
    simp only [ends_bind, ends_getClient, ends_countdownSec, ends_modifyClient, ends_pure]
    refine ⟨trans_of Along (trans_of Along hw₁ (along_steps.tick _)) (hset _ _), fun _ => ?_⟩
    exact .inr ⟨by simp, hown, hbehind hother, hasked⟩
  · exact .pure hw₁ fun _ => .inr ⟨by simp, hown, hontheway⟩

/-- A pass that is in time brings the client nearer to its answer, or reads it. -/
theorem readPass_onTheWay (ht : t.isReported = true) {readType : UInt8}
    (hne : readType ≠ t.code) (hw : Along w₀ w)
    (h : d.InFront (takenBytes w₀.history) (takenBytes w.history)) :
    (d.feed env.clock deadline w₀).Ends (do
      let (rc, readType) ← cycleRead env fuel callbacks deadline readType
      if rc ≠ .networkDisconnectedError ∧ readType ≠ t.code then return .again readType
      return .stop (rc, readType) : M (Step UInt8 (IoTError × UInt8))) w
      fun r w' => match r with
        | .again readType' => (readType' ≠ t.code ∧ OnTheWay env d deadline w₀ w') ∧
            w.time ≤ w'.time
        | .stop c => c = (.success, t.code) := by
  have hmoves := d.feed_moves env.clock deadline w₀
  have hwait : Waiting env callbacks (d.feed env.clock deadline w₀).Moves := waiting_along hmessage
  refine Feed.Ends.bind (fun r => hmoves.ite (fun _ => hmoves.pure _) fun _ => hmoves.pure _)
    ((cycleRead_onTheWay hp hmessage hnests ht hne hw h).and
      (hwait.cycleRead fuel deadline readType w)) ?_
  rintro ⟨rc, readType'⟩ w' hw' - ⟨hread, halong⟩
  dsimp only
  rcases hread with heq | ⟨hrc, hother, hway⟩
  · obtain ⟨rfl, rfl⟩ := Prod.mk.inj heq
    rw [if_neg (by simp)]
    exact .pure hw' fun _ => rfl
  · rw [if_pos ⟨hrc, hother⟩]
    exact .pure hw' fun _ => ⟨⟨hother, hway⟩, halong.1.1⟩

/-- A pass of the wait leaves less time, or reads the answer. -/
theorem waitPass_onTheWay (ht : t.isReported = true) {readType : UInt8}
    (hne : readType ≠ t.code) (hw : Along w₀ w) (h : OnTheWay env d deadline w₀ w) :
    (d.feed env.clock deadline w₀).Ends (waitPass env fuel callbacks t.code deadline readType) w
      fun r w' => match r with
        | .again readType' => (readType' ≠ t.code ∧ OnTheWay env d deadline w₀ w') ∧
            latest - w'.time < latest - w.time
        | .stop c => c = (.success, t.code) := by
  have hlt : w.time < latest := hp.lt h.2
  have htick : Along w₀ w.tick := trans_of Along hw (along_steps.tick w)
  unfold waitPass
  refine ends_bind.mpr (ends_hasTimerExpired.mpr ?_)
  rw [decide_eq_false (Nat.not_le_of_lt h.2)]
  refine (readPass_onTheWay hp hmessage hnests ht hne htick h.1).mono ?_
  intro r w' _ hr
  cases r with
  | again readType' =>
    have hgoes : w.time + 1 ≤ w'.time := hr.2
    exact ⟨hr.1, by omega⟩
  | stop c => exact hr

/-- The wait finds the answer. -/
theorem waitForRead_onTheWay (ht : t.isReported = true) (hw : Along w₀ w)
    (h : OnTheWay env d deadline w₀ w) :
    (d.feed env.clock deadline w₀).Ends (waitForRead env fuel callbacks t deadline) w
      fun rc _ => rc = .success := by
  have hmoves := d.feed_moves env.clock deadline w₀
  have hwait : Waiting env callbacks (d.feed env.clock deadline w₀).Moves := waiting_along hmessage
  have hne : (0 : UInt8) ≠ t.code := (MessageType.isReported_spec ht).2.symm
  have hloop : (d.feed env.clock deadline w₀).Ends
      (loop (waitPass env fuel callbacks t.code deadline) fuel 0) w
      fun c _ => c = (.success, t.code) := by
    refine Feed.Ends.loop (v := fun w' => latest - w'.time)
      (I := fun readType w' => readType ≠ t.code ∧ OnTheWay env d deadline w₀ w')
      hmoves.toCompositional (hwait.cycling.waitPass fuel t.code deadline) ?_ fuel 0 w
      (hp.fuel_lt hw h.2) hw ⟨hne, h⟩
    rintro readType w₁ hw₁ ⟨hne₁, h₁⟩
    refine (waitPass_onTheWay hp hmessage hnests ht hne₁ hw₁ h₁).mono ?_
    intro r w₂ _ hr
    cases r with
    | again readType' => exact hr
    | stop c => exact hr
  unfold waitForRead
  refine Feed.Ends.bind (fun r => hmoves.bind (hmoves.emit fun _ => rfl) fun _ => hmoves.pure _)
    hloop ?_
  rintro _ w₁ hw₁ - rfl
  exact ends_bind.mpr (ends_emit.mpr
    ⟨trans_of Along hw₁ (along_push (by simp [Event.kind]) w₁), fun _ => if_neg (by simp)⟩)

end Delivering

end Waits

end AwsIot.Mqtt
