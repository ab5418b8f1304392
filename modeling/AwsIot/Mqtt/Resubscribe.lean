/-
  Mqtt/Resubscribe.lean --- which subscriptions a reconnect restores.

  `_aws_iot_mqtt_internal_resubscribe` counts its turns by the index of the first
  free slot, but an unsubscribe can free any slot.  A slot in use above a free one
  is left out.  While no handler changes the table, a resubscribe that returns
  SUCCESS has restored every subscription exactly when every slot in use lies below
  the first free one, or asks for what such a slot asks for (`restored_iff_covered`).
-/
import AwsIot.Mqtt.RequestRules

set_option autoImplicit false

namespace AwsIot.Mqtt

open AwsIot.Foundation Reader Program

/-! ## The SUBSCRIBE layout -/

/-- What a SUBSCRIBE packet for one filter asks for. -/
structure SubscribeFields where
  /-- The topic filter. -/
  filter : List UInt8
  /-- The requested quality of service. -/
  qos : UInt8
  deriving DecidableEq, Repr

/-- Read the packet id, the filter and the quality of service. -/
def readSubscribeBody : Reader SubscribeFields := do
  let _ ← uint16
  let filter ← readString
  let qos ← byte
  return ⟨filter, qos⟩

/-- Read the fixed header of a SUBSCRIBE packet: the remaining length. -/
def readSubscribeHeader : Reader Nat := do
  let header ← byte
  check (header == 0x82)
  base128 4

/-- Decode a whole SUBSCRIBE packet for one filter. -/
def decodeSubscribe (packet : List UInt8) : Option SubscribeFields :=
  match readSubscribeHeader.run packet with
  | some (len, body) => if len = body.length then readSubscribeBody.readAll body else none
  | none => none

/-- What the serializer writes for one filter. -/
theorem serializeSubscribe_packet {txBufLen : Nat} {id : UInt16} {topicName : Option CharPtr}
    {topicNameLen : UInt16} {qos : QoS} {packet : List UInt8}
    (h : serializeSubscribe txBufLen 0 id [⟨topicName, topicNameLen, qos⟩] = .packet packet) :
    ∃ topic, writeUtf8String topicName topicNameLen = some topic ∧
      packet = 0x82 :: (writeLenToBuffer (topicNameLen.toNat + 5) ++
        (writeUint16 id ++ (topic ++ [qos.toByte]))) := by
  have hlt := topicNameLen.toNat_lt
  have hlen : (2 + (topicNameLen.toNat + 2 + 1)) % 2 ^ 32 = topicNameLen.toNat + 5 := by omega
  have hheader : initHeader .subscribe .qos1 0 0 = .ok 0x82 := rfl
  unfold serializeSubscribe at h
  rw [hheader] at h
  simp only [List.foldl_cons, List.foldl_nil, hlen] at h
  split at h
  · cases h
  · cases htopic : writeUtf8String topicName topicNameLen with
    | none => simp [htopic, Serialized.ofBytes] at h
    | some topic =>
      refine ⟨topic, rfl, ?_⟩
      simpa [htopic, Serialized.ofBytes, eq_comm] using h

/-- A SUBSCRIBE packet decodes to the filter and the quality of service asked for. -/
theorem decodeSubscribe_serializeSubscribe {txBufLen : Nat} {id : UInt16}
    {topicName : Option CharPtr} {topicNameLen : UInt16} {qos : QoS} {packet : List UInt8}
    (h : serializeSubscribe txBufLen 0 id [⟨topicName, topicNameLen, qos⟩] = .packet packet) :
    decodeSubscribe (sentPart packet) = some ⟨stringAt topicName topicNameLen, qos.toByte⟩ := by
  obtain ⟨topic, htopic, rfl⟩ := serializeSubscribe_packet h
  have hlt := topicNameLen.toNat_lt
  have htopicLen := length_writeUtf8String htopic
  have hbody : (writeUint16 id ++ (topic ++ [qos.toByte])).length = topicNameLen.toNat + 5 := by
    simp [writeUint16, htopicLen]
    omega
  have hdigits := length_writeLenDigits_le 5 (topicNameLen.toNat + 5)
  have hsent : ∀ packet : List UInt8, packet.length < 2 ^ 32 → sentPart packet = packet := by
    intro packet hpacket
    rw [sentPart, Nat.mod_eq_of_lt hpacket, List.take_length]
  rw [hsent _ (by simp only [List.length_cons, List.length_append, writeLenToBuffer] at hbody ⊢
                  omega)]
  have hheader : Reads readSubscribeHeader ([0x82] ++ writeLenToBuffer (topicNameLen.toNat + 5))
      (topicNameLen.toNat + 5) := by
    apply (Reads.byte _).bind
    apply Reads.bind (b := []) (Reads.check (by decide))
    exact reads_writeLenToBuffer (by omega)
  have hfields : Reads readSubscribeBody (writeUint16 id ++ (topic ++ [qos.toByte]))
      ⟨stringAt topicName topicNameLen, qos.toByte⟩ := by
    refine (reads_writeUint16 id).bind ((reads_writeUtf8String htopic).bind ?_)
    have hlast := (Reads.byte qos.toByte).bind (d := []) (f := fun qos =>
      pure (SubscribeFields.mk (stringAt topicName topicNameLen) qos)) (Reads.pure _)
    rw [List.append_nil] at hlast
    exact hlast
  have hrun := hheader (writeUint16 id ++ (topic ++ [qos.toByte]))
  rw [List.append_assoc] at hrun
  unfold decodeSubscribe
  rw [← List.singleton_append, hrun]
  dsimp only
  rw [if_pos hbody.symm]
  exact hfields.readAll

/-! ## The handler table -/

/-- What a slot in use asks the broker for. -/
def MessageHandlers.subscribed (slot : MessageHandlers) : Option SubscribeFields :=
  slot.topicName.map fun filter => ⟨filter.take slot.topicNameLen.toNat, slot.qos.toByte⟩

theorem MessageHandlers.subscribed_eq {slot : MessageHandlers} (h : slot.topicName ≠ none) :
    slot.subscribed = some ⟨stringAt slot.topicName slot.topicNameLen, slot.qos.toByte⟩ := by
  unfold MessageHandlers.subscribed
  cases hname : slot.topicName with
  | none => exact absurd hname h
  | some filter => rfl

/-- Every slot below the first free one is in use. -/
theorem firstFreeFrom_used (table : Nat → MessageHandlers) :
    ∀ left itr j, itr ≤ j → j < firstFreeFrom table left itr → (table j).topicName ≠ none := by
  intro left
  induction left with
  | zero => intro itr j hle hlt; exact absurd hlt (Nat.not_lt.mpr hle)
  | succ left ih =>
    intro itr j hle hlt
    rw [firstFreeFrom] at hlt
    split at hlt
    case isTrue => exact absurd hlt (Nat.not_lt.mpr hle)
    case isFalse hused =>
      by_cases heq : j = itr
      · rw [heq]; exact hused
      · exact ih (itr + 1) j (by omega) hlt

/-- Every slot in use lies below the first free one, or asks for what such a slot
asks for. -/
def Covered (n : Nat) (table : Nat → MessageHandlers) : Prop :=
  ∀ i < n, (table i).topicName ≠ none →
    ∃ j < firstFreeFrom table n 0, (table j).subscribed = (table i).subscribed

instance (n : Nat) (table : Nat → MessageHandlers) : Decidable (Covered n table) :=
  inferInstanceAs (Decidable (∀ i < n, (table i).topicName ≠ none →
    ∃ j < firstFreeFrom table n 0, (table j).subscribed = (table i).subscribed))

/-! ## What was restored -/

/-- A stretch of the log, newest event first, that begins with the resubscribe loop's turn
to slot `itr` and ends with the SUBACK it waits for there: in between a SUBSCRIBE for what
`slot` asks for was sent. -/
def Resubscribed (itr : Nat) (slot : MessageHandlers) (stretch : List Event) : Prop :=
  ∃ request ack mid before,
    stretch = .packetRead ack :: (mid ++ .sent request :: (before ++ [.resubscribing itr slot])) ∧
    decodeSubscribe request = slot.subscribed ∧ headerType (ack.headD 0) = MessageType.suback.code

/-- In a stretch of the log the slots `turns`, latest first, were resubscribed one after
the other: each has its own SUBSCRIBE and its own SUBACK, read before the next turn. -/
def ResubscribedInTurn : List (Nat × MessageHandlers) → List Event → Prop
  | [], _ => True
  | (itr, slot) :: earlier, new => ∃ post stretch old, new = post ++ (stretch ++ old) ∧
      Resubscribed itr slot stretch ∧ ResubscribedInTurn earlier old

/-- Every slot in use is subscribed to again, and no free slot is. -/
structure Restored (n : Nat) (table : Nat → MessageHandlers) (new : List Event) : Prop where
  /-- Every slot in use. -/
  used : ∃ turns, ResubscribedInTurn turns new ∧ ∀ i < n, (table i).topicName ≠ none →
    ∃ turn ∈ turns, turn.2.subscribed = (table i).subscribed
  /-- No free slot. -/
  free : ∀ itr slot, .resubscribing itr slot ∈ new → slot.topicName ≠ none

theorem ResubscribedInTurn.append {later earlier : List (Nat × MessageHandlers)}
    {new old : List Event} (hlater : ResubscribedInTurn later new)
    (hearlier : ResubscribedInTurn earlier old) :
    ResubscribedInTurn (later ++ earlier) (new ++ old) := by
  induction later generalizing new with
  | nil =>
    cases earlier with
    | nil => trivial
    | cons turn earlier =>
      obtain ⟨post, stretch, rest, rfl, hstretch, hrest⟩ := hearlier
      exact ⟨new ++ post, stretch, rest, by rw [List.append_assoc], hstretch, hrest⟩
  | cons turn later ih =>
    obtain ⟨post, stretch, rest, rfl, hstretch, hrest⟩ := hlater
    exact ⟨post, stretch, rest ++ old, by simp, hstretch, ih hrest⟩

/-- What comes later or came earlier takes no turn away. -/
theorem ResubscribedInTurn.extend {turns : List (Nat × MessageHandlers)} {new : List Event}
    (h : ResubscribedInTurn turns new) (post old : List Event) :
    ResubscribedInTurn turns (post ++ (new ++ old)) := by
  have hnone : ∀ new, ResubscribedInTurn [] new := fun _ => trivial
  have hold := h.append (hnone old)
  rw [List.append_nil] at hold
  exact (hnone post).append hold

theorem ResubscribedInTurn.mem {turns : List (Nat × MessageHandlers)} {new : List Event}
    (h : ResubscribedInTurn turns new) :
    ∀ turn ∈ turns, .resubscribing turn.1 turn.2 ∈ new := by
  induction turns generalizing new with
  | nil => exact fun _ hmem => absurd hmem List.not_mem_nil
  | cons first earlier ih =>
    obtain ⟨post, stretch, old, rfl, ⟨_, _, _, _, rfl, -, -⟩, hearlier⟩ := h
    intro turn hmem
    rcases List.mem_cons.mp hmem with rfl | hmem
    · simp
    · simp [ih hearlier turn hmem]

/-- The turns to all the slots of `table` from `itr` on, `left` of them. -/
def AllResubscribed (table : Nat → MessageHandlers) (itr left : Nat) (new : List Event) : Prop :=
  ∃ turns, ResubscribedInTurn turns new ∧
    ∀ j, itr ≤ j → j < itr + left → (j, table j) ∈ turns

theorem AllResubscribed.extend {table : Nat → MessageHandlers} {itr left : Nat}
    {new : List Event} (h : AllResubscribed table itr left new) (post old : List Event) :
    AllResubscribed table itr left (post ++ (new ++ old)) := by
  obtain ⟨turns, hturns, hall⟩ := h
  exact ⟨turns, hturns.extend post old, hall⟩

/-- One turn after the other. -/
theorem AllResubscribed.cons {table : Nat → MessageHandlers} {itr left : Nat}
    {new stretch post : List Event} (h : AllResubscribed table (itr + 1) left new)
    (hfirst : Resubscribed itr (table itr) stretch) :
    AllResubscribed table itr (left + 1) (new ++ (post ++ stretch)) := by
  obtain ⟨turns, hturns, hall⟩ := h
  have hone : ResubscribedInTurn [(itr, table itr)] (post ++ stretch) :=
    ⟨post, stretch, [], by simp, hfirst, trivial⟩
  refine ⟨turns ++ [(itr, table itr)], hturns.append hone, fun j hle hlt => ?_⟩
  rcases Nat.eq_or_lt_of_le hle with rfl | hlt'
  · simp
  · exact List.mem_append_left _ (hall j hlt' (by omega))

/-! ## Runs that leave the table alone -/

/-- The log grew by a stretch that satisfies `P`, if nothing in it updates the handler
table. -/
def Undisturbed (P : List Event → Prop) (w w' : World) : Prop :=
  ∃ new, w'.log = new ++ w.log ∧ ((∀ e ∈ new, e.kind ≠ .table) → P new)

/-- In a stretch of the log the resubscribe loop turned to nothing but slots in use
below the first free one of `table`, and found there what `table` holds. -/
def TurnsBelow (n : Nat) (table : Nat → MessageHandlers) (new : List Event) : Prop :=
  ∀ itr slot, .resubscribing itr slot ∈ new → itr < firstFreeFrom table n 0 ∧ slot = table itr

/-- While nothing updates the handler table it stays as it is, and so do the turns of
the resubscribe loop. -/
def SameTable (env : Env) (w w' : World) : Prop :=
  Undisturbed (fun new => w'.client.messageHandlers = w.client.messageHandlers ∧
    TurnsBelow env.config.numSubscribeHandlers w.client.messageHandlers new) w w'

section Runs

variable {env : Env}

instance : IsPreorder World (SameTable env) where
  refl w := ⟨[], rfl, fun _ => ⟨rfl, by simp [TurnsBelow]⟩⟩
  trans := by
    rintro w w₁ w₂ ⟨new, hlog, h⟩ ⟨new', hlog', h'⟩
    refine ⟨new' ++ new, by rw [hlog', hlog, List.append_assoc], fun hquiet => ?_⟩
    obtain ⟨htable, hturns⟩ := h fun e he => hquiet e (List.mem_append_right _ he)
    obtain ⟨htable', hturns'⟩ := h' fun e he => hquiet e (List.mem_append_left _ he)
    refine ⟨htable'.trans htable, fun itr slot hmem => ?_⟩
    rcases List.mem_append.mp hmem with hmem | hmem
    · rw [htable] at hturns'
      exact hturns' itr slot hmem
    · exact hturns itr slot hmem

theorem sameTable_onClient (w : World) {f : Client → Client}
    (hf : ∀ c, (f c).messageHandlers = c.messageHandlers) : SameTable env w (w.onClient f) :=
  ⟨[], rfl, fun _ => ⟨hf w.client, by simp [TurnsBelow]⟩⟩

theorem sameTable_push (w : World) {e : Event} (he : e.kind ≠ .turn) :
    SameTable env w (w.push e) := by
  refine ⟨[e], rfl, fun _ => ⟨rfl, fun itr slot hmem => ?_⟩⟩
  obtain rfl := List.mem_singleton.mp hmem
  exact absurd rfl he

theorem sameTable_update (w : World) (f : Client → Client) {e : Event} (he : e.kind = .table) :
    SameTable env w ((w.onClient f).push e) :=
  ⟨[e], rfl, fun hquiet => absurd he (hquiet e (by simp))⟩

theorem sameTable_steps (env : Env) : PrimitiveSteps env (SameTable env) where
  onClient w _ hf := sameTable_onClient w fun c => (hf c).2.1
  tick w := ⟨[], rfl, fun _ => ⟨rfl, by simp [TurnsBelow]⟩⟩
  push w _ he := sameTable_push w (by rw [he]; decide)
  pushPacket w _ he := sameTable_push w (by rw [he]; decide)
  pushConnection w _ he := sameTable_push w (by rw [he]; decide)
  withState w _ := sameTable_onClient w fun _ => rfl
  register w _ _ := sameTable_update w _ rfl
  clear w _ := sameTable_update w _ rfl
  reset w := sameTable_update w _ rfl
  onTable w _ hf := sameTable_onClient w fun c => (hf c).2.1
  start w := trans_of (SameTable env) (sameTable_onClient w fun _ => rfl)
    (sameTable_push _ (by simp [Event.kind]))
  double w := trans_of (SameTable env) (sameTable_push w (by simp [Event.kind]))
    (sameTable_onClient _ fun _ => rfl)

theorem sameTable_turn (w : World) {itr : Nat}
    (hlt : itr < firstFreeFrom w.client.messageHandlers env.config.numSubscribeHandlers 0) :
    SameTable env w (w.push (.resubscribing itr (w.client.messageHandlers itr))) := by
  refine ⟨[_], rfl, fun _ => ⟨rfl, fun itr' slot hmem => ?_⟩⟩
  obtain ⟨rfl, rfl⟩ : itr' = itr ∧ slot = w.client.messageHandlers itr := by
    simpa using hmem
  exact ⟨hlt, rfl⟩

/-! ## The resubscribe loop -/

variable {fuel : Nat} {callbacks : Callbacks M} {w : World}

/-- Behind the turn's mark, a pass leaves the table alone unless a handler does not. -/
theorem resubscribeSlot_sameTable (hwait : Cycling env callbacks (Keeps (SameTable env)))
    (itr : Nat) :
    (resubscribeSlot env fuel callbacks itr : M IoTError).Ends w
      (fun _ => SameTable env (w.push (.resubscribing itr (w.client.messageHandlers itr))))
      (SameTable env (w.push (.resubscribing itr (w.client.messageHandlers itr)))) := by
  unfold resubscribeSlot
  simp only [ends_bind, ends_getClient, ends_countdownMs, ends_getNextPacketId, ends_emit,
    ends_storePacket]
  have hstored : ∀ f : Client → Client, KeepsCore f →
      SameTable env (w.push (.resubscribing itr (w.client.messageHandlers itr)))
        ((((w.tick.onClient fun c =>
          { c with nextPacketId := followingPacketId w.tick.client.nextPacketId }).push
            (.resubscribing itr (w.client.messageHandlers itr)))).onClient f) :=
    fun f hf => ⟨[], rfl, fun _ => ⟨(hf _).2.1, by simp [TurnsBelow]⟩⟩
  split
  case h_1 => exact hstored id fun _ => ⟨rfl, rfl, rfl, rfl⟩
  case h_2 => exact hstored id fun _ => ⟨rfl, rfl, rfl, rfl⟩
  case h_3 packet hser =>
    have hrest : ∀ timer, Keeps (SameTable env) (do
        let rc ← sendPacket env fuel (packet.length % 2 ^ 32) timer
        if rc ≠ .success then return rc
        let rc ← waitForRead env fuel callbacks .suback timer
        if rc ≠ .success then return rc
        let c ← getClient
        return (deserializeSuback 1 c.readBuf c.readBufSize).rc : M IoTError) := by
      intro timer
      refine hwait.bind (hwait.sendPacket env fuel _ timer) fun rc => ?_
      refine hwait.ite (fun _ => hwait.pure _) fun _ => ?_
      refine hwait.bind (hwait.waitForRead fuel .suback timer) fun rc => ?_
      exact hwait.ite (fun _ => hwait.pure _) fun _ => hwait.bind hwait.getClient fun c =>
        hwait.pure _
    have hpre := hstored (fun c => { c with writeBuf := c.writeBuf.writeAt 0 packet })
      fun _ => ⟨rfl, rfl, rfl, rfl⟩
    exact ends_bind.mp ((hrest _ _).mono (fun _ _ h => trans_of (SameTable env) hpre h)
      (fun _ h => trans_of (SameTable env) hpre h))

/-- A pass that returns SUCCESS has resubscribed its slot, if the slot is in use. -/
theorem resubscribeSlot_resubscribed (hwait : Cycling env callbacks (Keeps LogGrows)) (itr : Nat)
    (hused : (w.client.messageHandlers itr).topicName ≠ none) :
    (resubscribeSlot env fuel callbacks itr : M IoTError).Ends w
      (fun rc w' => rc = .success → ∃ post stretch, w'.log = post ++ stretch ++ w.log ∧
        Resubscribed itr (w.client.messageHandlers itr) stretch)
      (fun _ => True) := by
  refine (resubscribeSlot_judged hwait itr).mono ?_ (fun _ _ => trivial)
  rintro rc w' (⟨hfail, -⟩ | ⟨_, _, packet, f, hser, hex, -⟩) hsuccess
  · exact absurd hsuccess (IoTError.ne_success_of_isError hfail)
  · obtain ⟨mid, before, hlog⟩ := hex.log
    have hdecode := decodeSubscribe_serializeSubscribe hser
    rw [← MessageHandlers.subscribed_eq hused] at hdecode
    exact ⟨[.waited .suback .success], .packetRead f.bytes :: (mid ++ .sent (sentPart packet) ::
        (before ++ [.resubscribing itr (w.client.messageHandlers itr)])),
      by rw [hlog]; simp, sentPart packet, f.bytes, mid, before, rfl, hdecode, hex.type⟩

/-- After an update of the table nothing is left to show. -/
theorem Undisturbed.of_table {P : List Event → Prop} {w w₁ w₂ : World} {new : List Event}
    (hlog : w₁.log = new ++ w.log) (htable : ¬ ∀ e ∈ new, e.kind ≠ .table)
    (hgrows : LogGrows w₁ w₂) : Undisturbed P w w₂ := by
  obtain ⟨more, hmore⟩ := hgrows
  refine ⟨more ++ new, by rw [← hmore, hlog, List.append_assoc], fun hquiet => ?_⟩
  exact absurd (fun e he => hquiet e (List.mem_append_right _ he)) htable

/-- The loop resubscribes the slots it was told to, and turns to no other. -/
theorem resubscribeFrom_restores (hwait : Cycling env callbacks (Keeps LogGrows))
    (hkeeps : Cycling env callbacks (Keeps (SameTable env))) : ∀ (left itr : Nat) (w : World),
    itr + left ≤ firstFreeFrom w.client.messageHandlers env.config.numSubscribeHandlers 0 →
    (resubscribeFrom env fuel callbacks left itr : M IoTError).Ends w
      (fun rc w' => SameTable env w w' ∧ (rc = .success →
        Undisturbed (AllResubscribed w.client.messageHandlers itr left) w w'))
      (SameTable env w) := by
  intro left
  induction left with
  | zero =>
    intro itr w _
    exact ⟨refl_of (SameTable env) w,
      fun _ => ⟨[], rfl, fun _ => ⟨[], trivial, fun j hle hlt => by omega⟩⟩⟩
  | succ left ih =>
    intro itr w hbelow
    have hturn : SameTable env w (w.push (.resubscribing itr (w.client.messageHandlers itr))) :=
      sameTable_turn w (by omega)
    have hused := firstFreeFrom_used w.client.messageHandlers env.config.numSubscribeHandlers 0 itr
      (Nat.zero_le _) (by omega)
    refine ends_bind.mpr (((resubscribeSlot_sameTable hkeeps itr).and
      (resubscribeSlot_resubscribed hwait itr hused).onReturn).mono ?_ ?_)
    · rintro rc w₁ ⟨hsame, hrestored⟩
      have hsame₁ : SameTable env w w₁ := trans_of (SameTable env) hturn hsame
      rw [ends_ite]
      split
      case isTrue hfail => exact ⟨hsame₁, fun hsuccess => absurd hsuccess hfail⟩
      case isFalse hok =>
        obtain ⟨post, stretch, hlog, hres⟩ := hrestored (not_not.mp hok)
        have ⟨new', hlog', hquiet⟩ := hsame₁
        obtain rfl : new' = post ++ stretch := List.append_cancel_right (hlog'.symm.trans hlog)
        by_cases htable : ∀ e ∈ post ++ stretch, e.kind ≠ .table
        · obtain ⟨heq, -⟩ := hquiet htable
          refine (ih (itr + 1) w₁ (by rw [heq]; omega)).mono ?_
            (fun _ h => trans_of (SameTable env) hsame₁ h)
          rintro rc' w₂ ⟨hsame₂, hrest⟩
          refine ⟨trans_of (SameTable env) hsame₁ hsame₂, fun hsuccess => ?_⟩
          obtain ⟨new₂, hlog₂, hres₂⟩ := hrest hsuccess
          refine ⟨new₂ ++ (post ++ stretch), by rw [hlog₂, hlog, ← List.append_assoc],
            fun hall => ?_⟩
          have hlater := hres₂ fun e he => hall e (List.mem_append_left _ he)
          rw [heq] at hlater
          exact hlater.cons hres
        · -- a handler changed the table: nothing is claimed of the rest
          have hgrows := hwait.resubscribeFrom fuel (fun he w => List.suffix_cons _ _)
            left (itr + 1) w₁
          exact hgrows.mono
            (fun _ _ h => ⟨.of_table hlog htable h, fun _ => .of_table hlog htable h⟩)
            (fun _ h => .of_table hlog htable h)
    · rintro w₁ ⟨hsame, -⟩
      exact trans_of (SameTable env) hturn hsame

theorem logGrows_of_sameTable {α : Type} {m : M α} (h : Keeps (SameTable env) m) :
    Keeps LogGrows m := by
  intro w
  refine (h w).mono ?_ ?_
  · rintro a w' ⟨new, hlog, -⟩
    exact ⟨new, hlog.symm⟩
  · rintro w' ⟨new, hlog, -⟩
    exact ⟨new, hlog.symm⟩

/-- All slots below the first free one were resubscribed since `w`. -/
def RestoredBelow (env : Env) (w w' : World) : Prop :=
  Undisturbed (AllResubscribed w.client.messageHandlers 0
    (firstFreeFrom w.client.messageHandlers env.config.numSubscribeHandlers 0)) w w'

theorem cycling_logGrows_of_sameTable (h : Cycling env callbacks (Keeps (SameTable env))) :
    Cycling env callbacks (Keeps LogGrows) where
  toTraffic := (logGrows env).toTraffic
  cycleRead fuel timer packetType := logGrows_of_sameTable (h.cycleRead fuel timer packetType)

theorem internalResubscribe_restores (hkeeps : Cycling env callbacks (Keeps (SameTable env)))
    (w : World) :
    (internalResubscribe env fuel callbacks : M IoTError).Ends w
      (fun rc w' => SameTable env w w' ∧ (rc = .success → RestoredBelow env w w'))
      (SameTable env w) := by
  have hwait := cycling_logGrows_of_sameTable hkeeps
  unfold internalResubscribe
  simp only [ends_bind, ends_getFreeMessageHandlerIndex]
  exact resubscribeFrom_restores hwait hkeeps _ 0 w (by omega)

theorem sameTable_everything (env : Env) : Everything (m := M) env (Keeps (SameTable env)) :=
  (sameTable_steps env).primitives.toSteering.everything
    (sameTable_steps env).toTrafficSteps.modifyTimer
    fun _ hkeeps w => (internalResubscribe_restores hkeeps w).mono (fun _ _ h => h.1) fun _ h => h

/-! ## Resubscribe and reconnect -/

theorem resubscribe_restores (hkeeps : Cycling env callbacks (Keeps (SameTable env))) (w : World) :
    (resubscribe env fuel callbacks : M IoTError).Ends w
      (fun rc w' => rc = .success → RestoredBelow env w w') (fun _ => True) := by
  refine (resubscribeRequest_success (P := fun log => ∃ new, log = new ++ w.log ∧
    ((∀ e ∈ new, e.kind ≠ .table) → AllResubscribed w.client.messageHandlers 0
      (firstFreeFrom w.client.messageHandlers env.config.numSubscribeHandlers 0) new)) ?_)
  intro s
  exact (internalResubscribe_restores hkeeps (w.withState s)).mono (fun _ _ h => h.2)
    (fun _ _ => trivial)

/-- The return codes of the resubscribe loop: SUCCESS and errors. -/
theorem resubscribeFrom_code (hwait : Cycling env callbacks (Keeps LogGrows)) :
    ∀ (left itr : Nat) (w : World), (resubscribeFrom env fuel callbacks left itr : M IoTError).Ends
      w (fun rc _ => rc = .success ∨ rc.isError = true) (fun _ => True) := by
  intro left
  induction left with
  | zero => intro itr w; exact .inl rfl
  | succ left ih =>
    intro itr w
    refine ends_bind.mpr ((resubscribeSlot_judged hwait itr).mono ?_ (fun _ _ => trivial))
    intro rc w₁ h
    rw [ends_ite]
    split
    case isTrue =>
      rcases h with ⟨herror, -⟩ | ⟨_, _, _, _, -, -, rfl⟩
      · exact .inr herror
      · exact deserializeSuback_code _ _ _
    case isFalse => exact ih (itr + 1) w₁

theorem resubscribe_code (hwait : Cycling env callbacks (Keeps LogGrows)) (w : World) :
    (resubscribe env fuel callbacks : M IoTError).Ends w
      (fun rc _ => rc = .success ∨ rc.isError = true) (fun _ => True) := by
  unfold resubscribe resubscribeRequest performRequest internalResubscribe
  simp only [ends_bind, ends_getClientState, ends_ite, ends_pure, ends_setClientState, ends_within,
    ends_getFreeMessageHandlerIndex]
  split
  · exact .inr rfl
  split
  · exact .inr rfl
  split
  · rw [if_neg (by simp)]
    refine (resubscribeFrom_code hwait _ 0 _).mono ?_ (fun _ _ => trivial)
    intro rc w₁ h
    split
    · simpa using h
    · split
      · exact .inr rfl
      · exact h
  · exact .inr rfl

/-- The first thing since `w` was a connection of the network. -/
def Connected (w w' : World) : Prop :=
  ∃ new, w'.log = new ++ .netConnect .success :: w.log

theorem Connected.grows {w₁ w₂ w₃ : World} (h : Connected w₁ w₂) (hgrows : LogGrows w₂ w₃) :
    Connected w₁ w₃ := by
  obtain ⟨new, hlog⟩ := h
  obtain ⟨more, hmore⟩ := hgrows
  exact ⟨more ++ new, by rw [← hmore, hlog, List.append_assoc]⟩

theorem internalConnect_connected (hwait : Cycling env callbacks (Keeps LogGrows)) (w : World) :
    (internalConnect env fuel callbacks none : M IoTError).Ends w
      (fun rc w' => Connected w w' ∨ rc ≠ .success ∧ w'.client = w.client)
      (fun _ => True) := by
  unfold internalConnect overrideOptions
  simp only [ends_bind, ends_pure]
  rw [if_neg (by simp)]
  simp only [ends_bind, ends_netConnect]
  split
  case isTrue hfail => exact .inr ⟨hfail, rfl⟩
  case isFalse hok =>
    have hconnected : Connected w (w.tick.push (.netConnect (env.connect w.time))) :=
      ⟨[], by rw [World.log_push, World.log_tick, not_not.mp hok]; rfl⟩
    have hexchange : Keeps LogGrows (exchangeConnect env fuel callbacks : M IoTError) :=
      hwait.exchangeConnect fuel (logGrows_steps env).toTrafficSteps.modifyTimer
    exact (hexchange _).mono (fun _ _ h => .inl (hconnected.grows h)) (fun _ _ => trivial)

/-- A reconnect that leads to a connected client has connected the network. -/
theorem connect_connected (hwait : Cycling env callbacks (Keeps LogGrows)) (w : World)
    (hdown : w.client.clientState.isConnected = false) :
    (connect env fuel callbacks none : M IoTError).Ends w
      (fun _ w' => w'.client.clientState = .connectedIdle → Connected w w') (fun _ => True) := by
  unfold connect connectRequest
  simp only [ends_bind, ends_getClientState, ends_ite, ends_pure, ends_setClientState, ends_within]
  split
  case isTrue =>
    intro hidle
    rw [hidle] at hdown
    exact absurd hdown (by decide)
  case isFalse =>
    rw [if_pos trivial]
    refine (internalConnect_connected hwait (w.withState .connecting)).mono ?_ (fun _ _ => trivial)
    intro rc w₁ h
    simp only [ends_emit, ends_netDisconnect, ends_netDestroy]
    rcases h with hconnected | ⟨hfail, hclient⟩
    · have hcleaned : Connected w (((w₁.push (.connectCleanup w₁.client.clientState)).push
          .netDisconnect).tick.push (.netDestroy (env.destroy w₁.time))) :=
        hconnected.grows ⟨[_, _, _], rfl⟩
      split
      · split
        · exact fun _ => hcleaned
        · exact fun _ => hcleaned
      · split
        · exact fun _ => hconnected.grows (List.suffix_cons _ _)
        · exact fun _ => hconnected.grows (List.suffix_cons _ _)
    · have hstate : w₁.client.clientState = .connecting := by rw [hclient]; rfl
      rw [if_pos hfail]
      split
      · exact fun h => absurd h (by simp)
      · exact fun h => absurd (hstate.symm.trans h) (by decide)

/-- A reconnect that reports success has resubscribed on a new connection. -/
theorem attemptReconnect_restores (hkeeps : Cycling env callbacks (Keeps (SameTable env)))
    (w : World) :
    (attemptReconnect env fuel callbacks : M IoTError).Ends w
      (fun rc w' => rc = .networkReconnected → ∃ w₁, Connected w w₁ ∧ SameTable env w w₁ ∧
        RestoredBelow env w₁ w')
      (fun _ => True) := by
  have hall := sameTable_everything env
  have hwait := cycling_logGrows_of_sameTable hkeeps
  unfold attemptReconnect
  simp only [ends_bind, ends_getClientState, ends_ite, ends_pure]
  split
  · exact fun h => absurd h (by decide)
  case isFalse hdown =>
    refine ((connect_connected hwait w (by simpa using hdown)).and
      (hall.connect fuel none hkeeps w).onReturn).mono ?_ (fun _ _ => trivial)
    rintro rc w₁ ⟨hconnected, hsame⟩
    simp only [enterPending, ends_bind, ends_setClientState, ends_emit]
    split
    · split
      · exact fun h => absurd h (by decide)
      · exact fun h => absurd h (by decide)
    case isFalse hidle =>
      refine ((resubscribe_restores hkeeps w₁).and (resubscribe_code hwait w₁)).mono ?_
        (fun _ _ => trivial)
      rintro rc w₂ ⟨hrestored, hcode⟩
      split
      case isTrue hfail =>
        rintro rfl
        simp [IoTError.isError] at hcode
      case isFalse hok =>
        exact fun _ => ⟨w₁, hconnected (not_not.mp hidle), hsame, hrestored (not_not.mp hok)⟩

/-- Where the loop has done its turns, they cover exactly the covered tables. -/
theorem restored_iff {n : Nat} {table : Nat → MessageHandlers} {new : List Event}
    (hall : AllResubscribed table 0 (firstFreeFrom table n 0) new)
    (hturns : TurnsBelow n table new) : Restored n table new ↔ Covered n table := by
  constructor
  · intro h i hi hused
    obtain ⟨turns, hinTurn, hrestored⟩ := h.used
    obtain ⟨⟨itr, slot⟩, hmem, heq⟩ := hrestored i hi hused
    obtain ⟨hlt, rfl⟩ := hturns itr slot (hinTurn.mem _ hmem)
    exact ⟨itr, hlt, heq⟩
  · intro h
    obtain ⟨turns, hinTurn, hdone⟩ := hall
    refine ⟨⟨turns, hinTurn, fun i hi hused => ?_⟩, fun itr slot hmem => ?_⟩
    · obtain ⟨j, hj, heq⟩ := h i hi hused
      exact ⟨(j, table j), hdone j (Nat.zero_le _) (by omega), heq⟩
    · obtain ⟨hlt, rfl⟩ := hturns itr slot hmem
      exact firstFreeFrom_used table n 0 itr (Nat.zero_le _) hlt

/-- Handlers that keep `SameTable` are delivered to with the table kept. -/
theorem serving_of_sameTable (hmessage : ∀ call, Keeps (SameTable env) (callbacks.message call)) :
    Serving env callbacks (Keeps (SameTable env)) :=
  (sameTable_steps env).primitives.serving
    (fun he w => sameTable_push w (by rw [he w.client]; decide)) hmessage
    ((sameTable_steps env).toTrafficSteps.deliverReceived (haltsAfter_self _))

theorem sameTable_apiCall (env : Env) (fuel depth : Nat) (call : ApiCall) :
    Keeps (SameTable env) (apiCall env fuel depth call : M IoTError) :=
  (sameTable_everything env).apiCall fuel
    (fun he w => sameTable_push w (by rw [he w.client]; decide))
    (fun _ ih => serving_of_sameTable ((sameTable_everything env).applicationCallbacks fuel ih).1)
    depth call

/-- Handlers that call the client keep `SameTable`. -/
theorem serving_sameTable (env : Env) (fuel depth : Nat) :
    Serving (m := M) env (applicationCallbacks env fuel (apiCall env fuel depth))
      (Keeps (SameTable env)) :=
  serving_of_sameTable
    ((sameTable_everything env).applicationCallbacks fuel (sameTable_apiCall env fuel depth)).1

theorem SameTable.since {w w' : World} (h : SameTable env w w')
    (hquiet : ∀ e ∈ w.since w', e.kind ≠ .table) :
    w'.client.messageHandlers = w.client.messageHandlers ∧
    TurnsBelow env.config.numSubscribeHandlers w.client.messageHandlers (w.since w') := by
  obtain ⟨new, hlog, h⟩ := h
  rw [World.since_of_append hlog] at hquiet ⊢
  exact h hquiet

end Runs

/-- When nothing updates the handler table meanwhile, a resubscribe that returns SUCCESS
has restored every subscription and nothing else exactly when the table is covered.  An
attempt to reconnect that returns NETWORK_RECONNECTED began by connecting the network, and
what came behind that connect restored every subscription exactly when the table is
covered. -/
theorem restored_iff_covered (env : Env) (fuel depth : Nat) (w w' : World)
    (hquiet : ∀ e ∈ w.since w', e.kind ≠ .table) :
    ((apiCall env fuel depth .resubscribe : M IoTError).run w = .done .success w' →
      (Restored env.config.numSubscribeHandlers w.client.messageHandlers (w.since w') ↔
        Covered env.config.numSubscribeHandlers w.client.messageHandlers)) ∧
    ((apiCall env fuel depth .attemptReconnect : M IoTError).run w = .done .networkReconnected w' →
      ∃ after, w.since w' = after ++ [.netConnect .success, .called .attemptReconnect] ∧
        (Restored env.config.numSubscribeHandlers w.client.messageHandlers after ↔
          Covered env.config.numSubscribeHandlers w.client.messageHandlers)) := by
  have hsame : ∀ call rc, (apiCall env fuel depth call : M IoTError).run w = .done rc w' →
      w'.client.messageHandlers = w.client.messageHandlers ∧ TurnsBelow
        env.config.numSubscribeHandlers w.client.messageHandlers (w.since w') :=
    fun call rc hrun =>
      ((sameTable_apiCall env fuel depth call w).of_run hrun).since hquiet
  constructor
  · intro hrun
    obtain ⟨-, hturns⟩ := hsame _ _ hrun
    obtain ⟨w₁, hres, rfl⟩ := apiCall_done hrun fun depth =>
      resubscribe_restores (serving_sameTable env fuel depth).toCycling _
    obtain ⟨new, hlog, hall⟩ := hres rfl
    have hsince : w.since (w₁.push (.returned .resubscribe .success)) =
        [.returned .resubscribe .success] ++ (new ++ [.called .resubscribe]) :=
      World.since_of_append (by rw [World.log_push, hlog]; simp)
    rw [hsince] at hquiet hturns ⊢
    exact restored_iff ((hall fun e he => hquiet e (by simp [he])).extend _ _) hturns
  · intro hrun
    obtain ⟨-, hturns⟩ := hsame _ _ hrun
    obtain ⟨w₁, hres, rfl⟩ := apiCall_done hrun fun depth =>
      attemptReconnect_restores (serving_sameTable env fuel depth).toCycling _
    obtain ⟨w₂, ⟨before, hbefore⟩, ⟨before', hbefore', htable⟩, new, hlog, hall⟩ := hres rfl
    obtain rfl : before' = before ++ [.netConnect .success] :=
      List.append_cancel_right (hbefore'.symm.trans (by rw [hbefore]; simp))
    have hsince : w.since (w₁.push (.returned .attemptReconnect .networkReconnected)) =
        ([.returned .attemptReconnect .networkReconnected] ++ (new ++ before)) ++
          [.netConnect .success, .called .attemptReconnect] :=
      World.since_of_append (by rw [World.log_push, hlog, hbefore]; simp)
    rw [hsince] at hquiet hturns ⊢
    refine ⟨_, rfl, restored_iff ?_ fun itr slot hmem =>
      hturns itr slot (List.mem_append_left _ hmem)⟩
    have ⟨heq, _⟩ := htable fun e he => hquiet e (by simp at he ⊢; tauto)
    have hdone := hall fun e he => hquiet e (by simp [he])
    rw [heq] at hdone
    exact hdone.extend _ _

/-! ## Two sessions -/

/-- The broker grants every subscription of the sessions below. -/
def grantingEnv : Env :=
  sessionEnv [(15, [0x90, 3, 0, 2, 1]), (23, [0x90, 3, 0, 3, 1]), (31, [0xB0, 2, 0, 4])]

/-- A client with the one subscription `a`. -/
def oneSubscription : World :=
  World.after grantingEnv 8 (sessionCalls [subscribeTo 0x61])

/-- A client that has subscribed to `a` and `b` and unsubscribed from `a`. -/
def holeInTable : World :=
  World.after grantingEnv 8
    (sessionCalls [subscribeTo 0x61, subscribeTo 0x62, .unsubscribe (some ⟨[0x61]⟩) 1])

/-- A resubscribe. -/
def resubscribeRun (w : World) : Outcome World IoTError :=
  (apiCall grantingEnv 8 8 .resubscribe : M IoTError).run w

/-- With one subscription nothing is lost. -/
theorem restored_oneSubscription :
    Restored 5 oneSubscription.client.messageHandlers
      (oneSubscription.since (resubscribeRun oneSubscription).state) :=
  ((restored_iff_covered grantingEnv 8 8 oneSubscription (resubscribeRun oneSubscription).state
    (by decide +kernel)).1 (run_eq_done (by decide +kernel))).mpr (by decide +kernel)

/-- After the unsubscribe the resubscribe returns SUCCESS, but the subscription to `b`
is not restored. -/
theorem not_restored_holeInTable :
    (resubscribeRun holeInTable).value? = some .success ∧
    (holeInTable.client.messageHandlers 1).topicName = some ⟨[0x62]⟩ ∧
    ¬ Restored 5 holeInTable.client.messageHandlers
      (holeInTable.since (resubscribeRun holeInTable).state) := by
  have hno : ∀ e ∈ holeInTable.since (resubscribeRun holeInTable).state, e.kind ≠ .turn := by
    decide +kernel
  have hused : (holeInTable.client.messageHandlers 1).topicName = some ⟨[0x62]⟩ := by
    decide +kernel
  refine ⟨by decide +kernel, hused, fun h => ?_⟩
  obtain ⟨turns, hinTurn, hrestored⟩ := h.used
  obtain ⟨turn, hmem, -⟩ := hrestored 1 (by decide) (by rw [hused]; simp)
  exact hno _ (hinTurn.mem turn hmem) rfl

end AwsIot.Mqtt
