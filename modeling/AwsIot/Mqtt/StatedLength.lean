/-
  Mqtt/StatedLength.lean --- a filter and its stated length.

  A subscription carries its filter as a pointer and a length.  The SUBSCRIBE packet
  and one of the two tests of `deliver_message` go by the length; the other test,
  `is_topic_matched`, and `unsubscribe` go by the NUL behind the filter.  So what
  follows the stated length counts: a longer filter is matched as a whole, and only
  the same whole string removes it.
-/
import AwsIot.Mqtt.BagDelivery
import AwsIot.Mqtt.Delivery
import AwsIot.Mqtt.PublishPacket
import AwsIot.Mqtt.RequestRules

set_option autoImplicit false

namespace AwsIot.Mqtt

open AwsIot.Foundation Program

/-! ## What the stated length promises -/

/-- The first `n` bytes of a filter. -/
def CharPtr.stated (filter : CharPtr) (n : UInt16) : List UInt8 := filter.chars.take n.toNat

/-- A topic name is the filter or matches it. -/
def Wanted (filter topicName : List UInt8) : Prop :=
  topicName = filter ∨ isTopicMatched filter topicName = true

/-- The handler of every slot that holds `filter` with the length `n` is called for a PUBLISH
exactly if the topic name that the slot is compared with is wanted by the first `n` bytes,
whatever the handlers before it do. -/
def DeliversStated (filter : CharPtr) (n : UInt16) : Prop :=
  ∀ (env : Env) (fuel depth : Nat) (timer : Timer) (w w' : World) (msg : IncomingPublish)
    (itr : Nat) (qos : QoS) (handler data : Nat),
    deserializePublish w.client.readBuf w.client.readBufSize = .ok msg →
    itr < env.config.numSubscribeHandlers →
    (forEach (deliverToSlot (applicationCallbacks env fuel (apiCall env fuel depth)) msg)
      (List.range itr) : M Unit).run
        ((w.receiving msg).withState .connectedWaitForCbReturn) = .done () w' →
    w'.client.messageHandlers itr = ⟨some filter, n, qos, some handler, data⟩ →
      (callsOfSlot itr (w.stretch ((handlePublish env fuel
        (applicationCallbacks env fuel (apiCall env fuel depth)) timer : M IoTError).run w).state) ≠
          [] ↔
        Wanted (filter.stated n)
          (w'.client.readBuf.slice msg.topicName msg.topicNameLen.toNat))

/-- `aws_iot_mqtt_unsubscribe(topicFilter, n)` finds the entry of `filter` in every table that has
it: the broker is asked, and once it has answered no entry with that filter is left. -/
structure RemovesStated (filter : CharPtr) (n : UInt16) (topicFilter : CharPtr) : Prop where
  /-- After SUCCESS the entry is gone. -/
  removed : ∀ (env : Env) (fuel depth : Nat) (w w' : World) (itr : Nat) (qos : QoS)
    (handler : Option Nat) (data : Nat), itr < env.config.numSubscribeHandlers →
    w.client.messageHandlers itr = ⟨some filter, n, qos, handler, data⟩ →
    (apiCall env fuel depth (.unsubscribe (some topicFilter) n) : M IoTError).run w =
      .done .success w' →
        ∀ i < env.config.numSubscribeHandlers,
          (w'.client.messageHandlers i).topicName.any (·.strEq filter) = false
  /-- A FAILURE comes after the request only. -/
  asked : ∀ (env : Env) (fuel depth : Nat) (w w' : World) (itr : Nat) (qos : QoS)
    (handler : Option Nat) (data : Nat), itr < env.config.numSubscribeHandlers →
    w.client.messageHandlers itr = ⟨some filter, n, qos, handler, data⟩ →
    (apiCall env fuel depth (.unsubscribe (some topicFilter) n) : M IoTError).run w =
      .done .failure w' → ∃ packet, .sending packet ∈ w.since w'

/-- Neither text is matched by a topic name that a PUBLISH can carry, itself apart. -/
def Unmatched (filter stated : List UInt8) : Prop :=
  ∀ topicName : List UInt8, topicName.length < 2 ^ 16 → topicName ≠ stated →
    isTopicMatched filter topicName = false ∧ isTopicMatched stated topicName = false

/-! ## Matching a part of a filter -/

/-- No topic name matches a filter and a proper part of it. -/
theorem isTopicMatched_part {rest : List UInt8} (hrest : rest ≠ []) :
    ∀ {stated topicName : List UInt8}, isTopicMatched (stated ++ rest) topicName = true →
      isTopicMatched stated topicName = false := by
  intro stated
  induction stated with
  | nil =>
    intro topicName h
    obtain ⟨f, rest, rfl⟩ := List.exists_cons_of_ne_nil hrest
    cases topicName with
    | nil => cases h
    | cons c topicName => rfl
  | cons f stated ih =>
    intro topicName h
    cases topicName with
    | nil => cases h
    | cons c topicName =>
      rw [List.cons_append, isTopicMatched] at h
      rw [isTopicMatched]
      split at h
      case isTrue => cases h
      case isFalse hlevel =>
        rw [if_neg hlevel]
        split at h
        case isTrue => cases h
        case isFalse hsame =>
          rw [if_neg hsame]
          split at h
          case isTrue hsingle => rw [if_pos hsingle]; exact ih h
          case isFalse hsingle =>
            rw [if_neg hsingle]
            split at h
            case isTrue hmulti => rw [if_pos hmulti]; exact ih h
            case isFalse hmulti => rw [if_neg hmulti]; exact ih h

/-- The test of `deliver_message` on a slot with a stated length. -/
theorem slotMatches_stated (slot : MessageHandlers) {filter : CharPtr}
    (hn : slot.topicNameLen.toNat ≤ filter.chars.length) (readBuf : Memory) (topicName : Nat)
    (topicNameLen : UInt16) :
    slotMatches readBuf topicName topicNameLen slot filter = true ↔
      readBuf.slice topicName topicNameLen.toNat = filter.stated slot.topicNameLen ∨
        isTopicMatched filter.chars (readBuf.slice topicName topicNameLen.toNat) = true := by
  have hequal : topicNameLen = slot.topicNameLen ∧
      strncmpEq (fun i => readBuf (topicName + i)) filter.byteAt topicNameLen.toNat 0 = true ↔
      readBuf.slice topicName topicNameLen.toNat = filter.stated slot.topicNameLen := by
    constructor
    · rintro ⟨rfl, hcmp⟩
      rw [strncmpEq_iff fun k _ hk => (CharPtr.byteAt_of_lt (by omega)).2] at hcmp
      refine List.ext_getElem (by simp [CharPtr.stated, hn]) fun k hk _ => ?_
      rw [Memory.length_slice] at hk
      have hlt : k < filter.chars.length := by omega
      have hbyte := (CharPtr.byteAt_of_lt hlt).1
      simp only [CharPtr.stated, List.getElem_take, Memory.getElem_slice]
      rw [← hbyte]
      exact hcmp k (Nat.zero_le k) (by omega)
    · intro heq
      have hlens : topicNameLen.toNat = slot.topicNameLen.toNat := by
        have hlen := congrArg List.length heq
        simpa [CharPtr.stated, hn] using hlen
      refine ⟨UInt16.toNat_inj.mp hlens, ?_⟩
      rw [strncmpEq_iff fun k _ hk => (CharPtr.byteAt_of_lt (by omega)).2]
      intro k _ hk
      have hlt : k < filter.chars.length := by omega
      have hslice : k < (readBuf.slice topicName topicNameLen.toNat).length := by
        rw [Memory.length_slice]
        omega
      rw [(CharPtr.byteAt_of_lt hlt).1]
      show readBuf (topicName + k) = _
      rw [← Memory.getElem_slice hslice]
      simp only [heq, CharPtr.stated, List.getElem_take]
  unfold slotMatches
  rw [Bool.or_eq_true, Bool.and_eq_true, decide_eq_true_iff, hequal]

/-! ## Delivery -/

section Delivery

variable {filter : CharPtr} {n : UInt16}

/-- A slot's handler is called for a PUBLISH exactly if the topic name is the stated part of the
filter or matches the whole. -/
theorem called_iff_matched (hn : n.toNat ≤ filter.chars.length) {env : Env} {fuel depth : Nat}
    (timer : Timer) {w w' : World} {msg : IncomingPublish} {itr : Nat} {qos : QoS}
    {handler data : Nat}
    (hread : deserializePublish w.client.readBuf w.client.readBufSize = .ok msg)
    (hitr : itr < env.config.numSubscribeHandlers)
    (hreach : (forEach (deliverToSlot (applicationCallbacks env fuel (apiCall env fuel depth)) msg)
      (List.range itr) : M Unit).run
        ((w.receiving msg).withState .connectedWaitForCbReturn) = .done () w')
    (hslot : w'.client.messageHandlers itr = ⟨some filter, n, qos, some handler, data⟩) :
    callsOfSlot itr (w.stretch ((handlePublish env fuel
        (applicationCallbacks env fuel (apiCall env fuel depth)) timer : M IoTError).run w).state) ≠
          [] ↔
      w'.client.readBuf.slice msg.topicName msg.topicNameLen.toNat = filter.stated n ∨
        isTopicMatched filter.chars
          (w'.client.readBuf.slice msg.topicName msg.topicNameLen.toNat) = true := by
  rw [handlePublish_calls (nests_message env fuel depth) msg timer hread hitr hreach,
    ← slotMatches_stated ⟨some filter, n, qos, some handler, data⟩ hn]
  unfold slotCall
  rw [hslot]
  simp

/-- The delivery goes by the stated length if the whole filter matches what its stated part
matches. -/
theorem deliversStated_of_agree (hn : n.toNat ≤ filter.chars.length)
    (hagree : ∀ topicName : List UInt8, topicName.length < 2 ^ 16 →
      (topicName = filter.stated n ∨ isTopicMatched filter.chars topicName = true ↔
        Wanted (filter.stated n) topicName)) : DeliversStated filter n := by
  intro env fuel depth timer w w' msg itr qos handler data hread hitr hreach hslot
  have hlen : (w'.client.readBuf.slice msg.topicName msg.topicNameLen.toNat).length < 2 ^ 16 := by
    rw [Memory.length_slice]
    exact msg.topicNameLen.toNat_lt
  rw [called_iff_matched hn timer hread hitr hreach hslot]
  exact hagree _ hlen

/-- A PUBLISH with QoS 0, a topic name and no payload. -/
def topicFrame (topicName : List UInt8) (h : topicName.length < 2 ^ 16) : WireFrame where
  header := 0x30
  lengthField := writeLenToBuffer (2 + topicName.length)
  body := writeUint16 (UInt16.ofNat topicName.length) ++ topicName
  valid := by
    have hreads := reads_writeLenToBuffer (show 2 + topicName.length < 128 ^ 4 by omega) []
    rw [List.append_nil] at hreads
    rw [hreads, List.length_append]
    rfl

/-- A connected client that has read `f` and whose slots all hold `slot`. -/
def World.reading (f : WireFrame) (slot : MessageHandlers) : World :=
  (World.connected (sessionEnv [])).onClient fun c => { c with
    readBuf := Memory.writeAt (fun _ => 0) 0 f.bytes
    readBufSize := f.bytes.length + 4
    messageHandlers := fun _ => slot }

/-- The parser finds the topic name of such a PUBLISH. -/
theorem deserializePublish_reading {topicName : List UInt8} (h : topicName.length < 2 ^ 16)
    (slot : MessageHandlers) :
    ∃ msg, deserializePublish (World.reading (topicFrame topicName h) slot).client.readBuf
        (World.reading (topicFrame topicName h) slot).client.readBufSize = .ok msg ∧
      (World.reading (topicFrame topicName h) slot).client.readBuf.slice msg.topicName
        msg.topicNameLen.toNat = topicName := by
  have hheld : (topicFrame topicName h).HeldIn
      (World.reading (topicFrame topicName h) slot).client.readBuf := by
    show (Memory.writeAt (fun _ => 0) 0 (topicFrame topicName h).bytes).slice 0 _ = _
    exact Memory.slice_writeAt_self
  have hbody : (topicFrame topicName h).body.length = 2 + topicName.length :=
    List.length_append
  have htopicLen : (topicFrame topicName h).topicLen = topicName.length := by
    show (UInt8.ofNat ((UInt16.ofNat topicName.length).toNat / 256)).toNat * 256 +
      (UInt8.ofNat ((UInt16.ofNat topicName.length).toNat % 256)).toNat = _
    rw [UInt16.toNat_ofNat', UInt8.toNat_ofNat', UInt8.toNat_ofNat']
    omega
  have hparse : deserializePublish _ ((topicFrame topicName h).bytes.length + 4) = _ :=
    deserializePublish_frame hheld (by omega) (by omega)
  have htype : headerType (topicFrame topicName h).header = MessageType.publish.code := by
    show headerType 0x30 = _
    decide
  rw [if_pos ⟨htype, by omega⟩] at hparse
  refine ⟨_, hparse, ?_⟩
  have hslice := hheld.parts.2.2
  rw [hbody, Memory.slice_add] at hslice
  have htopic := (List.append_inj hslice (by simp; rfl)).2
  show Memory.slice _ ((topicFrame topicName h).bodyStart + 2) (readUint16 _ _).toNat = _
  rw [hheld.toNat_topicLen (by omega), htopicLen]
  exact htopic

/-- Only then. -/
theorem agree_of_deliversStated (hn : n.toNat ≤ filter.chars.length)
    (h : DeliversStated filter n) {topicName : List UInt8} (hlen : topicName.length < 2 ^ 16) :
    topicName = filter.stated n ∨ isTopicMatched filter.chars topicName = true ↔
      Wanted (filter.stated n) topicName := by
  obtain ⟨msg, hread, htopic⟩ :=
    deserializePublish_reading hlen ⟨some filter, n, .qos0, some 0, 0⟩
  have hdelivers := h (sessionEnv []) 0 0 0 _ _ msg 0 .qos0 0 0 hread (by decide) rfl rfl
  rw [called_iff_matched hn 0 hread (by decide) rfl rfl] at hdelivers
  have hbuf : (((World.reading (topicFrame topicName hlen)
      ⟨some filter, n, .qos0, some 0, 0⟩).receiving msg).withState
        .connectedWaitForCbReturn).client.readBuf.slice msg.topicName msg.topicNameLen.toNat =
      topicName := htopic
  rw [hbuf] at hdelivers
  exact hdelivers

/-- What follows the stated length of a filter is not looked at exactly if nothing does, or if
neither the whole nor the part is matched by any topic name. -/
theorem deliversStated_iff (hn : n.toNat ≤ filter.chars.length) :
    DeliversStated filter n ↔
      n.toNat = filter.chars.length ∨ Unmatched filter.chars (filter.stated n) := by
  constructor
  · intro h
    by_cases hall : n.toNat = filter.chars.length
    · exact .inl hall
    · refine .inr fun topicName hlen hne => ?_
      have hagree := agree_of_deliversStated hn h hlen
      rw [Wanted, or_iff_right hne, or_iff_right hne] at hagree
      have hsplit : filter.chars = filter.stated n ++ filter.chars.drop n.toNat :=
        (List.take_append_drop n.toNat filter.chars).symm
      have hrest : filter.chars.drop n.toNat ≠ [] := fun hnil => by
        rw [List.drop_eq_nil_iff] at hnil
        omega
      have hpart : isTopicMatched filter.chars topicName = true →
          isTopicMatched (filter.stated n) topicName = false := fun hmatch =>
        isTopicMatched_part hrest (hsplit ▸ hmatch)
      have hwhole : isTopicMatched filter.chars topicName = false := by
        rw [← Bool.not_eq_true]
        intro hmatch
        exact Bool.false_ne_true ((hpart hmatch).symm.trans (hagree.mp hmatch))
      refine ⟨hwhole, ?_⟩
      rw [← Bool.not_eq_true, ← hagree, hwhole]
      exact Bool.false_ne_true
  · intro h
    refine deliversStated_of_agree hn fun topicName hlen => ?_
    rcases h with hall | hunmatched
    · have hstated : filter.stated n = filter.chars := List.take_of_length_le (by omega)
      rw [hstated]
      exact Iff.rfl
    · by_cases heq : topicName = filter.stated n
      · exact iff_of_true (.inl heq) (.inl heq)
      · obtain ⟨hwhole, hpart⟩ := hunmatched topicName hlen heq
        simp [Wanted, heq, hwhole, hpart]

end Delivery

/-! ## Removal -/

/-- A packet was handed to the network since `w`. -/
def SentSince (w w' : World) : Prop :=
  ∃ new packet, w'.log = new ++ w.log ∧ .sending packet ∈ new

theorem SentSince.grows {w w₁ w' : World} (h : SentSince w w₁) (hgrows : LogGrows w₁ w') :
    SentSince w w' := by
  obtain ⟨new, packet, hlog, hmem⟩ := h
  obtain ⟨later, hlater⟩ := hgrows
  exact ⟨later ++ new, packet, by rw [← hlater, hlog, List.append_assoc],
    List.mem_append_right later hmem⟩

theorem SentSince.mem {w w' : World} (h : SentSince w w') :
    ∃ packet, .sending packet ∈ w.since w' := by
  obtain ⟨new, packet, hlog, hmem⟩ := h
  exact ⟨packet, World.since_of_append hlog ▸ hmem⟩

/-- No slot of the table has the filter. -/
def NoneEqual (env : Env) (filter : CharPtr) (w : World) : Prop :=
  ∀ i < env.config.numSubscribeHandlers,
    (w.client.messageHandlers i).topicName.any (·.strEq filter) = false

theorem noneEqual_cleared (env : Env) (filter : CharPtr) (w : World) :
    NoneEqual env filter (w.onClient fun c =>
      let handlers := clearEqual env.config.numSubscribeHandlers filter c.messageHandlers
      { c with messageHandlers := handlers }) := by
  intro i hi
  show ((clearEqual _ filter w.client.messageHandlers i).topicName).any _ = _
  unfold clearEqual
  cases hname : (w.client.messageHandlers i).topicName with
  | none => simp [hname]
  | some topicName =>
    dsimp only
    split
    · rfl
    · rename_i hne
      rw [hname, Option.any_some]
      simpa [hi] using hne

section Removal

variable {env : Env} {fuel : Nat} {callbacks : Callbacks M} {w : World}

/-- `send_packet` offers the packet to the network, unless it is too long. -/
theorem sendPacket_sending (length : Nat) (timer : Timer) :
    (sendPacket env fuel length timer : M IoTError).Ends w
      (fun rc w' => rc = .mqttTxBufferTooShortError ∨ SentSince w w') (fun _ => True) := by
  by_cases hlen : length < w.client.writeBufSize
  · rw [ends_sendPacket hlen]
    have hstart : SentSince w (w.push (sendingEvent length w)) :=
      ⟨[sendingEvent length w], _, rfl, List.mem_singleton.mpr rfl⟩
    have hloop := (keeps_compositional LogGrows).loop
      (fun sent => (logGrows env).sendPass env length timer sent) fuel 0
      (w.push (sendingEvent length w))
    refine hloop.mono ?_ (fun _ _ => trivial)
    intro sent w' hgrows
    have hsent := hstart.grows hgrows
    split
    · exact .inr (hsent.grows (logGrows_push _ _))
    · exact .inr hsent
  · unfold sendPacket
    simp only [ends_bind, ends_getClient, ends_ite, ends_pure]
    rw [if_pos (by omega)]
    exact .inl trivial

theorem serializeUnsubscribe_tooShort {txBufLen : Nat} {dup : UInt8} {packetId : UInt16}
    {topics : List (Option CharPtr × UInt16)} {rc : IoTError}
    (h : serializeUnsubscribe txBufLen dup packetId topics = .error rc) :
    rc = .mqttTxBufferTooShortError := by
  unfold serializeUnsubscribe at h
  obtain ⟨header, hheader⟩ := initHeader_ok (t := .unsubscribe) (by decide) .qos1 dup 0
  rw [hheader] at h
  dsimp only at h
  split at h
  · cases h; rfl
  · exact absurd h (Serialized.ofBytes_ne_error _ _)

/-- What an unsubscribe that finds an entry comes to. -/
structure Sought (env : Env) (topicFilter : CharPtr) (w : World) (rc : IoTError) (w' : World) :
    Prop where
  removed : rc = .success → NoneEqual env topicFilter w'
  asked : rc = .failure → SentSince w w'

theorem internalUnsubscribe_sought (hwait : Cycling env callbacks (Keeps LogGrows))
    {topicFilter : CharPtr} (topicFilterLen : UInt16)
    (hexists : (List.range env.config.numSubscribeHandlers).any (fun i =>
      (w.client.messageHandlers i).topicName.any (·.strEq topicFilter)) = true) :
    (internalUnsubscribe env fuel callbacks topicFilter topicFilterLen : M IoTError).Ends w
      (Sought env topicFilter w) (fun _ => True) := by
  unfold internalUnsubscribe
  simp only [ends_bind, ends_getClient, ends_ite, hexists]
  rw [if_neg (by simp)]
  simp only [ends_bind, ends_countdownMs, ends_getNextPacketId, ends_storePacket]
  split
  case h_1 => trivial
  case h_2 rc hser =>
    obtain rfl := serializeUnsubscribe_tooShort hser
    exact ⟨by simp, by simp⟩
  case h_3 packet hser =>
    simp only [ends_bind, ends_ite, ends_pure]
    refine (sendPacket_sending _ _).mono ?_ (fun _ _ => trivial)
    intro rc w₁ hsent
    split
    case isTrue hne =>
      refine ⟨fun hsuccess => absurd hsuccess hne, fun hfailure => ?_⟩
      rcases hsent with rfl | hsent
      · cases hfailure
      · exact hsent.grows (refl_of LogGrows _)
    case isFalse hsuccess =>
      obtain rfl := not_not.mp hsuccess
      have hsent := hsent.resolve_left (by simp)
      refine (hwait.waitForRead fuel .unsuback _ w₁).mono ?_ (fun _ _ => trivial)
      intro rc w₂ hgrows
      have hsent := hsent.grows hgrows
      split
      case isTrue hne =>
        exact ⟨fun hsuccess => absurd hsuccess hne, fun _ => hsent⟩
      case isFalse =>
        simp only [ends_getClient]
        split
        case h_1 rc herr =>
          refine ⟨fun hsuccess => ?_, fun _ => hsent⟩
          exact absurd (hsuccess ▸ deserializeUnsuback_mem herr) (by decide)
        case h_2 =>
          exact ⟨fun _ => noneEqual_cleared env topicFilter w₂, by simp⟩

theorem Sought.withState {topicFilter : CharPtr} {rc : IoTError} {w' : World} {s s' : ClientState}
    (h : Sought env topicFilter (w.withState s) rc w') :
    Sought env topicFilter w rc (w'.withState s') := ⟨h.removed, h.asked⟩

/-- Outside the two states that admit it, the request is turned down with other codes. -/
theorem unsubscribeRequest_sought {topicFilter : CharPtr} {internal : M IoTError}
    (h : internal.Ends (w.withState .connectedUnsubscribeInProgress)
      (Sought env topicFilter (w.withState .connectedUnsubscribeInProgress)) (fun _ => True)) :
    (unsubscribeRequest internal).Ends w (Sought env topicFilter w) (fun _ => True) := by
  unfold unsubscribeRequest performRequest
  simp only [ends_bind, ends_getClientState, ends_ite, ends_pure, ends_setClientState, ends_within]
  split
  · exact ⟨by simp, by simp⟩
  split
  · exact ⟨by simp, by simp⟩
  rw [if_pos trivial, if_neg (by simp)]
  refine h.mono ?_ (fun _ h => h)
  intro rc w' hsought
  split
  · rw [if_neg (by simp)]
    exact hsought.withState
  · split
    · exact ⟨by simp, by simp⟩
    · exact ⟨hsought.removed, hsought.asked⟩

/-- With the filter of an entry, `unsubscribe` finds it. -/
theorem apiCall_sought {filter topicFilter : CharPtr} (heq : topicFilter.chars = filter.chars)
    {depth : Nat} {n : UInt16} {itr : Nat} {rc : IoTError} {w' : World}
    (hitr : itr < env.config.numSubscribeHandlers)
    (hslot : (w.client.messageHandlers itr).topicName = some filter)
    (hrun : (apiCall env fuel depth (.unsubscribe (some topicFilter) n) : M IoTError).run w =
      .done rc w') : Sought env topicFilter w rc w' := by
  obtain ⟨w₁, hsought, rfl⟩ := apiCall_done hrun fun depth =>
    unsubscribeRequest_sought
      (internalUnsubscribe_sought (serving_logGrows env fuel depth).toCycling n
        (List.any_eq_true.mpr ⟨itr, List.mem_range.mpr hitr, by
          show ((w.client.messageHandlers itr).topicName.any _) = true
          rw [hslot]
          simp [CharPtr.strEq, heq]⟩))
  refine ⟨hsought.removed, fun hfailure => ?_⟩
  obtain ⟨new, packet, hlog, hmem⟩ := hsought.asked hfailure
  refine ⟨.returned (.unsubscribe (some topicFilter) n) rc ::
    (new ++ [.called (.unsubscribe (some topicFilter) n)]), packet, ?_, by simp [hmem]⟩
  simp [hlog]

end Removal

/-- Without an entry for a filter, `unsubscribe` fails and asks nobody. -/
theorem unsubscribe_unknown {env : Env} (fuel depth : Nat) {w : World} {topicFilter : CharPtr}
    (hs : w.client.clientState = .connectedIdle) (hnone : NoneEqual env topicFilter w)
    (n : UInt16) :
    (apiCall env fuel (depth + 1) (.unsubscribe (some topicFilter) n) : M IoTError).Ends w
      (fun rc w' => rc = .failure ∧ ∀ packet, .sending packet ∉ w.since w') (fun _ => False) := by
  have hexists : ((List.range env.config.numSubscribeHandlers).any fun i =>
      (w.client.messageHandlers i).topicName.any (·.strEq topicFilter)) = false := by
    rw [List.any_eq_false]
    intro i hi
    rw [hnone i (List.mem_range.mp hi)]
    exact Bool.false_ne_true
  unfold apiCall
  simp only [ends_bind, ends_emit, ends_within, ends_pure]
  unfold dispatch unsubscribe unsubscribeRequest performRequest internalUnsubscribe
  simp only [ends_bind, ends_getClientState, ends_ite, ends_pure, ends_setClientState, ends_within,
    ends_getClient, World.client_push, hs]
  rw [if_neg (by decide), if_neg (by decide), if_pos trivial, if_neg (by simp)]
  simp only [World.messageHandlers_withState, World.client_push, hexists]
  have hleave : Operation.unsubscribe.inProgress = ((w.push (.called (.unsubscribe
      (some topicFilter) n))).withState .connectedUnsubscribeInProgress).client.clientState := rfl
  rw [if_pos Bool.false_ne_true, if_pos hleave, if_neg (fun h => by cases h.1)]
  refine ⟨rfl, fun packet => ?_⟩
  have hlog : (((((w.push (.called (.unsubscribe (some topicFilter) n))).withState
      .connectedUnsubscribeInProgress).withState .connectedIdle).push
        (.returned (.unsubscribe (some topicFilter) n) .failure))).log =
      [.returned (.unsubscribe (some topicFilter) n) .failure,
        .called (.unsubscribe (some topicFilter) n)] ++ w.log := rfl
  rw [World.since_of_append hlog]
  simp

/-- A client whose only entry is that of `filter`. -/
def World.subscribed (w : World) (filter : CharPtr) (n : UInt16) : World :=
  w.onClient fun c => { c with
    messageHandlers := fun i => if i = 0 then ⟨some filter, n, .qos0, some 0, 0⟩
      else ⟨none, 0, .qos0, none, 0⟩ }

theorem messageHandlers_subscribed (w : World) (filter : CharPtr) (n : UInt16) (i : Nat) :
    (w.subscribed filter n).client.messageHandlers i =
      if i = 0 then ⟨some filter, n, .qos0, some 0, 0⟩ else ⟨none, 0, .qos0, none, 0⟩ := rfl

/-- What `unsubscribe` removes is the entry with the same whole filter. -/
theorem removesStated_iff (filter : CharPtr) (n : UInt16) (topicFilter : CharPtr) :
    RemovesStated filter n topicFilter ↔ topicFilter.chars = filter.chars := by
  constructor
  · intro h
    by_contra hne
    obtain ⟨w, hstate⟩ : ∃ w : World, w.client.clientState = .connectedIdle :=
      ⟨World.connected (sessionEnv []), by decide +kernel⟩
    have hidle : (w.subscribed filter n).client.clientState = .connectedIdle := hstate
    have hnone : NoneEqual (sessionEnv []) topicFilter (w.subscribed filter n) := by
      intro i _
      rw [messageHandlers_subscribed]
      split
      · simpa [CharPtr.strEq] using Ne.symm hne
      · rfl
    obtain ⟨rc, w', hrun, rfl, hquiet⟩ :=
      exists_run_of_ends (unsubscribe_unknown 0 0 hidle hnone n)
    obtain ⟨packet, hsent⟩ := h.asked _ _ _ _ _ 0 .qos0 (some 0) 0 (by decide)
      (messageHandlers_subscribed w filter n 0) hrun
    exact hquiet packet hsent
  · intro heq
    refine ⟨?_, ?_⟩
    · intro env fuel depth w w' itr qos handler data hitr hslot hrun i hi
      have hnone := (apiCall_sought heq hitr (by rw [hslot]) hrun).removed rfl i hi
      simpa [CharPtr.strEq, heq] using hnone
    · intro env fuel depth w w' itr qos handler data hitr hslot hrun
      exact ((apiCall_sought heq hitr (by rw [hslot]) hrun).asked rfl).mem

/-! ## Only the stated length -/

/-- The SUBSCRIBE for a filter and a length is the one for the stated part of it.  Delivery and
`unsubscribe` go by the stated length exactly if nothing follows it in the filter, or no topic name
shows the difference, and `unsubscribe` is given the same whole filter. -/
theorem onlyStated_iff (filter topicFilter : CharPtr) (n : UInt16)
    (hn : n.toNat ≤ filter.chars.length) :
    (∀ txBufLen dup packetId qos,
      serializeSubscribe txBufLen dup packetId [⟨some filter, n, qos⟩] =
        serializeSubscribe txBufLen dup packetId [⟨some ⟨filter.stated n⟩, n, qos⟩]) ∧
    (DeliversStated filter n ∧ RemovesStated filter n topicFilter ↔
      (n.toNat = filter.chars.length ∨ Unmatched filter.chars (filter.stated n)) ∧
        topicFilter.chars = filter.chars) := by
  refine ⟨fun txBufLen dup packetId qos => ?_, ?_⟩
  · have htake : filter.take n.toNat = (CharPtr.mk (filter.stated n)).take n.toNat := by
      refine List.map_congr_left fun k hk => ?_
      have hlt : k < filter.chars.length := Nat.lt_of_lt_of_le (List.mem_range.mp hk) hn
      rw [(CharPtr.byteAt_of_lt hlt).1, CharPtr.byteAt, CharPtr.stated, List.getD_eq_getElem _ _ (by
        rw [List.length_take]
        exact Nat.lt_min.mpr ⟨List.mem_range.mp hk, hlt⟩), List.getElem_take]
    simp [serializeSubscribe, writeUtf8String, htake]
  · rw [deliversStated_iff hn, removesStated_iff]

/-- A filter of one character that is stated whole. -/
theorem onlyStated_whole :
    DeliversStated ⟨[0x61]⟩ 1 ∧ RemovesStated ⟨[0x61]⟩ 1 ⟨[0x61]⟩ :=
  (onlyStated_iff ⟨[0x61]⟩ ⟨[0x61]⟩ 1 (by decide)).2.mpr ⟨.inl (by decide), rfl⟩

/-- Of the filter `ab` only `a` is stated: a PUBLISH to `ab` is delivered, and `unsubscribe` with
`a` does not find the entry. -/
theorem not_onlyStated_longer :
    isTopicMatched [0x61, 0x62] [0x61, 0x62] = true ∧ ¬ DeliversStated ⟨[0x61, 0x62]⟩ 1 ∧
      ¬ RemovesStated ⟨[0x61, 0x62]⟩ 1 ⟨[0x61]⟩ := by
  have hlen : (1 : UInt16).toNat ≤ (CharPtr.mk [0x61, 0x62]).chars.length := by decide
  refine ⟨by decide, fun h => ?_, fun h => ?_⟩
  · rcases (deliversStated_iff hlen).mp h with hall | hunmatched
    · exact absurd hall (by decide)
    · have hmatch := (hunmatched [0x61, 0x62] (by decide) (by decide)).1
      exact absurd hmatch (by decide)
  · exact absurd ((removesStated_iff _ _ _).mp h) (by decide)

end AwsIot.Mqtt
