/-
  Mqtt/BagDelivery.lean --- a message goes to the subscriptions that want it.

  The loop of `deliver_message` looks at slots and at bytes of the read buffer.  On a
  table of proper slots, with handlers that make no calls, it is a walk over the bag
  that the table stands for: each subscription that wants the topic name of the packet
  is invoked once (`cycleRead_serves`).
-/
import AwsIot.Mqtt.Bag
import Mathlib.Data.List.GetD
import Mathlib.Data.List.TakeWhile

set_option autoImplicit false

namespace AwsIot.Mqtt

open AwsIot.Foundation Program

/-! ## What a slot matches -/

theorem CharPtr.byteAt_of_lt {p : CharPtr} {k : Nat} (h : k < p.chars.length) :
    p.byteAt k = p.chars[k] ∧ p.byteAt k ≠ 0 := by
  have hinit : p.chars <+: p.bytes := List.takeWhile_prefix _
  have hlt : k < p.bytes.length := Nat.lt_of_lt_of_le h hinit.length_le
  have hbyte : p.byteAt k = p.chars[k] := by
    rw [hinit.getElem h, CharPtr.byteAt, List.getD_eq_getElem _ _ hlt]
  have hmem : p.chars[k] ∈ p.bytes.takeWhile (· ≠ 0) := List.getElem_mem h
  exact ⟨hbyte, by rw [hbyte]; simpa using List.mem_takeWhile_imp hmem⟩

/-- Without a NUL in the second string, `strncmp` compares all bytes. -/
theorem strncmpEq_iff {a b : Nat → UInt8} {n i : Nat}
    (hb : ∀ k, i ≤ k → k < i + n → b k ≠ 0) :
    strncmpEq a b n i = true ↔ ∀ k, i ≤ k → k < i + n → a k = b k := by
  induction n generalizing i with
  | zero => exact iff_of_true rfl fun k hle hlt => absurd hlt (by omega)
  | succ n ih =>
    have hrest := ih (i := i + 1) fun k hle hlt => hb k (by omega) (by omega)
    rw [strncmpEq, Bool.and_eq_true, beq_iff_eq, Bool.or_eq_true, beq_iff_eq, hrest]
    constructor
    · rintro ⟨hhead, hzero | htail⟩ k hle hlt
      · exact absurd (hhead ▸ hzero) (hb i (Nat.le_refl i) (by omega))
      · rcases Nat.eq_or_lt_of_le hle with rfl | hlt'
        · exact hhead
        · exact htail k hlt' (by omega)
    · intro hall
      exact ⟨hall i (Nat.le_refl i) (by omega),
        .inr fun k hle hlt => hall k (by omega) (by omega)⟩

/-- The walk over characters takes what the levels do. -/
theorem isTopicMatched_eq_filterTakes (filter topicName : List UInt8) :
    isTopicMatched filter topicName = filterTakes filter topicName := by
  unfold filterTakes
  split
  case isTrue hplaced =>
    rw [Bool.eq_iff_iff, decide_eq_true_iff]
    exact isTopicMatched_iff filter hplaced topicName
  case isFalse => rfl

/-- On a proper slot the test of `deliver_message` is what the subscription wants. -/
theorem slotMatches_eq_wants {slot : MessageHandlers} {filter : CharPtr} (hproper : slot.IsProper)
    (hname : slot.topicName = some filter) (readBuf : Memory) (topicName : Nat)
    (topicNameLen : UInt16) (handler data : Nat) :
    slotMatches readBuf topicName topicNameLen slot filter =
      (Subscription.mk filter.chars handler data).wants
        (readBuf.slice topicName topicNameLen.toNat) := by
  have hlen := (hproper filter hname).2
  have hequal : (topicNameLen = slot.topicNameLen ∧
      strncmpEq (fun i => readBuf (topicName + i)) filter.byteAt topicNameLen.toNat 0 = true) ↔
      filter.chars = readBuf.slice topicName topicNameLen.toNat := by
    constructor
    · rintro ⟨rfl, hcmp⟩
      rw [← hlen] at hcmp ⊢
      rw [strncmpEq_iff fun k _ hk => (CharPtr.byteAt_of_lt (by omega)).2] at hcmp
      refine List.ext_getElem (by rw [Memory.length_slice]) fun k hk _ => ?_
      rw [Memory.getElem_slice, ← (CharPtr.byteAt_of_lt hk).1]
      exact (hcmp k (Nat.zero_le k) (by omega)).symm
    · intro heq
      have hlens : topicNameLen.toNat = slot.topicNameLen.toNat := by
        rw [← hlen, heq, Memory.length_slice]
      refine ⟨UInt16.toNat_inj.mp hlens, ?_⟩
      rw [hlens, ← hlen]
      rw [strncmpEq_iff fun k _ hk => (CharPtr.byteAt_of_lt (by omega)).2]
      intro k _ hk
      have hlt : k < filter.chars.length := by omega
      rw [(CharPtr.byteAt_of_lt hlt).1]
      simp only [heq, Memory.getElem_slice]
  have hequal' : (decide (topicNameLen = slot.topicNameLen) &&
      strncmpEq (fun i => readBuf (topicName + i)) filter.byteAt topicNameLen.toNat 0) =
      decide (filter.chars = readBuf.slice topicName topicNameLen.toNat) := by
    rw [Bool.eq_iff_iff, Bool.and_eq_true, decide_eq_true_iff, decide_eq_true_iff]
    exact hequal
  unfold slotMatches Subscription.wants
  rw [hequal', isTopicMatched_eq_filterTakes]

/-! ## What a packet says -/

section Packet

variable {f : Frame} {c : Client}

theorem Frame.HeldBy.byte {i : Nat} (h : f.HeldBy c) (hi : i < f.bytes.length) :
    c.readBuf i = f.bytes[i] := by
  have hslice : c.readBuf.slice 0 f.bytes.length = f.bytes := h
  have hlt : i < (c.readBuf.slice 0 f.bytes.length).length := by rwa [Memory.length_slice]
  have hbyte : (c.readBuf.slice 0 f.bytes.length)[i] = c.readBuf (0 + i) :=
    Memory.getElem_slice hlt
  simp only [hslice, Nat.zero_add] at hbyte
  exact hbyte.symm

theorem readStringWithLen_congr {m m' : Memory} {pos enddata : Nat}
    (h : ∀ i < enddata, m' i = m i) :
    readStringWithLen m' pos enddata = readStringWithLen m pos enddata := by
  unfold readStringWithLen
  split
  · unfold readUint16
    rw [h pos (by omega), h (pos + 1) (by omega)]
  · rfl

theorem readStringWithLen_le {m : Memory} {pos enddata : Nat} {r : UInt16 × Nat}
    (h : readStringWithLen m pos enddata = some r) : pos + 2 + r.1.toNat ≤ enddata := by
  unfold readStringWithLen at h
  split at h
  · dsimp only at h
    split at h
    · cases h
      assumption
    · cases h
  · cases h

/-- What the parser finds in the read buffer, it finds in the packet alone. -/
theorem publishedTopic_of_held (hheld : f.HeldBy c) :
    publishedTopic c.readBufSize f.bytes =
      match deserializePublish c.readBuf c.readBufSize with
      | .error _ => none
      | .ok msg => some (c.readBuf.slice msg.topicName msg.topicNameLen.toNat) := by
  let alone : Client := { c with readBuf := Memory.writeAt (fun _ => 0) 0 f.bytes }
  have halone : f.HeldBy alone := by
    show (Memory.writeAt _ 0 f.bytes).slice 0 f.bytes.length = f.bytes
    exact Memory.slice_writeAt_self
  have hagree : ∀ i < f.bytes.length, alone.readBuf i = c.readBuf i := fun i hi =>
    (halone.byte hi).trans (hheld.byte hi).symm
  have htotal : f.bytes.length = 1 + f.lenBytes.length + f.body.length := by
    rw [Frame.bytes, List.length_cons, List.length_append]
    omega
  have hle : f.body.length % 2 ^ 32 ≤ f.body.length := Nat.mod_le _ _
  show (match deserializePublish alone.readBuf c.readBufSize with
    | .error _ => none
    | .ok msg => some (alone.readBuf.slice msg.topicName msg.topicNameLen.toNat)) = _
  unfold deserializePublish
  rw [halone.header, hheld.header, decodeRemainingLengthFromBuffer_eq halone.rest.1,
    decodeRemainingLengthFromBuffer_eq hheld.rest.1]
  by_cases hshort : 4 > c.readBufSize
  · rw [if_pos hshort, if_pos hshort]
  by_cases htype : headerType f.header ≠ MessageType.publish.code
  · rw [if_neg hshort, if_neg hshort, if_pos htype, if_pos htype]
  by_cases hlt : f.body.length % 2 ^ 32 < 128 ^ 4
  · rw [if_neg hshort, if_neg hshort, if_neg htype, if_neg htype, if_pos hlt]
    dsimp only
    have hbody : ∀ i < 1 + (writeLenToBuffer (f.body.length % 2 ^ 32)).length +
        f.body.length % 2 ^ 32, alone.readBuf i = c.readBuf i := fun i hi => by
      unfold Frame.lenBytes at htotal
      exact hagree i (by omega)
    rw [readStringWithLen_congr hbody]
    cases hread : readStringWithLen c.readBuf
        (1 + (writeLenToBuffer (f.body.length % 2 ^ 32)).length)
        (1 + (writeLenToBuffer (f.body.length % 2 ^ 32)).length + f.body.length % 2 ^ 32) with
    | none => rfl
    | some r =>
      have hin := readStringWithLen_le hread
      refine congrArg some (Memory.slice_congr fun i hi => hbody _ ?_)
      have hi' : i < r.1.toNat := hi
      show 1 + (writeLenToBuffer (f.body.length % 2 ^ 32)).length + 2 + i < _
      omega
  · rw [if_neg hshort, if_neg hshort, if_neg htype, if_neg htype, if_neg hlt]

/-- Only a PUBLISH is owed to anyone. -/
theorem publishedTopic_of_type (htype : headerType f.header ≠ MessageType.publish.code)
    (rxBufLen : Nat) : publishedTopic rxBufLen f.bytes = none := by
  have hheader : Memory.writeAt (fun _ => 0) 0 f.bytes 0 = f.header := by
    have hlt : 0 < f.bytes.length := Nat.succ_pos _
    have hbyte : Memory.writeAt (fun _ => 0) 0 f.bytes (0 + 0) = f.bytes[0] :=
      Memory.writeAt_add hlt
    exact hbyte
  unfold publishedTopic deserializePublish
  dsimp only
  rw [hheader]
  by_cases hshort : 4 > rxBufLen
  · rw [if_pos hshort]
  · rw [if_neg hshort, if_pos htype]

end Packet

/-! ## Handlers that make no calls -/

/-- The application's handlers make no calls. -/
structure Env.Quiet (env : Env) : Prop where
  /-- Message handlers. -/
  message : ∀ n, env.messageHandler n = none
  /-- The disconnect handler. -/
  disconnect : ∀ n, env.disconnectHandler n = none

/-- The client is as before, and nothing happened. -/
def Idles (w w' : World) : Prop := w'.client = w.client ∧ w'.log = w.log

theorem runHandler_idles {nextCall : Nat → Option ApiCall} (hquiet : ∀ n, nextCall n = none)
    (fuel : Nat) (call : ApiCall → M IoTError) : Keeps Idles (runHandler fuel nextCall call) := by
  intro w
  cases fuel with
  | zero => exact ⟨rfl, rfl⟩
  | succ fuel =>
    unfold runHandler loop
    simp only [ends_bind, ends_ask, hquiet, ends_pure]
    exact ⟨rfl, rfl⟩

/-! ## One message -/

/-- From `w` to `w'` exactly the handlers in `calls` were called, and the client is as before. -/
def Invokes (calls : Multiset Invocation) (w w' : World) : Prop :=
  w'.client = w.client ∧ ∃ new, Extends w new w' ∧ ∀ (bag : Bag) rxBufLen pending,
    bag.settle rxBufLen (calls + pending) new = some pending

/-- As `Invokes`, for a stretch that broke off. -/
def InvokesHalted (calls : Multiset Invocation) (w w' : World) : Prop :=
  ∃ new, Extends w new w' ∧ ∀ (bag : Bag) rxBufLen pending,
    (bag.settle rxBufLen (calls + pending) new).isSome = true

section Message

variable {calls more : Multiset Invocation} {w w₁ w' : World}

theorem Invokes.refl (w : World) : Invokes 0 w w :=
  ⟨rfl, [], Extends.refl w, fun _ _ pending => by rw [Bag.settle, Multiset.zero_add]⟩

theorem Invokes.trans (h : Invokes calls w w₁) (h' : Invokes more w₁ w') :
    Invokes (calls + more) w w' := by
  obtain ⟨hclient, new, hnew, hsettle⟩ := h
  obtain ⟨hclient', new', hnew', hsettle'⟩ := h'
  refine ⟨hclient'.trans hclient, new ++ new', hnew.trans hnew', fun bag rxBufLen pending => ?_⟩
  rw [Bag.settle_append, Multiset.add_assoc, hsettle]
  exact hsettle' bag rxBufLen pending

theorem Invokes.halted (h : Invokes calls w w₁) (h' : InvokesHalted more w₁ w') :
    InvokesHalted (calls + more) w w' := by
  obtain ⟨-, new, hnew, hsettle⟩ := h
  obtain ⟨new', hnew', hsettle'⟩ := h'
  refine ⟨new ++ new', hnew.trans hnew', fun bag rxBufLen pending => ?_⟩
  rw [Bag.settle_append, Multiset.add_assoc, hsettle]
  exact hsettle' bag rxBufLen pending

theorem InvokesHalted.add (h : InvokesHalted calls w w') (more : Multiset Invocation) :
    InvokesHalted (calls + more) w w' := by
  obtain ⟨new, hnew, hsettle⟩ := h
  refine ⟨new, hnew, fun bag rxBufLen pending => ?_⟩
  rw [Multiset.add_assoc]
  exact hsettle bag rxBufLen (more + pending)

variable {callbacks : Callbacks M} (hquiet : ∀ call, Keeps Idles (callbacks.message call))
  (msg : IncomingPublish)
include hquiet

/-- The call that slot `itr` makes of its handler. -/
def slotInvocation (c : Client) (msg : IncomingPublish) (itr : Nat) : Option Invocation :=
  (slotCall c msg itr).map HandlerCall.invocation

omit hquiet in
theorem settle_invocation (bag : Bag) (rxBufLen : Nat) (call : HandlerCall)
    (pending : Multiset Invocation) (rest : List Event) :
    bag.settle rxBufLen ({call.invocation} + pending) (.handlerCalled call :: rest) =
      bag.settle rxBufLen pending rest := by
  have hmem : call.invocation ∈ {call.invocation} + pending := by simp
  rw [Bag.settle, if_pos hmem, Multiset.singleton_add, Multiset.erase_cons_head]

/-- A pass over a slot makes its call. -/
theorem deliverToSlot_invokes (itr : Nat) (w : World) :
    (deliverToSlot callbacks msg itr : M Unit).Ends w
      (fun _ w' => Invokes (↑(slotInvocation w.client msg itr).toList) w w')
      (InvokesHalted (↑(slotInvocation w.client msg itr).toList) w) := by
  rw [ends_deliverToSlot]
  unfold slotInvocation
  cases slotCall w.client msg itr with
  | none => exact Invokes.refl w
  | some call =>
    refine (hquiet _ (w.push (.handlerCalled call))).mono ?_ ?_
    · rintro _ w₁ ⟨hclient, hlog⟩
      refine ⟨hclient, [.handlerCalled call, .handlerReturned], ?_, ?_⟩
      · show _ :: w₁.log = _
        rw [hlog]
        rfl
      · intro bag rxBufLen pending
        show bag.settle rxBufLen ({call.invocation} + pending) _ = _
        rw [settle_invocation]
        rfl
    · rintro w₁ ⟨-, hlog⟩
      refine ⟨[.handlerCalled call], hlog, fun bag rxBufLen pending => ?_⟩
      show (bag.settle rxBufLen ({call.invocation} + pending) _).isSome = true
      rw [settle_invocation]
      rfl

/-- Passes over slots make their calls. -/
theorem deliverSlots_invokes : ∀ (slots : List Nat) (w : World),
    (forEach (deliverToSlot callbacks msg) slots : M Unit).Ends w
      (fun _ w' => Invokes (↑(slots.filterMap (slotInvocation w.client msg))) w w')
      (InvokesHalted (↑(slots.filterMap (slotInvocation w.client msg))) w) := by
  intro slots
  induction slots with
  | nil => intro w; exact Invokes.refl w
  | cons slot slots ih =>
    intro w
    have hsplit : ((slot :: slots).filterMap (slotInvocation w.client msg) : Multiset Invocation) =
        ↑(slotInvocation w.client msg slot).toList +
          ↑(slots.filterMap (slotInvocation w.client msg)) := by
      cases hcall : slotInvocation w.client msg slot with
      | none => simp [hcall]
      | some call => simp [hcall]
    rw [hsplit]
    refine ends_bind.mpr ((deliverToSlot_invokes hquiet msg slot w).mono ?_ ?_)
    · intro _ w₁ h₁
      have hrest := ih w₁
      rw [h₁.1] at hrest
      exact hrest.mono (fun _ _ h₂ => h₁.trans h₂) (fun _ h₂ => h₁.halted h₂)
    · intro w₁ h₁
      exact h₁.add _

/-- What the slots do with a message. -/
def invocations (n : Nat) (c : Client) (msg : IncomingPublish) : Multiset Invocation :=
  contents n (slotInvocation c msg)

/-- The delivery of a message makes the calls of all slots, and nothing else. -/
theorem deliverMessage_invokes (env : Env) (w : World) :
    (deliverMessage env callbacks msg : M IoTError).Ends w
      (fun rc w' => rc = .success ∧
        Invokes (invocations env.config.numSubscribeHandlers w.client msg) w w')
      (InvokesHalted (invocations env.config.numSubscribeHandlers w.client msg) w) := by
  unfold deliverMessage
  simp only [ends_bind, ends_getClientState, ends_setClientState, if_true]
  refine (deliverSlots_invokes hquiet msg (List.range env.config.numSubscribeHandlers)
    (w.withState .connectedWaitForCbReturn)).mono ?_ ?_
  · rintro _ w₁ ⟨hclient, hcalls⟩
    rw [if_pos (by rw [hclient]; rfl)]
    refine ⟨trivial, ?_, hcalls⟩
    show { w₁.client with clientState := w.client.clientState } = w.client
    rw [hclient]
    rfl
  · exact fun _ h => h

end Message

/-! ## What the bag owes -/

section Owed

variable {c : Client} {msg : IncomingPublish}

/-- A proper slot calls its handler exactly if its subscription is owed the call. -/
theorem slotInvocation_eq {itr : Nat} (hproper : (c.messageHandlers itr).IsProper) :
    slotInvocation c msg itr = (c.messageHandlers itr).subscription.bind fun s =>
      s.invocation (c.readBuf.slice msg.topicName msg.topicNameLen.toNat) := by
  unfold slotInvocation slotCall MessageHandlers.subscription
  cases hname : (c.messageHandlers itr).topicName with
  | none => rfl
  | some filter =>
    cases (c.messageHandlers itr).pApplicationHandler with
    | none => rfl
    | some handler =>
      dsimp only [Option.bind_some]
      rw [slotMatches_eq_wants hproper hname c.readBuf msg.topicName msg.topicNameLen handler
        (c.messageHandlers itr).pApplicationHandlerData]
      unfold Subscription.invocation
      split
      · rfl
      · rfl

/-- The slots of a proper table make the calls that the bag owes. -/
theorem invocations_eq (hproper : ProperTable c.messageHandlers) (n : Nat) :
    invocations n c msg = (bagOf n c.messageHandlers).filterMap fun s =>
      s.invocation (c.readBuf.slice msg.topicName msg.topicNameLen.toNat) := by
  unfold bagOf
  rw [← contents_bind]
  exact contents_congr fun slot _ => slotInvocation_eq (hproper slot)

variable {f : Frame}

theorem owed_of_publish (hheld : f.HeldBy c) (hproper : ProperTable c.messageHandlers)
    (hread : deserializePublish c.readBuf c.readBufSize = .ok msg) (n : Nat) :
    (bagOf n c.messageHandlers).owed c.readBufSize f.bytes = invocations n c msg := by
  unfold Bag.owed
  rw [publishedTopic_of_held hheld, hread, invocations_eq hproper]

theorem owed_of_malformed (hheld : f.HeldBy c) {rc : IoTError}
    (hread : deserializePublish c.readBuf c.readBufSize = .error rc) (bag : Bag) :
    bag.owed c.readBufSize f.bytes = 0 := by
  unfold Bag.owed
  rw [publishedTopic_of_held hheld, hread]

theorem owed_of_type (htype : headerType f.header ≠ MessageType.publish.code) (bag : Bag)
    (rxBufLen : Nat) : bag.owed rxBufLen f.bytes = 0 := by
  unfold Bag.owed
  rw [publishedTopic_of_type htype]

end Owed

/-! ## Stretches of a run -/

/-- From `w` to `w'` the calls of `owed` were made, and then those that the bag owed for the
packets that were read.  The table is as before. -/
def Settles (n : Nat) (owed : Multiset Invocation) (w w' : World) : Prop :=
  w'.client.messageHandlers = w.client.messageHandlers ∧
  w'.client.readBufSize = w.client.readBufSize ∧
  ∃ new, Extends w new w' ∧
    (bagOf n w.client.messageHandlers).settle w.client.readBufSize owed new = some 0

/-- As `Settles`, for a stretch that broke off. -/
def SettlesHalted (n : Nat) (owed : Multiset Invocation) (w w' : World) : Prop :=
  ∃ new, Extends w new w' ∧
    ((bagOf n w.client.messageHandlers).settle w.client.readBufSize owed new).isSome = true

section Settles

variable {n : Nat} {owed : Multiset Invocation} {w w₁ w' : World}

theorem Settles.trans (h : Settles n owed w w₁) (h' : Settles n 0 w₁ w') :
    Settles n owed w w' := by
  obtain ⟨htable, hsize, new, hnew, hsettle⟩ := h
  obtain ⟨htable', hsize', new', hnew', hsettle'⟩ := h'
  refine ⟨htable'.trans htable, hsize'.trans hsize, new ++ new', hnew.trans hnew', ?_⟩
  rw [htable, hsize] at hsettle'
  rw [Bag.settle_append, hsettle]
  exact hsettle'

theorem Settles.halted (h : Settles n owed w w₁) (h' : SettlesHalted n 0 w₁ w') :
    SettlesHalted n owed w w' := by
  obtain ⟨htable, hsize, new, hnew, hsettle⟩ := h
  obtain ⟨new', hnew', hsettle'⟩ := h'
  refine ⟨new ++ new', hnew.trans hnew', ?_⟩
  rw [htable, hsize] at hsettle'
  rw [Bag.settle_append, hsettle]
  exact hsettle'

theorem Settles.of_log (htable : w'.client.messageHandlers = w.client.messageHandlers)
    (hsize : w'.client.readBufSize = w.client.readBufSize) (hlog : w'.log = w.log) :
    Settles n 0 w w' :=
  ⟨htable, hsize, [], Extends.of_log hlog, rfl⟩

theorem Settles.refl (w : World) : Settles n 0 w w := Settles.of_log rfl rfl rfl

theorem SettlesHalted.refl (n : Nat) (owed : Multiset Invocation) (w : World) :
    SettlesHalted n owed w w := ⟨[], Extends.refl w, rfl⟩

theorem settles_push {e : Event} (hpacket : e.kind ≠ .packet) (hhandler : e.kind ≠ .handler)
    (w : World) : Settles n 0 w (w.push e) :=
  ⟨rfl, rfl, [e], (Extends.refl w).push e, Bag.settle_cons hpacket hhandler 0 []⟩

/-- Reading a packet makes calls due. -/
theorem Settles.packet (h : Settles n 0 w w₁) (packet : List UInt8)
    (h' : Settles n ((bagOf n w₁.client.messageHandlers).owed w₁.client.readBufSize packet)
      (w₁.push (.packetRead packet)) w') : Settles n 0 w w' := by
  apply h.trans
  obtain ⟨htable, hsize, new, hnew, hsettle⟩ := h'
  refine ⟨htable, hsize, .packetRead packet :: new, ?_, ?_⟩
  · exact ((Extends.refl w₁).push (.packetRead packet)).trans hnew
  · rw [Bag.settle, if_pos rfl]
    exact hsettle

theorem SettlesHalted.packet (h : Settles n 0 w w₁) (packet : List UInt8)
    (h' : SettlesHalted n ((bagOf n w₁.client.messageHandlers).owed w₁.client.readBufSize packet)
      (w₁.push (.packetRead packet)) w') : SettlesHalted n 0 w w' := by
  apply h.halted
  obtain ⟨new, hnew, hsettle⟩ := h'
  refine ⟨.packetRead packet :: new, ?_, ?_⟩
  · exact ((Extends.refl w₁).push (.packetRead packet)).trans hnew
  · rw [Bag.settle, if_pos rfl]
    exact hsettle

end Settles

/-- On a proper table, every message that came in went to the subscriptions that want it, and
the table is as before. -/
def Serves (n : Nat) (w w' : World) : Prop :=
  ProperTable w.client.messageHandlers → Settles n 0 w w'

/-- As `Serves`, for a stretch that broke off. -/
def ServesHalted (n : Nat) (w w' : World) : Prop :=
  ProperTable w.client.messageHandlers → SettlesHalted n 0 w w'

/-- As `Serves`, with the client in the state it was in. -/
def ServesHeld (n : Nat) (w w' : World) : Prop :=
  ProperTable w.client.messageHandlers →
    Settles n 0 w w' ∧ w'.client.clientState = w.client.clientState

section Serves

variable {n : Nat}

instance : IsPreorder World (Serves n) where
  refl w _ := Settles.refl w
  trans w w₁ w' h h' hproper := by
    have hfirst := h hproper
    exact hfirst.trans (h' (by rw [hfirst.1]; exact hproper))

theorem ServesHeld.serves {w w' : World} (h : ServesHeld n w w') : Serves n w w' :=
  fun hproper => (h hproper).1

instance : IsPreorder World (ServesHeld n) where
  refl w _ := ⟨Settles.refl w, rfl⟩
  trans w w₁ w' h h' hproper := by
    obtain ⟨hfirst, hstate⟩ := h hproper
    obtain ⟨hrest, hstate'⟩ := h' (by rw [hfirst.1]; exact hproper)
    exact ⟨hfirst.trans hrest, hstate'.trans hstate⟩

theorem servesHalted_after : HaltsAfter (Serves n) (ServesHalted n) where
  refl w _ := SettlesHalted.refl n 0 w
  trans h h' hproper := by
    have hfirst := h hproper
    exact hfirst.halted (h' (by rw [hfirst.1]; exact hproper))

theorem servesHeld_after : HaltsAfter (ServesHeld n) (ServesHalted n) where
  refl := servesHalted_after.refl
  trans h h' := servesHalted_after.trans h.serves h'

theorem serves_push {e : Event} (hpacket : e.kind ≠ .packet) (hhandler : e.kind ≠ .handler)
    (w : World) : Serves n w (w.push e) := fun _ => settles_push hpacket hhandler w

theorem servesHeld_steps : TrafficSteps (ServesHeld n) where
  onClient w f hf _ := by
    obtain ⟨hstate, htable, -, hsize⟩ := hf w.client
    exact ⟨Settles.of_log htable hsize rfl, hstate⟩
  tick w _ := ⟨Settles.of_log rfl rfl rfl, rfl⟩
  push w e he _ := ⟨settles_push (by rw [he]; decide) (by rw [he]; decide) w, rfl⟩

theorem serves_steps : TrafficSteps (Serves n) where
  onClient w f hf := (servesHeld_steps.onClient w f hf).serves
  tick w := (servesHeld_steps.tick w).serves
  push w e he := (servesHeld_steps.push w e he).serves

end Serves

/-! ## Reading one packet -/

section Cycle

variable {n : Nat} {calls : Multiset Invocation} {w w' : World}

theorem Invokes.settles (h : Invokes calls w w') (n : Nat) : Settles n calls w w' := by
  obtain ⟨hclient, new, hnew, hsettle⟩ := h
  refine ⟨by rw [hclient], by rw [hclient], new, hnew, ?_⟩
  rw [← hsettle (bagOf n w.client.messageHandlers) w.client.readBufSize 0, Multiset.add_zero]

theorem InvokesHalted.settles (h : InvokesHalted calls w w') (n : Nat) :
    SettlesHalted n calls w w' := by
  obtain ⟨new, hnew, hsettle⟩ := h
  refine ⟨new, hnew, ?_⟩
  rw [← hsettle (bagOf n w.client.messageHandlers) w.client.readBufSize 0, Multiset.add_zero]

/-- `handle_publish` makes the calls that are owed for the packet. -/
theorem handlePublish_settles {env : Env} {callbacks : Callbacks M}
    (hquiet : ∀ call, Keeps Idles (callbacks.message call)) {f : Frame} (hheld : f.HeldBy w.client)
    (hproper : ProperTable w.client.messageHandlers) (fuel : Nat) (timer : Timer) :
    (handlePublish env fuel callbacks timer : M IoTError).Ends w
      (fun _ w' => Settles env.config.numSubscribeHandlers
          ((bagOf env.config.numSubscribeHandlers w.client.messageHandlers).owed
            w.client.readBufSize f.bytes) w w' ∧
        w'.client.clientState = w.client.clientState)
      (SettlesHalted env.config.numSubscribeHandlers
        ((bagOf env.config.numSubscribeHandlers w.client.messageHandlers).owed
          w.client.readBufSize f.bytes) w) := by
  have hall := servesHeld_steps.tracking (servesHeld_after (n := env.config.numSubscribeHandlers))
  unfold handlePublish
  simp only [ends_bind, ends_getClient]
  cases hread : deserializePublish w.client.readBuf w.client.readBufSize with
  | error rc =>
    rw [owed_of_malformed hheld hread]
    exact ⟨Settles.refl w, rfl⟩
  | ok msg =>
    rw [owed_of_publish hheld hproper hread]
    refine ends_bind.mpr (ends_deliverReceived.mpr
      ((deliverMessage_invokes hquiet msg env (w.receiving msg)).mono ?_ (fun _ h => h.settles _)))
    rintro rc w₁ ⟨rfl, hclient, hcalls⟩
    have hinvokes : Invokes (invocations env.config.numSubscribeHandlers w.client msg) w
        w₁.received :=
      ⟨by rw [World.received, World.client_onClient, hclient]; rfl, hcalls⟩
    have hproper₁ : ProperTable w₁.received.client.messageHandlers := by
      rw [hinvokes.1]; exact hproper
    have hack : Tracks (ServesHeld env.config.numSubscribeHandlers)
        (ServesHalted env.config.numSubscribeHandlers) (do
          if IoTError.success ≠ .success then return IoTError.success
          if msg.qos = 0 then return .success
          acknowledgeReceived env fuel timer
            ((w₁.client.receivedIds.headD msg.id).getD 0) : M IoTError) := by
      refine hall.ite (fun _ => hall.pure _) fun _ => hall.ite (fun _ => hall.pure _) fun _ => ?_
      exact hall.acknowledgeReceived env fuel timer _
    refine (hack w₁.received).mono ?_ ?_
    · intro _ w₂ h₂
      obtain ⟨hsettles, hstate⟩ := h₂ hproper₁
      exact ⟨(hinvokes.settles _).trans hsettles, by rw [hstate, hinvokes.1]⟩
    · intro w₂ h₂
      exact (hinvokes.settles _).halted (h₂ hproper₁)

/-- The packet that `cycle_read` reads goes to the subscriptions that want it. -/
theorem cycleRead_serves {env : Env} {callbacks : Callbacks M}
    (hquiet : ∀ call, Keeps Idles (callbacks.message call)) (fuel : Nat) (timer : Timer)
    (packetType : UInt8) :
    Tracks (ServesHeld env.config.numSubscribeHandlers)
      (ServesHalted env.config.numSubscribeHandlers)
      (cycleRead env fuel callbacks timer packetType : M (IoTError × UInt8)) := by
  intro w
  unfold cycleRead
  refine ends_bind.mpr ((readPacket_read (servesHeld_steps.tracking servesHeld_after)
    servesHeld_after packetType).mono ?_ (fun _ h => h))
  rintro ⟨rc, readType⟩ w₁ h₁
  dsimp only at h₁ ⊢
  by_cases hrc : rc = .success
  case neg =>
    rw [if_neg hrc] at h₁
    rw [ends_ite]
    split
    · exact h₁.1
    · exact h₁.1
  rw [if_pos hrc] at h₁
  obtain ⟨f, w₂, h₂, rfl, hheld, rfl⟩ := h₁
  rw [hrc, if_neg (by decide), if_neg (by decide)]
  -- a packet of another type is owed to nobody
  have hother : headerType f.header ≠ MessageType.publish.code →
      ServesHeld env.config.numSubscribeHandlers w (w₂.push (.packetRead f.bytes)) := by
    intro htype hproper
    obtain ⟨hsettles, hstate⟩ := h₂ hproper
    refine ⟨hsettles.packet f.bytes ?_, hstate⟩
    rw [owed_of_type htype]
    exact Settles.refl _
  by_cases hmem : headerType f.header ∈ [MessageType.connack.code, MessageType.puback.code,
      MessageType.suback.code, MessageType.unsuback.code, MessageType.pubrec.code,
      MessageType.pubcomp.code]
  · rw [if_pos hmem]
    refine hother fun heq => ?_
    rw [heq] at hmem
    exact absurd hmem (by decide)
  rw [if_neg hmem]
  by_cases htype : headerType f.header = MessageType.publish.code
  · rw [if_pos htype, ends_bind]
    by_cases hproper : ProperTable w.client.messageHandlers
    case neg =>
      exact ends_true.mono (fun _ _ _ h => absurd h hproper) (fun _ _ h => absurd h hproper)
    obtain ⟨hsettles, hstate⟩ := h₂ hproper
    have hproper₂ : ProperTable w₂.client.messageHandlers := by rw [hsettles.1]; exact hproper
    refine (handlePublish_settles hquiet hheld hproper₂ fuel timer).mono ?_ ?_
    · intro rc w₃ h₃ _
      exact ⟨hsettles.packet f.bytes h₃.1, h₃.2.trans hstate⟩
    · intro w₃ h₃ _
      exact SettlesHalted.packet hsettles f.bytes h₃
  · rw [if_neg htype, ends_ite]
    split
    · simp only [ends_bind, ends_getClient, ends_countdownSec, ends_modifyClient, ends_pure]
      exact trans_of (ServesHeld _) (hother htype) (trans_of (ServesHeld _)
        (servesHeld_steps.tick _) (servesHeld_steps.onClient _ _ fun _ => ⟨rfl, rfl, rfl, rfl⟩))
    · exact hother htype

end Cycle

end AwsIot.Mqtt
