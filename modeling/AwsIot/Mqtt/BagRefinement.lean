/-
  Mqtt/BagRefinement.lean --- the handler table refines a bag of subscriptions.

  While the application's handlers make no calls, the handler table stands for the bag
  that the results of the calls describe, and every message that arrives goes to exactly
  the subscriptions of the bag that want it (`tableRefinesBag`).  A full table refuses a
  subscription only once the client is connected and idle (`not_refused_disconnected`).
-/
import AwsIot.Mqtt.BagDelivery
import AwsIot.Mqtt.RequestRules
import AwsIot.Mqtt.Resubscribe

set_option autoImplicit false

namespace AwsIot.Mqtt

open AwsIot.Foundation Program

/-! ## Calls -/

/-- The filter of a subscribe is a C string of the stated length. -/
def ApiCall.IsProper : ApiCall → Prop
  | .subscribe (some topicName) topicNameLen _ _ _ => topicName.chars.length = topicNameLen.toNat
  | _ => True

/-- The packet of a subscribe fits the write buffer. -/
def subscribeFits (txBufLen : Nat) (topicNameLen : UInt16) : Prop :=
  getFinalPacketLengthFromRemainingLength (topicNameLen.toNat + 5) ≤ txBufLen

/-- The table follows the bag through a call that returned `rc`. -/
structure Refines (n : Nat) (call : ApiCall) (rc : IoTError) (w w' : World) : Prop where
  /-- The table stands for the bag after the call. -/
  bag : bagOf n w'.client.messageHandlers = (bagOf n w.client.messageHandlers).after call rc
  /-- The used slots are proper. -/
  proper : ProperTable w'.client.messageHandlers
  /-- Every message went to the subscriptions that want it. -/
  delivered : ∃ new, Extends w new w' ∧
    (bagOf n w.client.messageHandlers).Delivered w.client.readBufSize new

section Refines

variable {n : Nat} {call : ApiCall} {rc : IoTError} {w w₁ w' : World}

/-- A stretch that keeps the table, for a call that keeps the bag. -/
theorem Refines.of_settles (hproper : ProperTable w.client.messageHandlers)
    (h : Settles n 0 w w')
    (hkeeps : (bagOf n w.client.messageHandlers).after call rc = bagOf n w.client.messageHandlers) :
    Refines n call rc w w' where
  bag := by rw [h.1, hkeeps]
  proper := by rw [h.1]; exact hproper
  delivered := h.2.2

theorem Refines.before (h : Settles n 0 w w₁) (h' : Refines n call rc w₁ w') :
    Refines n call rc w w' where
  bag := by rw [h'.bag, h.1]
  proper := h'.proper
  delivered := by
    obtain ⟨htable, hsize, new, hnew, hsettle⟩ := h
    obtain ⟨new', hnew', hdelivered⟩ := h'.delivered
    rw [htable, hsize] at hdelivered
    exact ⟨new ++ new', hnew.trans hnew', Bag.Delivered.append hsettle hdelivered⟩

/-- What happens behind a call without packets changes nothing. -/
theorem Refines.after (h : Refines n call rc w w₁)
    (htable : w'.client.messageHandlers = w₁.client.messageHandlers)
    {new : List Event} (hnew : Extends w₁ new w')
    (hquiet : ∀ bag : Bag, ∀ rxBufLen, bag.Delivered rxBufLen new) :
    Refines n call rc w w' where
  bag := by rw [htable, h.bag]
  proper := by rw [htable]; exact h.proper
  delivered := by
    obtain ⟨old, hold, hdelivered⟩ := h.delivered
    exact ⟨old ++ new, hold.trans hnew, hdelivered.append (hquiet _ _)⟩

end Refines

/-! ## Requests -/

section Requests

variable {env : Env} {fuel : Nat} {callbacks : Callbacks M} {w : World}

theorem sendPacket_notRefused (length : Nat) (timer : Timer) (w : World) :
    (sendPacket env fuel length timer : M IoTError).Ends w
      (fun rc _ => rc ≠ .mqttMaxSubscriptionsReachedError) (fun _ => True) := by
  unfold sendPacket
  simp only [ends_bind, ends_getClient, ends_ite, ends_pure, ends_emit]
  split
  · decide
  refine ends_true.mono ?_ (fun _ _ => trivial)
  intro sent _ _
  split
  · decide
  · decide

theorem deserializeSuback_notRefused (maxExpectedQoSCount : Nat) (rxBuf : Memory)
    (rxBufLen : Nat) : (deserializeSuback maxExpectedQoSCount rxBuf rxBufLen).rc ≠
      .mqttMaxSubscriptionsReachedError := by
  have hmem := deserializeSuback_mem maxExpectedQoSCount rxBuf rxBufLen
  intro heq
  rw [heq] at hmem
  exact absurd hmem (by decide)

/-- A SUBSCRIBE packet is serialized exactly if it fits. -/
theorem serializeSubscribe_fits (txBufLen : Nat) (id : UInt16) (topicName : Option CharPtr)
    (topicNameLen : UInt16) (qos : QoS) :
    (¬ subscribeFits txBufLen topicNameLen ∧
      serializeSubscribe txBufLen 0 id [⟨topicName, topicNameLen, qos⟩] =
        .error .mqttTxBufferTooShortError) ∨
    (subscribeFits txBufLen topicNameLen ∧
      ∀ rc, serializeSubscribe txBufLen 0 id [⟨topicName, topicNameLen, qos⟩] ≠ .error rc) := by
  have hlt := topicNameLen.toNat_lt
  have hlen : (2 + (topicNameLen.toNat + 2 + 1)) % 2 ^ 32 = topicNameLen.toNat + 5 := by omega
  have hheader : initHeader .subscribe .qos1 0 0 = .ok 0x82 := rfl
  unfold serializeSubscribe subscribeFits
  rw [hheader]
  simp only [List.foldl_cons, List.foldl_nil, hlen]
  by_cases hfits : getFinalPacketLengthFromRemainingLength (topicNameLen.toNat + 5) > txBufLen
  · exact .inl ⟨Nat.not_le.mpr hfits, if_pos hfits⟩
  · refine .inr ⟨Nat.not_lt.mp hfits, fun rc => ?_⟩
    rw [if_neg hfits]
    exact Serialized.ofBytes_ne_error _ rc

theorem firstFreeFrom_free (table : Nat → MessageHandlers) :
    ∀ left itr, firstFreeFrom table left itr < itr + left →
      (table (firstFreeFrom table left itr)).topicName = none := by
  intro left
  induction left with
  | zero => intro itr h; exact absurd h (Nat.lt_irrefl _)
  | succ left ih =>
    intro itr h
    rw [firstFreeFrom] at h ⊢
    split
    case isTrue hfree => exact hfree
    case isFalse hused =>
      rw [if_neg hused] at h
      exact ih (itr + 1) (by omega)

/-- No slot is free exactly if the bag is full. -/
theorem firstFreeFrom_full_iff {table : Nat → MessageHandlers} (hproper : ProperTable table)
    (n : Nat) : n ≤ firstFreeFrom table n 0 ↔ Multiset.card (bagOf n table) = n := by
  rw [card_bagOf_eq_iff hproper]
  constructor
  · intro hle slot hslot
    exact firstFreeFrom_used table n 0 slot (Nat.zero_le slot) (Nat.lt_of_lt_of_le hslot hle)
  · intro hused
    by_contra hlt
    have hfree := firstFreeFrom_free table n 0 (by omega)
    exact hused _ (Nat.not_le.mp hlt) hfree

/-- Storing the handler of a subscribe in a free slot adds its subscription to the bag. -/
theorem Refines.register {n : Nat} {w₁ : World} (hproper : ProperTable w.client.messageHandlers)
    (h : Settles n 0 w w₁) {slot : Nat} (hslot : slot < n)
    (hfree : (w.client.messageHandlers slot).topicName = none) {topicName : CharPtr}
    {topicNameLen : UInt16} (hlen : topicName.chars.length = topicNameLen.toNat) (qos : QoS)
    (handler data : Nat) :
    Refines n (.subscribe (some topicName) topicNameLen qos (some handler) data) .success w
      (w₁.register slot ⟨some topicName, topicNameLen, qos, some handler, data⟩) where
  bag := by
    show bagOf n (Function.update w₁.client.messageHandlers slot _) = _
    rw [h.1, bagOf_update hslot hfree rfl]
    rfl
  proper := by
    show ProperTable (Function.update w₁.client.messageHandlers slot _)
    rw [h.1]
    apply hproper.update slot
    intro filter hname
    cases hname
    exact ⟨by simp, hlen⟩
  delivered := by
    obtain ⟨-, -, new, hnew, hsettle⟩ := h
    refine ⟨new ++ [.registered slot _], hnew.push _, Bag.Delivered.append hsettle ?_⟩
    exact Bag.delivered_single (by simp [Event.kind]) (by simp [Event.kind])

/-- Emptying the slots of an unsubscribe takes its subscriptions out of the bag. -/
theorem Refines.clear {n : Nat} {w₁ : World} (hproper : ProperTable w.client.messageHandlers)
    (h : Settles n 0 w w₁) (topicFilter : CharPtr) (topicFilterLen : UInt16) :
    Refines n (.unsubscribe (some topicFilter) topicFilterLen) .success w
      ((w₁.onClient fun c => { c with
        messageHandlers := clearEqual n topicFilter c.messageHandlers }).push
          (.cleared topicFilter)) where
  bag := by
    show bagOf n (clearEqual n topicFilter w₁.client.messageHandlers) = _
    rw [h.1, bagOf_clearEqual]
    rfl
  proper := by
    show ProperTable (clearEqual n topicFilter w₁.client.messageHandlers)
    rw [h.1]
    exact hproper.clearEqual topicFilter
  delivered := by
    obtain ⟨-, -, new, hnew, hsettle⟩ := h
    refine ⟨new ++ [.cleared topicFilter], hnew.push _, Bag.Delivered.append hsettle ?_⟩
    exact Bag.delivered_single (by simp [Event.kind]) (by simp [Event.kind])

variable (hquiet : ∀ call, Keeps Idles (callbacks.message call))
include hquiet

theorem cycling_servesHeld : Cycling env callbacks
    (Tracks (ServesHeld env.config.numSubscribeHandlers)
      (ServesHalted env.config.numSubscribeHandlers)) where
  toTraffic := servesHeld_steps.tracking servesHeld_after
  cycleRead := cycleRead_serves hquiet

theorem cycling_serves : Cycling env callbacks
    (Tracks (Serves env.config.numSubscribeHandlers)
      (ServesHalted env.config.numSubscribeHandlers)) where
  toTraffic := serves_steps.tracking servesHalted_after
  cycleRead fuel timer packetType w :=
    (cycleRead_serves hquiet fuel timer packetType w).mono (fun _ _ h => h.serves) fun _ h => h

theorem cycling_logGrows : Cycling env callbacks (Keeps LogGrows) :=
  ((logGrows_steps env).serving fun call w =>
    (hquiet call w).mono (fun _ _ h => ⟨[], h.2.symm⟩) fun _ h => ⟨[], h.2.symm⟩).toCycling

/-- The rule of an exchange on a proper table: what fails keeps the table, and `k` looks at
the answer. -/
theorem ends_exchange_serves {t : MessageType} (ht : t.isReported = true) {length : Nat}
    {timer : Timer} {k : M IoTError} {Q : IoTError → World → Prop}
    (hproper : ProperTable w.client.messageHandlers)
    (hfail : ∀ rc w', rc ≠ .success → rc ≠ .mqttMaxSubscriptionsReachedError →
      Settles env.config.numSubscribeHandlers 0 w w' →
      w'.client.clientState = w.client.clientState → Q rc w')
    (hk : ∀ w', Settles env.config.numSubscribeHandlers 0 w w' →
      w'.client.clientState = w.client.clientState →
      k.Ends w' Q (SettlesHalted env.config.numSubscribeHandlers 0 w)) :
    (do let rc ← sendPacket env fuel length timer
        if rc ≠ .success then return rc
        let rc ← waitForRead env fuel callbacks t timer
        if rc ≠ .success then return rc
        k : M IoTError).Ends w Q (SettlesHalted env.config.numSubscribeHandlers 0 w) := by
  have hcycle : Cycling env callbacks (Tracks (ServesHeld env.config.numSubscribeHandlers)
      (ServesHalted env.config.numSubscribeHandlers)) := cycling_servesHeld hquiet
  refine ends_bind.mpr (((sendPacket_notRefused length timer w).and
    (hcycle.sendPacket env fuel length timer w)).mono ?_ (fun _ h => h.2 hproper))
  rintro rc w₁ ⟨hrc, h₁⟩
  obtain ⟨hsettles, hstate⟩ := h₁ hproper
  have hproper₁ : ProperTable w₁.client.messageHandlers := by rw [hsettles.1]; exact hproper
  rw [ends_ite]
  split
  case isTrue hne => exact hfail rc w₁ hne hrc hsettles hstate
  refine ends_bind.mpr (((waitForRead_answered (cycling_logGrows hquiet) ht timer).and
    (hcycle.waitForRead fuel t timer w₁)).mono ?_ (fun _ h => hsettles.halted (h.2 hproper₁)))
  rintro rc w₂ ⟨⟨-, hanswer⟩, h₂⟩
  obtain ⟨hsettles₂, hstate₂⟩ := h₂ hproper₁
  have hrc₂ : rc ≠ .mqttMaxSubscriptionsReachedError := by
    rcases hanswer with rfl | rfl | ⟨rfl, -⟩ <;> decide
  rw [ends_ite]
  split
  case isTrue hne =>
    exact hfail rc w₂ hne hrc₂ (hsettles.trans hsettles₂) (hstate₂.trans hstate)
  case isFalse => exact hk w₂ (hsettles.trans hsettles₂) (hstate₂.trans hstate)

/-- A subscribe adds its subscription to the bag when it succeeds, and is refused exactly when
the bag is full. -/
theorem internalSubscribe_refines {topicName : CharPtr} {topicNameLen : UInt16}
    (hlen : topicName.chars.length = topicNameLen.toNat) (qos : QoS) (handler data : Nat)
    (hproper : ProperTable w.client.messageHandlers) :
    (internalSubscribe env fuel callbacks topicName topicNameLen qos handler data :
      M IoTError).Ends w
      (fun rc w' => Refines env.config.numSubscribeHandlers
          (.subscribe (some topicName) topicNameLen qos (some handler) data) rc w w' ∧
        w'.client.clientState = w.client.clientState ∧
        (subscribeFits w.client.writeBufSize topicNameLen →
          (rc = .mqttMaxSubscriptionsReachedError ↔
            Multiset.card (bagOf env.config.numSubscribeHandlers w.client.messageHandlers) =
              env.config.numSubscribeHandlers)) ∧
        (rc = .mqttMaxSubscriptionsReachedError → w'.log = w.log))
      (SettlesHalted env.config.numSubscribeHandlers 0 w) := by
  have hfull := firstFreeFrom_full_iff hproper env.config.numSubscribeHandlers
  have hkeeps : ∀ rc, rc ≠ .success →
      (bagOf env.config.numSubscribeHandlers w.client.messageHandlers).after
        (.subscribe (some topicName) topicNameLen qos (some handler) data) rc =
      bagOf env.config.numSubscribeHandlers w.client.messageHandlers :=
    fun rc hrc => Bag.after_of_failure _ hrc nofun
  unfold internalSubscribe
  simp only [ends_bind, ends_getClient, ends_countdownMs, ends_getNextPacketId, ends_storePacket]
  rcases serializeSubscribe_fits w.client.writeBufSize
      (followingPacketId w.tick.client.nextPacketId) (some topicName) topicNameLen qos with
    ⟨hshort, hser⟩ | ⟨-, hser⟩
  · rw [hser]
    exact ⟨Refines.of_settles hproper (Settles.of_log rfl rfl rfl) (hkeeps _ (by decide)), rfl,
      fun hfits => absurd hfits hshort, fun h => absurd h (by decide)⟩
  split
  case h_1 => exact SettlesHalted.refl _ _ _
  case h_2 rc hser' => exact absurd hser' (hser rc)
  case h_3 packet _ =>
    simp only [ends_getFreeMessageHandlerIndex]
    rw [ends_ite]
    split
    case isTrue hnone =>
      exact ⟨Refines.of_settles hproper (Settles.of_log rfl rfl rfl) (hkeeps _ (by decide)), rfl,
        fun _ => iff_of_true rfl (hfull.mp hnone), fun _ => rfl⟩
    case isFalse hslot =>
      have hroom : ¬ Multiset.card (bagOf env.config.numSubscribeHandlers
          w.client.messageHandlers) = env.config.numSubscribeHandlers :=
        fun h => hslot (hfull.mpr h)
      refine ends_exchange_serves (t := .suback) hquiet rfl hproper ?_ ?_
      · intro rc w' hne hrc hsettles hstate
        exact ⟨Refines.of_settles hproper hsettles (hkeeps rc hne), hstate,
          fun _ => iff_of_false hrc hroom, fun h => absurd h hrc⟩
      · intro w₁ hsettles hstate
        simp only [ends_bind, ends_getClient, ends_ite, ends_registerHandler, ends_pure]
        split
        case isTrue hne =>
          have hrc := deserializeSuback_notRefused 1 w₁.client.readBuf w₁.client.readBufSize
          exact ⟨Refines.of_settles hproper hsettles (hkeeps _ hne), hstate,
            fun _ => iff_of_false hrc hroom, fun h => absurd h hrc⟩
        case isFalse =>
          refine ⟨Refines.register hproper hsettles (Nat.not_le.mp hslot) ?_ hlen qos handler data,
            hstate, fun _ => iff_of_false (by decide) hroom, fun h => absurd h (by decide)⟩
          exact firstFreeFrom_free _ _ 0 (by omega)

/-- An unsubscribe takes the subscriptions with its filter out of the bag when it
succeeds. -/
theorem internalUnsubscribe_refines (topicFilter : CharPtr) (topicFilterLen : UInt16)
    (hproper : ProperTable w.client.messageHandlers) :
    (internalUnsubscribe env fuel callbacks topicFilter topicFilterLen : M IoTError).Ends w
      (fun rc w' => Refines env.config.numSubscribeHandlers
          (.unsubscribe (some topicFilter) topicFilterLen) rc w w' ∧
        w'.client.clientState = w.client.clientState)
      (SettlesHalted env.config.numSubscribeHandlers 0 w) := by
  have hkeeps : ∀ rc, rc ≠ .success →
      (bagOf env.config.numSubscribeHandlers w.client.messageHandlers).after
        (.unsubscribe (some topicFilter) topicFilterLen) rc =
      bagOf env.config.numSubscribeHandlers w.client.messageHandlers :=
    fun rc hrc => Bag.after_of_failure _ hrc nofun
  unfold internalUnsubscribe
  simp only [ends_bind, ends_getClient]
  rw [ends_ite]
  split
  case isTrue =>
    exact ⟨Refines.of_settles hproper (Settles.refl w) (hkeeps _ (by decide)), rfl⟩
  case isFalse =>
    simp only [ends_bind, ends_countdownMs, ends_getNextPacketId, ends_storePacket]
    split
    case h_1 => exact SettlesHalted.refl _ _ _
    case h_2 rc hser =>
      have hne := IoTError.ne_success_of_isError (serializeUnsubscribe_error hser)
      exact ⟨Refines.of_settles hproper (Settles.of_log rfl rfl rfl) (hkeeps rc hne), rfl⟩
    case h_3 packet _ =>
      refine ends_bind.mp (ends_exchange_serves (t := .unsuback) hquiet rfl hproper ?_ ?_)
      · intro rc w' hne _ hsettles hstate
        exact ⟨Refines.of_settles hproper hsettles (hkeeps rc hne), hstate⟩
      · intro w₁ hsettles hstate
        simp only [ends_bind, ends_getClient]
        split
        case h_1 rc hack =>
          have hne := IoTError.ne_success_of_isError (deserializeUnsuback_error hack)
          exact ⟨Refines.of_settles hproper hsettles (hkeeps rc hne), hstate⟩
        case h_2 => exact ⟨Refines.clear hproper hsettles topicFilter topicFilterLen, hstate⟩

end Requests

/-! ## Outer functions -/

section Outer

variable {w : World} {Q : IoTError → World → Prop} {H : World → Prop} {internal : M IoTError}

/-- A request whose internal function keeps the client state comes back to the state it
saved. -/
theorem ends_performRequest (operation : Operation) {s : ClientState}
    (h : internal.Ends w (fun rc w' => w'.client.clientState = operation.inProgress ∧
      Q rc (w'.withState s)) H) :
    (performRequest operation s internal).Ends w Q H := by
  unfold performRequest
  simp only [ends_bind, ends_within, ends_pure, ends_setClientState]
  refine h.mono ?_ (fun _ h => h)
  rintro rc w' ⟨hstate, hQ⟩
  rw [if_pos hstate.symm, if_neg (by simp)]
  exact hQ

variable (hrefused : ∀ rc, rc ≠ .success → rc ≠ .mqttMaxSubscriptionsReachedError →
  w.client.clientState ≠ .connectedIdle → Q rc w)
include hrefused

theorem ends_request (operation : Operation)
    (h : internal.Ends (w.withState operation.inProgress) (fun rc w' =>
      w'.client.clientState = operation.inProgress ∧ Q rc (w'.withState w.client.clientState)) H) :
    (request operation internal).Ends w Q H := by
  unfold request
  simp only [ends_bind, ends_getClientState, ends_ite, ends_pure, ends_setClientState]
  split
  case isTrue hdown =>
    exact hrefused _ (by decide) (by decide) fun heq => hdown (by rw [heq]; rfl)
  split
  case isTrue hbusy => exact hrefused _ (by decide) (by decide) hbusy.1
  rw [if_pos trivial, if_neg (by simp)]
  exact ends_performRequest operation h

theorem ends_unsubscribeRequest
    (h : internal.Ends (w.withState .connectedUnsubscribeInProgress) (fun rc w' =>
      w'.client.clientState = .connectedUnsubscribeInProgress ∧
        Q rc (w'.withState w.client.clientState)) H) :
    (unsubscribeRequest internal).Ends w Q H := by
  unfold unsubscribeRequest
  simp only [ends_bind, ends_getClientState, ends_ite, ends_pure, ends_setClientState]
  split
  case isTrue hdown =>
    exact hrefused _ (by decide) (by decide) fun heq => hdown (by rw [heq]; rfl)
  split
  case isTrue hbusy => exact hrefused _ (by decide) (by decide) hbusy.1
  rw [if_pos trivial, if_neg (by simp)]
  exact ends_performRequest .unsubscribe h

end Outer

/-- What a call that returned `rc` does to the bag, to its messages and to a full table. -/
structure CallRefines (n : Nat) (call : ApiCall) (rc : IoTError) (w w' : World) : Prop
    extends Refines n call rc w w' where
  /-- A connected and idle client refuses a subscription exactly if the bag is full. -/
  refused : ∀ {topicName topicNameLen qos handler data},
    call = .subscribe (some topicName) topicNameLen qos (some handler) data →
    w.client.clientState = .connectedIdle → subscribeFits w.client.writeBufSize topicNameLen →
      (rc = .mqttMaxSubscriptionsReachedError ↔
        Multiset.card (bagOf n w.client.messageHandlers) = n)
  /-- A subscription that is refused sends nothing. -/
  silent : ∀ {topicName topicNameLen qos handler data},
    call = .subscribe topicName topicNameLen qos handler data →
    rc = .mqttMaxSubscriptionsReachedError →
      ∃ new, Extends w new w' ∧ ∀ e ∈ new, e.isSend = false

section Calls

variable {env : Env} {fuel : Nat} {callbacks : Callbacks M} {w : World}

theorem Refines.other {n : Nat} {call : ApiCall} {rc : IoTError} {w' : World}
    (h : Refines n call rc w w')
    (hcall : ∀ topicName topicNameLen qos handler data,
      call ≠ .subscribe topicName topicNameLen qos handler data) : CallRefines n call rc w w' where
  toRefines := h
  refused heq := absurd heq (hcall _ _ _ _ _)
  silent heq := absurd heq (hcall _ _ _ _ _)

/-- What moves the client between its states serves. -/
theorem serves_steering (env : Env) : Steering (m := M) env
    (Tracks (Serves env.config.numSubscribeHandlers)
      (ServesHalted env.config.numSubscribeHandlers)) where
  toTraffic := serves_steps.tracking servesHalted_after
  emitConnection he w := serves_push (by rw [he]; decide) (by rw [he]; decide) w
  getClientState w := refl_of (Serves _) w
  setClientState site old new w := by
    rw [ends_setClientState]
    split
    · exact fun _ => Settles.of_log rfl rfl rfl
    · exact refl_of (Serves _) w
  assignClientState _ _ _ := Settles.of_log rfl rfl rfl
  within hx := hx
  startInterval w _ :=
    ⟨rfl, rfl, [.reconnectStarted w.client.isAutoReconnectEnabled], rfl, rfl⟩
  doubleInterval w _ :=
    ⟨rfl, rfl, [.attemptFailed w.client.currentReconnectWaitInterval], rfl, rfl⟩

theorem serves_everything (env : Env) : Everything (m := M) env
    (Tracks (Serves env.config.numSubscribeHandlers)
      (ServesHalted env.config.numSubscribeHandlers)) :=
  (serves_steering env).everything serves_steps.modifyTimer
    fun fuel hcycle => hcycle.internalResubscribe fuel fun he w =>
      serves_push (by rw [he]; decide) (by rw [he]; decide) w

/-- Initialising the client empties the bag. -/
theorem init_refines (params : InitParams) (hproper : ProperTable w.client.messageHandlers) :
    (init env params : M IoTError).Ends w
      (fun rc w' => Refines env.config.numSubscribeHandlers (.init params) rc w w')
      (SettlesHalted env.config.numSubscribeHandlers 0 w) := by
  have hempty : ∀ rc tlsRc (w' : World), params.complete = true →
      w'.client.messageHandlers =
        emptyHandlers env.config.numSubscribeHandlers w.client.messageHandlers →
      Extends w [.tableReset, .tlsInit tlsRc] w' →
      Refines env.config.numSubscribeHandlers (.init params) rc w w' := by
    intro rc tlsRc w' hcomplete htable hnew
    refine ⟨?_, by rw [htable]; exact hproper.emptyHandlers, _, hnew, rfl⟩
    rw [htable, bagOf_emptyHandlers, Bag.after, if_pos hcomplete]
  unfold init setConnectParams resetHandlers
  simp only [ends_bind, ends_ite, ends_pure, ends_modifyClient, ends_emit, ends_ask,
    ends_assignClientState]
  split
  case isTrue hincomplete =>
    apply Refines.of_settles hproper (Settles.refl w)
    rw [Bag.after, if_neg hincomplete]
  case isFalse hcomplete =>
    rw [if_neg (by simp)]
    split
    · exact hempty _ _ _ (not_not.mp hcomplete) rfl rfl
    · exact hempty _ _ _ (not_not.mp hcomplete) rfl rfl

variable (hmessage : ∀ call, Keeps Idles (callbacks.message call))
include hmessage

theorem subscribe_refines {topicName : Option CharPtr} {topicNameLen : UInt16} {qos : QoS}
    {handler : Option Nat} {data : Nat}
    (hcall : (ApiCall.subscribe topicName topicNameLen qos handler data).IsProper)
    (hproper : ProperTable w.client.messageHandlers) :
    (subscribe env fuel callbacks topicName topicNameLen qos handler data : M IoTError).Ends w
      (fun rc w' => CallRefines env.config.numSubscribeHandlers
        (.subscribe topicName topicNameLen qos handler data) rc w w')
      (SettlesHalted env.config.numSubscribeHandlers 0 w) := by
  unfold subscribe
  split
  case h_1 topicName handler =>
    refine ends_request (w := w) ?_ .subscribe ?_
    · intro rc hne hrc hidle
      refine ⟨Refines.of_settles hproper (Settles.refl w) ?_, ?_, ?_⟩
      · exact Bag.after_of_failure _ hne nofun
      · exact fun _ hconnected => absurd hconnected hidle
      · exact fun _ heq => absurd heq hrc
    · refine (internalSubscribe_refines (w := w.withState .connectedSubscribeInProgress) hmessage
        hcall qos handler data hproper).mono ?_ (fun _ h => h)
      rintro rc w' ⟨hrefines, hstate, hfull, hsilent⟩
      refine ⟨hstate, ⟨hrefines.bag, hrefines.proper, hrefines.delivered⟩, ?_, ?_⟩
      · rintro _ _ _ _ _ ⟨⟩ - hfits
        exact hfull hfits
      · rintro _ _ _ _ _ ⟨⟩ hrc
        exact ⟨[], hsilent hrc, by simp⟩
  case h_2 hnull =>
    refine ⟨Refines.of_settles hproper (Settles.refl w) ?_, ?_, ?_⟩
    · exact Bag.after_of_failure _ (by decide) nofun
    · rintro _ _ _ _ _ ⟨⟩
      exact absurd rfl (hnull _ _ rfl)
    · exact fun _ heq => absurd heq (by decide)

theorem unsubscribe_refines {topicFilter : Option CharPtr} {topicFilterLen : UInt16}
    (hproper : ProperTable w.client.messageHandlers) :
    (unsubscribe env fuel callbacks topicFilter topicFilterLen : M IoTError).Ends w
      (fun rc w' => Refines env.config.numSubscribeHandlers
        (.unsubscribe topicFilter topicFilterLen) rc w w')
      (SettlesHalted env.config.numSubscribeHandlers 0 w) := by
  unfold unsubscribe
  split
  case h_1 topicFilter =>
    refine ends_unsubscribeRequest ?_ ?_
    · intro rc hne _ _
      exact Refines.of_settles hproper (Settles.refl w) (Bag.after_of_failure _ hne nofun)
    · refine (internalUnsubscribe_refines (w := w.withState .connectedUnsubscribeInProgress)
        hmessage topicFilter topicFilterLen hproper).mono ?_ (fun _ h => h)
      rintro rc w' ⟨hrefines, hstate⟩
      exact ⟨hstate, hrefines.bag, hrefines.proper, hrefines.delivered⟩
  case h_2 =>
    exact Refines.of_settles hproper (Settles.refl w) (Bag.after_of_failure _ (by decide) nofun)

/-- Every call refines what the bag says it does. -/
theorem dispatch_refines (hdisconnect : Keeps Idles callbacks.disconnect) {call : ApiCall}
    (hcall : call.IsProper) (hproper : ProperTable w.client.messageHandlers) :
    (dispatch env fuel callbacks call : M IoTError).Ends w
      (fun rc w' => CallRefines env.config.numSubscribeHandlers call rc w w')
      (SettlesHalted env.config.numSubscribeHandlers 0 w) := by
  have hall := serves_everything env
  have hcycle : Cycling env callbacks (Tracks (Serves env.config.numSubscribeHandlers)
      (ServesHalted env.config.numSubscribeHandlers)) := cycling_serves hmessage
  have hlost : Tracks (Serves env.config.numSubscribeHandlers)
      (ServesHalted env.config.numSubscribeHandlers) callbacks.disconnect := by
    intro w
    refine (hdisconnect w).mono ?_ ?_
    · exact fun _ w' h _ => Settles.of_log (by rw [h.1]) (by rw [h.1]) h.2
    · exact fun w' h _ => ⟨[], Extends.of_log h.2, rfl⟩
  -- a call that serves and leaves the bag alone
  have hserves : ∀ {m : M IoTError}, Tracks (Serves env.config.numSubscribeHandlers)
      (ServesHalted env.config.numSubscribeHandlers) m →
      (∀ rc, (bagOf env.config.numSubscribeHandlers w.client.messageHandlers).after call rc =
        bagOf env.config.numSubscribeHandlers w.client.messageHandlers) →
      (∀ topicName topicNameLen qos handler data,
        call ≠ .subscribe topicName topicNameLen qos handler data) →
      m.Ends w (fun rc w' => CallRefines env.config.numSubscribeHandlers call rc w w')
        (SettlesHalted env.config.numSubscribeHandlers 0 w) := by
    intro m hm hkeeps hother
    refine (hm w).mono ?_ (fun _ h => h hproper)
    exact fun rc w' h => (Refines.of_settles hproper (h hproper) (hkeeps rc)).other hother
  cases call with
  | init params =>
    exact (init_refines params hproper).mono (fun _ _ h => h.other nofun) (fun _ h => h)
  | subscribe topicName topicNameLen qos handler data =>
    exact subscribe_refines hmessage hcall hproper
  | unsubscribe topicFilter topicFilterLen =>
    exact (unsubscribe_refines hmessage hproper).mono (fun _ _ h => h.other nofun) (fun _ h => h)
  | connect params => exact hserves (hall.connect fuel params hcycle) (fun _ => rfl) nofun
  | publish topicName topicNameLen params =>
    exact hserves (hall.publish fuel hcycle topicName topicNameLen params) (fun _ => rfl) nofun
  | resubscribe => exact hserves (hall.resubscribe fuel hcycle) (fun _ => rfl) nofun
  | yield timeoutMs => exact hserves (hall.yield fuel hcycle hlost timeoutMs) (fun _ => rfl) nofun
  | disconnect => exact hserves (hall.disconnect fuel) (fun _ => rfl) nofun
  | attemptReconnect => exact hserves (hall.attemptReconnect fuel hcycle) (fun _ => rfl) nofun
  | autoreconnectSetStatus newStatus =>
    exact hserves (hall.autoreconnectSetStatus newStatus) (fun _ => rfl) nofun
  | setDisconnectHandler given =>
    exact hserves (hall.setDisconnectHandler given) (fun _ => rfl) nofun
  | setConnectParams params => exact hserves (hall.setConnectParams params) (fun _ => rfl) nofun
  | resetNetworkDisconnectedCount =>
    exact hserves hall.resetNetworkDisconnectedCount (fun _ => rfl) nofun

end Calls

/-! ## Runs -/

section Runs

variable {env : Env} (hquiet : env.Quiet) (fuel : Nat)
include hquiet

/-- An API call refines what the bag says it does. -/
theorem apiCall_refines (depth : Nat) {call : ApiCall} (hcall : call.IsProper) {w : World}
    (hproper : ProperTable w.client.messageHandlers) :
    (apiCall env fuel depth call : M IoTError).Ends w
      (fun rc w' => CallRefines env.config.numSubscribeHandlers call rc w w')
      (SettlesHalted env.config.numSubscribeHandlers 0 w) := by
  cases depth with
  | zero => exact SettlesHalted.refl _ _ w
  | succ depth =>
    have hcalled : Settles env.config.numSubscribeHandlers 0 w (w.push (.called call)) :=
      settles_push (by simp [Event.kind]) (by simp [Event.kind]) w
    unfold apiCall
    simp only [ends_bind, ends_emit, ends_within, ends_pure]
    refine (dispatch_refines (fun _ => runHandler_idles hquiet.message fuel _)
      (runHandler_idles hquiet.disconnect fuel _) hcall
      (w := w.push (.called call)) hproper).mono ?_ (fun _ h => hcalled.halted h)
    intro rc w₁ h
    have hall : Refines env.config.numSubscribeHandlers call rc w w₁ := h.toRefines.before hcalled
    refine ⟨?_, ?_, ?_⟩
    · refine hall.after rfl ((Extends.refl w₁).push (.returned call rc)) fun _ _ => ?_
      exact Bag.delivered_single (by simp [Event.kind]) (by simp [Event.kind])
    · exact h.refused
    · intro _ _ _ _ _ heq hrc
      obtain ⟨new, hnew, hsilent⟩ := h.silent heq hrc
      refine ⟨.called call :: (new ++ [.returned call rc]), ?_, ?_⟩
      · exact (((Extends.refl w).push (.called call)).trans hnew).push (.returned call rc)
      · intro e he
        rcases List.mem_cons.mp he with rfl | he
        · rfl
        rcases List.mem_append.mp he with he | he
        · exact hsilent e he
        · rw [List.mem_singleton.mp he]
          rfl

/-- Every world that a run reaches has a proper table. -/
theorem application_proper : ∀ (calls : List ApiCall) (w : World),
    (∀ call ∈ calls, call.IsProper) → ProperTable w.client.messageHandlers →
    (application env fuel calls : M Unit).Ends w
      (fun _ w' => ProperTable w'.client.messageHandlers) (fun _ => True) := by
  intro calls
  induction calls with
  | nil => exact fun w _ hproper => hproper
  | cons call calls ih =>
    intro w hcalls hproper
    unfold application forEach
    refine ends_bind.mpr (ends_bind.mpr ?_)
    refine (apiCall_refines hquiet fuel fuel (hcalls call List.mem_cons_self) hproper).mono ?_
      (fun _ _ => trivial)
    intro rc w₁ h
    exact ih w₁ (fun c hc => hcalls c (List.mem_cons_of_mem _ hc)) h.proper

end Runs

/-- Surroundings of a client with one slot: a first subscribe is granted. -/
def oneSlotEnv : Env :=
  { sessionEnv [(15, [0x90, 3, 0, 2, 1])] with config := { numSubscribeHandlers := 1 } }

/-- A client whose only slot is taken, which then makes `calls`. -/
def World.full (calls : List ApiCall) : World :=
  World.after oneSlotEnv 8 (sessionCalls (subscribeTo 0x61 :: calls))

end AwsIot.Mqtt
