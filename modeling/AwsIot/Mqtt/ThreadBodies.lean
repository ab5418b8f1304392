/-
  Mqtt/ThreadBodies.lean --- the work of a thread that has taken the client.

  The bodies of the operations, and the handlers called from them, run in a thread that
  has taken the client.  Whatever they do, they leave the thread's standing as they found
  it (`Inert`): a delivery moves the client state to WAIT_FOR_CB_RETURN and back, and
  nothing else in them moves it, as long as no yield gives up the connection.
-/
import AwsIot.Mqtt.Ownership
import AwsIot.Mqtt.RestingState

set_option autoImplicit false

namespace AwsIot.Mqtt

open AwsIot.Foundation Thread

variable {rests : ClientState → Bool} {lost : Prop} {g : Standing} {α β : Type}

/-- A thread that has taken the client, inside a call. -/
structure Standing.Inside (lost : Prop) (g : Standing) : Prop where
  /-- It has taken the client. -/
  taken : ∃ t, g.taken = some t ∧ t.isTaken = true
  /-- It is inside a call, unless a yield has `lost` the client. -/
  inside : .call ∈ g.marks ∨ lost

/-- A thread that has taken the client comes back from `x` as it went. -/
abbrev Inert (rests : ClientState → Bool) (lost : Prop) {α : Type} (x : Threaded α) : Prop :=
  Keeps (ownership rests lost) (Standing.Inside lost) x

/-- A thread that has taken the client comes back from `x` as it went, with a value that
satisfies `P`. -/
def Gives (rests : ClientState → Bool) (lost : Prop) (P : α → Prop) (x : Threaded α) : Prop :=
  ∀ g, Standing.Inside lost g → x.Safe (ownership rests lost) g fun a g' => g' = g ∧ P a

/-! ## Primitives -/

section Primitives

variable {Q : IoTError → Standing → Prop}

theorem safe_getClientState {Q : ClientState → Standing → Prop}
    (h : ∀ s, g.Sees rests s → Q s g) :
    (getClientState : Threaded ClientState).Safe (ownership rests lost) g Q :=
  ⟨fun _ => rfl, fun w hw => h w.client.clientState hw⟩

theorem safe_setClientState {site : StateSite} {old new : ClientState}
    (h : ∀ s lockTaken, g.Sees rests s →
      Careful g.marks (.setClientState site old new) lockTaken s →
      if lockTaken then Q .mutexLockError g
      else if old = s then g.MayMove rests lost old new ∧ Q .success (g.moved new)
      else Q .mqttUnexpectedClientStateError g) :
    (setClientState site old new : Threaded IoTError).Safe (ownership rests lost) g Q :=
  fun w lockTaken hsees hcareful => h w.client.clientState lockTaken hsees hcareful

/-- An assignment is not careful. -/
theorem safe_assignClientState {s : ClientState} {Q : Unit → Standing → Prop} :
    (assignClientState s : Threaded Unit).Safe (ownership rests lost) g Q := trivial

theorem safe_within {mark : Mark} {x : Threaded α} {Q : α → Standing → Prop}
    (hmark : mark ≠ .call → g.taken ≠ none)
    (h : x.Safe (ownership rests lost) { g with marks := mark :: g.marks } fun a g' =>
      (g'.taken ≠ none → .call ∈ g'.marks.tail ∨ lost) ∧
        Q a { g' with marks := g'.marks.tail }) :
    (within mark x).Safe (ownership rests lost) g Q := by
  refine ⟨hmark, fun w => ?_⟩
  refine safe_bind.mpr (h.mono fun a g' h' => ?_)
  exact ⟨h'.1, fun _ => h'.2⟩

theorem safe_emit {e : Client → Event} {Q : Unit → Standing → Prop} (h : Q () g) :
    (emit e : Threaded Unit).Safe (ownership rests lost) g Q :=
  ⟨fun _ => rfl, fun _ _ => h⟩

theorem inert_modifyClient {f : Client → Client}
    (hf : ∀ c, (f c).clientState = c.clientState) :
    Inert rests lost (modifyClient f : Threaded Unit) :=
  fun _ _ => ⟨fun w => hf w.client, fun _ _ => rfl⟩

theorem inert_emit (e : Client → Event) : Inert rests lost (emit e : Threaded Unit) :=
  fun _ _ => safe_emit rfl

theorem inert_compositional : Compositional (m := Threaded) (Inert rests lost) :=
  keeps_compositional _ _

theorem inert_packets : Packets (m := Threaded) (Inert rests lost) where
  toCompositional := inert_compositional
  getClient _ _ := ⟨fun _ => rfl, fun _ _ => rfl⟩
  modifyClient hf := inert_modifyClient fun c => (hf.core c).1
  ask _ _ _ := ⟨fun _ => rfl, fun _ _ => rfl⟩
  emit _ := inert_emit _
  storeReceivedId _ _ := inert_compositional.bind (inert_modifyClient fun _ => rfl)
    fun _ => inert_emit _
  emitPacket _ := inert_emit _

theorem inert_network : Network (m := Threaded) (Inert rests lost) where
  toTraffic := inert_packets.toTraffic
  emitConnection _ _ := inert_emit _

/-- Whatever comes after an inert program starts where it did. -/
theorem Inert.andThen {x : Threaded α} (hx : Inert rests lost x) (hg : g.Inside lost)
    {f : α → Threaded β} {Q : β → Standing → Prop}
    (hf : ∀ a, (f a).Safe (ownership rests lost) g Q) :
    (x >>= f).Safe (ownership rests lost) g Q := by
  refine safe_bind.mpr ((hx g hg).mono ?_)
  rintro a g' rfl
  exact hf a

/-- A marked stretch of a thread that has taken the client. -/
theorem Inert.within {mark : Mark} {x : Threaded α} (hx : Inert rests lost x) :
    Inert rests lost (within mark x) := by
  intro g hg
  obtain ⟨t, ht, htaken⟩ := hg.taken
  have hin : Standing.Inside lost { g with marks := mark :: g.marks } :=
    ⟨⟨t, ht, htaken⟩, hg.inside.imp_left (List.mem_cons_of_mem mark)⟩
  refine safe_within (fun _ => by simp [ht]) ((hx _ hin).mono ?_)
  rintro a g' rfl
  exact ⟨fun _ => hg.inside, rfl⟩

end Primitives

/-! ## Values -/

section Values

variable {P : α → Prop} {P' : β → Prop} {x : Threaded α} {f : α → Threaded β}

theorem gives_pure {a : α} (h : P a) : Gives rests lost P (pure a : Threaded α) :=
  fun _ _ => ⟨rfl, h⟩

theorem Gives.bind (hx : Gives rests lost P x) (hf : ∀ a, P a → Gives rests lost P' (f a)) :
    Gives rests lost P' (x >>= f) := by
  intro g hg
  refine safe_bind.mpr ((hx g hg).mono ?_)
  rintro a g' ⟨rfl, ha⟩
  exact hf a ha _ hg

theorem Inert.bind (hx : Inert rests lost x) (hf : ∀ a, Gives rests lost P' (f a)) :
    Gives rests lost P' (x >>= f) := by
  intro g hg
  refine safe_bind.mpr ((hx g hg).mono ?_)
  rintro a g' rfl
  exact hf a _ hg

theorem Gives.inert (hx : Gives rests lost P x) : Inert rests lost x :=
  fun g hg => (hx g hg).mono fun _ _ h => h.1

theorem gives_ite {c : Prop} [Decidable c] {x y : Threaded α} (hx : c → Gives rests lost P x)
    (hy : ¬ c → Gives rests lost P y) : Gives rests lost P (if c then x else y) := by
  split
  · exact hx ‹_›
  · exact hy ‹_›

end Values

/-! ## Reading and sending -/

/-- Some read reports a lost connection. -/
def Env.LosesRead (env : Env) : Prop := ∃ n, (env.read n).rc.isLost = true

section Bodies

variable {env : Env} {fuel : Nat} {callbacks : Callbacks Threaded}

theorem gives_sendPacket (length : Nat) (timer : Timer) :
    Gives rests lost (fun rc => rc.isLost = false)
      (sendPacket env fuel length timer : Threaded IoTError) := by
  have h : Packets (m := Threaded) (Inert rests lost) := inert_packets
  unfold sendPacket
  refine Inert.bind h.getClient fun c => gives_ite (fun _ => gives_pure rfl) fun _ => ?_
  refine Inert.bind (inert_emit _) fun _ => ?_
  refine Inert.bind (h.loop (h.sendPass env length timer) fuel 0) fun sent => ?_
  refine gives_ite (fun _ => gives_pure rfl) fun _ => ?_
  exact Inert.bind (inert_emit _) fun _ => gives_pure rfl

/-- Storing a packet reports the error of its serializer. -/
theorem gives_storePacket (s : Serialized) :
    Gives rests lost (fun stored => ∀ rc, stored = .error rc → s = .error rc)
      (storePacket s : Threaded (Except IoTError Nat)) := by
  cases s with
  | fault => exact fun _ _ => trivial
  | error rc => exact gives_pure fun rc' h => by cases h; rfl
  | packet bytes =>
    refine Inert.bind (inert_modifyClient fun _ => rfl) fun _ => gives_pure ?_
    intro rc h
    cases h

theorem gives_netReadByte (site : ReadSite) (before : UInt8) :
    Gives rests lost (fun r => r.1.isLost = true → env.LosesRead)
      (netReadByte env site before : Threaded (IoTError × Nat × UInt8)) := by
  have hask : Gives rests lost (fun out : ReadOutcome => out.rc.isLost = true → env.LosesRead)
      (ask env.read : Threaded ReadOutcome) :=
    fun _ _ => ⟨fun _ => rfl, fun w _ => ⟨rfl, fun h => ⟨w.time, h⟩⟩⟩
  exact hask.bind fun out hout => Inert.bind (inert_emit _) fun _ => gives_pure hout

theorem gives_decodePacketRemainingLen :
    Gives rests lost (fun r => r.1.isLost = true → env.LosesRead)
      (decodePacketRemainingLen env fuel : Threaded (IoTError × Nat)) := by
  have h : Packets (m := Threaded) (Inert rests lost) := inert_packets
  refine Inert.bind (h.ask _) fun encodedByte g hg => ?_
  refine safe_loop (I := fun _ g' => g' = g) ?_ fuel _ g rfl
  rintro v g' rfl
  unfold decodeRemainingLenPass
  rw [safe_ite]
  split
  · exact ⟨rfl, fun h => Bool.noConfusion h⟩
  refine safe_bind.mpr ((gives_netReadByte .remainingLength v.encodedByte g' hg).mono ?_)
  rintro ⟨rc, len, encodedByte⟩ g₁ ⟨rfl, hrc⟩
  dsimp only
  rw [safe_ite]
  split
  · exact ⟨rfl, hrc⟩
  rw [safe_ite]
  split
  · exact rfl
  · exact ⟨rfl, hrc⟩

theorem gives_readPacket (packetType : UInt8) :
    Gives rests lost (fun r => r.1.isLost = true → env.LosesRead)
      (readPacket env fuel packetType : Threaded (IoTError × UInt8)) := by
  have h : Packets (m := Threaded) (Inert rests lost) := inert_packets
  have hkept : ∀ {rc : IoTError}, rc.isLost = false →
      (rc.isLost = true → env.LosesRead) := fun hrc h => absurd h (by simp [hrc])
  unfold readPacket
  refine Inert.bind (h.netRead env _ _ _) fun r => ?_
  refine gives_ite (fun _ => gives_pure (hkept rfl)) fun _ => ?_
  refine gives_decodePacketRemainingLen.bind fun d hd => ?_
  refine gives_ite (fun _ => gives_pure hd) fun _ => Inert.bind h.getClient fun c => ?_
  refine gives_ite (fun _ => ?_) fun _ => ?_
  · exact Inert.bind (h.loop (h.dropPass env _ _) fuel _) fun _ => gives_pure (hkept rfl)
  · refine Inert.bind (h.modifyClient fun _ => rfl) fun _ => ?_
    have htail : Gives rests lost (fun r => r.1.isLost = true → env.LosesRead) (do
        emit fun c => .packetRead (c.readBuf.slice 0
          (1 + (writeLenToBuffer (d.2 % 2 ^ 32)).length + d.2))
        let c ← getClient
        pure (IoTError.success, headerType (c.readBuf 0)) : Threaded (IoTError × UInt8)) :=
      Inert.bind (inert_emit _) fun _ => Inert.bind h.getClient fun _ => gives_pure (hkept rfl)
    refine gives_ite (fun _ => ?_) fun _ => htail
    refine Inert.bind (h.netRead env _ _ _) fun r => ?_
    exact gives_ite (fun _ => gives_pure (hkept rfl)) fun _ => htail

/-! ## Delivery -/

section Delivery

variable (hmessage : ∀ call, Inert rests lost (callbacks.message call))
include hmessage

theorem deliverToSlot_inert (msg : IncomingPublish) (itr : Nat) :
    Inert rests lost (deliverToSlot callbacks msg itr : Threaded Unit) := by
  have h : Packets (m := Threaded) (Inert rests lost) := inert_packets
  refine h.bind h.getClient fun c => ?_
  dsimp only
  split
  · refine h.ite (fun _ => ?_) fun _ => h.pure _
    exact h.bind (inert_emit _) fun _ => h.bind (hmessage _).within fun _ => inert_emit _
  · exact h.pure _

/-- A delivery takes the client to WAIT_FOR_CB_RETURN and back. -/
theorem gives_deliverMessage (msg : IncomingPublish) :
    Gives rests lost (fun rc => rc.isLost = false)
      (deliverMessage env callbacks msg : Threaded IoTError) := by
  intro g hg
  obtain ⟨t, ht, htaken⟩ := hg.taken
  have hback : ∀ s, g.moved s = { g with taken := if s.isTaken then some s else none } :=
    fun _ => rfl
  have hsame : g.moved t = g := by
    rw [hback, if_pos htaken, ← ht]
  -- the handlers run in `g₁`, and the client goes back to `t`
  have hrest : ∀ g₁ : Standing, g₁.Inside lost → g₁.marks = g.marks →
      (do
        forEach (deliverToSlot callbacks msg) (List.range env.config.numSubscribeHandlers)
        setClientState .deliverLeave .connectedWaitForCbReturn t : Threaded IoTError).Safe
          (ownership rests lost) g₁ (fun rc g' => (g' = g ∨ g' = g₁) ∧
            (g₁.taken = some .connectedWaitForCbReturn → g' = g) ∧ rc.isLost = false) := by
    intro g₁ hg₁ hmarks
    refine safe_bind.mpr ((inert_compositional.forEach (deliverToSlot_inert hmessage msg) _
      g₁ hg₁).mono ?_)
    rintro _ g₂ rfl
    have hgiven : g₂.moved t = g := by
      rw [← hsame]
      simp only [Standing.moved, hmarks]
    refine safe_setClientState fun s lockTaken hsees hcareful => ?_
    obtain rfl : lockTaken = false := hcareful
    rw [if_neg (by simp)]
    split
    case isTrue he =>
      refine ⟨⟨fun hnone => ?_, .inl ⟨htaken, hg₁.inside⟩⟩, .inl hgiven, fun _ => hgiven, rfl⟩
      obtain ⟨t', ht', -⟩ := hg₁.taken
      rw [hnone] at ht'
      cases ht'
    case isFalse he =>
      refine ⟨.inr rfl, fun hwait => absurd ?_ he, rfl⟩
      unfold Standing.Sees at hsees
      rw [hwait] at hsees
      exact hsees.symm
  unfold deliverMessage
  refine safe_bind.mpr (safe_getClientState fun s hs => ?_)
  obtain rfl : s = t := by
    unfold Standing.Sees at hs
    rw [ht] at hs
    exact hs
  have hunmoved := (hrest g hg rfl).mono fun rc g' h => (⟨h.1.elim id id, h.2.2⟩ : g' = g ∧ _)
  refine safe_bind.mpr (safe_setClientState fun s' lockTaken _ _ => ?_)
  split
  · exact hunmoved
  split
  · refine ⟨⟨fun hnone => ?_, .inl ⟨rfl, hg.inside⟩⟩, ?_⟩
    · rw [ht] at hnone
      cases hnone
    have hwaiting : (g.moved .connectedWaitForCbReturn).Inside lost := ⟨⟨_, rfl, rfl⟩, hg.inside⟩
    exact (hrest _ hwaiting rfl).mono fun rc g' h => ⟨h.2.1 rfl, h.2.2⟩
  · exact hunmoved

theorem gives_deliverReceived (msg : IncomingPublish) :
    Gives rests lost (fun r => r.1.isLost = false)
      (deliverReceived env callbacks msg : Threaded (IoTError × Option UInt16)) := by
  have h : Packets (m := Threaded) (Inert rests lost) := inert_packets
  refine Inert.bind (inert_modifyClient fun _ => rfl) fun _ => ?_
  refine (gives_deliverMessage hmessage msg).bind fun rc hrc => ?_
  refine Inert.bind h.getClient fun c => ?_
  exact Inert.bind (inert_modifyClient fun _ => rfl) fun _ => gives_pure hrc

theorem inert_waiting : Waiting env callbacks (Inert rests lost) where
  toPackets := inert_packets
  deliverReceived msg := (gives_deliverReceived hmessage msg).inert
  registerHandler _ _ := inert_compositional.bind (inert_modifyClient fun _ => rfl)
    fun _ => inert_emit _
  clearHandlers _ := inert_compositional.bind (inert_modifyClient fun _ => rfl)
    fun _ => inert_emit _
  modifyTimer hf := inert_modifyClient fun c => (hf.1 c).1

theorem gives_handlePublish (timer : Timer) :
    Gives rests lost (fun rc => rc.isLost = false)
      (handlePublish env fuel callbacks timer : Threaded IoTError) := by
  have h : Packets (m := Threaded) (Inert rests lost) := inert_packets
  unfold handlePublish
  refine Inert.bind h.getClient fun c => ?_
  split
  case h_1 hread => exact gives_pure (deserializePublish_notLost hread)
  · refine (gives_deliverReceived hmessage _).bind fun r hr => ?_
    refine gives_ite (fun _ => gives_pure hr) fun _ => ?_
    refine gives_ite (fun _ => gives_pure rfl) fun _ => Inert.bind h.getClient fun c => ?_
    refine (gives_storePacket _).bind fun stored hstored => ?_
    cases stored with
    | error rc => exact gives_pure (serializeAck_notLost (hstored rc rfl))
    | ok len => exact gives_sendPacket len timer

theorem gives_cycleRead (timer : Timer) (packetType : UInt8) :
    Gives rests lost (fun r => r.1.isLost = true → env.LosesRead)
      (cycleRead env fuel callbacks timer packetType : Threaded (IoTError × UInt8)) := by
  have h : Packets (m := Threaded) (Inert rests lost) := inert_packets
  have hkept : ∀ {rc : IoTError}, rc.isLost = false →
      (rc.isLost = true → env.LosesRead) := fun hrc h => absurd h (by simp [hrc])
  unfold cycleRead
  refine (gives_readPacket packetType).bind fun r hr => ?_
  refine gives_ite (fun _ => gives_pure (hkept rfl)) fun _ => ?_
  refine gives_ite (fun _ => gives_pure hr) fun _ => ?_
  refine gives_ite (fun _ => gives_pure (hkept rfl)) fun _ => gives_ite (fun _ => ?_) fun _ => ?_
  · exact (gives_handlePublish hmessage timer).bind fun rc hrc => gives_pure (hkept hrc)
  · refine gives_ite (fun _ => ?_) fun _ => gives_pure (hkept rfl)
    refine Inert.bind h.getClient fun c => Inert.bind (h.countdownSec env _) fun t => ?_
    exact Inert.bind (inert_modifyClient fun _ => rfl) fun _ => gives_pure (hkept rfl)

end Delivery

/-! ## Yield -/

/-- A careful thread does not give up the connection. -/
theorem handleDisconnect_safe {Q : IoTError → Standing → Prop} :
    (handleDisconnect env fuel callbacks : Threaded IoTError).Safe (ownership rests lost) g Q := by
  unfold handleDisconnect disconnect
  refine safe_bind.mpr (safe_bind.mpr (safe_getClientState fun s _ => ?_))
  refine safe_bind.mpr (safe_getClientState fun s' _ => ?_)
  rw [safe_ite]
  split
  · rw [safe_pure, safe_ite, if_pos (by decide)]
    exact safe_bind.mpr (safe_bind.mpr safe_assignClientState)
  · exact safe_bind.mpr (safe_setClientState fun _ _ _ hcareful => hcareful.elim)

theorem gives_keepAlive :
    Gives rests lost (fun rc => rc.isLost = false)
      (keepAlive env fuel callbacks : Threaded IoTError) := by
  have h : Packets (m := Threaded) (Inert rests lost) := inert_packets
  have hlost : Gives rests lost (fun rc => rc.isLost = false)
      (handleDisconnect env fuel callbacks : Threaded IoTError) := fun _ _ =>
    handleDisconnect_safe
  unfold keepAlive
  refine Inert.bind h.getClient fun c => gives_ite (fun _ => gives_pure rfl) fun _ => ?_
  refine Inert.bind (h.hasTimerExpired env _) fun _ => ?_
  refine gives_ite (fun _ => gives_pure rfl) fun _ => ?_
  refine gives_ite (fun _ => hlost) fun _ => Inert.bind (h.countdownMs env _) fun timer => ?_
  refine (gives_storePacket _).bind fun stored hstored => ?_
  cases stored with
  | error rc =>
    obtain rfl := serializeZero_error (by decide) (hstored rc rfl)
    exact gives_pure rfl
  | ok len =>
    refine Inert.bind (h.sendPacket env fuel len timer) fun rc => ?_
    refine gives_ite (fun _ => hlost) fun _ => ?_
    refine Inert.bind (inert_modifyClient fun _ => rfl) fun _ => Inert.bind h.getClient fun c => ?_
    refine Inert.bind (h.countdownSec env _) fun t => ?_
    exact Inert.bind (inert_modifyClient fun _ => rfl) fun _ => gives_pure rfl

/-- Yield comes back as it went, and reports a lost connection only if a read does. -/
theorem gives_internalYield (hmessage : ∀ call, Inert rests lost (callbacks.message call))
    (timeoutMs : Nat) :
    Gives rests lost (fun rc => rc.isLost = true → env.LosesRead)
      (internalYield env fuel callbacks timeoutMs : Threaded IoTError) := by
  have h : Packets (m := Threaded) (Inert rests lost) := inert_packets
  refine Inert.bind (h.countdownMs env timeoutMs) fun timer g hg => ?_
  refine safe_loop (I := fun yieldRc g' => g' = g ∧ (yieldRc.isLost = true → env.LosesRead))
    ?_ fuel _ g ⟨rfl, fun h => Bool.noConfusion h⟩
  rintro yieldRc g' ⟨rfl, hrc⟩
  unfold yieldPass
  refine safe_bind.mpr ((h.hasTimerExpired env timer g' hg).mono ?_)
  rintro expired g₁ rfl
  rw [safe_ite]
  split
  · exact ⟨rfl, hrc⟩
  refine safe_bind.mpr (safe_getClientState fun s hs => ?_)
  have hpending : s ≠ .pendingReconnect := by
    obtain ⟨t, ht, htaken⟩ := hg.taken
    unfold Standing.Sees at hs
    rw [ht] at hs
    rw [hs]
    exact (ClientState.isTaken_refused htaken).2.2.2.1
  rw [safe_ite, if_neg hpending]
  refine safe_bind.mpr ((gives_cycleRead hmessage timer 0 g₁ hg).mono ?_)
  rintro r g₂ ⟨rfl, hr⟩
  dsimp only
  rw [safe_ite]
  split
  · exact ⟨rfl, hr⟩
  refine safe_bind.mpr ((gives_keepAlive g₂ hg).mono ?_)
  rintro rc g₃ ⟨rfl, hkept⟩
  have hnotLost : rc ≠ .networkDisconnectedError := by
    rintro rfl
    cases hkept
  rw [safe_ite, if_neg hnotLost, safe_ite]
  split
  · exact ⟨rfl, fun h => absurd h (by simp [hkept])⟩
  · exact ⟨rfl, fun h => absurd h (by simp [hkept])⟩

end Bodies

end AwsIot.Mqtt
