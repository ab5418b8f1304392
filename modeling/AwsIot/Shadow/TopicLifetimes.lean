/-
  Shadow/TopicLifetimes.lean --- the filters the client finds in its slots.

  As long as no topic is written over, and no array goes away, that a slot in use or a call
  under way points to, what the client finds in a slot is the filter it was subscribed with.
  `Sound` is what one step keeps; a whole run keeps it by the traversal of the client and of
  the shadow layer.  `aws_iot_shadow_connect` with a delete handler breaks it: it passes the
  client an array of its own, and returns.
-/
import AwsIot.Shadow.Document
import AwsIot.Shadow.TopicPointers

set_option autoImplicit false

namespace AwsIot.Shadow

open AwsIot.Foundation AwsIot.Mqtt Program

namespace PointerWorld

/-! ## The property and its condition -/

/-- Whenever the client looked at a slot in use, it found the filter that the slot was
subscribed with. -/
def FiltersStay (w : PointerWorld) : Prop := ∀ r ∈ w.reads, r.found = r.subscribed

/-- Whatever became of a topic, nothing pointed to it that needed it. -/
def TopicsKept (w : PointerWorld) : Prop := ∀ c ∈ w.changes, c.Harmless

instance (w : PointerWorld) : Decidable w.TopicsKept :=
  inferInstanceAs (Decidable (∀ c ∈ w.changes, c.Harmless))

/-! ## The invariant -/

/-- The filter `p` is where it was passed from. -/
def Holds (w : PointerWorld) (p : PassedTopic) : Prop := w.contents p.pointer = some p.topic

/-- What the client can look at is there. -/
structure Sound (w : PointerWorld) : Prop where
  /-- The filters of the slots in use. -/
  slots : ∀ p ∈ w.usedSlots, w.Holds p.2
  /-- The filters of the calls under way. -/
  passed : ∀ p ∈ w.passed, w.Holds p
  /-- No array is there before its function is entered. -/
  fresh : ∀ number, w.nextArray ≤ number → w.arrays number = none
  /-- What the client has found. -/
  reads : w.FiltersStay

variable {w w' : PointerWorld}

theorem textAt_of_holds {p : PassedTopic} (h : w.Holds p) : w.textAt p.pointer = p.topic := by
  unfold Holds at h
  unfold textAt
  cases hp : p.pointer with
  | static buffer =>
    rw [hp] at h
    exact Option.some.inj h
  | array number =>
    rw [hp] at h
    have harray : w.arrays number = some p.topic := h
    simp only [harray, Option.getD_some]

theorem Sound.inUse (h : Sound w) : ∀ p ∈ w.inUse, w.Holds p := by
  intro p hp
  rcases List.mem_append.mp hp with hmem | hmem
  · obtain ⟨q, hq, rfl⟩ := List.mem_map.mp hmem
    exact h.slots q hq
  · exact h.passed p hmem

theorem sound_start (remains : Nat → Nat → List UInt8) : Sound (start remains) where
  slots _ hp := absurd hp List.not_mem_nil
  passed _ hp := absurd hp List.not_mem_nil
  fresh _ _ := rfl
  reads _ hr := absurd hr List.not_mem_nil

/-! ### One step -/

/-- A slot that is in use for the client is in use. -/
theorem isSome_slot (w : PointerWorld) (i : Nat) :
    (w.slot i).topicName.isSome = (w.world.client.messageHandlers i).topicName.isSome := by
  unfold slot
  cases w.slots.lookup i with
  | none => rfl
  | some p => exact Option.isSome_map

/-- Looking finds what there is. -/
theorem Sound.look (h : Sound w) : Sound w.look where
  slots := h.slots
  passed := h.passed
  fresh := h.fresh
  reads r hr := by
    rcases List.mem_append.mp hr with hmem | hmem
    · obtain ⟨p, hp, rfl⟩ := List.mem_map.mp hmem
      exact textAt_of_holds (h.slots p hp)
    · exact h.reads r hmem

/-- What the client finds in a slot is on record. -/
theorem mem_reads_look {i : Nat} {p : PassedTopic} {filter : CharPtr}
    (hp : w.slots.lookup i = some p)
    (hfilter : (w.client.messageHandlers i).topicName = some filter) :
    ⟨i, filter.bytes, p.topic⟩ ∈ w.look.reads := by
  have hslot : (w.world.client.messageHandlers i).topicName.map
      (fun _ => (⟨w.textAt p.pointer⟩ : CharPtr)) = some filter := by
    rw [← hfilter]
    show _ = (w.slot i).topicName
    unfold slot
    rw [hp]
  obtain ⟨stored, hstored, rfl⟩ := Option.map_eq_some_iff.mp hslot
  have hmem : (i, p) ∈ w.usedSlots := by
    refine List.mem_filter.mpr ⟨?_, ?_⟩
    · obtain ⟨before, after, hslots, -⟩ := List.lookup_eq_some_iff.mp hp
      rw [hslots]
      exact List.mem_append_right _ List.mem_cons_self
    · rw [hstored]
      rfl
  exact List.mem_append_left _ (List.mem_map_of_mem hmem)

/-- A slot in use has the filter for the client that it was subscribed with. -/
theorem Sound.topicName (h : Sound w) {i : Nat} {p : PassedTopic} {filter : CharPtr}
    (hp : w.slots.lookup i = some p)
    (hfilter : (w.client.messageHandlers i).topicName = some filter) :
    filter.bytes = p.topic :=
  h.look.reads _ (mem_reads_look hp hfilter)

/-- A step that leaves the topics alone and takes no slot into use. -/
theorem Sound.onWorld (h : Sound w) {f : World → World}
    (htopics : (f w.world).shadow.topicIn = w.world.shadow.topicIn)
    (hused : ∀ i, ((f w.world).client.messageHandlers i).topicName.isSome →
      (w.world.client.messageHandlers i).topicName.isSome) : Sound (w.onWorld f) := by
  have hcontents : (w.onWorld f).contents = w.contents := by
    funext pointer
    cases pointer with
    | static buffer => exact congrArg some (congrFun htopics buffer)
    | array number => rfl
  have hholds : ∀ p, w.Holds p → (w.onWorld f).Holds p := fun p hp =>
    (congrFun hcontents p.pointer).trans hp
  refine ⟨fun p hp => hholds _ (h.slots p ?_), fun p hp => hholds p (h.passed p hp), h.fresh,
    h.reads⟩
  obtain ⟨hmem, hsome⟩ := List.mem_filter.mp hp
  exact List.mem_filter.mpr ⟨hmem, hused p.1 hsome⟩

/-- A slot is taken into use for the innermost call. -/
theorem Sound.register (h : Sound w) (i : Nat) (handler : MessageHandlers) :
    Sound (((w.onWorld fun v => v.onClient fun _ => { w.client with
      messageHandlers := Function.update w.client.messageHandlers i handler }).onWorld
        fun v => v.push (.registered i handler)).store (.registered i handler)) := by
  refine ⟨fun p hp => ?_, h.passed, h.fresh, h.reads⟩
  obtain ⟨hmem, hsome⟩ := List.mem_filter.mp hp
  rcases List.mem_append.mp hmem with hnew | hold
  · obtain ⟨q, hq, rfl⟩ := List.mem_map.mp hnew
    exact h.passed q (List.mem_of_mem_head? (Option.mem_toList.mp hq))
  · obtain ⟨hmem, hne⟩ := List.mem_filter.mp hold
    refine h.slots p (List.mem_filter.mpr ⟨hmem, ?_⟩)
    have hslot : Function.update w.client.messageHandlers i handler p.1 = w.slot p.1 :=
      Function.update_of_ne (by simpa using hne) ..
    rw [← isSome_slot]
    rw [← hslot]
    exact hsome

/-- The innermost call is passed a filter that is there. -/
theorem Sound.pass (h : Sound w) {p : PassedTopic} (hp : w.Holds p) : Sound (w.pass p) where
  slots := h.slots
  passed := List.forall_mem_cons.mpr ⟨hp, h.passed⟩
  fresh := h.fresh
  reads := h.reads

theorem Sound.unpass (h : Sound w) : Sound w.unpass where
  slots := h.slots
  passed p hp := h.passed p (List.mem_of_mem_tail hp)
  fresh := h.fresh
  reads := h.reads

/-- A new array is no array that something points to. -/
theorem Sound.enter (h : Sound w) (topic : List UInt8) : Sound (w.enter topic) := by
  have hholds : ∀ p, w.Holds p → (w.enter topic).Holds p := by
    intro p hp
    unfold Holds at hp ⊢
    cases hpointer : p.pointer with
    | static buffer => rw [hpointer] at hp; exact hp
    | array number =>
      rw [hpointer] at hp
      have hlive : w.arrays number = some p.topic := hp
      have hne : number ≠ w.nextArray := by
        rintro rfl
        rw [h.fresh _ (Nat.le_refl _)] at hlive
        cases hlive
      exact (Function.update_of_ne hne ..).trans hlive
  refine ⟨fun p hp => hholds _ (h.slots p hp), fun p hp => hholds p (h.passed p hp), ?_, h.reads⟩
  intro number hnumber
  have hlt : w.nextArray < number := hnumber
  exact (Function.update_of_ne (Nat.ne_of_gt hlt) ..).trans (h.fresh number (Nat.le_of_lt hlt))

/-- A harmless change leaves what is in use where it is. -/
theorem Sound.changed (h : Sound w) {pointer : TopicPointer} {before : List UInt8}
    {after : Option (List UInt8)}
    (hharmless : TopicChange.Harmless ⟨pointer, before, after, w.inUse⟩)
    (hsame : after = some before → w'.contents pointer = w.contents pointer)
    (hother : ∀ q, q ≠ pointer → w'.contents q = w.contents q)
    (hslots : w'.usedSlots = w.usedSlots) (hpassed : w'.passed = w.passed)
    (hfresh : ∀ number, w'.nextArray ≤ number → w'.arrays number = none)
    (hreads : w'.reads = w.reads) : Sound w' := by
  have hholds : ∀ p ∈ w.inUse, w'.Holds p := by
    intro p hp
    have hbefore : w.Holds p := h.inUse p hp
    by_cases hpointer : p.pointer = pointer
    · have hafter : after = some before := by
        rcases hharmless with hafter | hunused
        · exact hafter
        · exact absurd hpointer (hunused p hp)
      unfold Holds at hbefore ⊢
      rw [hpointer] at hbefore ⊢
      rw [hsame hafter, hbefore]
    · exact (hother p.pointer hpointer).trans hbefore
  refine ⟨fun p hp => hholds p.2 ?_, fun p hp => hholds p ?_, hfresh, ?_⟩
  · rw [hslots] at hp
    exact List.mem_append_left _ (List.mem_map_of_mem hp)
  · rw [hpassed] at hp
    exact List.mem_append_right _ hp
  · intro r hr
    rw [hreads] at hr
    exact h.reads r hr

/-- Writing a topic changes the topic that is written. -/
theorem topicIn_storeTopic (s : Records) (buffer other : TopicBuffer) (topic : List UInt8) :
    (s.storeTopic buffer topic).topicIn other =
      if other = buffer then topic else s.topicIn other := by
  cases buffer with
  | shadowDeltaTopic =>
    cases other with
    | shadowDeltaTopic => rfl
    | subscription j => rfl
  | subscription i =>
    cases other with
    | shadowDeltaTopic => rfl
    | subscription j =>
      by_cases hj : j = i
      · subst hj
        simp only [Records.storeTopic, Records.topicIn, Function.update_self, if_true]
      · simp only [Records.storeTopic, Records.topicIn, Function.update_of_ne hj,
          TopicBuffer.subscription.injEq, if_neg hj]

theorem Sound.storeTopic (h : Sound w) {buffer : TopicBuffer} {topic : List UInt8}
    (hharmless : TopicChange.Harmless
      ⟨.static buffer, w.world.shadow.topicIn buffer, some topic, w.inUse⟩) :
    Sound ((w.change (.static buffer) (w.world.shadow.topicIn buffer) (some topic)).onWorld
      fun v => v.onShadow fun s => s.storeTopic buffer topic) := by
  refine h.changed hharmless (fun hafter => ?_) (fun q hq => ?_) rfl rfl h.fresh rfl
  · have htopic : topic = w.world.shadow.topicIn buffer := Option.some.inj hafter
    show some ((w.world.shadow.storeTopic buffer topic).topicIn buffer) = _
    rw [topicIn_storeTopic, if_pos rfl, htopic]
    rfl
  · cases q with
    | array number => rfl
    | static other =>
      have hne : other ≠ buffer := fun heq => hq (congrArg TopicPointer.static heq)
      show some ((w.world.shadow.storeTopic buffer topic).topicIn other) = _
      rw [topicIn_storeTopic, if_neg hne]
      rfl

theorem Sound.leave (h : Sound w) {number : Nat} {topic : List UInt8}
    (hharmless : TopicChange.Harmless ⟨.array number, topic, none, w.inUse⟩) :
    Sound ((w.change (.array number) topic none).leave number) := by
  refine h.changed hharmless nofun (fun q hq => ?_) rfl rfl (fun other hother => ?_) rfl
  · cases q with
    | static buffer => rfl
    | array other =>
      have hne : other ≠ number := fun heq => hq (congrArg TopicPointer.array heq)
      exact Function.update_of_ne hne ..
  · by_cases heq : other = number
    · subst heq
      exact Function.update_self ..
    · exact (Function.update_of_ne heq ..).trans (h.fresh other hother)

/-! ### A whole run -/

/-- A run that has halted: if what has become of the topics is harmless, the invariant holds. -/
def Halts (w w' : PointerWorld) : Prop :=
  w.changes <:+ w'.changes ∧ (w'.TopicsKept → Sound w → Sound w')

/-- A run that has returned, and so has every call of the client in it. -/
def Moves (w w' : PointerWorld) : Prop := w'.passed = w.passed ∧ Halts w w'

theorem TopicsKept.before (h : w'.TopicsKept) (hchanges : w.changes <:+ w'.changes) :
    w.TopicsKept := fun c hc => h c (hchanges.subset hc)

theorem Halts.trans {w₁ : PointerWorld} (h : Halts w w₁) (h' : Halts w₁ w') : Halts w w' :=
  ⟨h.1.trans h'.1, fun hkept hsound => h'.2 hkept (h.2 (hkept.before h'.1) hsound)⟩

theorem halts_refl (w : PointerWorld) : Halts w w := ⟨List.suffix_refl _, fun _ h => h⟩

instance : IsPreorder PointerWorld Moves where
  refl w := ⟨rfl, halts_refl w⟩
  trans _ _ _ h h' := ⟨h'.1.trans h.1, h.2.trans h'.2⟩

theorem haltsAfter_moves : HaltsAfter Moves Halts where
  refl := halts_refl
  trans h h' := h.2.trans h'

/-- What a program does to what is in use. -/
abbrev KeepsFilters {α : Type} (x : PointerM α) : Prop := Tracks Moves Halts x

/-- A step that changes no topic. -/
theorem moves_of_sound (hpassed : w'.passed = w.passed) (hchanges : w'.changes = w.changes)
    (h : Sound w → Sound w') : Moves w w' :=
  ⟨hpassed, hchanges ▸ List.suffix_refl _, fun _ => h⟩

theorem moves_onWorld {f : World → World}
    (htopics : (f w.world).shadow.topicIn = w.world.shadow.topicIn)
    (hused : ∀ i, ((f w.world).client.messageHandlers i).topicName.isSome →
      (w.world.client.messageHandlers i).topicName.isSome) : Moves w (w.onWorld f) :=
  moves_of_sound rfl rfl fun h => h.onWorld htopics hused

/-- An update of the client that takes no slot into use. -/
theorem keepsFilters_modifyClient {f : Client → Client}
    (hused : ∀ c i, ((f c).messageHandlers i).topicName.isSome →
      (c.messageHandlers i).topicName.isSome) :
    KeepsFilters (modifyClient f : PointerM Unit) := fun w =>
  moves_of_sound rfl rfl fun h => h.look.onWorld rfl fun i hsome =>
    (isSome_slot w i).symm.trans (hused w.client i hsome)

/-- An event that stores no filter. -/
theorem keepsFilters_emit {e : Client → Event}
    (he : ∀ c i handler, e c ≠ .registered i handler) :
    KeepsFilters (emit e : PointerM Unit) := by
  intro w
  have hstore : ∀ v : PointerWorld, v.store (e w.client) = v := by
    intro v
    unfold store
    split
    · next i handler heq => exact absurd heq (he w.client i handler)
    · rfl
  rw [pointer_ends_emit, hstore]
  exact moves_onWorld rfl fun _ h => h

/-- Only an event of the handler table stores a filter. -/
theorem keepsFilters_emitKind {kind : EventKind} (hkind : kind ≠ .table) {e : Client → Event}
    (he : ∀ c, (e c).kind = kind) : KeepsFilters (emit e : PointerM Unit) := by
  refine keepsFilters_emit fun c i handler heq => hkind ?_
  rw [← he c, heq]
  rfl

/-- A call of the client that is passed a filter which is there. -/
theorem keepsFilters_passTopic {α : Type} {p : PassedTopic} {x : CharPtr → PointerM α}
    (hx : KeepsFilters (x ⟨p.topic⟩)) (hp : Sound w → w.Holds p) :
    (passTopic p x).Ends w (fun _ w' => Moves w w') (Halts w) := by
  refine ends_passTopic.mpr ((hx (w.pass p)).mono (fun a w' h => ?_) fun w' h => ?_)
  · obtain ⟨hpassed, hchanges, hsound⟩ := h
    refine ⟨congrArg List.tail hpassed, hchanges, fun hkept h => ?_⟩
    exact (hsound hkept (h.pass (hp h))).unpass
  · exact ⟨h.1, fun hkept hsound => h.2 hkept (hsound.pass (hp hsound))⟩

/-- A call of the client that is passed an array of its caller, which returns. -/
theorem keepsFilters_passArray {α : Type} (topic : List UInt8) {x : CharPtr → PointerM α}
    (hx : KeepsFilters (x ⟨topic⟩)) : KeepsFilters (passArray topic x) := by
  intro w
  have hholds : (w.enter topic).Holds ⟨.array w.nextArray, topic⟩ := Function.update_self ..
  have hcall := keepsFilters_passTopic (p := ⟨.array w.nextArray, topic⟩) hx fun _ => hholds
  refine ends_passArray.mpr (hcall.mono (fun a w' h => ?_) fun w' h => ?_)
  · obtain ⟨hpassed, hchanges, hsound⟩ := h
    refine ⟨hpassed, hchanges.trans (List.suffix_cons _ _), fun hkept h => ?_⟩
    have hbefore : w'.TopicsKept := fun c hc => hkept c (List.mem_cons_of_mem _ hc)
    exact (hsound hbefore (h.enter topic)).leave (hkept _ List.mem_cons_self)
  · exact ⟨h.1, fun hkept hsound => h.2 hkept (hsound.enter topic)⟩

end PointerWorld

open PointerWorld

/-! ## The client and the shadow layer -/

/-- Slots that are emptied are not taken into use. -/
theorem isSome_clearEqual {n : Nat} {filter : CharPtr} {handlers : Nat → MessageHandlers} {i : Nat}
    (h : (clearEqual n filter handlers i).topicName.isSome) : (handlers i).topicName.isSome := by
  unfold clearEqual at h
  cases hname : (handlers i).topicName with
  | none => simp [hname] at h
  | some topicName => rfl

theorem isSome_emptyHandlers {n : Nat} {handlers : Nat → MessageHandlers} {i : Nat}
    (h : (emptyHandlers n handlers i).topicName.isSome) : (handlers i).topicName.isSome := by
  unfold emptyHandlers at h
  split at h
  · cases h
  · exact h

theorem keepsFilters_compositional : Compositional (m := PointerM) KeepsFilters :=
  tracks_compositional haltsAfter_moves

/-- An update of the client that leaves the handler table alone. -/
theorem keepsFilters_modifyTable {f : Client → Client}
    (hf : ∀ c, (f c).messageHandlers = c.messageHandlers) :
    KeepsFilters (modifyClient f : PointerM Unit) :=
  keepsFilters_modifyClient fun c i h => by rwa [hf c] at h

theorem keepsFilters_traffic : Traffic (m := PointerM) KeepsFilters where
  toCompositional := keepsFilters_compositional
  getClient _ := moves_of_sound rfl rfl Sound.look
  modifyClient hf := keepsFilters_modifyTable fun c => (hf.core c).2.1
  ask _ _ := moves_onWorld rfl fun _ h => h
  emit := keepsFilters_emitKind (by decide)
  storeReceivedId _ _ := keepsFilters_compositional.bind
    (keepsFilters_modifyTable fun _ => rfl) fun _ => keepsFilters_emit fun _ _ _ => nofun

theorem keepsFilters_primitives (env : Env) : Primitives (m := PointerM) env KeepsFilters where
  toTraffic := keepsFilters_traffic
  emitPacket := keepsFilters_emitKind (by decide)
  emitConnection := keepsFilters_emitKind (by decide)
  getClientState w := refl_of Moves w
  setClientState site old new w := by
    rw [pointer_ends_setClientState]
    split
    · exact moves_onWorld rfl fun _ h => h
    · exact refl_of Moves w
  assignClientState new w := moves_onWorld rfl fun _ h => h
  within hx := hx
  registerHandler slot handler _ := moves_of_sound rfl rfl fun h => h.look.register slot handler
  clearHandlers filter := keepsFilters_compositional.bind
    (keepsFilters_modifyClient fun _ _ => isSome_clearEqual) fun _ =>
      keepsFilters_emit fun _ _ _ => nofun
  resetHandlers := keepsFilters_compositional.bind
    (keepsFilters_modifyClient fun _ _ => isSome_emptyHandlers) fun _ =>
      keepsFilters_emit fun _ _ _ => nofun
  modifyTable hf _ := keepsFilters_modifyTable fun c => (hf c).2.1
  startInterval := keepsFilters_compositional.bind
    (keepsFilters_modifyTable fun _ => rfl) fun _ => keepsFilters_emit fun _ _ _ => nofun
  doubleInterval := keepsFilters_compositional.bind
    (keepsFilters_emit fun _ _ _ => nofun) fun _ => keepsFilters_modifyTable fun _ => rfl

theorem keepsFilters_everything (env : Env) : Everything (m := PointerM) env KeepsFilters :=
  (keepsFilters_primitives env).toSteering.everything
    (fun hf => keepsFilters_modifyTable fun c => (hf.1 c).2.1)
    fun fuel hcycle => hcycle.internalResubscribe fuel (keepsFilters_emitKind (by decide))

theorem keepsFilters_serving {env : Env} {callbacks : Callbacks PointerM}
    (hmessage : ∀ call, KeepsFilters (callbacks.message call)) :
    Serving env callbacks KeepsFilters :=
  (keepsFilters_primitives env).serving (keepsFilters_emitKind (by decide)) hmessage
    (keepsFilters_traffic.deliverReceived fun hf => keepsFilters_modifyTable fun c => (hf.1 c).2.1)

/-- An update of the static storage that leaves the topics alone. -/
theorem keepsFilters_modifyRecords {f : Records → Records} (hf : KeepsTopics f) :
    KeepsFilters (modifyRecords f : PointerM Unit) := fun w =>
  moves_onWorld (hf w.world.shadow) fun _ h => h

theorem keepsFilters_initializeRecords (config : ShadowConfig) :
    KeepsFilters (initializeRecords config : PointerM Unit) := by
  refine keepsFilters_modifyRecords fun s => ?_
  funext buffer
  cases buffer with
  | shadowDeltaTopic => rfl
  | subscription i =>
    by_cases hi : i < config.maxTopicsAtAnyGivenTime
    · simp only [Records.topicIn, if_pos hi]
    · simp only [Records.topicIn, if_neg hi]

theorem keepsFilters_shadowing (env : ShadowEnv) :
    Shadowing (m := PointerM) env KeepsFilters where
  toEverything := keepsFilters_everything env.mqtt
  serving := keepsFilters_serving
  getRecords w := refl_of Moves w
  modifyRecords _ := keepsFilters_modifyRecords
  storeTopic _ _ _ :=
    ⟨rfl, List.suffix_cons _ _, fun hkept h => h.storeTopic (hkept _ List.mem_cons_self)⟩
  passing buffer topic x hx := by
    cases buffer with
    | none => exact keepsFilters_passArray topic (hx ⟨topic⟩)
    | some buffer => exact fun w => keepsFilters_passTopic (hx _) fun _ => rfl
  initializeRecords := keepsFilters_initializeRecords env.config
  note _ := keepsFilters_modifyRecords fun _ => rfl

/-- A program of the shadow layer leaves what is in use where it is, if what becomes of the
topics is harmless. -/
theorem keepsFilters_shadowApplication (env : ShadowEnv) (fuel : Nat) (calls : List ShadowCall) :
    KeepsFilters (shadowApplication env fuel calls : PointerM Unit) :=
  ((keepsFilters_shadowing env).recording.versioned
    (fun _ htopics _ => keepsFilters_modifyRecords htopics)
    (fun _ => keepsFilters_modifyRecords fun _ => rfl)
    (keepsFilters_modifyRecords fun _ => rfl) (fun _ => keepsFilters_modifyRecords fun _ => rfl)
    fuel).shadowApplication calls

/-- In every run in which no topic is written over, and no array goes away, that a slot in use
or a call under way points to, the client finds in its slots the filters that they were
subscribed with. -/
theorem filtersStay_of_topicsKept (env : ShadowEnv) (fuel : Nat) (remains : Nat → Nat → List UInt8)
    (calls : List ShadowCall) (hkept : (PointerWorld.after env fuel remains calls).TopicsKept) :
    (PointerWorld.after env fuel remains calls).FiltersStay := by
  have hsound : (shadowApplication env fuel calls : PointerM Unit).Ends (.start remains)
      (fun _ w => w.TopicsKept → Sound w) (fun w => w.TopicsKept → Sound w) :=
    (keepsFilters_shadowApplication env fuel calls (.start remains)).mono
      (fun _ _ h hkept => h.2.2 hkept (sound_start remains))
      fun _ h hkept => h.2 hkept (sound_start remains)
  exact (ends_state_iff.mp hsound hkept).reads

/-! ### A delta topic and a delete handler -/

/-- The topic on which the deletion of the shadow of the thing `a` is confirmed. -/
def deleteAcceptedTopic : List UInt8 := ascii "$aws/things/a/shadow/delete/accepted"

/-- The message that confirms it. -/
def deleteAcceptedMessage : List UInt8 :=
  [0x30, 40, 0, 36] ++ deleteAcceptedTopic ++ ascii "\x7b\x7d"

/-- Surroundings in which the server accepts the connection and a subscription, and confirms
the deletion. -/
def deletedEnv : ShadowEnv :=
  { quietShadowEnv (fun _ => ⟨none, []⟩) with
    mqtt := quietEnv.receiving
      [(6, [0x20, 2, 0, 0]), (15, [0x90, 3, 0, 2, 1]), (21, deleteAcceptedMessage)] }

/-- The calls of an application with or without a delete handler. -/
def deletedCalls (deleteActionHandler : Bool) (calls : List ShadowCall) : List ShadowCall :=
  [.init ⟨true, 8883, true, true, true, false, false⟩,
    .connect ⟨⟨ascii "a"⟩, some ⟨ascii "c"⟩, 1, deleteActionHandler⟩] ++ calls

/-- A run with a registered key: the topic of the delta messages is in static storage. -/
def deltaRun : PointerWorld :=
  .after deletedEnv 8 (fun _ _ => [])
    (deletedCalls false [.registerDelta (some ⟨ascii "a", 0, .int32, true⟩), .yield 8])

/-- The client finds the topic of the delta messages. -/
theorem filtersStay_delta : deltaRun.reads ≠ [] ∧ deltaRun.FiltersStay :=
  ⟨by decide +kernel, filtersStay_of_topicsKept _ _ _ _ (by decide +kernel)⟩

/-- A run with a delete handler, in which the array of `aws_iot_shadow_connect` is overwritten
once it has returned. -/
def deletedRun : PointerWorld :=
  .after deletedEnv 8 (fun _ _ => []) (deletedCalls true [.yield 8])

/-- The client does not find the topic that it has subscribed to. -/
theorem not_always_filtersStay :
    ¬ ∀ (env : ShadowEnv) (fuel : Nat) (remains : Nat → Nat → List UInt8)
      (calls : List ShadowCall), (PointerWorld.after env fuel remains calls).FiltersStay := by
  intro h
  have hstay : deletedRun.FiltersStay :=
    h deletedEnv 8 (fun _ _ => []) (deletedCalls true [.yield 8])
  have hlost : deletedRun.reads.any (fun r => r.found ≠ r.subscribed) = true := by decide +kernel
  obtain ⟨r, hr, hne⟩ := List.any_eq_true.mp hlost
  exact absurd (hstay r hr) (of_decide_eq_true hne)

end AwsIot.Shadow
