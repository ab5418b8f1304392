/-
  Shadow/DeltaRegistration.lean --- registering keys for delta messages.

  The first key registered after the start subscribes to the delta topic, and a flag keeps
  the later ones from doing so again.  The flag is set whether the client subscribed or not,
  and the key goes into the table whatever the client said.  What happens between two calls,
  and what the messages do that the client delivers in one, is taken to leave the registration
  alone.
-/
import AwsIot.Mqtt.Suback
import AwsIot.Mqtt.Subscriptions
import AwsIot.Shadow.SubscribeAcks

set_option autoImplicit false

namespace AwsIot.Shadow

open AwsIot.Foundation AwsIot.Mqtt Program

/-! ## Registrations -/

/-- The topic of the delta messages of `thingName`. -/
def deltaTopic (config : ShadowConfig) (thingName : List UInt8) : List UInt8 :=
  (ascii "$aws/things/" ++ thingName ++ ascii "/shadow/update/delta").take
    (config.maxShadowTopicLengthBytes - 1)

/-- The topic is whole where the name leaves room for the rest of it. -/
theorem deltaTopic_of_fits {config : ShadowConfig} {thingName : List UInt8}
    (h : thingName.length + 32 < config.maxShadowTopicLengthBytes) :
    deltaTopic config thingName =
      ascii "$aws/things/" ++ thingName ++ ascii "/shadow/update/delta" := by
  have hprefix : (ascii "$aws/things/").length = 12 := by decide
  have hsuffix : (ascii "/shadow/update/delta").length = 20 := by decide
  refine List.take_of_length_le ?_
  rw [List.length_append, List.length_append, hprefix, hsuffix]
  omega

/-- The delta topic of the device's own thing was subscribed to with success from `w` to `w'`,
with `shadow_delta_callback`. -/
def SubscribedToDelta (config : ShadowConfig) (w w' : World) : Prop :=
  ∃ slot, .registered slot ⟨some ⟨deltaTopic config w'.shadow.myThingName⟩,
    UInt16.ofNat (deltaTopic config w'.shadow.myThingName).length, .qos0,
    some shadowDeltaCallbackHandler, 0⟩ ∈ w.since w'

/-- Key `pStruct` is in the table. -/
def HasKey (s : Records) (pStruct : JsonStruct) : Prop :=
  ∃ index < s.tokenTableIndex, s.tokenTable index = ⟨pStruct, pStruct.cb, false⟩

/-- The table is the same. -/
def SameTable (s s' : Records) : Prop :=
  s'.tokenTable = s.tokenTable ∧ s'.tokenTableIndex = s.tokenTableIndex

/-- What the registration is made of is left alone, and nothing is taken from the log. -/
structure SameRegistration (w w' : World) : Prop where
  table : SameTable w.shadow w'.shadow
  flag : w'.shadow.deltaTopicSubscribedFlag = w.shadow.deltaTopicSubscribedFlag
  name : w'.shadow.myThingName = w.shadow.myThingName
  log : w.log <:+ w'.log

/-- Whatever the message, the handlers leave the registration alone. -/
def LeavesRegistration (handlers : Handlers M) : Prop :=
  ∀ call, Keeps SameRegistration (handlers.message call)

/-- A call of `aws_iot_shadow_register_delta` that returned. -/
structure Registration where
  /-- Where it was made. -/
  start : World
  /-- The key. -/
  pStruct : Option JsonStruct
  /-- What it returned. -/
  rc : IoTError
  /-- Where it returned. -/
  finish : World

/-- The registration is as `aws_iot_shadow_init` leaves it. -/
def Unregistered (s : Records) : Prop :=
  s.deltaTopicSubscribedFlag = false ∧ s.tokenTableIndex = 0

variable (env : ShadowEnv) (fuel : Nat) (handlers : Handlers M)

/-- The calls made from `w₀` on, newest first, and where they led. -/
inductive Registrations (w₀ : World) : List Registration → World → Prop
  | start : Unregistered w₀.shadow → Registrations w₀ [] w₀
  | register {calls w} (pStruct : Option JsonStruct) {rc w'} : Registrations w₀ calls w →
      (registerDelta env fuel handlers pStruct).run w = .done rc w' →
      Registrations w₀ (⟨w, pStruct, rc, w'⟩ :: calls) w'
  | other {calls w w'} : Registrations w₀ calls w → SameRegistration w w' →
      Registrations w₀ calls w'

/-- The subscription to the delta topic, tried. -/
def tryDelta : M IoTError := do
  let s ← getRecords
  storeTopic .shadowDeltaTopic (deltaTopic env.config s.myThingName)
  let rc ← if s.pMqttClient then
      mqttSubscribe env fuel handlers (some .shadowDeltaTopic)
        (deltaTopic env.config s.myThingName) .qos0 shadowDeltaCallbackHandler
    else pure .nullValueError
  modifyRecords fun s => { s with deltaTopicSubscribedFlag := true }
  return rc

/-- A call from `w` gets as far as the subscription. -/
def Registration.GetsThrough (r : Registration) : Prop :=
  r.pStruct.isSome = true ∧ r.start.client.clientState.isConnected = true

/-- The messages that the call delivers leave the registration alone: handlers that do so
whatever the message behave in it as `handlers` do. -/
def Registration.Undisturbed (r : Registration) : Prop :=
  ∃ quiet, LeavesRegistration quiet ∧
    (subscribeDelta env fuel quiet).run r.start = (subscribeDelta env fuel handlers).run r.start

/-- The subscription is tried from `w`. -/
def TriesDelta (w : World) : Prop :=
  (subscribeDelta env fuel handlers).run w = (tryDelta env fuel handlers).run w

/-- Of the calls made from `w₀` on, those that returned SUCCESS left a key that is live, and
those that returned an error left the table, and had the subscription tried again while it
was missing. -/
structure LiveDeltas (w₀ : World) (calls : List Registration) : Prop where
  live : ∀ r ∈ calls, r.rc = .success → SubscribedToDelta env.config w₀ r.finish ∧
    ∃ pStruct, r.pStruct = some pStruct ∧ HasKey r.finish.shadow pStruct
  unchanged : ∀ r ∈ calls, r.rc ≠ .success → SameTable r.start.shadow r.finish.shadow
  retried : ∀ newer r' older, calls = newer ++ r' :: older → r'.GetsThrough →
    (∃ r ∈ older, r.rc ≠ .success) → ¬ SubscribedToDelta env.config w₀ r'.start →
      TriesDelta env fuel handlers r'.start

/-- Where the call of `r` is the first to get through, the client subscribes. -/
def Registration.Subscribes (r : Registration) : Prop :=
  r.GetsThrough → r.start.shadow.deltaTopicSubscribedFlag = false →
    ∀ rc w', (tryDelta env fuel handlers).run r.start = .done rc w' → rc = .success

/-! ## What a call does -/

section Growth

variable {config : ShadowConfig} {w₀ w w' : World}

theorem SubscribedToDelta.later (h : SubscribedToDelta config w₀ w) (hgrows₀ : w₀.log <:+ w.log)
    (hname : w'.shadow.myThingName = w.shadow.myThingName) (hgrows : w.log <:+ w'.log) :
    SubscribedToDelta config w₀ w' := by
  obtain ⟨old, hold⟩ := hgrows₀
  obtain ⟨new, hnew⟩ := hgrows
  obtain ⟨slot, hslot⟩ := h
  rw [World.since_of_append hold.symm] at hslot
  have hlog : w'.log = (new ++ old) ++ w₀.log := by rw [← hnew, ← hold, List.append_assoc]
  refine ⟨slot, ?_⟩
  rw [World.since_of_append hlog, hname]
  exact List.mem_append_right _ hslot

theorem SubscribedToDelta.earlier (h : SubscribedToDelta config w w') (hgrows₀ : w₀.log <:+ w.log)
    (hgrows : w.log <:+ w'.log) : SubscribedToDelta config w₀ w' := by
  obtain ⟨old, hold⟩ := hgrows₀
  obtain ⟨new, hnew⟩ := hgrows
  obtain ⟨slot, hslot⟩ := h
  rw [World.since_of_append hnew.symm] at hslot
  have hlog : w'.log = (new ++ old) ++ w₀.log := by rw [← hnew, ← hold, List.append_assoc]
  refine ⟨slot, ?_⟩
  rw [World.since_of_append hlog]
  exact List.mem_append_left _ hslot

end Growth

instance : IsPreorder World SameRegistration where
  refl _ := ⟨⟨rfl, rfl⟩, rfl, rfl, List.suffix_refl _⟩
  trans _ _ _ h h' :=
    ⟨⟨h'.table.1.trans h.table.1, h'.table.2.trans h.table.2⟩, h'.flag.trans h.flag,
      h'.name.trans h.name, h.log.trans h'.log⟩

theorem sameRegistration_of_log {w w' : World} (hshadow : w'.shadow = w.shadow)
    (hlog : w.log <:+ w'.log) : SameRegistration w w' := by
  refine ⟨⟨?_, ?_⟩, ?_, ?_, hlog⟩ <;> rw [hshadow]

theorem sameRegistration_steps : AllSteps env.mqtt SameRegistration where
  onClient w _ _ := sameRegistration_of_log rfl (List.suffix_refl w.log)
  tick w := sameRegistration_of_log rfl (List.suffix_refl w.log)
  push _ e _ := sameRegistration_of_log rfl (List.suffix_cons e _)
  pushPacket _ e _ := sameRegistration_of_log rfl (List.suffix_cons e _)
  pushConnection _ e _ := sameRegistration_of_log rfl (List.suffix_cons e _)
  pushTurn _ e _ := sameRegistration_of_log rfl (List.suffix_cons e _)
  pushHandler _ e _ := sameRegistration_of_log rfl (List.suffix_cons e _)
  withState w _ := sameRegistration_of_log rfl (List.suffix_refl w.log)
  register _ _ _ := sameRegistration_of_log rfl (List.suffix_cons _ _)
  clear _ _ := sameRegistration_of_log rfl (List.suffix_cons _ _)
  reset _ := sameRegistration_of_log rfl (List.suffix_cons _ _)
  onTable w _ _ := sameRegistration_of_log rfl (List.suffix_refl w.log)
  start _ := sameRegistration_of_log rfl (List.suffix_cons _ _)
  double _ := sameRegistration_of_log rfl (List.suffix_cons _ _)

/-- After `aws_iot_shadow_init` nothing is registered. -/
theorem shadowInit_unregistered (params : ShadowInitParameters) (w : World) :
    (shadowInit env params : M IoTError).Ends w
      (fun rc w' => rc = .success → Unregistered w'.shadow)
      (fun _ => True) := by
  unfold shadowInit
  rw [ends_bind, ends_getRecords, ends_bind]
  refine ends_true.mono (fun rc w₁ _ => ?_) (fun _ h => h)
  rw [ends_ite]
  split
  case isTrue herror => exact fun h => absurd h herror
  case isFalse => exact fun _ => ⟨rfl, rfl⟩

variable {env fuel handlers} {w : World}

theorem run_subscribeDelta (hflag : w.shadow.deltaTopicSubscribedFlag = true) :
    (subscribeDelta env fuel handlers).run w = .done .success w := by
  rw [run_eq_done_iff, subscribeDelta, ends_bind, ends_getRecords]
  dsimp only
  rw [if_pos hflag]
  exact ⟨rfl, rfl⟩

/-- While the flag is off, every call tries to subscribe. -/
theorem triesDelta_of_flag (hflag : w.shadow.deltaTopicSubscribedFlag = false) :
    TriesDelta env fuel handlers w := by
  unfold TriesDelta subscribeDelta tryDelta
  show (ite (w.shadow.deltaTopicSubscribedFlag = true) _ _ : M IoTError).run w = _
  rw [if_neg (by rw [hflag]; exact Bool.false_ne_true)]
  rfl

/-- A subscribe that returns SUCCESS has stored its handler meanwhile. -/
theorem mqttSubscribe_stored (hquiet : LeavesRegistration handlers)
    (buffer : Option TopicBuffer) (topic : List UInt8) (qos : QoS) (handler : Nat) :
    (mqttSubscribe env fuel handlers buffer topic qos handler).Ends w (fun rc w' => rc = .success →
      ∃ slot, .registered slot ⟨some ⟨topic⟩, UInt16.ofNat topic.length, qos, some handler, 0⟩ ∈
        w.since w') (fun _ => True) := by
  have hgrows : Cycling env.mqtt handlers.toCallbacks (Keeps LogGrows) :=
    ((logGrows_steps env.mqtt).serving fun call w =>
      (hquiet call w).mono (fun _ _ h => h.log) (fun _ h => h.log)).toCycling
  have hstored : (mqttSubscribe env fuel handlers buffer topic qos handler).Ends w
      (fun rc w' => rc = .success → JustStored env.mqtt.config.numSubscribeHandlers (some ⟨topic⟩)
        (UInt16.ofNat topic.length) qos (some handler) 0 w'.log) (fun _ => True) := by
    rw [mqttSubscribe_eq]
    exact subscribe_justStored hgrows _ _ _ _ _ w
  have hnew : (mqttSubscribe env fuel handlers buffer topic qos handler).Ends w
      (fun rc w' => rc = .success → SubscribedSince w.log w'.log) (fun _ => True) := by
    rw [mqttSubscribe_eq]
    exact subscribe_subscribedSince hgrows _ _ _ _ _
  refine (hstored.and hnew).mono (fun rc w' h hrc => ?_) (fun _ _ => trivial)
  obtain ⟨slot, filter, stored, rest, hfilter, hhandler, -, hlog⟩ := h.1 hrc
  obtain ⟨slot', stored', packet, codes, mid, hlog', -, -⟩ := h.2 hrc
  cases hfilter
  cases hhandler
  obtain ⟨hhead, -⟩ := List.cons_eq_cons.mp (hlog.symm.trans hlog')
  have hsince : w'.log = (.registered slot' stored' :: .waited .suback .success ::
      .packetRead packet :: mid) ++ w.log := hlog'
  refine ⟨slot, ?_⟩
  rw [World.since_of_append hsince, hhead]
  exact List.mem_cons_self

/-- What trying to subscribe does to the registration. -/
structure Tried (config : ShadowConfig) (w : World) (rc : IoTError) (w' : World) : Prop where
  table : SameTable w.shadow w'.shadow
  flag : w'.shadow.deltaTopicSubscribedFlag = true
  name : w'.shadow.myThingName = w.shadow.myThingName
  log : w.log <:+ w'.log
  subscribed : rc = .success → SubscribedToDelta config w w'

theorem ends_tryDelta (hquiet : LeavesRegistration handlers) :
    (tryDelta env fuel handlers).Ends w (Tried env.config w) (fun _ => True) := by
  unfold tryDelta
  rw [ends_bind, ends_getRecords]
  dsimp only
  rw [ends_bind, ends_storeTopic]
  split
  case isTrue =>
    rw [ends_bind]
    have hsame := ((sameRegistration_steps env).everything.subscribe fuel
      ((sameRegistration_steps env).serving hquiet)
      (some ⟨deltaTopic env.config w.shadow.myThingName⟩)
      (UInt16.ofNat (deltaTopic env.config w.shadow.myThingName).length) .qos0
      (some shadowDeltaCallbackHandler) 0
      (w.onShadow fun s' => { s' with
        shadowDeltaTopic := deltaTopic env.config w.shadow.myThingName })).onReturn
    refine (hsame.and (mqttSubscribe_stored hquiet (some .shadowDeltaTopic) _ _ _)).mono
      (fun rc w₁ h => ?_) (fun _ _ => trivial)
    obtain ⟨hkept, hstored⟩ := h
    rw [ends_bind, ends_modifyRecords, ends_pure]
    refine ⟨hkept.table, rfl, hkept.name, hkept.log, fun hrc => ?_⟩
    obtain ⟨slot, hslot⟩ := hstored hrc
    exact ⟨slot, hkept.name ▸ hslot⟩
  case isFalse => exact ⟨⟨rfl, rfl⟩, rfl, rfl, List.suffix_refl _, by simp⟩

/-- The subscription is tried if the flag is off, and the flag is on behind it. -/
theorem subscribeDelta_tried {r : Registration} (hquiet : r.Undisturbed env fuel handlers)
    {rc : IoTError} {w' : World}
    (hrun : (subscribeDelta env fuel handlers).run r.start = .done rc w') :
    r.start.shadow.deltaTopicSubscribedFlag = true ∧ rc = .success ∧ w' = r.start ∨
      r.start.shadow.deltaTopicSubscribedFlag = false ∧ Tried env.config r.start rc w' ∧
        (tryDelta env fuel handlers).run r.start = .done rc w' := by
  cases hflag : r.start.shadow.deltaTopicSubscribedFlag with
  | true =>
    rw [run_subscribeDelta hflag] at hrun
    cases hrun
    exact .inl ⟨rfl, rfl, rfl⟩
  | false =>
    obtain ⟨quiet, hleaves, hsame⟩ := hquiet
    have htries : TriesDelta env fuel handlers r.start := triesDelta_of_flag hflag
    have hquietTries : TriesDelta env fuel quiet r.start := triesDelta_of_flag hflag
    have hquietRun : (tryDelta env fuel quiet).run r.start = .done rc w' :=
      (hquietTries.symm.trans hsame).trans hrun
    exact .inr ⟨rfl, (ends_tryDelta hleaves).of_run hquietRun, htries.symm.trans hrun⟩

/-- A key is put into the table. -/
def addKey (pStruct : JsonStruct) (s : Records) : Records := { s with
  tokenTable := Function.update s.tokenTable s.tokenTableIndex ⟨pStruct, pStruct.cb, false⟩
  tokenTableIndex := s.tokenTableIndex + 1 }

theorem hasKey_addKey (pStruct : JsonStruct) (s : Records) : HasKey (addKey pStruct s) pStruct :=
  ⟨s.tokenTableIndex, Nat.lt_succ_self _, Function.update_self _ _ _⟩

/-- A call is refused, or it goes on with the subscription and puts its key into the table if
there is room. -/
theorem registerDelta_cases {pStruct : Option JsonStruct} {rc : IoTError} {w' : World}
    (hrun : (registerDelta env fuel handlers pStruct).run w = .done rc w') :
    (¬ (⟨w, pStruct, rc, w'⟩ : Registration).GetsThrough ∧ rc ≠ .success ∧ w' = w) ∨
      ∃ p rc₁ w₁, pStruct = some p ∧ w.client.clientState.isConnected = true ∧
        (subscribeDelta env fuel handlers).run w = .done rc₁ w₁ ∧
        (env.config.maxJsonTokenExpected ≤ w₁.shadow.tokenTableIndex ∧ rc = .failure ∧ w' = w₁ ∨
          w₁.shadow.tokenTableIndex < env.config.maxJsonTokenExpected ∧ rc = rc₁ ∧
            w' = w₁.onShadow (addKey p)) := by
  rw [run_eq_done_iff] at hrun
  unfold registerDelta at hrun
  cases pStruct with
  | none =>
    obtain ⟨rfl, rfl⟩ := hrun
    exact .inl ⟨fun h => Bool.false_ne_true h.1, by simp, rfl⟩
  | some p =>
    dsimp only at hrun
    rw [whenConnected, ends_bind, ends_getClientState, ends_ite] at hrun
    split at hrun
    case isTrue hconnected =>
      obtain ⟨rfl, rfl⟩ := hrun
      exact .inl ⟨fun h => hconnected h.2, by simp, rfl⟩
    case isFalse hconnected =>
      rw [registerJsonTokenOnDelta, ends_bind] at hrun
      cases hsub : (subscribeDelta env fuel handlers).run w with
      | halted w₁ => exact absurd (hrun.of_halt hsub) id
      | done rc₁ w₁ =>
        rw [ends_of_run_eq hsub, ends_bind, ends_getRecords] at hrun
        refine .inr ⟨p, rc₁, w₁, rfl, not_not.mp hconnected, rfl, ?_⟩
        split at hrun
        case isTrue hfull =>
          obtain ⟨rfl, rfl⟩ := hrun
          exact .inl ⟨hfull, rfl, rfl⟩
        case isFalse hroom =>
          obtain ⟨rfl, rfl⟩ := hrun
          exact .inr ⟨Nat.not_le.mp hroom, rfl, rfl⟩

/-! ## Sequences of calls -/

/-- Before the first call that gets through the table is empty. -/
theorem Registrations.unregistered {w₀ : World} {calls : List Registration}
    (h : Registrations env fuel handlers w₀ calls w)
    (hquiet : ∀ r ∈ calls, r.Undisturbed env fuel handlers)
    (hflag : w.shadow.deltaTopicSubscribedFlag = false) : w.shadow.tokenTableIndex = 0 := by
  induction h with
  | start hstart => exact hstart.2
  | @register calls w pStruct rc w' _ hrun ih =>
    obtain ⟨hfirst, hrest⟩ := List.forall_mem_cons.mp hquiet
    rcases registerDelta_cases hrun with ⟨-, -, rfl⟩ | ⟨p, rc₁, w₁, -, -, hsub, hend⟩
    · exact ih hrest hflag
    · have hflag₁ : w₁.shadow.deltaTopicSubscribedFlag = false := by
        rcases hend with ⟨-, -, rfl⟩ | ⟨-, -, rfl⟩ <;> exact hflag
      rcases subscribeDelta_tried hfirst hsub with ⟨hon, -, rfl⟩ | ⟨-, htried, -⟩
      · rw [hon] at hflag₁; cases hflag₁
      · rw [htried.flag] at hflag₁; cases hflag₁
  | other _ hsame ih =>
    rw [hsame.table.2]
    exact ih hquiet (hsame.flag ▸ hflag)

/-- Every call of a sequence is made after a shorter one. -/
theorem Registrations.mem {w₀ : World} {calls : List Registration}
    (h : Registrations env fuel handlers w₀ calls w) {r : Registration} (hr : r ∈ calls) :
    (registerDelta env fuel handlers r.pStruct).run r.start = .done r.rc r.finish ∧
      ∃ older, Registrations env fuel handlers w₀ older r.start ∧ older ⊆ calls := by
  induction h with
  | start => cases hr
  | @register older w pStruct rc w' hbefore hrun ih =>
    rcases List.mem_cons.mp hr with rfl | hr
    · exact ⟨hrun, older, hbefore, List.subset_cons_self _ _⟩
    · obtain ⟨hrun', oldest, holdest, hsubset⟩ := ih hr
      exact ⟨hrun', oldest, holdest, List.subset_cons_of_subset _ hsubset⟩
  | other _ _ ih => exact ih hr

/-- The flag is on where the client has subscribed. -/
structure FlagTells (config : ShadowConfig) (w₀ w : World) : Prop where
  log : w₀.log <:+ w.log
  subscribed : w.shadow.deltaTopicSubscribedFlag = true → SubscribedToDelta config w₀ w

theorem Tried.flagTells {w₀ w w' : World} {rc : IoTError} {config : ShadowConfig}
    (h : Tried config w rc w') (hrc : rc = .success) (hlog : w₀.log <:+ w.log) :
    FlagTells config w₀ w' where
  log := hlog.trans h.log
  subscribed _ := (h.subscribed hrc).earlier hlog h.log

theorem SameRegistration.flagTells {w₀ w w' : World} {config : ShadowConfig}
    (h : SameRegistration w w') (htells : FlagTells config w₀ w) : FlagTells config w₀ w' where
  log := htells.log.trans h.log
  subscribed hflag := (htells.subscribed (h.flag ▸ hflag)).later htells.log h.name h.log

/-- What a call leaves that does not fail to subscribe. -/
theorem registerDelta_flagTells {w₀ w' : World} {pStruct : Option JsonStruct} {rc : IoTError}
    (hquiet : Registration.Undisturbed env fuel handlers ⟨w, pStruct, rc, w'⟩)
    (htells : FlagTells env.config w₀ w)
    (hrun : (registerDelta env fuel handlers pStruct).run w = .done rc w')
    (hsubscribes : Registration.Subscribes env fuel handlers ⟨w, pStruct, rc, w'⟩) :
    FlagTells env.config w₀ w' ∧
      (rc = .success → SubscribedToDelta env.config w₀ w' ∧
        ∃ p, pStruct = some p ∧ HasKey w'.shadow p) ∧
      (rc ≠ .success → SameTable w.shadow w'.shadow) := by
  rcases registerDelta_cases hrun with ⟨-, hrc, rfl⟩ | ⟨p, rc₁, w₁, rfl, hconnected, hsub, hend⟩
  · exact ⟨htells, fun h => absurd h hrc, fun _ => ⟨rfl, rfl⟩⟩
  · have hmid : FlagTells env.config w₀ w₁ ∧ SubscribedToDelta env.config w₀ w₁ ∧
        SameTable w.shadow w₁.shadow ∧ rc₁ = .success := by
      rcases subscribeDelta_tried hquiet hsub with ⟨hon, hrc, rfl⟩ | ⟨hoff, htried, htry⟩
      · exact ⟨htells, htells.subscribed hon, ⟨rfl, rfl⟩, hrc⟩
      · have hrc := hsubscribes ⟨rfl, hconnected⟩ hoff rc₁ w₁ htry
        have htells₁ := htried.flagTells hrc htells.log
        exact ⟨htells₁, htells₁.subscribed htried.flag, htried.table, hrc⟩
    obtain ⟨htells₁, hsubscribed, htable, rfl⟩ := hmid
    rcases hend with ⟨-, rfl, rfl⟩ | ⟨-, rfl, rfl⟩
    · exact ⟨htells₁, by simp, fun _ => htable⟩
    · exact ⟨⟨htells₁.log, fun _ => hsubscribed⟩,
        fun _ => ⟨hsubscribed, p, rfl, hasKey_addKey p _⟩, fun h => absurd rfl h⟩

theorem LiveDeltas.nil {w₀ : World} : LiveDeltas env fuel handlers w₀ [] where
  live _ hr := absurd hr List.not_mem_nil
  unchanged _ hr := absurd hr List.not_mem_nil
  retried newer r' older heq := absurd heq.symm
    (List.append_ne_nil_of_right_ne_nil newer (List.cons_ne_nil r' older))

/-- One more call with its own part of the promise. -/
theorem LiveDeltas.cons {w₀ : World} {calls : List Registration} {r : Registration}
    (h : LiveDeltas env fuel handlers w₀ calls)
    (hlive : r.rc = .success → SubscribedToDelta env.config w₀ r.finish ∧
      ∃ pStruct, r.pStruct = some pStruct ∧ HasKey r.finish.shadow pStruct)
    (hunchanged : r.rc ≠ .success → SameTable r.start.shadow r.finish.shadow)
    (hretried : ¬ SubscribedToDelta env.config w₀ r.start → TriesDelta env fuel handlers r.start) :
    LiveDeltas env fuel handlers w₀ (r :: calls) where
  live := List.forall_mem_cons.mpr ⟨hlive, h.live⟩
  unchanged := List.forall_mem_cons.mpr ⟨hunchanged, h.unchanged⟩
  retried newer r' older heq hthrough herror hmissing := by
    cases newer with
    | nil =>
      cases heq
      exact hretried hmissing
    | cons r'' newer =>
      cases heq
      exact h.retried newer r' older rfl hthrough herror hmissing

/-- Where no subscription fails, all that is promised holds after every sequence of calls. -/
theorem Registrations.liveDeltas {w₀ : World} {calls : List Registration}
    (h : Registrations env fuel handlers w₀ calls w)
    (hquiet : ∀ r ∈ calls, r.Undisturbed env fuel handlers)
    (hsubscribes : ∀ r ∈ calls, r.Subscribes env fuel handlers) :
    LiveDeltas env fuel handlers w₀ calls ∧ FlagTells env.config w₀ w := by
  induction h with
  | start hstart =>
    refine ⟨LiveDeltas.nil, List.suffix_refl _, fun hflag => ?_⟩
    rw [hstart.1] at hflag
    cases hflag
  | @register calls w pStruct rc w' _ hrun ih =>
    obtain ⟨hquietFirst, hquietRest⟩ := List.forall_mem_cons.mp hquiet
    obtain ⟨hfirst, hrest⟩ := List.forall_mem_cons.mp hsubscribes
    obtain ⟨hdeltas, htells⟩ := ih hquietRest hrest
    obtain ⟨htells', hlive, hunchanged⟩ :=
      registerDelta_flagTells hquietFirst htells hrun hfirst
    have hretried : ¬ SubscribedToDelta env.config w₀ w → TriesDelta env fuel handlers w :=
      fun hmissing => triesDelta_of_flag <|
        Bool.eq_false_iff.mpr fun hflag => hmissing (htells.subscribed hflag)
    exact ⟨hdeltas.cons hlive hunchanged hretried, htells'⟩
  | other _ hsame ih =>
    obtain ⟨hdeltas, htells⟩ := ih hquiet hsubscribes
    exact ⟨hdeltas, hsame.flagTells htells⟩

/-- What is promised of registered deltas holds of a sequence of calls exactly when the client
subscribes whenever the subscription is tried. -/
theorem liveDeltas_iff (hroom : 0 < env.config.maxJsonTokenExpected) {w₀ : World}
    {calls : List Registration} (h : Registrations env fuel handlers w₀ calls w)
    (hquiet : ∀ r ∈ calls, r.Undisturbed env fuel handlers) :
    LiveDeltas env fuel handlers w₀ calls ↔ ∀ r ∈ calls, r.Subscribes env fuel handlers := by
  refine ⟨fun hdeltas r hr hthrough hoff rc₁ w₁ htry => ?_,
    fun hsubscribes => (h.liveDeltas hquiet hsubscribes).1⟩
  obtain ⟨hrun, older, hbefore, hsubset⟩ := h.mem hr
  have hempty := hbefore.unregistered (fun r' hr' => hquiet r' (hsubset hr')) hoff
  rcases registerDelta_cases hrun with ⟨hrefused, -⟩ | ⟨p, rc₂, w₂, -, -, hsub, hend⟩
  · exact absurd hthrough hrefused
  · -- The first call puts its key into the empty table whatever the client said.
    rcases subscribeDelta_tried (hquiet r hr) hsub with ⟨hon, -, -⟩ | ⟨-, htried, htry'⟩
    · rw [hoff] at hon; cases hon
    obtain ⟨rfl, rfl⟩ : rc₁ = rc₂ ∧ w₁ = w₂ := by
      rw [htry'] at htry
      cases htry
      exact ⟨rfl, rfl⟩
    have hindex : w₁.shadow.tokenTableIndex = 0 := htried.table.2.trans hempty
    rcases hend with ⟨hfull, -, -⟩ | ⟨-, hrc, hfinish⟩
    · omega
    · by_contra herror
      have hsame := (hdeltas.unchanged r hr (hrc ▸ herror)).2
      rw [hfinish, hempty] at hsame
      exact absurd hsame (Nat.succ_ne_zero _)

theorem silentHandlers_leaveRegistration : LeavesRegistration silentHandlers :=
  fun _ w => refl_of SameRegistration w

/-- A key of the application. -/
def firstKey : JsonStruct := ⟨ascii "k", 0, .int32, true⟩

/-- Another key. -/
def secondKey : JsonStruct := ⟨ascii "l", 1, .bool, false⟩

/-- A connected client of thing `a` that waits up to `timeout` ms for an answer. -/
def thingWorld (timeout : Nat) : World :=
  (idleWorld timeout true).onShadow fun s => { s with myThingName := ascii "a" }

/-- The registration of `pStruct`, in surroundings that receive `script`. -/
def register (script : List (Nat × List UInt8)) (pStruct : JsonStruct) : M IoTError :=
  registerDelta (acksEnv script) 60 silentHandlers (some pStruct)

/-- The world behind the first registration. -/
def firstWorld (script : List (Nat × List UInt8)) (timeout : Nat) : World :=
  ((register script firstKey).run (thingWorld timeout)).state

/-- The world behind the second one. -/
def secondWorld (script : List (Nat × List UInt8)) (timeout : Nat) : World :=
  ((register script secondKey).run (firstWorld script timeout)).state

/-- Both calls, of which the first returned `rc` and the second SUCCESS. -/
def twoCalls (script : List (Nat × List UInt8)) (timeout : Nat) (rc : IoTError) :
    List Registration :=
  [⟨firstWorld script timeout, some secondKey, .success, secondWorld script timeout⟩,
    ⟨thingWorld timeout, some firstKey, rc, firstWorld script timeout⟩]

theorem registrations_twoCalls {script : List (Nat × List UInt8)} {timeout : Nat} {rc : IoTError}
    (hfirst : ((register script firstKey).run (thingWorld timeout)).value? = some rc)
    (hsecond : ((register script secondKey).run (firstWorld script timeout)).value? =
      some .success) :
    Registrations (acksEnv script) 60 silentHandlers (thingWorld timeout)
      (twoCalls script timeout rc) (secondWorld script timeout) :=
  .register _ (.register _ (.start ⟨rfl, rfl⟩) (run_eq_done hfirst)) (run_eq_done hsecond)

/-- The delta topic is acknowledged. -/
def oneAck : List (Nat × List UInt8) := [(8, [0x90, 3, 0, 1, 0])]

theorem liveDeltas_device : LiveDeltas (acksEnv oneAck) 60 silentHandlers (thingWorld 20000)
    (twoCalls oneAck 20000 .success) :=
  (liveDeltas_iff (by decide) (registrations_twoCalls (by decide +kernel) (by decide +kernel))
    fun _ _ => ⟨silentHandlers, silentHandlers_leaveRegistration, rfl⟩).mpr <| by
      refine List.forall_mem_cons.mpr ⟨fun _ hoff => ?_, List.forall_mem_singleton.mpr ?_⟩
      · have hon : (firstWorld oneAck 20000).shadow.deltaTopicSubscribedFlag = true := by
          decide +kernel
        exact absurd (hon.symm.trans hoff) (by decide)
      · intro _ _ rc w' htry
        have hsuccess : ((tryDelta (acksEnv oneAck) 60 silentHandlers).run
            (thingWorld 20000)).value? = some .success := by
          decide +kernel
        rw [htry] at hsuccess
        exact Option.some.inj hsuccess

/-- The first call is not answered in time, and the second returns SUCCESS although nothing was
ever subscribed to. -/
theorem not_every_sequence_liveDeltas :
    Registrations (acksEnv []) 60 silentHandlers (thingWorld 500)
        (twoCalls [] 500 .mqttRequestTimeoutError) (secondWorld [] 500) ∧
      ¬ LiveDeltas (acksEnv []) 60 silentHandlers (thingWorld 500)
        (twoCalls [] 500 .mqttRequestTimeoutError) := by
  refine ⟨registrations_twoCalls (by decide +kernel) (by decide +kernel), fun h => ?_⟩
  have hnone : ((thingWorld 500).since (secondWorld [] 500)).all (fun e =>
      decide (e.kind ≠ .table)) = true := by
    decide +kernel
  obtain ⟨⟨slot, hslot⟩, -⟩ := h.live _ List.mem_cons_self rfl
  exact Bool.false_ne_true (List.all_eq_true.mp hnone _ hslot)

end AwsIot.Shadow
