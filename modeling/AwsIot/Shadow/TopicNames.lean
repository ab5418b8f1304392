/-
  Shadow/TopicNames.lean --- what a topic tells of the request it is for.

  A topic is made of the name of a thing, an action and the type of the answer, and cut to
  the array it is printed into.  The record of a request keeps the name of the thing, cut to
  another array, and the topics are made from it once more when the answer has come.
-/
import AwsIot.Shadow.SubscribeAcks
import Mathlib.Data.List.TakeWhile

set_option autoImplicit false

namespace AwsIot.Shadow

open AwsIot.Foundation AwsIot.Mqtt Program

/-- A name of a thing: no NUL, no '/' and no wildcard. -/
structure ThingName where
  /-- The characters. -/
  bytes : List UInt8
  /-- None of them means something in a topic. -/
  allowed : bytes.all (· ∉ [0x00, 0x2F, 0x2B, 0x23]) = true

namespace ThingName

theorem ext_bytes : ∀ {a b : ThingName}, a.bytes = b.bytes → a = b
  | ⟨_, _⟩, ⟨_, _⟩, rfl => rfl

theorem notMem (thing : ThingName) {c : UInt8} (hc : c ∈ [0x00, 0x2F, 0x2B, 0x23]) :
    c ∉ thing.bytes := fun h =>
  of_decide_eq_true (List.all_eq_true.mp thing.allowed c h) hc

theorem ne_slash (thing : ThingName) {c : UInt8} (h : c ∈ thing.bytes) :
    decide (c ≠ 0x2F) = true := by
  refine decide_eq_true ?_
  rintro rfl
  exact thing.notMem (by decide) h

theorem ne_nul (thing : ThingName) {c : UInt8} (h : c ∈ thing.bytes) :
    decide (c ≠ 0) = true := by
  refine decide_eq_true ?_
  rintro rfl
  exact thing.notMem (by decide) h

end ThingName

/-! ## Topics -/

/-- What follows the name of the thing in a topic. -/
def topicTail (action : ShadowActions) (ackType : AckTopicTypes) : List UInt8 :=
  ascii "/shadow/" ++ action.name ++ ackType.suffix

/-- How many characters behind the name of the thing tell what the topic is for: those up to
the first one in which the types of an answer differ. -/
def tellingLength (action : ShadowActions) : AckTopicTypes → Nat
  | .action => 8 + action.name.length + 1
  | .accepted | .rejected => 8 + action.name.length + 2

section Topics

variable {config : ShadowConfig}

theorem topicNameFromThingAndAction_eq (thingName : List UInt8) (action : ShadowActions)
    (ackType : AckTopicTypes) : topicNameFromThingAndAction config thingName action ackType =
      (ascii "$aws/things/" ++ (thingName ++ topicTail action ackType)).take
        (config.maxShadowTopicLengthBytes - 1) := by
  simp only [topicNameFromThingAndAction, topicTail, List.append_assoc]

/-- The part that tells the topics of a thing apart does. -/
theorem topicTail_take_injective : ∀ {action action' : ShadowActions}
    {ackType ackType' : AckTopicTypes},
    (topicTail action ackType).take (tellingLength action ackType) =
      (topicTail action' ackType').take (tellingLength action ackType) →
    action' = action ∧ ackType' = ackType := by
  intro action action' ackType ackType'
  cases action <;> cases action' <;> cases ackType <;> cases ackType' <;> decide

/-- Another type of answer, whose topic has one character less in common. -/
def AckTopicTypes.other : AckTopicTypes → AckTopicTypes
  | .accepted => .rejected
  | .rejected => .accepted
  | .action => .accepted

theorem AckTopicTypes.other_ne (ackType : AckTopicTypes) : ackType.other ≠ ackType := by
  cases ackType <;> decide

theorem topicTail_take_other (action : ShadowActions) (ackType : AckTopicTypes) :
    (topicTail action ackType.other).take (tellingLength action ackType - 1) =
      (topicTail action ackType).take (tellingLength action ackType - 1) := by
  cases action <;> cases ackType <;> decide

/-- Up to the first '/' there is the name of the thing. -/
theorem takeWhile_thingName (thing : ThingName) (tail : List UInt8) :
    (thing.bytes ++ 0x2F :: tail).takeWhile (· ≠ 0x2F) = thing.bytes := by
  rw [List.takeWhile_append_of_pos fun c hc => thing.ne_slash hc]
  simp

/-- The name of the thing is told by what comes up to the '/' behind it. -/
theorem thingName_eq_of_take {thing thing' : ThingName} {tail tail' : List UInt8} {n : Nat}
    (hn : thing.bytes.length < n)
    (h : (thing.bytes ++ 0x2F :: tail).take n = (thing'.bytes ++ 0x2F :: tail').take n) :
    thing' = thing := by
  have hnames : thing.bytes.take n = thing'.bytes.take n := by
    have htake := congrArg (List.takeWhile (· ≠ 0x2F)) h
    rwa [← List.take_takeWhile, ← List.take_takeWhile, takeWhile_thingName,
      takeWhile_thingName] at htake
  rw [List.take_of_length_le (Nat.le_of_lt hn)] at hnames
  have hlength := congrArg List.length hnames
  rw [List.length_take] at hlength
  rw [List.take_of_length_le (by omega)] at hnames
  exact ThingName.ext_bytes hnames.symm

/-- The topic is no other request's. -/
def Identifies (config : ShadowConfig) (thing : ThingName) (action : ShadowActions)
    (ackType : AckTopicTypes) : Prop :=
  ∀ (thing' : ThingName) (action' : ShadowActions) (ackType' : AckTopicTypes),
    topicNameFromThingAndAction config thing'.bytes action' ackType' =
      topicNameFromThingAndAction config thing.bytes action ackType →
    thing' = thing ∧ action' = action ∧ ackType' = ackType

/-- A topic is no other request's exactly if what tells it is not cut off. -/
theorem identifies_iff (config : ShadowConfig) (thing : ThingName) (action : ShadowActions)
    (ackType : AckTopicTypes) : Identifies config thing action ackType ↔
      12 + thing.bytes.length + tellingLength action ackType ≤
        config.maxShadowTopicLengthBytes - 1 := by
  constructor
  · intro h
    by_contra hlong
    have htail : ∀ l : List UInt8, (ascii "$aws/things/" ++ (thing.bytes ++ l)).take
        (12 + (thing.bytes.length + (tellingLength action ackType - 1))) =
          ascii "$aws/things/" ++ (thing.bytes ++ l.take (tellingLength action ackType - 1)) := by
      intro l
      rw [show 12 = (ascii "$aws/things/").length from rfl, List.take_length_add_append,
        List.take_length_add_append]
    have htopic := (htail (topicTail action ackType.other)).trans
      (topicTail_take_other action ackType ▸ (htail (topicTail action ackType)).symm)
    refine ackType.other_ne (h thing action ackType.other ?_).2.2
    rw [topicNameFromThingAndAction_eq, topicNameFromThingAndAction_eq]
    have hcut := congrArg (List.take (config.maxShadowTopicLengthBytes - 1)) htopic
    rwa [List.take_take, List.take_take, Nat.min_eq_left (by omega)] at hcut
  · intro hlong thing' action' ackType' htopic
    rw [topicNameFromThingAndAction_eq, topicNameFromThingAndAction_eq] at htopic
    obtain ⟨n, hn⟩ := Nat.exists_eq_add_of_le hlong
    rw [hn, Nat.add_assoc, Nat.add_assoc, show 12 = (ascii "$aws/things/").length from rfl,
      List.take_length_add_append, List.take_length_add_append] at htopic
    have htopic := List.append_cancel_left htopic
    have htell : 0 < tellingLength action ackType := by cases ackType <;> exact Nat.succ_pos _
    obtain rfl : thing' = thing := (thingName_eq_of_take (by omega) htopic.symm)
    rw [List.take_length_add_append, List.take_length_add_append] at htopic
    have hshort := congrArg (List.take (tellingLength action ackType))
      (List.append_cancel_left htopic)
    rw [List.take_take, List.take_take, Nat.min_eq_left (Nat.le_add_right _ _)] at hshort
    exact ⟨rfl, topicTail_take_injective hshort.symm⟩

end Topics

/-! ## Records -/

/-- From `w` to `w'` a request asked for its two ack topics and subscribed to both, unless
records in use had both already, or no two records were free. -/
def AskedFor (config : ShadowConfig) (accepted rejected : List UInt8) (w w' : World) : Prop :=
  ∃ new isSticky unflagged,
    w'.shadow.log = new ++ .requested accepted rejected isSticky unflagged :: w.shadow.log ∧
    (bothOnRecord config w.shadow accepted rejected = true ∨ ¬ TwoFree config w.shadow ∨
      .subscribed accepted .success ∈ new ∧ .subscribed rejected .success ∈ new)

/-- What the record of a tracked request leads to, as long as it is kept, is done for the
topics that the request asked for. -/
def RemembersTopics (env : ShadowEnv) (fuel depth : Nat) (thingName : List UInt8)
    (action : ShadowActions) : Prop :=
  ∀ index document clientToken params w,
    (trackedAction env fuel (handlersAt env fuel depth) index thingName action document
      clientToken params : M IoTError).Ends w
      (fun rc w' => rc = .success → ∃ accepted rejected,
        AskedFor env.config accepted rejected w w' ∧ ∀ later : World,
        later.shadow.ackWaitList index = w'.shadow.ackWaitList index → ∀ Q H,
          ((unsubscribeFromAcceptedAndRejected env fuel (handlersAt env fuel depth) index :
              M Unit).Ends later Q H ↔
            (do
              lowerSubscription env fuel (handlersAt env fuel depth) accepted
              lowerSubscription env fuel (handlersAt env fuel depth) rejected :
              M Unit).Ends later Q H)) (fun _ => True)

section Remember

variable {env : ShadowEnv} {fuel : Nat} {handlers : Handlers M} {thingName : List UInt8}
  {action : ShadowActions} {w : World} {index : Nat}

theorem ends_ackThingName {r : ToBeReceivedAckRecord}
    (h : r.thingName.length < env.config.maxSizeOfThingName) {Q : List UInt8 → World → Prop}
    {H : World → Prop} : (ackThingName env r : M (List UInt8)).Ends w Q H ↔ Q r.thingName w := by
  rw [ackThingName, if_pos h, ends_pure]

/-- The name of the thing is made out of the record again if it ended in the array. -/
theorem ends_unsubscribeFromAcceptedAndRejected
    (hname : (w.shadow.ackWaitList index).thingName = thingName)
    (haction : (w.shadow.ackWaitList index).action = action)
    (h : thingName.length < env.config.maxSizeOfThingName) {Q : Unit → World → Prop}
    {H : World → Prop} :
    (unsubscribeFromAcceptedAndRejected env fuel handlers index).Ends w Q H ↔
      (do
        lowerSubscription env fuel handlers
          (topicNameFromThingAndAction env.config thingName action .accepted)
        lowerSubscription env fuel handlers
          (topicNameFromThingAndAction env.config thingName action .rejected) :
        M Unit).Ends w Q H := by
  subst hname haction
  rw [unsubscribeFromAcceptedAndRejected, ends_bind, ends_getRecords, ends_bind,
    ends_ackThingName h]

theorem addToAckWaitList_record {clientToken : List UInt8} {callback : Bool}
    {timeoutSeconds : Nat} {H : World → Prop} :
    (addToAckWaitList env index thingName action clientToken callback timeoutSeconds :
      M Unit).Ends w
      (fun _ w' => (w'.shadow.ackWaitList index).thingName =
        thingName.take env.config.maxSizeOfThingName ∧
        (w'.shadow.ackWaitList index).action = action) H := by
  unfold addToAckWaitList updateAckWait
  simp

/-- The end of `trackedAction`, when the ack topics of the request are subscribed to or not. -/
def finishTracked (env : ShadowEnv) (fuel : Nat) (handlers : Handlers M) (index : Nat)
    (thingName : List UInt8) (action : ShadowActions) (document : CharPtr)
    (clientToken : List UInt8) (params : ActionParams) (rc : IoTError) : M IoTError := do
  if rc ≠ .success then return rc
  let rc ← publishToShadowAction env fuel handlers thingName action document
  if rc ≠ .success then return rc
  addToAckWaitList env index thingName action clientToken params.callback
    params.timeoutSeconds.toNat
  if bothOnRecord env.config (← getRecords)
      (topicNameFromThingAndAction env.config thingName action .accepted)
      (topicNameFromThingAndAction env.config thingName action .rejected) then
    note (.granted (topicNameFromThingAndAction env.config thingName action .accepted)
      (topicNameFromThingAndAction env.config thingName action .rejected)
      params.isPersistentSubscribe)
  return .success

/-- The record is written when the rest is done. -/
theorem finishTracked_record (h : thingName.length ≤ env.config.maxSizeOfThingName)
    {document : CharPtr} {clientToken : List UInt8} {params : ActionParams} (rc : IoTError) :
    (finishTracked env fuel handlers index thingName action document clientToken params rc).Ends w
      (fun rc w' => rc = .success → (w'.shadow.ackWaitList index).thingName = thingName ∧
        (w'.shadow.ackWaitList index).action = action) (fun _ => True) := by
  unfold finishTracked
  rw [ends_ite]
  split
  case isTrue hrc => exact fun hsuccess => absurd hsuccess hrc
  rw [ends_bind]
  refine ends_true.mono (fun rc w₁ _ => ?_) fun _ _ => trivial
  rw [ends_ite]
  split
  case isTrue hrc => exact fun hsuccess => absurd hsuccess hrc
  rw [ends_bind]
  refine addToAckWaitList_record.mono (fun _ w₂ hrecord => ?_) fun _ h => h
  rw [List.take_of_length_le h] at hrecord
  -- the last event leaves the record alone
  rw [ends_bind, ends_getRecords]
  dsimp only
  split
  · exact fun _ => hrecord
  · exact fun _ => hrecord

/-- A request that is tracked leaves the name of its thing and its action in the record. -/
theorem trackedAction_record (h : thingName.length ≤ env.config.maxSizeOfThingName)
    {document : CharPtr} {clientToken : List UInt8} {params : ActionParams} :
    (trackedAction env fuel handlers index thingName action document clientToken params).Ends w
      (fun rc w' => rc = .success → (w'.shadow.ackWaitList index).thingName = thingName ∧
        (w'.shadow.ackWaitList index).action = action) (fun _ => True) := by
  unfold trackedAction
  rw [ends_bind, ends_getRecords, ends_bind, ends_note]
  dsimp only
  split
  · rw [ends_bind]
    refine ends_true.mono (fun _ w₁ _ => ?_) fun _ _ => trivial
    exact finishTracked_record h .success
  · rw [ends_bind]
    exact ends_true.mono (fun rc w₁ _ => finishTracked_record h rc) fun _ _ => trivial

end Remember

/-! ### What a request asks for -/

section Ask

variable {env : ShadowEnv} {fuel depth : Nat} {w : World}

/-- The log got longer, and a request that returns SUCCESS is told of so. -/
def Told (topics : List (List UInt8)) (rc : IoTError) (w w' : World) : Prop :=
  ∃ new, w'.shadow.log = new ++ w.shadow.log ∧
    (rc = .success → ∀ topic ∈ topics, .subscribed topic .success ∈ new)

theorem Told.grows {topics : List (List UInt8)} {rc : IoTError} {w w₁ w' : World}
    (h : Told topics rc w w₁) (hgrows : NothingBefore 0 w₁ w') : Told topics rc w w' := by
  obtain ⟨new, hlog, hnew⟩ := h
  obtain ⟨more, hmore, -⟩ := hgrows (Nat.zero_le _)
  refine ⟨more ++ new, by rw [hmore, hlog, List.append_assoc], fun hrc topic htopic => ?_⟩
  exact List.mem_append_right _ (hnew hrc topic htopic)

theorem Told.of_grows {w w₁ w' : World} {topics : List (List UInt8)} {rc : IoTError}
    (hgrows : NothingBefore 0 w w₁) (h : Told topics rc w₁ w') : Told topics rc w w' := by
  obtain ⟨more, hmore, -⟩ := hgrows (Nat.zero_le _)
  obtain ⟨new, hlog, hnew⟩ := h
  refine ⟨new ++ more, by rw [hlog, hmore, List.append_assoc], fun hrc topic htopic => ?_⟩
  exact List.mem_append_left _ (hnew hrc topic htopic)

theorem Told.cons {topic : List UInt8} {topics : List (List UInt8)} {rc : IoTError}
    {w w₁ w' : World} (hfirst : Told [topic] .success w w₁) (h : Told topics rc w₁ w') :
    Told (topic :: topics) rc w w' := by
  obtain ⟨new, hlog, hnew⟩ := hfirst
  obtain ⟨more, hmore, hrest⟩ := h
  refine ⟨more ++ new, by rw [hmore, hlog, List.append_assoc], fun hrc topic' htopic => ?_⟩
  rcases List.mem_cons.mp htopic with rfl | htopic
  · exact List.mem_append_right _ (hnew rfl topic' (List.mem_singleton_self _))
  · exact List.mem_append_left _ (hrest hrc topic' htopic)

theorem Told.of_error {topics : List (List UInt8)} {rc : IoTError} {w w' : World}
    (hrc : rc ≠ .success) (hgrows : NothingBefore 0 w w') : Told topics rc w w' := by
  obtain ⟨new, hlog, -⟩ := hgrows (Nat.zero_le _)
  exact ⟨new, hlog, fun hsuccess => absurd hsuccess hrc⟩

theorem handled_growing (env : ShadowEnv) (fuel depth : Nat) :
    Handled (Keeps (NothingBefore 0)) (handlersAt env fuel depth : Handlers M) :=
  (nothingBefore_versioned 0 env fuel).handlersAt depth

theorem growing_subscribing (env : ShadowEnv) :
    Subscribing (m := M) env (Keeps (NothingBefore 0)) :=
  (nothingBefore_shadowing env).subscribing

/-- A subscribe tells how it went. -/
theorem subscribeAck_told (index : Nat) (topic : List UInt8) :
    (subscribeAck env fuel (handlersAt env fuel depth) index topic : M IoTError).Ends w
      (fun rc w' => Told [topic] rc w w') (fun _ => True) := by
  have hnote : ∀ (rc : IoTError) (w₁ : World), NothingBefore 0 w w₁ →
      Told [topic] rc w (w₁.onShadow fun s => { s with log := .subscribed topic rc :: s.log }) := by
    intro rc w₁ hgrows
    refine Told.of_grows hgrows ⟨[.subscribed topic rc], rfl, ?_⟩
    rintro rfl topic' htopic
    rw [List.mem_singleton.mp htopic]
    exact List.mem_singleton_self _
  unfold subscribeAck
  rw [ends_bind, ends_getRecords]
  dsimp only
  split
  · rw [ends_bind]
    refine ((growing_subscribing env).mqttSubscribe fuel (handled_growing env fuel depth)
      _ _ _ _ w).mono (fun rc w₁ hgrows => ?_) (fun _ _ => trivial)
    exact hnote rc w₁ hgrows
  · exact hnote .nullValueError w (refl_of (NothingBefore 0) w)

/-- With two free records a request that returns SUCCESS has subscribed to both topics. -/
theorem subscribeToShadowActionAcks_told {accepted rejected : List UInt8} {isSticky : Bool}
    (htwo : TwoFree env.config w.shadow) :
    (subscribeToShadowActionAcks env fuel (handlersAt env fuel depth) accepted rejected isSticky :
      M IoTError).Ends w (fun rc w' => Told [accepted, rejected] rc w w') (fun _ => True) := by
  have hs := growing_subscribing env
  have hhandlers := handled_growing env fuel depth
  obtain ⟨i, j, hi, hj⟩ := twoFree_iff.mp htwo
  have hlost : ∀ (rc : IoTError), rc ≠ .success → ∀ w₁, NothingBefore 0 w w₁ → (do
      loseRecords i j
      clearEntries env fuel (handlersAt env fuel depth) (some i) (some j)
      return rc : M IoTError).Ends w₁ (fun rc' w' => Told [accepted, rejected] rc' w w')
        (fun _ => True) := by
    intro rc hrc w₁ hgrows
    rw [ends_bind]
    refine (hs.loseRecords i j w₁).mono (fun _ w₂ h₂ => ?_) (fun _ _ => trivial)
    rw [ends_bind]
    refine (hs.clearEntries fuel hhandlers _ _ w₂).mono (fun _ w₃ h₃ => ?_) (fun _ _ => trivial)
    exact .of_error hrc (trans_of _ (trans_of _ hgrows h₂) h₃)
  have hraised : ∀ k, Keeps (NothingBefore 0) (updateSubscription k fun r =>
      { r with count := 1, isSticky := isSticky } : M Unit) :=
    fun k => hs.updateSubscription k fun _ => rfl
  have htaken : NothingBefore 0 w ((w.onShadow (takeRecord i)).onShadow (takeRecord j)) :=
    fun _ => ⟨[.recordTaken j, .recordTaken i], rfl, fun _ _ _ _ => Nat.zero_le _⟩
  unfold subscribeToShadowActionAcks
  rw [ends_takeTwo hi hj, ends_bind]
  refine (hs.writeTopic _ _ _ _).mono (fun _ w₁ h₁ => ?_) (fun _ _ => trivial)
  rw [ends_bind]
  refine (subscribeAck_told i accepted).mono (fun rc w₂ h₂ => ?_) (fun _ _ => trivial)
  have hfirst := Told.of_grows (trans_of _ htaken h₁) h₂
  rw [ends_ite]
  split
  case isTrue hrc =>
    obtain ⟨new, hnew, -⟩ := hfirst
    exact hlost rc hrc w₂ fun _ => ⟨new, hnew, fun _ _ _ _ => Nat.zero_le _⟩
  case isFalse hrc =>
  obtain rfl := not_not.mp hrc
  rw [ends_bind]
  refine (hraised i w₂).mono (fun _ w₃ h₃ => ?_) (fun _ _ => trivial)
  rw [ends_bind]
  refine (hs.writeTopic _ _ _ w₃).mono (fun _ w₄ h₄ => ?_) (fun _ _ => trivial)
  rw [ends_bind]
  refine (subscribeAck_told j rejected).mono (fun rc w₅ h₅ => ?_) (fun _ _ => trivial)
  have hboth := (hfirst.grows (trans_of _ h₃ h₄)).cons h₅
  rw [ends_ite]
  split
  case isTrue hrc =>
    obtain ⟨new, hnew, -⟩ := hboth
    exact hlost rc hrc w₅ fun _ => ⟨new, hnew, fun _ _ _ _ => Nat.zero_le _⟩
  case isFalse hrc =>
  obtain rfl := not_not.mp hrc
  rw [ends_bind]
  refine (hraised j w₅).mono (fun _ w₆ h₆ => ?_) (fun _ _ => trivial)
  have hreleased : NothingBefore 0 w₆ ((w₆.onShadow fun s =>
      { s with log := .recordReleased i :: s.log }).onShadow fun s =>
      { s with log := .recordReleased j :: s.log }) :=
    fun _ => ⟨[.recordReleased j, .recordReleased i], rfl, fun _ _ _ _ => Nat.zero_le _⟩
  rw [ends_bind, ends_note, ends_bind, ends_note, ends_bind]
  refine (hs.settle fuel _).mono (fun _ w' h' => ?_) (fun _ _ => trivial)
  exact hboth.grows (trans_of _ h₆ (trans_of _ hreleased h'))

theorem finishTracked_grows (index : Nat) (thingName : List UInt8) (action : ShadowActions)
    (document : CharPtr) (clientToken : List UInt8) (params : ActionParams) (rc : IoTError) :
    Keeps (NothingBefore 0) (finishTracked env fuel (handlersAt env fuel depth) index thingName
      action document clientToken params rc) := by
  have hs := growing_subscribing env
  refine hs.ite (fun _ => hs.pure _) fun _ => ?_
  refine hs.bind (hs.publishToShadowAction fuel (handled_growing env fuel depth) _ _ _) fun rc => ?_
  refine hs.ite (fun _ => hs.pure _) fun _ => hs.bind ?_ fun _ => ?_
  · exact (nothingBefore_shadowing env).answering.addToAckWaitList _ _ _ _ _ _
  refine hs.bind hs.getRecords fun s => hs.ite (fun _ => ?_) fun _ => hs.pure _
  exact hs.bind (hs.noteSubscription rfl) fun _ => hs.pure _

theorem bothOnRecord_of_present {config : ShadowConfig} {s : Records}
    {accepted rejected : List UInt8}
    (h : isSubscriptionPresent config s accepted rejected = true) :
    bothOnRecord config s accepted rejected = true := by
  unfold isSubscriptionPresent at h
  unfold bothOnRecord
  simp only [Bool.and_eq_true, List.any_eq_true] at h ⊢
  obtain ⟨haccepted, i, hi, hrejected, -⟩ := h
  exact ⟨haccepted, i, hi, hrejected⟩

/-- What a request has asked for when it has ended well. -/
theorem askedFor_of_told {config : ShadowConfig} {accepted rejected : List UInt8}
    {isSticky unflagged : Bool} {w₀ w' : World}
    (hlog : w₀.shadow.log = .requested accepted rejected isSticky unflagged :: w.shadow.log)
    (h : bothOnRecord config w.shadow accepted rejected = true ∨ ¬ TwoFree config w.shadow ∨
      Told [accepted, rejected] .success w₀ w') (hgrows : NothingBefore 0 w₀ w') :
    AskedFor config accepted rejected w w' := by
  obtain ⟨new, hnew, -⟩ := hgrows (Nat.zero_le _)
  refine ⟨new, isSticky, unflagged, by rw [hnew, hlog], h.imp_right (Or.imp_right ?_)⟩
  rintro ⟨new', hnew', htold⟩
  obtain rfl : new' = new := List.append_cancel_right (hnew'.symm.trans hnew)
  exact ⟨htold rfl _ (by simp), htold rfl _ (by simp)⟩

/-- A request that returns SUCCESS has asked for the topics of its thing and its action. -/
theorem trackedAction_asked (index : Nat) (thingName : List UInt8) (action : ShadowActions)
    (document : CharPtr) (clientToken : List UInt8) (params : ActionParams) :
    (trackedAction env fuel (handlersAt env fuel depth) index thingName action document
      clientToken params : M IoTError).Ends w
      (fun rc w' => rc = .success → AskedFor env.config
        (topicNameFromThingAndAction env.config thingName action .accepted)
        (topicNameFromThingAndAction env.config thingName action .rejected) w w')
      (fun _ => True) := by
  have hs := growing_subscribing env
  -- the topics were asked for when `finishTracked` is reached with SUCCESS
  have hfinish : ∀ {w₀ w₁ : World} (rc : IoTError) {isSticky unflagged : Bool},
      w₀.shadow.log = .requested (topicNameFromThingAndAction env.config thingName action .accepted)
        (topicNameFromThingAndAction env.config thingName action .rejected) isSticky unflagged ::
          w.shadow.log →
      NothingBefore 0 w₀ w₁ →
      (rc = .success → bothOnRecord env.config w.shadow
          (topicNameFromThingAndAction env.config thingName action .accepted)
          (topicNameFromThingAndAction env.config thingName action .rejected) = true ∨
        ¬ TwoFree env.config w.shadow ∨
        Told [topicNameFromThingAndAction env.config thingName action .accepted,
          topicNameFromThingAndAction env.config thingName action .rejected] .success w₀ w₁) →
      (finishTracked env fuel (handlersAt env fuel depth) index thingName action document
        clientToken params rc).Ends w₁ (fun rc w' => rc = .success → AskedFor env.config
          (topicNameFromThingAndAction env.config thingName action .accepted)
          (topicNameFromThingAndAction env.config thingName action .rejected) w w')
        (fun _ => True) := by
    intro w₀ w₁ rc isSticky unflagged hlog hgrows htold
    by_cases hrc : rc = .success
    case pos =>
      refine (finishTracked_grows index thingName action document clientToken params rc w₁).mono
        (fun _ w' h' _ => ?_) (fun _ _ => trivial)
      exact askedFor_of_told hlog ((htold hrc).imp_right (Or.imp_right fun h => h.grows h'))
        (trans_of _ hgrows h')
    case neg =>
      unfold finishTracked
      rw [ends_ite, if_pos hrc]
      exact fun hsuccess => absurd hsuccess hrc
  unfold trackedAction
  rw [ends_bind, ends_getRecords, ends_bind, ends_note]
  dsimp only
  generalize hw₀ : World.onShadow w _ = w₀
  have hlist : w₀.shadow.subscriptionList = w.shadow.subscriptionList := by rw [← hw₀]; rfl
  have hlog := congrArg (fun w => w.shadow.log) hw₀.symm
  split
  case isTrue hpresent =>
    rw [ends_bind]
    refine (hs.incrementSubscriptionCnt _ _ _ _ w₀).mono (fun _ w₁ h₁ => ?_) (fun _ _ => trivial)
    exact hfinish .success hlog h₁ fun _ => .inl (bothOnRecord_of_present hpresent)
  case isFalse =>
    rw [ends_bind]
    by_cases htwo : TwoFree env.config w₀.shadow
    case pos =>
      refine (subscribeToShadowActionAcks_told htwo).mono (fun rc w₁ htold => ?_) (fun _ h => h)
      have ⟨new, hnew, _⟩ := htold
      refine hfinish rc hlog (fun _ => ⟨new, hnew, fun _ _ _ _ => Nat.zero_le _⟩) fun hrc => ?_
      exact .inr (.inr (hrc ▸ htold))
    case neg =>
      refine (hs.subscribeToShadowActionAcks fuel (handled_growing env fuel depth) _ _ _ w₀).mono
        (fun rc w₁ h₁ => ?_) (fun _ _ => trivial)
      refine hfinish rc hlog h₁ fun _ => .inr (.inl fun h => htwo ?_)
      unfold TwoFree at h ⊢
      rwa [hlist]

end Ask

theorem remembersTopics {env : ShadowEnv} {fuel depth : Nat} {thingName : List UInt8}
    {action : ShadowActions} (h : thingName.length < env.config.maxSizeOfThingName) :
    RemembersTopics env fuel depth thingName action := by
  intro index document clientToken params w
  refine ((trackedAction_record (Nat.le_of_lt h)).and
    (trackedAction_asked index thingName action document clientToken params)).mono ?_
    fun _ _ => trivial
  rintro rc w' ⟨hrecord, hasked⟩ hsuccess
  obtain ⟨hname, haction⟩ := hrecord hsuccess
  refine ⟨_, _, hasked hsuccess, fun later hkept Q H => ?_⟩
  exact ends_unsubscribeFromAcceptedAndRejected (hkept ▸ hname) (hkept ▸ haction) h

/-- A topic tells its request exactly if it is short enough, and the topics that are made out
of a record again are those its request asked for if the name of the thing is short enough. -/
theorem topics_identify (env : ShadowEnv) (fuel depth : Nat) (thing : ThingName)
    (action : ShadowActions) :
    (∀ ackType, Identifies env.config thing action ackType ↔
      12 + thing.bytes.length + tellingLength action ackType ≤
        env.config.maxShadowTopicLengthBytes - 1) ∧
    (thing.bytes.length < env.config.maxSizeOfThingName →
      RemembersTopics env fuel depth thing.bytes action) :=
  ⟨identifies_iff env.config thing action, remembersTopics⟩

/-! ### Things with long names -/

/-- The name of `n` letters. -/
def longName (n : Nat) : ThingName where
  bytes := List.replicate n 0x61
  allowed := by
    rw [List.all_eq_true]
    intro c hc
    rw [List.eq_of_mem_replicate hc]
    decide

/-- Surroundings in which a request is sent. -/
def requestEnv : ShadowEnv := quietShadowEnv fun _ => ⟨none, []⟩

theorem topics_identify_device :
    Identifies requestEnv.config (longName 19) .update .rejected ∧
      RemembersTopics requestEnv 2 0 (longName 19).bytes .update :=
  have h := topics_identify requestEnv 2 0 (longName 19) .update
  ⟨(h.1 .rejected).mpr (by decide), h.2 (by decide)⟩

/-- A connected client that is subscribed to the ack topics of a thing with a name of 21
letters. -/
def longWorld : World :=
  { World.start with
    client := { zeroedClient with
      clientState := .connectedIdle
      commandTimeoutMs := 2000
      writeBufSize := 512 }
    shadow := { zeroedRecords with
      pMqttClient := true
      subscriptionList := fun i =>
        ⟨topicNameFromThingAndAction {} (longName 21).bytes .get
          (if i = 0 then .accepted else .rejected), 1, decide (2 ≤ i), false⟩ } }

/-- The world after a get request for that thing. -/
def requestedWorld : World :=
  ((trackedAction requestEnv 2 (handlersAt requestEnv 2 0) 0 (longName 21).bytes .get ⟨[]⟩ []
    ⟨none, true, 5, false⟩ : M IoTError).run longWorld).state

/-- A name of 56 letters is too long for the topic, one of 21 letters for the record. -/
theorem not_every_topic_identifies :
    (¬ ∀ (config : ShadowConfig) (thing : ThingName) (action : ShadowActions)
      (ackType : AckTopicTypes), Identifies config thing action ackType) ∧
    ¬ ∀ (env : ShadowEnv) (fuel depth : Nat) (thing : ThingName) (action : ShadowActions),
      RemembersTopics env fuel depth thing.bytes action := by
  refine ⟨fun h => ?_, fun h => ?_⟩
  · have hlong := (identifies_iff {} (longName 56) .get .action).mp
      (h {} (longName 56) .get .action)
    exact absurd hlong (by decide)
  · have hrun : (trackedAction requestEnv 2 (handlersAt requestEnv 2 0) 0 (longName 21).bytes .get
        ⟨[]⟩ [] ⟨none, true, 5, false⟩ : M IoTError).run longWorld =
          .done .success requestedWorld :=
      run_eq_done (by decide +kernel)
    obtain ⟨accepted, rejected, ⟨new, isSticky, unflagged, hlog, -⟩, hremembers⟩ :=
      Ends.of_run (h requestEnv 2 0 (longName 21) .get 0 ⟨[]⟩ [] ⟨none, true, 5, false⟩
        longWorld) hrun rfl
    -- the first event tells what was asked for
    have hfirst : requestedWorld.shadow.log.getLast? =
        some (.requested (topicNameFromThingAndAction {} (longName 21).bytes .get .accepted)
          (topicNameFromThingAndAction {} (longName 21).bytes .get .rejected) false false) := by
      decide +kernel
    rw [hlog, show longWorld.shadow.log = [] from rfl] at hfirst
    obtain ⟨rfl, rfl, -, -⟩ : accepted = _ ∧ rejected = _ ∧ isSticky = _ ∧ unflagged = _ := by
      simpa using hfirst
    have hsame := hremembers requestedWorld rfl (fun _ w => w.shadow.log.length = 6)
      (fun w => w.shadow.log.length = 6)
    rw [ends_state_iff, ends_state_iff] at hsame
    exact absurd (hsame.mp (by decide +kernel)) (by decide +kernel)

end AwsIot.Shadow
