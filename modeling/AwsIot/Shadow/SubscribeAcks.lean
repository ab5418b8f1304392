/-
  Shadow/SubscribeAcks.lean --- subscribing to the two ack topics of a request.

  `subscribeToShadowActionAcks` takes two free records, subscribes to one topic after the
  other, and has one piece of code behind it for whatever went wrong.  The messages that the
  client delivers meanwhile are taken to leave the list and the subscriptions alone: what is
  of interest here is how the two subscriptions end.
-/
import AwsIot.Shadow.DeltaDispatch

set_option autoImplicit false

namespace AwsIot.Shadow

open AwsIot.Foundation AwsIot.Mqtt Program

/-! ## All or nothing -/

/-- Two records are free. -/
def TwoFree (config : ShadowConfig) (s : Records) : Prop :=
  ∃ i j, i < j ∧ j < config.maxTopicsAtAnyGivenTime ∧
    (s.subscriptionList i).isFree = true ∧ (s.subscriptionList j).isFree = true

/-- Both topics were subscribed to from `w` to `w'`, and records hold them. -/
def BothSubscribed (config : ShadowConfig) (accepted rejected : List UInt8) (isSticky : Bool)
    (w w' : World) : Prop :=
  .subscribed accepted .success ∈ newEvents w w' ∧
    .subscribed rejected .success ∈ newEvents w w' ∧
    ∃ i j, i ≠ j ∧ i < config.maxTopicsAtAnyGivenTime ∧ j < config.maxTopicsAtAnyGivenTime ∧
      w'.shadow.subscriptionList i = ⟨accepted, 1, false, isSticky⟩ ∧
      w'.shadow.subscriptionList j = ⟨rejected, 1, false, isSticky⟩

/-- The same records are in use, and hold the same. -/
def SameInUse (config : ShadowConfig) (s s' : Records) : Prop :=
  ∀ i < config.maxTopicsAtAnyGivenTime,
    (s'.subscriptionList i).isFree = (s.subscriptionList i).isFree ∧
      ((s.subscriptionList i).isFree = false → s'.subscriptionList i = s.subscriptionList i)

/-- A call of `subscribeToShadowActionAcks` from `w` that returned `rc` in `w'` succeeded with
both topics or left everything as it was, and looked at nothing in front of the list. -/
structure AllOrNothing (env : ShadowEnv) (fuel : Nat) (handlers : Handlers M)
    (accepted rejected : List UInt8) (isSticky : Bool) (w : World) (rc : IoTError) (w' : World) :
    Prop where
  success : rc = .success ↔ BothSubscribed env.config accepted rejected isSticky w w'
  restored : rc ≠ .success → SameInUse env.config w.shadow w'.shadow
  /-- No topic is unsubscribed from but the first of the two. -/
  kept : ∀ topic, .unsubscribing topic ∈ newEvents w w' → topic = accepted
  /-- What is in front of the list in memory does not matter. -/
  inside : ∀ before, (subscribeToShadowActionAcks { env with beforeSubscriptionList := before }
      fuel handlers accepted rejected isSticky).run w = .done rc w'

/-- Whatever was subscribed to from `w` to `w'` was so with success. -/
def AllSucceeded (w w' : World) : Prop :=
  ∀ topic rc, .subscribed topic rc ∈ newEvents w w' → rc = .success

/-! ## Moves -/

/-- The event tells of a call of the client for a topic. -/
def ShadowEvent.ofTopic : ShadowEvent → Bool
  | .subscribed .. | .unsubscribing _ => true
  | _ => false

/-- What the client was asked to do for topics, newest first. -/
def topicEvents (w : World) : List ShadowEvent := w.shadow.log.filter ShadowEvent.ofTopic

/-- From `w` to `w'` the client was asked for `events`, and `SubscriptionList` is `list`. -/
structure Moved (w : World) (list : Nat → SubscriptionRecord) (events : List ShadowEvent)
    (w' : World) : Prop where
  list : w'.shadow.subscriptionList = list
  client : w'.shadow.pMqttClient = w.shadow.pMqttClient
  events : topicEvents w' = events ++ topicEvents w
  grows : w.shadow.log <:+ w'.shadow.log

/-- `SubscriptionList` and the subscriptions are left alone. -/
def SameSubscriptions (w w' : World) : Prop := Moved w w.shadow.subscriptionList [] w'

/-- Whatever the message, the handlers leave `SubscriptionList` and the subscriptions alone. -/
def LeavesSubscriptions (handlers : Handlers M) : Prop :=
  ∀ call, Keeps SameSubscriptions (handlers.message call)

/-- The messages that the call from `w` delivers leave `SubscriptionList` and the subscriptions
alone: handlers that do so whatever the message behave in it as `handlers` do. -/
def AcksUndisturbed (env : ShadowEnv) (fuel : Nat) (handlers : Handlers M)
    (accepted rejected : List UInt8) (isSticky : Bool) (w : World) : Prop :=
  ∃ quiet, LeavesSubscriptions quiet ∧
    (subscribeToShadowActionAcks env fuel quiet accepted rejected isSticky).run w =
      (subscribeToShadowActionAcks env fuel handlers accepted rejected isSticky).run w

section Moves

variable {w w₁ w' : World} {list list' : Nat → SubscriptionRecord}
  {events events' : List ShadowEvent}

theorem Moved.trans (h : Moved w list events w₁) (h' : Moved w₁ list' events' w') :
    Moved w list' (events' ++ events) w' where
  list := h'.list
  client := h'.client.trans h.client
  events := by rw [h'.events, h.events, List.append_assoc]
  grows := h.grows.trans h'.grows

/-- What the client was asked for is what is new of it. -/
theorem Moved.mem_newEvents_iff (h : Moved w list events w') {e : ShadowEvent}
    (he : e.ofTopic = true) : e ∈ newEvents w w' ↔ e ∈ events := by
  obtain ⟨new, hnew⟩ := h.grows
  have hevents : events = new.filter ShadowEvent.ofTopic := by
    have heq := h.events
    rw [topicEvents, ← hnew, List.filter_append] at heq
    exact (List.append_cancel_right heq).symm
  rw [newEvents_eq hnew.symm, hevents, List.mem_filter]
  exact ⟨fun hmem => ⟨hmem, he⟩, And.left⟩

theorem sameSubscriptions_of_eq (h : w'.shadow = w.shadow) : SameSubscriptions w w' where
  list := by rw [h]
  client := by rw [h]
  events := by rw [topicEvents, h]; rfl
  grows := by rw [h]

instance : IsPreorder World SameSubscriptions where
  refl _ := sameSubscriptions_of_eq rfl
  trans w _ _ h h' := by
    unfold SameSubscriptions at h'
    rw [h.list] at h'
    exact Moved.trans h h'

theorem sameSubscriptions_steps (env : ShadowEnv) : AllSteps env.mqtt SameSubscriptions :=
  allSteps_of_shadow sameSubscriptions_of_eq env.mqtt

/-- An update of one record. -/
theorem moved_updateSubscription (index : Nat) (f : SubscriptionRecord → SubscriptionRecord) :
    (updateSubscription index f : M Unit).Ends w (fun _ w' =>
      Moved w (Function.update w.shadow.subscriptionList index
        (f (w.shadow.subscriptionList index))) [] w') (fun _ => True) := by
  unfold updateSubscription
  rw [ends_modifyRecords]
  exact ⟨rfl, rfl, rfl, List.suffix_refl _⟩

/-- An event that tells of a call is one of the events. -/
theorem moved_note (w : World) (e : ShadowEvent) :
    Moved w w.shadow.subscriptionList ([e].filter ShadowEvent.ofTopic)
      (w.onShadow fun s => { s with log := e :: s.log }) where
  list := rfl
  client := rfl
  events := by
    show (e :: w.shadow.log).filter ShadowEvent.ofTopic = _
    rw [← List.singleton_append, List.filter_append]
    rfl
  grows := List.suffix_cons _ _

end Moves

/-! ## The steps of the call -/

/-- The first free record of the list. -/
def firstFree (config : ShadowConfig) (list : Nat → SubscriptionRecord) : Option Nat :=
  (List.range config.maxTopicsAtAnyGivenTime).find? fun i => (list i).isFree

/-- Record `i` is taken. -/
def takeRecord (i : Nat) (s : Records) : Records := { s with
  subscriptionList := Function.update s.subscriptionList i
    { s.subscriptionList i with isFree := false }
  log := .recordTaken i :: s.log }

@[simp] theorem takeRecord_self (i : Nat) (s : Records) :
    (takeRecord i s).subscriptionList i = { s.subscriptionList i with isFree := false } :=
  Function.update_self _ _ _

theorem takeRecord_of_ne {i k : Nat} (h : k ≠ i) (s : Records) :
    (takeRecord i s).subscriptionList k = s.subscriptionList k :=
  Function.update_of_ne h _ _

theorem firstFree_some {config : ShadowConfig} {list : Nat → SubscriptionRecord} {i : Nat}
    (h : firstFree config list = some i) :
    i < config.maxTopicsAtAnyGivenTime ∧ (list i).isFree = true ∧
      ∀ k < i, (list k).isFree = false := by
  obtain ⟨hi, hmem, hfirst⟩ := List.find?_range_eq_some.mp h
  exact ⟨List.mem_range.mp hmem, hi, fun k hk => by simpa using hfirst k hk⟩

/-- A record that is taken is not found again. -/
theorem firstFree_takeRecord_ne {config : ShadowConfig} {s : Records} {i j : Nat}
    (h : firstFree config (takeRecord i s).subscriptionList = some j) : i ≠ j := by
  rintro rfl
  have hfree := (firstFree_some h).2.1
  rw [takeRecord_self] at hfree
  cases hfree

theorem firstFree_none {config : ShadowConfig} {list : Nat → SubscriptionRecord}
    (h : firstFree config list = none) :
    ∀ k < config.maxTopicsAtAnyGivenTime, (list k).isFree = false := by
  intro k hk
  simpa using List.find?_eq_none.mp h k (List.mem_range.mpr hk)

theorem moved_takeRecord (w : World) (i : Nat) :
    Moved w (takeRecord i w.shadow).subscriptionList [] (w.onShadow (takeRecord i)) :=
  ⟨rfl, rfl, rfl, List.suffix_cons _ _⟩

theorem ends_getNextFreeIndexOfSubscriptionList {config : ShadowConfig} {w : World}
    {Q : Option Nat → World → Prop} {H : World → Prop} :
    (getNextFreeIndexOfSubscriptionList config : M (Option Nat)).Ends w Q H ↔
      match firstFree config w.shadow.subscriptionList with
      | none => Q none w
      | some i => Q (some i) (w.onShadow (takeRecord i)) := by
  unfold getNextFreeIndexOfSubscriptionList
  rw [ends_bind, ends_getRecords]
  dsimp only
  rw [← firstFree]
  cases firstFree config w.shadow.subscriptionList with
  | none => exact Iff.rfl
  | some i => exact Iff.rfl

section Steps

variable {env : ShadowEnv} {fuel : Nat} {handlers : Handlers M} {w : World} {topic : List UInt8}

theorem moved_writeTopic (config : ShadowConfig) (index : Nat) (topic : List UInt8) :
    (writeTopic config index topic : M Unit).Ends w (fun _ w' =>
      Moved w (Function.update w.shadow.subscriptionList index
        { w.shadow.subscriptionList index with topic := topic }) [] w') (fun _ => True) := by
  unfold writeTopic
  rw [ends_bind, ends_getRecords]
  dsimp only
  rw [ends_bind]
  refine (moved_updateSubscription index fun r => { r with topic := topic }).mono
    (fun _ w₁ h => ?_) (fun _ h => h)
  rw [ends_note]
  exact h.list ▸ h.trans (moved_note w₁ (.topicWritten index topic _))

variable (hquiet : LeavesSubscriptions handlers)
include hquiet

theorem moved_subscribeAck (index : Nat) : (subscribeAck env fuel handlers index topic).Ends w
    (fun rc w' => Moved w w.shadow.subscriptionList [.subscribed topic rc] w')
    (fun _ => True) := by
  have hsubscribe : ∀ w, (mqttSubscribe env fuel handlers (some (.subscription index)) topic .qos0
      ackStatusCallbackHandler).Ends w (fun _ w' => SameSubscriptions w w') (fun _ => True) := by
    intro w
    rw [mqttSubscribe_eq]
    exact ((sameSubscriptions_steps env).everything.subscribe fuel
      ((sameSubscriptions_steps env).serving hquiet) _ _ _ _ _ w).onReturn
  unfold subscribeAck
  rw [ends_bind, ends_getRecords]
  dsimp only
  split
  · rw [ends_bind]
    refine (hsubscribe w).mono (fun rc w₁ h => ?_) (fun _ h => h)
    exact h.list ▸ h.trans (moved_note w₁ (.subscribed topic rc))
  · exact moved_note w (.subscribed topic .nullValueError)

theorem moved_unsubscribeAck : (unsubscribeAck env fuel handlers topic).Ends w
    (fun _ w' => Moved w w.shadow.subscriptionList [.unsubscribing topic] w')
    (fun _ => True) := by
  have hunsubscribe : ∀ w, (unsubscribe env.mqtt fuel handlers.toCallbacks (some ⟨topic⟩)
      (UInt16.ofNat topic.length) : M IoTError).Ends w (fun _ w' => SameSubscriptions w w')
      (fun _ => True) :=
    fun w => ((sameSubscriptions_steps env).everything.unsubscribe fuel
      ((sameSubscriptions_steps env).serving hquiet) _ _ w).onReturn
  have hfirst := moved_note w (.unsubscribing topic)
  unfold unsubscribeAck
  rw [ends_bind, ends_note, ends_bind, ends_getRecords]
  dsimp only
  split
  · rw [ends_bind]
    refine (hunsubscribe _).mono (fun rc w₁ h => ?_) (fun _ h => h)
    exact h.list ▸ (hfirst.trans h).trans (moved_note w₁ (.unsubscribed topic rc))
  · exact hfirst.trans (moved_note _ (.unsubscribed topic .nullValueError))

/-- The first record is free again, and its topic unsubscribed from at most. -/
theorem moved_clearEntries (i j : Nat) : (clearEntries env fuel handlers (some i) (some j)).Ends w
    (fun _ w' => ∃ events, Moved w (Function.update w.shadow.subscriptionList i
        { w.shadow.subscriptionList i with isFree := true }) events w' ∧
      ∀ e ∈ events, e = .unsubscribing (w.shadow.subscriptionList i).topic)
    (fun _ => True) := by
  unfold clearEntries
  rw [ends_bind]
  refine (moved_updateSubscription i _).mono (fun _ w₁ h => ?_) (fun _ h => h)
  rw [ends_bind, ends_getRecords]
  dsimp only
  have hrecord : w₁.shadow.subscriptionList i =
      { w.shadow.subscriptionList i with isFree := true } := by
    rw [h.list, Function.update_self]
  rw [ends_bind, ends_pure, hrecord]
  split
  · rw [ends_bind]
    refine (moved_unsubscribeAck hquiet).mono (fun _ w' h' => ?_) (fun _ h => h)
    exact ⟨_, h.list ▸ h.trans h', by simp⟩
  · exact ⟨_, h, by simp⟩

/-- Whatever record is freed, or none, nothing is subscribed to. -/
theorem moved_clearEntries_none (first : Option Nat) :
    (clearEntries env fuel handlers first none).Ends w (fun _ w' => ∃ list events,
      Moved w list events w' ∧ ∀ topic rc, .subscribed topic rc ∉ events) (fun _ => True) := by
  have htail : ∀ (w₁ : World) (list : Nat → SubscriptionRecord) (r : SubscriptionRecord),
      Moved w list [] w₁ → (do if r.count = 1 then
        let _ ← unsubscribeAck env fuel handlers r.topic : M Unit).Ends w₁ (fun _ w' =>
          ∃ list events, Moved w list events w' ∧ ∀ topic rc, .subscribed topic rc ∉ events)
        (fun _ => True) := by
    intro w₁ list r h
    split
    · rw [ends_bind]
      refine (moved_unsubscribeAck hquiet).mono (fun _ w' h' => ?_) (fun _ h => h)
      exact ⟨_, _, h.trans h', by simp⟩
    · exact ⟨_, _, h, by simp⟩
  unfold clearEntries
  cases first with
  | none =>
    rw [ends_bind, ends_getRecords]
    dsimp only
    rw [ends_bind, ends_ask]
    exact htail w.tick _ _ (sameSubscriptions_of_eq rfl)
  | some i =>
    rw [ends_bind]
    refine (moved_updateSubscription i _).mono (fun _ w₁ h => ?_) (fun _ h => h)
    rw [ends_bind, ends_getRecords]
    dsimp only
    rw [ends_bind, ends_pure]
    exact htail w₁ _ _ h

omit hquiet in
theorem moved_settle : (settle env fuel : M Unit).Ends w (fun _ w' => SameSubscriptions w w')
    (fun _ => True) := by
  have h := (sameSubscriptions_steps env).toTrafficSteps.traffic
  have hsettle : Keeps SameSubscriptions (settle env fuel) := by
    refine h.bind (h.countdownSec _ _) fun timer => h.loop (fun _ => ?_) fuel ()
    exact h.bind (h.hasTimerExpired _ _) fun _ => h.ite (fun _ => h.pure _) fun _ => h.pure _
  exact (hsettle w).onReturn

/-- What a failed call does at its end leaves record `j` as it is. -/
theorem moved_loseRecords {i j : Nat} (hne : i ≠ j) (rc : IoTError) :
    (do
      loseRecords i j
      clearEntries env fuel handlers (some i) (some j)
      return rc : M IoTError).Ends w
    (fun rc' w' => rc' = rc ∧ ∃ list events, Moved w list events w' ∧
      list j = w.shadow.subscriptionList j) (fun _ => True) := by
  have hlose := (moved_note w (.recordReleased i)).trans (moved_note _ (.recordLost j))
  unfold loseRecords
  rw [ends_bind, ends_bind, ends_note, ends_note, ends_bind]
  refine (moved_clearEntries hquiet i j).mono (fun _ w' h => ?_) (fun _ h => h)
  obtain ⟨events, hmoved, -⟩ := h
  exact ⟨rfl, _, _, hlose.trans hmoved, Function.update_of_ne hne.symm _ _⟩

end Steps

/-! ## The call -/

/-- How a call that took the free records `i` and `j` ends: both topics are subscribed to and
recorded, or else record `j` stays in use. -/
inductive Ended (accepted rejected : List UInt8) (isSticky : Bool) (i j : Nat) (w : World) :
    IoTError → World → Prop
  | subscribed {list w'}
      (moved : Moved w list [.subscribed rejected .success, .subscribed accepted .success] w')
      (first : list i = ⟨accepted, 1, false, isSticky⟩)
      (second : list j = ⟨rejected, 1, false, isSticky⟩) :
      Ended accepted rejected isSticky i j w .success w'
  | failed {list events topic rc w'} (moved : Moved w list events w') (error : rc ≠ .success)
      (told : .subscribed topic rc ∈ events) (inUse : (list j).isFree = false) :
      Ended accepted rejected isSticky i j w rc w'

section Call

variable {env : ShadowEnv} {fuel : Nat} {handlers : Handlers M} {accepted rejected : List UInt8}
  {isSticky : Bool} {w : World}

/-- Two free records are found one after the other. -/
theorem twoFree_iff {config : ShadowConfig} {s : Records} : TwoFree config s ↔
    ∃ i j, firstFree config s.subscriptionList = some i ∧
      firstFree config (takeRecord i s).subscriptionList = some j := by
  constructor
  · rintro ⟨i, j, hlt, hj, hfreeI, hfreeJ⟩
    cases hfirst : firstFree config s.subscriptionList with
    | none =>
      have hused := firstFree_none hfirst j hj
      rw [hfreeJ] at hused
      cases hused
    | some k =>
      have hk : k ≤ i := by
        by_contra hlt'
        have hused := (firstFree_some hfirst).2.2 i (by omega)
        rw [hfreeI] at hused
        cases hused
      cases hsecond : firstFree config (takeRecord k s).subscriptionList with
      | none =>
        have hused := firstFree_none hsecond j hj
        rw [takeRecord_of_ne (by omega), hfreeJ] at hused
        cases hused
      | some l => exact ⟨k, l, rfl, hsecond⟩
  · rintro ⟨i, j, hi, hj⟩
    obtain ⟨hboundI, hfreeI, hfirst⟩ := firstFree_some hi
    obtain ⟨hboundJ, hfreeJ, -⟩ := firstFree_some hj
    rw [takeRecord_of_ne (firstFree_takeRecord_ne hj).symm] at hfreeJ
    have hne := firstFree_takeRecord_ne hj
    have hlt : i < j := by
      by_contra hle
      have hused := hfirst j (by omega)
      rw [hfreeJ] at hused
      cases hused
    exact ⟨i, j, hlt, hboundJ, hfreeI, hfreeJ⟩

/-- Two records are taken where two are free. -/
theorem ends_takeTwo {config : ShadowConfig} {i j : Nat}
    (hi : firstFree config w.shadow.subscriptionList = some i)
    (hj : firstFree config (takeRecord i w.shadow).subscriptionList = some j)
    {rest : Option Nat → Option Nat → M IoTError} {Q : IoTError → World → Prop}
    {H : World → Prop} :
    (do
      let first ← getNextFreeIndexOfSubscriptionList config
      let second ← getNextFreeIndexOfSubscriptionList config
      rest first second).Ends w Q H ↔
      (rest (some i) (some j)).Ends ((w.onShadow (takeRecord i)).onShadow (takeRecord j)) Q H := by
  rw [ends_bind, ends_getNextFreeIndexOfSubscriptionList, hi]
  dsimp only
  rw [ends_bind, ends_getNextFreeIndexOfSubscriptionList]
  simp only [World.shadow_onShadow]
  rw [hj]

/-- A call that finds fewer than two free records subscribes to nothing and tells of success. -/
theorem ends_noFreeRecord (hquiet : LeavesSubscriptions handlers)
    (hfew : ¬ TwoFree env.config w.shadow) :
    (subscribeToShadowActionAcks env fuel handlers accepted rejected isSticky).Ends w
      (fun rc w' => rc = .success ∧ ∃ list events, Moved w list events w' ∧
        ∀ topic rc, .subscribed topic rc ∉ events) (fun _ => True) := by
  have htail : ∀ (w₁ : World) (list : Nat → SubscriptionRecord) (first : Option Nat),
      Moved w list [] w₁ → (do
        note .noFreeRecord
        clearEntries env fuel handlers first none
        return IoTError.success : M IoTError).Ends w₁ (fun rc w' => rc = .success ∧
          ∃ list events, Moved w list events w' ∧ ∀ topic rc, .subscribed topic rc ∉ events)
        (fun _ => True) := by
    intro w₁ list first h
    rw [ends_bind, ends_note, ends_bind]
    refine (moved_clearEntries_none hquiet first).mono ?_ (fun _ h => h)
    rintro _ w' ⟨list', events, h', hnone⟩
    refine ⟨rfl, list', events ++ [], (h.trans (moved_note w₁ .noFreeRecord)).trans h', ?_⟩
    rwa [List.append_nil]
  unfold subscribeToShadowActionAcks
  rw [ends_bind, ends_getNextFreeIndexOfSubscriptionList]
  cases hi : firstFree env.config w.shadow.subscriptionList with
  | none =>
    dsimp only
    rw [ends_bind, ends_getNextFreeIndexOfSubscriptionList, hi]
    exact htail w _ none (sameSubscriptions_of_eq rfl)
  | some i =>
    dsimp only
    rw [ends_bind, ends_getNextFreeIndexOfSubscriptionList]
    cases hj : firstFree env.config (w.onShadow (takeRecord i)).shadow.subscriptionList with
    | none => exact htail _ _ (some i) (moved_takeRecord w i)
    | some j => exact absurd (twoFree_iff.mpr ⟨i, j, hi, hj⟩) hfew

theorem ends_twoFree (hquiet : LeavesSubscriptions handlers) {i j : Nat}
    (hi : firstFree env.config w.shadow.subscriptionList = some i)
    (hj : firstFree env.config (takeRecord i w.shadow).subscriptionList = some j) :
    (subscribeToShadowActionAcks env fuel handlers accepted rejected isSticky).Ends w
      (Ended accepted rejected isSticky i j w) (fun _ => True) := by
  have hne := firstFree_takeRecord_ne hj
  have htaken := (moved_takeRecord w i).trans (moved_takeRecord (w.onShadow (takeRecord i)) j)
  unfold subscribeToShadowActionAcks
  rw [ends_takeTwo hi hj, ends_bind]
  refine (moved_writeTopic _ _ _).mono (fun _ w₁ h₁ => ?_) (fun _ h => h)
  rw [ends_bind]
  refine (moved_subscribeAck hquiet _).mono (fun rc w₂ h₂ => ?_) (fun _ h => h)
  have htold := (htaken.trans h₁).trans h₂
  have hlist₂ := h₂.list.trans h₁.list
  rw [ends_ite]
  split
  case isTrue herror =>
    refine (moved_loseRecords hquiet hne rc).mono ?_ (fun _ h => h)
    rintro rc w' ⟨rfl, list, events, hmoved, hj'⟩
    have htopic : ShadowEvent.subscribed accepted rc ∈ events ++ [.subscribed accepted rc] :=
      List.mem_append_right _ (List.mem_singleton_self _)
    refine .failed (htold.trans hmoved) herror htopic ?_
    rw [hj', hlist₂, Function.update_of_ne hne.symm]
    simp
  case isFalse hrc =>
  obtain rfl := not_not.mp hrc
  rw [ends_bind]
  refine (moved_updateSubscription i _).mono (fun _ w₃ h₃ => ?_) (fun _ h => h)
  rw [ends_bind]
  refine (moved_writeTopic _ _ _).mono (fun _ w₄ h₄ => ?_) (fun _ h => h)
  rw [ends_bind]
  refine (moved_subscribeAck hquiet _).mono (fun rc w₅ h₅ => ?_) (fun _ h => h)
  have htold₅ := ((htold.trans h₃).trans h₄).trans h₅
  have hlist₅ := h₅.list.trans h₄.list
  rw [ends_ite]
  split
  case isTrue herror =>
    refine (moved_loseRecords hquiet hne rc).mono ?_ (fun _ h => h)
    rintro rc w' ⟨rfl, list, events, hmoved, hj'⟩
    have htopic : ShadowEvent.subscribed rejected rc ∈
        events ++ ([.subscribed rejected rc] ++ [.subscribed accepted .success]) := by
      simp
    refine .failed (htold₅.trans hmoved) herror htopic ?_
    rw [hj', hlist₅, Function.update_self, h₃.list, Function.update_of_ne hne.symm, hlist₂,
      Function.update_of_ne hne.symm]
    simp
  case isFalse hrc =>
  obtain rfl := not_not.mp hrc
  rw [ends_bind]
  refine (moved_updateSubscription j _).mono (fun _ w₆ h₆ => ?_) (fun _ h => h)
  rw [ends_bind, ends_note, ends_bind, ends_note, ends_bind]
  refine moved_settle.mono (fun _ w' h' => ?_) (fun _ h => h)
  have hreleased := (moved_note w₆ (.recordReleased i)).trans (moved_note _ (.recordReleased j))
  refine .subscribed (((htold₅.trans h₆).trans hreleased).trans h') ?_ ?_
  · simp only [World.shadow_onShadow]
    rw [h₆.list, Function.update_of_ne hne, hlist₅, Function.update_of_ne hne, h₃.list,
      Function.update_self, hlist₂, Function.update_self]
    simp [takeRecord_of_ne hne]
  · simp only [World.shadow_onShadow]
    rw [h₆.list, Function.update_self, hlist₅, Function.update_self, h₃.list,
      Function.update_of_ne hne.symm, hlist₂, Function.update_of_ne hne.symm]
    simp

/-- With two free records nothing in front of the list is looked at. -/
theorem ends_before_iff (h : TwoFree env.config w.shadow) (before : Nat → SubscriptionRecord)
    {Q : IoTError → World → Prop} {H : World → Prop} :
    (subscribeToShadowActionAcks { env with beforeSubscriptionList := before } fuel handlers
        accepted rejected isSticky).Ends w Q H ↔
      (subscribeToShadowActionAcks env fuel handlers accepted rejected isSticky).Ends w Q H := by
  obtain ⟨i, j, hi, hj⟩ := twoFree_iff.mp h
  unfold subscribeToShadowActionAcks
  refine (ends_takeTwo hi hj).trans (Iff.trans ?_ (ends_takeTwo hi hj).symm)
  exact Iff.rfl

/-- The call is all or nothing exactly when two records are free and both subscriptions
succeed. -/
theorem allOrNothing_iff {rc : IoTError} {w' : World}
    (hquiet : AcksUndisturbed env fuel handlers accepted rejected isSticky w)
    (hrun : (subscribeToShadowActionAcks env fuel handlers accepted rejected isSticky).run w =
      .done rc w') :
    AllOrNothing env fuel handlers accepted rejected isSticky w rc w' ↔
      TwoFree env.config w.shadow ∧ AllSucceeded w w' := by
  obtain ⟨quiet, hquiet, hsame⟩ := hquiet
  have hrun' := hsame.trans hrun
  by_cases htwo : TwoFree env.config w.shadow
  case neg =>
    -- Success is told of, but nothing was subscribed to.
    obtain ⟨rfl, list, events, hmoved, hnone⟩ := (ends_noFreeRecord hquiet htwo).of_run hrun'
    refine ⟨fun h => ?_, fun h => absurd h.1 htwo⟩
    have hsubscribed := (h.success.mp rfl).1
    rw [hmoved.mem_newEvents_iff rfl] at hsubscribed
    exact absurd hsubscribed (hnone _ _)
  case pos =>
  obtain ⟨i, j, hi, hj⟩ := twoFree_iff.mp htwo
  obtain ⟨hboundJ, hfreeJ, -⟩ := firstFree_some hj
  cases (ends_twoFree hquiet hi hj).of_run hrun' with
  | @subscribed list _ hmoved hfirst hsecond =>
    obtain ⟨hboundI, -, -⟩ := firstFree_some hi
    have hall : AllSucceeded w w' := by
      intro topic rc hmem
      rw [hmoved.mem_newEvents_iff rfl] at hmem
      simp only [List.mem_cons, List.not_mem_nil, or_false, ShadowEvent.subscribed.injEq] at hmem
      exact hmem.elim And.right And.right
    have hne := firstFree_takeRecord_ne hj
    refine ⟨fun _ => ⟨htwo, hall⟩, fun _ => ⟨⟨fun _ => ?_, fun _ => rfl⟩, by simp, ?_, ?_⟩⟩
    · refine ⟨?_, ?_, i, j, hne, hboundI, hboundJ, hmoved.list ▸ hfirst, hmoved.list ▸ hsecond⟩
      · exact (hmoved.mem_newEvents_iff rfl).mpr (by simp)
      · exact (hmoved.mem_newEvents_iff rfl).mpr (by simp)
    · intro topic hmem
      rw [hmoved.mem_newEvents_iff rfl] at hmem
      simp at hmem
    · intro before
      rw [run_eq_done_iff, ends_before_iff htwo]
      exact run_eq_done_iff.mp hrun
  | @failed list events topic _ _ hmoved herror htold hinUse =>
    -- The second record was free, and stays in use.
    refine ⟨fun h => ?_, fun h => ?_⟩
    · rw [takeRecord_of_ne (firstFree_takeRecord_ne hj).symm] at hfreeJ
      have hfreeAgain := (h.restored herror j hboundJ).1
      rw [hmoved.list, hinUse, hfreeJ] at hfreeAgain
      cases hfreeAgain
    · exact absurd (h.2 topic rc ((hmoved.mem_newEvents_iff rfl).mpr htold)) herror

end Call

/-- Handlers that do nothing. -/
def silentHandlers : Handlers M := ⟨⟨fun _ => return (), return ()⟩, return (), return ()⟩

theorem silentHandlers_leave : LeavesSubscriptions silentHandlers :=
  fun _ w => refl_of SameSubscriptions w

/-- Surroundings whose clock is fast, and in which `script` is received. -/
def acksEnv (script : List (Nat × List UInt8)) : ShadowEnv :=
  { quietShadowEnv fun _ => ⟨none, []⟩ with
    mqtt := { quietEnv.receiving script with clock := fun n => 100 * n } }

/-- A connected client that waits up to `timeout` ms for an answer, and records that are free
or not. -/
def idleWorld (timeout : Nat) (free : Bool) : World :=
  { World.start with
    client := { zeroedClient with
      clientState := .connectedIdle
      commandTimeoutMs := timeout
      writeBufSize := 512
      readBufSize := 512 }
    shadow := { zeroedRecords with
      pMqttClient := true
      subscriptionList := fun _ => ⟨[], 0, free, false⟩ } }

/-- The topic of accepted gets. -/
def getAccepted : List UInt8 := ascii "$aws/things/a/shadow/get/accepted"

/-- The topic of rejected gets. -/
def getRejected : List UInt8 := ascii "$aws/things/a/shadow/get/rejected"

/-- The call for both, in surroundings that receive `script`. -/
def subscribeToGets (script : List (Nat × List UInt8)) : M IoTError :=
  subscribeToShadowActionAcks (acksEnv script) 60 silentHandlers getAccepted getRejected false

/-- Both subscriptions are acknowledged. -/
def bothAcks : List (Nat × List UInt8) := [(8, [0x90, 3, 0, 1, 0]), (16, [0x90, 3, 0, 2, 0])]

theorem allOrNothing_device :
    AllOrNothing (acksEnv bothAcks) 60 silentHandlers getAccepted getRejected false
      (idleWorld 20000 true) .success
      ((subscribeToGets bothAcks).run (idleWorld 20000 true)).state :=
  (allOrNothing_iff ⟨silentHandlers, silentHandlers_leave, rfl⟩
      (run_eq_done (by decide +kernel))).mpr <| by
    have hall : (newEvents (idleWorld 20000 true)
        ((subscribeToGets bothAcks).run (idleWorld 20000 true)).state).all (fun
          | .subscribed _ rc => rc = .success
          | _ => true) = true := by
      decide +kernel
    refine ⟨⟨0, 1, by decide, by decide, rfl, rfl⟩, fun topic rc hmem => ?_⟩
    exact of_decide_eq_true (List.all_eq_true.mp hall _ hmem)

/-- A call that finds the list full tells of success, and one whose first subscription is not
answered leaves a record in use. -/
theorem not_every_call_allOrNothing :
    (∃ w', (subscribeToGets []).run (idleWorld 20000 false) = .done .success w' ∧
      ¬ AllOrNothing (acksEnv []) 60 silentHandlers getAccepted getRejected false
        (idleWorld 20000 false) .success w') ∧
    ∃ w', (subscribeToGets []).run (idleWorld 500 true) = .done .mqttRequestTimeoutError w' ∧
      ¬ AllOrNothing (acksEnv []) 60 silentHandlers getAccepted getRejected false
        (idleWorld 500 true) .mqttRequestTimeoutError w' := by
  refine ⟨⟨_, run_eq_done (by decide +kernel), fun h => ?_⟩,
    ⟨_, run_eq_done (by decide +kernel), fun h => ?_⟩⟩
  · exact absurd (h.success.mp rfl).1 (by decide +kernel)
  · exact absurd (h.restored (by simp) 1 (by decide)).1 (by decide +kernel)

end AwsIot.Shadow
