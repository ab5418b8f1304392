/-
  Mqtt/Subscriptions.lean --- which subscription owns which slot.

  The log of a run says which subscriptions are live: those whose subscribe call
  returned SUCCESS and whose filter was not unsubscribed since.  It also says what
  the handler table holds (`tableOf`).  A subscribe picks its slot before it waits
  for the SUBACK and fills it afterwards; a handler that subscribes meanwhile picks
  the same slot.  As long as every slot is still free when it is filled, every live
  subscription owns a slot of its own (`live_owned_of_freeWhenStored`).
-/
import AwsIot.Mqtt.RequestRules
import Mathlib.Data.List.Infix

set_option autoImplicit false

namespace AwsIot.Mqtt

open AwsIot.Foundation Program

/-! ## What a log says -/

/-- An unsubscribe from `filter` ends this subscription. -/
def MessageHandlers.clearedBy (slot : MessageHandlers) (filter : CharPtr) : Bool :=
  slot.topicName.any (·.strEq filter)

/-- The handler table after a log, newest event first. -/
def tableOf (n : Nat) : List Event → Nat → MessageHandlers
  | [] => zeroedClient.messageHandlers
  | .registered slot handler :: log => Function.update (tableOf n log) slot handler
  | .cleared filter :: log => clearEqual n filter (tableOf n log)
  | .tableReset :: log => emptyHandlers n (tableOf n log)
  | _ :: log => tableOf n log

/-- The live subscriptions after a log: what every subscribe call that returned SUCCESS
asked for, until it is unsubscribed or the client is initialised again. -/
def live : List Event → List MessageHandlers
  | [] => []
  | .returned (.subscribe (some filter) topicNameLen qos (some handler) data) .success :: log =>
      ⟨some filter, topicNameLen, qos, some handler, data⟩ :: live log
  | .cleared filter :: log => (live log).filter fun slot => !slot.clearedBy filter
  | .tableReset :: _ => []
  | _ :: log => live log

/-- Every member of `subscriptions` has a slot of its own among the first `n`. -/
def Owned (n : Nat) (table : Nat → MessageHandlers) (subscriptions : List MessageHandlers) :
    Prop :=
  ∃ owners : List (Nat × MessageHandlers), owners.map (·.2) = subscriptions ∧
    (owners.map (·.1)).Nodup ∧ ∀ p ∈ owners, p.1 < n ∧ table p.1 = p.2

/-- Where the newest event stores a handler, its slot was free before. -/
def storedFree (n : Nat) : List Event → Bool
  | .registered slot _ :: log => (tableOf n log slot).topicName.isNone
  | _ => true

/-- Whenever a handler was stored, its slot was free at that moment. -/
def FreeWhenStored (n : Nat) (log : List Event) : Prop :=
  ∀ pre, pre <:+ log → storedFree n pre = true

instance (n : Nat) (log : List Event) : Decidable (FreeWhenStored n log) :=
  decidable_of_iff (∀ pre ∈ log.tails, storedFree n pre = true)
    (by simp [FreeWhenStored, List.mem_tails])

/-- A subscribe call that returned SUCCESS stored its handler right before. -/
def StoredBeforeReturned (n : Nat) (log : List Event) : Prop :=
  ∀ topicName topicNameLen qos handler data pre,
    (.returned (.subscribe topicName topicNameLen qos handler data) .success :: pre) <:+ log →
    ∃ slot filter h rest, topicName = some filter ∧ handler = some h ∧ slot < n ∧
      pre = .registered slot ⟨some filter, topicNameLen, qos, some h, data⟩ :: rest

/-! ## Ownership along a log -/

section Ownership

variable {n : Nat} {table table' : Nat → MessageHandlers} {log : List Event}

/-- The pairs `owners` show `Owned`. -/
structure Owners (n : Nat) (table : Nat → MessageHandlers) (subscriptions : List MessageHandlers)
    (owners : List (Nat × MessageHandlers)) : Prop where
  /-- They name every subscription. -/
  all : owners.map (·.2) = subscriptions
  /-- No slot is named twice. -/
  nodup : (owners.map (·.1)).Nodup
  /-- Every slot holds what is named with it. -/
  holds : ∀ p ∈ owners, p.1 < n ∧ table p.1 = p.2

theorem Owners.mem_live {subscriptions : List MessageHandlers}
    {owners : List (Nat × MessageHandlers)} (h : Owners n table subscriptions owners)
    {p : Nat × MessageHandlers} (hp : p ∈ owners) : p.2 ∈ subscriptions := by
  rw [← h.all]
  exact List.mem_map_of_mem hp

theorem live_used : ∀ log, ∀ slot ∈ live log, slot.topicName ≠ none := by
  intro log
  induction log with
  | nil => intro slot hmem; cases hmem
  | cons e log ih =>
    intro slot hmem
    unfold live at hmem
    split at hmem
    case h_1 heq => cases heq
    case h_2 heq =>
      obtain ⟨-, rfl⟩ := List.cons.inj heq
      rcases List.mem_cons.mp hmem with rfl | hmem
      · simp
      · exact ih slot hmem
    case h_3 heq =>
      obtain ⟨-, rfl⟩ := List.cons.inj heq
      exact ih slot (List.mem_of_mem_filter hmem)
    case h_4 => cases hmem
    case h_5 heq =>
      obtain ⟨-, rfl⟩ := List.cons.inj heq
      exact ih slot hmem

/-- Filling a slot that no one owns disturbs no one. -/
theorem Owners.register {subscriptions : List MessageHandlers}
    {owners : List (Nat × MessageHandlers)} (h : Owners n table subscriptions owners) {slot : Nat}
    (hslot : slot ∉ owners.map (·.1)) (handler : MessageHandlers) :
    Owners n (Function.update table slot handler) subscriptions owners := by
  refine ⟨h.all, h.nodup, fun p hp => ⟨(h.holds p hp).1, ?_⟩⟩
  have hne : p.1 ≠ slot := fun heq => hslot (heq ▸ List.mem_map_of_mem hp)
  rw [Function.update_of_ne hne]
  exact (h.holds p hp).2

/-- A subscription that was just stored takes over its slot. -/
theorem Owners.cons {subscriptions : List MessageHandlers} {owners : List (Nat × MessageHandlers)}
    (h : Owners n table subscriptions owners) {slot : Nat} (hslot : slot ∉ owners.map (·.1))
    (hlt : slot < n) (handler : MessageHandlers) (htable : table slot = handler) :
    Owners n table (handler :: subscriptions) ((slot, handler) :: owners) := by
  refine ⟨by simp [h.all], List.nodup_cons.mpr ⟨hslot, h.nodup⟩, fun p hp => ?_⟩
  rcases List.mem_cons.mp hp with rfl | hp
  · exact ⟨hlt, htable⟩
  · exact h.holds p hp

/-- Unsubscribing leaves the slots of the other subscriptions alone. -/
theorem Owners.clear {subscriptions : List MessageHandlers} {owners : List (Nat × MessageHandlers)}
    (h : Owners n table subscriptions owners) (filter : CharPtr) :
    Owners n (clearEqual n filter table) (subscriptions.filter fun slot => !slot.clearedBy filter)
      (owners.filter fun p => !p.2.clearedBy filter) := by
  refine ⟨?_, ?_, fun p hp => ?_⟩
  · rw [← h.all, List.filter_map]
    rfl
  · exact h.nodup.sublist (List.filter_sublist.map _)
  · obtain ⟨hmem, hkeep⟩ := List.mem_filter.mp hp
    obtain ⟨hlt, htable⟩ := h.holds p hmem
    refine ⟨hlt, ?_⟩
    unfold clearEqual
    rw [htable]
    unfold MessageHandlers.clearedBy at hkeep
    cases hname : p.2.topicName with
    | none => rfl
    | some topicName =>
      have hne : topicName.strEq filter = false := by simpa [hname] using hkeep
      simp [hne]

theorem FreeWhenStored.tail {e : Event} (h : FreeWhenStored n (e :: log)) :
    FreeWhenStored n log :=
  fun pre hpre => h pre (hpre.trans (List.suffix_cons e log))

theorem StoredBeforeReturned.tail {e : Event} (h : StoredBeforeReturned n (e :: log)) :
    StoredBeforeReturned n log :=
  fun topicName topicNameLen qos handler data pre hpre =>
    h topicName topicNameLen qos handler data pre (hpre.trans (List.suffix_cons e log))

/-- The owners after a log.  Right after a handler is stored its slot has no owner yet:
the call that stored it has not returned. -/
theorem owners_of_log : ∀ log, FreeWhenStored n log → StoredBeforeReturned n log →
    ∃ owners, Owners n (tableOf n log) (live log) owners ∧
      ∀ slot handler rest, log = .registered slot handler :: rest →
        slot ∉ owners.map (·.1) := by
  intro log
  induction log with
  | nil =>
    intro _ _
    exact ⟨[], ⟨rfl, List.nodup_nil, by simp⟩, by simp⟩
  | cons e log ih =>
    intro hfree hstored
    obtain ⟨owners, howners, hlast⟩ := ih hfree.tail hstored.tail
    cases e with
    | registered slot handler =>
      have hslot : slot ∉ owners.map (·.1) := by
        intro hmem
        obtain ⟨p, hp, rfl⟩ := List.mem_map.mp hmem
        have hempty := Option.isNone_iff_eq_none.mp (hfree _ (List.suffix_refl _))
        rw [(howners.holds p hp).2] at hempty
        exact live_used log p.2 (howners.mem_live hp) hempty
      refine ⟨owners, howners.register hslot handler, ?_⟩
      intro slot' handler' rest heq
      cases heq
      exact hslot
    | returned call rc =>
      unfold tableOf live
      split
      case h_1 heq => cases heq
      case h_2 heq =>
        cases heq
        obtain ⟨slot, filter, h, rest, hfilter, hh, hlt, rfl⟩ :=
          hstored _ _ _ _ _ _ (List.suffix_refl _)
        cases hfilter
        cases hh
        refine ⟨_, howners.cons (hlast slot _ rest rfl) hlt _ ?_, by simp⟩
        exact Function.update_self ..
      case h_3 heq => cases heq
      case h_4 heq => cases heq
      case h_5 heq =>
        cases heq
        exact ⟨owners, howners, by simp⟩
    | cleared filter => exact ⟨_, howners.clear filter, by simp⟩
    | tableReset => exact ⟨[], ⟨rfl, List.nodup_nil, by simp⟩, by simp⟩
    | _ => exact ⟨owners, howners, by simp⟩

/-- Where every handler was stored in a free slot, live subscriptions own their slots. -/
theorem owned_of_log (hfree : FreeWhenStored n log) (hstored : StoredBeforeReturned n log) :
    Owned n (tableOf n log) (live log) := by
  obtain ⟨owners, howners, -⟩ := owners_of_log log hfree hstored
  exact ⟨owners, howners.all, howners.nodup, howners.holds⟩

end Ownership

/-! ## The handler table of a run -/

/-- The log keeps saying what the handler table holds. -/
def TableTold (n : Nat) (w w' : World) : Prop :=
  tableOf n w.log = w.client.messageHandlers → tableOf n w'.log = w'.client.messageHandlers

instance (n : Nat) : IsPreorder World (TableTold n) where
  refl _ h := h
  trans _ _ _ h₁ h₂ h := h₂ (h₁ h)

theorem tableOf_cons {n : Nat} {e : Event} (he : e.kind ≠ .table) (log : List Event) :
    tableOf n (e :: log) = tableOf n log := by
  cases e with
  | registered => exact absurd rfl he
  | cleared => exact absurd rfl he
  | tableReset => exact absurd rfl he
  | _ => rfl

theorem tableTold_push {n : Nat} {e : Event} (he : e.kind ≠ .table) (w : World) :
    TableTold n w (w.push e) := by
  intro h
  rw [World.log_push, tableOf_cons he]
  exact h

theorem tableTold_steps (env : Env) : AllSteps env (TableTold env.config.numSubscribeHandlers) where
  onClient w f hf h := h.trans (hf w.client).2.1.symm
  tick _ h := h
  push w e he := tableTold_push (by rw [he]; decide) w
  pushPacket w e he := tableTold_push (by rw [he]; decide) w
  pushConnection w e he := tableTold_push (by rw [he]; decide) w
  pushTurn w e he := tableTold_push (by rw [he]; decide) w
  pushHandler w e he := tableTold_push (by rw [he]; decide) w
  withState _ _ h := h
  register w slot handler h := by
    show Function.update (tableOf _ w.log) slot handler = _
    rw [h]
    rfl
  clear w filter h := by
    show clearEqual _ filter (tableOf _ w.log) = _
    rw [h]
    rfl
  reset w h := by
    show emptyHandlers _ (tableOf _ w.log) = _
    rw [h]
    rfl
  onTable w f hf h := h.trans (hf w.client).2.1.symm
  start _ h := h
  double _ h := h

/-! ## Returned subscribes -/

/-- Subscribes keep storing their handlers right before they return. -/
def StoresFirst (n : Nat) (w w' : World) : Prop :=
  StoredBeforeReturned n w.log → StoredBeforeReturned n w'.log

instance (n : Nat) : IsPreorder World (StoresFirst n) where
  refl _ h := h
  trans _ _ _ h₁ h₂ h := h₂ (h₁ h)

/-- The log ends with the store of what a subscribe asks for. -/
def JustStored (n : Nat) (topicName : Option CharPtr) (topicNameLen : UInt16) (qos : QoS)
    (handler : Option Nat) (data : Nat) (log : List Event) : Prop :=
  ∃ slot filter h rest, topicName = some filter ∧ handler = some h ∧ slot < n ∧
    log = .registered slot ⟨some filter, topicNameLen, qos, some h, data⟩ :: rest

/-- Only the return of a successful subscribe asks for anything. -/
theorem StoredBeforeReturned.cons {n : Nat} {log : List Event} {e : Event}
    (h : StoredBeforeReturned n log)
    (he : ∀ topicName topicNameLen qos handler data,
      e = .returned (.subscribe topicName topicNameLen qos handler data) .success →
      JustStored n topicName topicNameLen qos handler data log) :
    StoredBeforeReturned n (e :: log) := by
  intro topicName topicNameLen qos handler data pre hpre
  rcases List.suffix_cons_iff.mp hpre with heq | hpre
  · cases heq
    exact he _ _ _ _ _ rfl
  · exact h _ _ _ _ _ _ hpre

theorem storesFirst_push {n : Nat} {e : Event} (he : e.kind ≠ .call) (w : World) :
    StoresFirst n w (w.push e) := by
  intro h
  apply h.cons
  rintro _ _ _ _ _ rfl
  exact absurd rfl he

theorem storesFirst_steps (env : Env) (n : Nat) : AllSteps env (StoresFirst n) where
  onClient _ _ _ h := h
  tick _ h := h
  push w e he := storesFirst_push (by rw [he]; decide) w
  pushPacket w e he := storesFirst_push (by rw [he]; decide) w
  pushConnection w e he := storesFirst_push (by rw [he]; decide) w
  pushTurn w e he := storesFirst_push (by rw [he]; decide) w
  pushHandler w e he := storesFirst_push (by rw [he]; decide) w
  withState _ _ h := h
  register w _ _ := storesFirst_push (by simp [Event.kind]) w
  clear w _ := storesFirst_push (by simp [Event.kind]) w
  reset w := storesFirst_push (by decide) w
  onTable _ _ _ h := h
  start w := storesFirst_push (by simp [Event.kind]) w
  double w := storesFirst_push (by simp [Event.kind]) w

/-- A subscribe that returns SUCCESS has just stored its handler. -/
theorem subscribe_justStored {env : Env} {fuel : Nat} {callbacks : Callbacks M}
    (hwait : Cycling env callbacks (Keeps LogGrows)) (topicName : Option CharPtr)
    (topicNameLen : UInt16) (qos : QoS) (handler : Option Nat) (data : Nat) (w : World) :
    (subscribe env fuel callbacks topicName topicNameLen qos handler data : M IoTError).Ends w
      (fun rc w' => rc = .success → JustStored env.config.numSubscribeHandlers topicName
        topicNameLen qos handler data w'.log) (fun _ => True) := by
  unfold subscribe
  split
  case h_2 => exact fun h => absurd h (by decide)
  case h_1 topicName handler =>
    refine request_success .subscribe fun s =>
      (internalSubscribe_judged hwait topicName topicNameLen qos handler data).mono ?_
        (fun _ _ => trivial)
    rintro rc w' (⟨hfail, -⟩ | ⟨_, _, _, f, w₁, -, hlt, -, -, rfl⟩) hsuccess
    · exact absurd hsuccess (IoTError.ne_success_of_isError hfail)
    · rw [if_pos hsuccess, World.log_register]
      exact ⟨_, topicName, handler, w₁.log, rfl, rfl, hlt, rfl⟩

/-- Every call made at any depth stores first. -/
theorem storesFirst_apiCall (env : Env) (fuel : Nat) : ∀ depth call,
    Keeps (StoresFirst env.config.numSubscribeHandlers)
      (apiCall env fuel depth call : M IoTError) := by
  intro depth
  induction depth with
  | zero => intro call w h; exact h
  | succ depth ih =>
    intro call w
    have hsteps := storesFirst_steps env env.config.numSubscribeHandlers
    have hall := hsteps.everything
    obtain ⟨hmessage, hdisconnect⟩ := hall.applicationCallbacks fuel ih
    have hkeeps := hall.dispatch fuel (hsteps.serving hmessage) hdisconnect call
      (w.push (.called call))
    unfold apiCall
    simp only [ends_bind, ends_emit, ends_within, ends_pure]
    have hcalled (h : StoredBeforeReturned env.config.numSubscribeHandlers w.log) :
        StoredBeforeReturned env.config.numSubscribeHandlers (w.push (.called call)).log :=
      h.cons (by simp)
    have hstored : (dispatch env fuel (applicationCallbacks env fuel (apiCall env fuel depth))
        call : M IoTError).Ends (w.push (.called call))
        (fun rc w' => ∀ topicName topicNameLen qos handler data,
          call = .subscribe topicName topicNameLen qos handler data → rc = .success →
          JustStored env.config.numSubscribeHandlers topicName topicNameLen qos handler data w'.log)
        (fun _ => True) := by
      cases call with
      | subscribe topicName topicNameLen qos handler data =>
        refine (subscribe_justStored (serving_logGrows env fuel depth).toCycling topicName
          topicNameLen qos handler data _).mono ?_ (fun _ _ => trivial)
        rintro rc w' h _ _ _ _ _ ⟨⟩ hsuccess
        exact h hsuccess
      | _ => exact (ends_iff_run.mpr ⟨by simp, fun _ _ => trivial⟩)
    refine (hkeeps.and hstored).mono ?_ (fun w' h hw => h.1 (hcalled hw))
    rintro rc w' ⟨hkept, hjust⟩ hw
    apply (hkept (hcalled hw)).cons
    rintro topicName topicNameLen qos handler data heq
    cases heq
    exact hjust _ _ _ _ _ rfl rfl

/-! ## Runs of an application -/

/-- Every live subscription of the run owns a slot of its own, at its end. -/
def OwnsAll (env : Env) (fuel : Nat) (calls : List ApiCall) : Prop :=
  Owned env.config.numSubscribeHandlers (World.after env fuel calls).client.messageHandlers
    (live (World.after env fuel calls).log)

theorem tableOf_after (env : Env) (fuel : Nat) (calls : List ApiCall) :
    tableOf env.config.numSubscribeHandlers (World.after env fuel calls).log =
      (World.after env fuel calls).client.messageHandlers := by
  refine (ends_state_iff (P := fun w : World =>
    tableOf env.config.numSubscribeHandlers w.log = w.client.messageHandlers)).mp ?_
  have hkeeps := (tableTold_steps env).application
    (fun w e he => tableTold_push (by rw [he]; decide) w) fuel calls World.start
  exact hkeeps.mono (fun _ _ h => h rfl) (fun _ h => h rfl)

theorem storedBeforeReturned_after (env : Env) (fuel : Nat) (calls : List ApiCall) :
    StoredBeforeReturned env.config.numSubscribeHandlers (World.after env fuel calls).log := by
  refine (ends_state_iff (P := fun w : World =>
    StoredBeforeReturned env.config.numSubscribeHandlers w.log)).mp ?_
  have hstart : StoredBeforeReturned env.config.numSubscribeHandlers World.start.log := by
    intro _ _ _ _ _ _ hpre
    exact absurd (List.suffix_nil.mp hpre) (by simp)
  have hkeeps := (keeps_compositional (StoresFirst env.config.numSubscribeHandlers)).forEach
    (fun call => (keeps_compositional _).bind (storesFirst_apiCall env fuel fuel call)
      fun _ => (keeps_compositional _).pure ()) calls World.start
  exact hkeeps.mono (fun _ _ h => h hstart) (fun _ h => h hstart)

/-- In every run that stores each handler in a slot that is still free, at every moment
every subscribe call that returned SUCCESS and was not unsubscribed since owns a slot that
holds its filter, handler and data, distinct from the slots of all others. -/
theorem live_owned_of_freeWhenStored (env : Env) (fuel : Nat) (calls : List ApiCall)
    (hfree : FreeWhenStored env.config.numSubscribeHandlers (World.after env fuel calls).log) :
    OwnsAll env fuel calls ∧ ∀ log, log <:+ (World.after env fuel calls).log →
      Owned env.config.numSubscribeHandlers (tableOf env.config.numSubscribeHandlers log)
        (live log) := by
  have hall : ∀ log, log <:+ (World.after env fuel calls).log →
      Owned env.config.numSubscribeHandlers (tableOf env.config.numSubscribeHandlers log)
        (live log) := fun log hlog =>
    owned_of_log (fun pre hpre => hfree pre (hpre.trans hlog))
      fun _ _ _ _ _ pre hpre => storedBeforeReturned_after env fuel calls _ _ _ _ _ pre
        (hpre.trans hlog)
  refine ⟨?_, hall⟩
  unfold OwnsAll
  rw [← tableOf_after]
  exact hall _ (List.suffix_refl _)

/-- Two subscribes, one after the other, own two slots. -/
theorem live_owned_twoSubscribes :
    OwnsAll (sessionEnv [(15, [0x90, 3, 0, 2, 1]), (23, [0x90, 3, 0, 3, 1])]) 8
        (sessionCalls [subscribeTo 0x61, subscribeTo 0x62]) ∧
      (live (World.after (sessionEnv [(15, [0x90, 3, 0, 2, 1]), (23, [0x90, 3, 0, 3, 1])]) 8
        (sessionCalls [subscribeTo 0x61, subscribeTo 0x62])).log).length = 2 :=
  ⟨(live_owned_of_freeWhenStored _ 8 _ (by decide +kernel)).1, by decide +kernel⟩

/-- While a subscribe to `b` waits, a message for `a` arrives, and the handler of `a`
subscribes to `c`; every SUBACK grants what was asked. -/
def reentrantEnv : Env :=
  { sessionEnv [(15, [0x90, 3, 0, 2, 1]), (23, [0x30, 4, 0, 1, 0x61, 0x70]),
      (32, [0x90, 3, 0, 4, 1]), (38, [0x90, 3, 0, 3, 1])] with
    messageHandler := fun n => if n = 27 then some (subscribeTo 0x63) else none }

/-- The subscribe to `c` returned SUCCESS, and the subscribe to `b` then took its slot. -/
theorem not_ownsAll_reentrant :
    Event.returned (subscribeTo 0x63) .success ∈ (World.after reentrantEnv 8
      (sessionCalls [subscribeTo 0x61, subscribeTo 0x62])).log ∧
    ¬ OwnsAll reentrantEnv 8 (sessionCalls [subscribeTo 0x61, subscribeTo 0x62]) := by
  refine ⟨by decide +kernel, ?_⟩
  rintro ⟨owners, hall, -, holds⟩
  have hlive : (⟨some ⟨[0x63]⟩, 1, .qos1, some 1, 0⟩ : MessageHandlers) ∈
      live (World.after reentrantEnv 8
        (sessionCalls [subscribeTo 0x61, subscribeTo 0x62])).log := by
    decide +kernel
  rw [← hall] at hlive
  obtain ⟨p, hp, hfilter⟩ := List.mem_map.mp hlive
  have hnone : ∀ slot < 5, ((World.after reentrantEnv 8
      (sessionCalls [subscribeTo 0x61, subscribeTo 0x62])).client.messageHandlers slot).topicName ≠
        some ⟨[0x63]⟩ := by
    decide +kernel
  apply hnone p.1 (holds p hp).1
  rw [(holds p hp).2, hfilter]

end AwsIot.Mqtt
