/-
  Mqtt/Nesting.lean --- handlers inside handlers.

  A message handler may call the client, and the client may then call handlers
  again, to any depth.  The log marks where each handler starts and returns, so
  what the client did outside the handlers of a stretch can be read off it
  (`outside`).  Whatever a call does, its handlers are properly nested: `Nests` is
  what returns, `NestsHalted` what does not return.
-/
import AwsIot.Mqtt.Relations

set_option autoImplicit false

namespace AwsIot.Mqtt

open AwsIot.Foundation Program

/-! ## Depth -/

/-- How many handlers run after an event, if `depth` run before it. -/
def Event.depthAfter (depth : Nat) : Event → Nat
  | .handlerCalled _ => depth + 1
  | .handlerReturned => depth - 1
  | _ => depth

/-- How many handlers run after a stretch, oldest event first, if `depth` run before. -/
def depthAfter (depth : Nat) : List Event → Nat
  | [] => depth
  | e :: rest => depthAfter (e.depthAfter depth) rest

/-- What a stretch has outside its handlers, if `depth` of them run at its start. -/
def outside (depth : Nat) : List Event → List Event
  | [] => []
  | e :: rest => (if depth = 0 then [e] else []) ++ outside (e.depthAfter depth) rest

theorem depthAfter_append (depth : Nat) (new more : List Event) :
    depthAfter depth (new ++ more) = depthAfter (depthAfter depth new) more := by
  induction new generalizing depth with
  | nil => rfl
  | cons e new ih => exact ih _

theorem outside_append (depth : Nat) (new more : List Event) :
    outside depth (new ++ more) = outside depth new ++ outside (depthAfter depth new) more := by
  induction new generalizing depth with
  | nil => rfl
  | cons e new ih =>
    rw [List.cons_append, outside, outside, ih, List.append_assoc]
    rfl

/-- The handlers of a stretch are properly nested. -/
structure Balanced (new : List Event) : Prop where
  /-- Every handler that starts returns. -/
  depth : ∀ depth, depthAfter depth new = depth
  /-- No handler returns that has not started. -/
  hidden : ∀ depth, outside (depth + 1) new = []

/-- The handlers of a stretch are properly nested, apart from those that still run. -/
structure Unfinished (new : List Event) : Prop where
  /-- No handler returns that has not started. -/
  depth : ∀ depth, depth ≤ depthAfter depth new
  /-- What they do is hidden. -/
  hidden : ∀ depth, outside (depth + 1) new = []

theorem Balanced.nil : Balanced [] := ⟨fun _ => rfl, fun _ => rfl⟩

theorem Unfinished.nil : Unfinished [] := ⟨fun _ => Nat.le_refl _, fun _ => rfl⟩

theorem Balanced.append {new more : List Event} (h : Balanced new) (h' : Balanced more) :
    Balanced (new ++ more) where
  depth d := by rw [depthAfter_append, h.depth, h'.depth]
  hidden d := by rw [outside_append, h.hidden, h.depth, h'.hidden, List.append_nil]

theorem Balanced.unfinished {new more : List Event} (h : Balanced new) (h' : Unfinished more) :
    Unfinished (new ++ more) where
  depth d := by
    rw [depthAfter_append, h.depth]
    exact h'.depth d
  hidden d := by rw [outside_append, h.hidden, h.depth, h'.hidden, List.append_nil]

/-- Behind a balanced stretch, what is outside is outside. -/
theorem Balanced.outside_append {new : List Event} (h : Balanced new) (more : List Event) :
    outside 0 (new ++ more) = outside 0 new ++ outside 0 more := by
  rw [Mqtt.outside_append, h.depth]

theorem Event.depthAfter_of_kind {e : Event} (he : e.kind ≠ .handler) (depth : Nat) :
    e.depthAfter depth = depth := by
  cases e <;> first | rfl | exact absurd rfl he

theorem Balanced.single {e : Event} (he : e.kind ≠ .handler) : Balanced [e] where
  depth d := Event.depthAfter_of_kind he d
  hidden _ := by simp [outside]

/-- A handler around a balanced stretch. -/
theorem Balanced.handler {new : List Event} (h : Balanced new) (call : HandlerCall) :
    Balanced (.handlerCalled call :: (new ++ [.handlerReturned])) where
  depth d := by
    show depthAfter (d + 1) (new ++ [.handlerReturned]) = d
    rw [depthAfter_append, h.depth]
    rfl
  hidden d := by
    show outside (d + 2) (new ++ [.handlerReturned]) = []
    rw [Mqtt.outside_append, h.hidden, h.depth]
    rfl

/-- Outside a handler, only its start is seen. -/
theorem Balanced.outside_handler {new : List Event} (h : Balanced new) (call : HandlerCall) :
    outside 0 (.handlerCalled call :: (new ++ [.handlerReturned])) = [.handlerCalled call] := by
  show .handlerCalled call :: outside 1 (new ++ [.handlerReturned]) = [.handlerCalled call]
  rw [Mqtt.outside_append, h.hidden, h.depth]
  rfl

/-- A handler that still runs. -/
theorem Unfinished.handler {new : List Event} (h : Unfinished new) (call : HandlerCall) :
    Unfinished (.handlerCalled call :: new) ∧
      outside 0 (.handlerCalled call :: new) = [.handlerCalled call] := by
  refine ⟨⟨fun d => Nat.le_of_succ_le (h.depth (d + 1)), fun d => h.hidden (d + 1)⟩, ?_⟩
  show .handlerCalled call :: outside 1 new = [.handlerCalled call]
  rw [h.hidden 0]

/-! ## Stretches of a run -/

/-- What happened from `w` to `w'`, oldest first. -/
def World.stretch (w w' : World) : List Event := (w.since w').reverse

/-- `new` is what happened from `w` to `w'`, oldest first. -/
def Extends (w : World) (new : List Event) (w' : World) : Prop := w'.log = new.reverse ++ w.log

section Extends

variable {w w₁ w' : World} {new more : List Event}

theorem Extends.refl (w : World) : Extends w [] w := rfl

theorem Extends.trans (h : Extends w new w₁) (h' : Extends w₁ more w') :
    Extends w (new ++ more) w' := by
  unfold Extends at *
  rw [h', h, List.reverse_append, List.append_assoc]

theorem Extends.push (h : Extends w new w₁) (e : Event) : Extends w (new ++ [e]) (w₁.push e) := by
  unfold Extends at *
  rw [World.log_push, h, List.reverse_append]
  rfl

theorem Extends.of_log (h : w'.log = w.log) : Extends w [] w' := h

theorem Extends.congr (h : Extends w new w₁) (hlog : w'.log = w₁.log) : Extends w new w' :=
  hlog.trans h

theorem Extends.stretch (h : Extends w new w') : w.stretch w' = new := by
  rw [World.stretch, World.since_of_append h, List.reverse_reverse]

end Extends

/-- The handlers since `w` are properly nested. -/
def Nests (w w' : World) : Prop := ∃ new, Extends w new w' ∧ Balanced new

/-- The handlers since `w` are properly nested, apart from those that still run. -/
def NestsHalted (w w' : World) : Prop := ∃ new, Extends w new w' ∧ Unfinished new

instance : IsPreorder World Nests where
  refl w := ⟨[], Extends.refl w, Balanced.nil⟩
  trans := by
    rintro w w₁ w' ⟨new, hnew, hbalanced⟩ ⟨more, hmore, hbalanced'⟩
    exact ⟨new ++ more, hnew.trans hmore, hbalanced.append hbalanced'⟩

theorem nestsHalted_after : HaltsAfter Nests NestsHalted where
  refl w := ⟨[], Extends.refl w, Unfinished.nil⟩
  trans := by
    rintro w w₁ w' ⟨new, hnew, hbalanced⟩ ⟨more, hmore, hunfinished⟩
    exact ⟨new ++ more, hnew.trans hmore, hbalanced.unfinished hunfinished⟩

theorem nests_of_log {w w' : World} (h : w'.log = w.log) : Nests w w' :=
  ⟨[], Extends.of_log h, Balanced.nil⟩

theorem nests_push {e : Event} (he : e.kind ≠ .handler) (w : World) : Nests w (w.push e) :=
  ⟨[e], (Extends.refl w).push e, Balanced.single he⟩

/-- An update of the client and an event that is not about handlers. -/
theorem nests_update {e : Event} (he : e.kind ≠ .handler) (w : World) (f : Client → Client) :
    Nests w ((w.onClient f).push e) :=
  trans_of Nests (nests_of_log (w.log_onClient f)) (nests_push he _)

theorem nests_steps (env : Env) : PrimitiveSteps env Nests where
  onClient _ _ _ := nests_of_log rfl
  tick _ := nests_of_log rfl
  push w _ he := nests_push (by rw [he]; decide) w
  pushPacket w _ he := nests_push (by rw [he]; decide) w
  pushConnection w _ he := nests_push (by rw [he]; decide) w
  withState _ _ := nests_of_log rfl
  register w _ _ := nests_update (by simp [Event.kind]) w _
  clear w _ := nests_update (by simp [Event.kind]) w _
  reset w := nests_update (by simp [Event.kind]) w _
  onTable _ _ _ := nests_of_log rfl
  start w := nests_update (by simp [Event.kind]) w _
  double w := trans_of Nests (nests_push (by simp [Event.kind]) w) (nests_of_log rfl)

/-- What properly nested handlers do is properly nested in every function. -/
theorem nests_everything (env : Env) :
    Everything (m := M) env (Tracks Nests NestsHalted) :=
  ((nests_steps env).tracking nestsHalted_after).toSteering.everything
    (nests_steps env).toTrafficSteps.modifyTimer
    fun fuel hwait => hwait.internalResubscribe fuel fun he w =>
      nests_push (by rw [he w.client]; decide) w

/-! ## What a stretch shows -/

/-- What `window` lets through of the events outside the handlers of a stretch. -/
def shown {α : Type} (window : Event → Option α) (new : List Event) : List α :=
  (outside 0 new).filterMap window

/-- A stretch that returned shows `seen`. -/
def Shows {α : Type} (window : Event → Option α) (seen : List α) (w w' : World) : Prop :=
  ∃ new, Extends w new w' ∧ Balanced new ∧ shown window new = seen

/-- A stretch that did not return shows `seen`. -/
def ShowsHalted {α : Type} (window : Event → Option α) (seen : List α) (w w' : World) : Prop :=
  ∃ new, Extends w new w' ∧ Unfinished new ∧ shown window new = seen

section Shows

variable {α : Type} {window : Event → Option α} {seen seen' : List α} {w w₁ w' : World}

theorem shown_append {new : List Event} (h : Balanced new) (more : List Event) :
    shown window (new ++ more) = shown window new ++ shown window more := by
  unfold shown
  rw [h.outside_append, List.filterMap_append]

theorem Shows.trans (h : Shows window seen w w₁) (h' : Shows window seen' w₁ w') :
    Shows window (seen ++ seen') w w' := by
  obtain ⟨new, hnew, hbalanced, hseen⟩ := h
  obtain ⟨more, hmore, hbalanced', hseen'⟩ := h'
  exact ⟨new ++ more, hnew.trans hmore, hbalanced.append hbalanced',
    by rw [shown_append hbalanced, hseen, hseen']⟩

theorem Shows.halted (h : Shows window seen w w₁) (h' : ShowsHalted window seen' w₁ w') :
    ShowsHalted window (seen ++ seen') w w' := by
  obtain ⟨new, hnew, hbalanced, hseen⟩ := h
  obtain ⟨more, hmore, hunfinished, hseen'⟩ := h'
  exact ⟨new ++ more, hnew.trans hmore, hbalanced.unfinished hunfinished,
    by rw [shown_append hbalanced, hseen, hseen']⟩

theorem Shows.of_log (h : w'.log = w.log) : Shows window [] w w' :=
  ⟨[], Extends.of_log h, Balanced.nil, rfl⟩

theorem Shows.congr (h : Shows window seen w w₁) (hlog : w'.log = w₁.log) :
    Shows window seen w w' := by
  obtain ⟨new, hnew, hseen⟩ := h
  exact ⟨new, hnew.congr hlog, hseen⟩

/-- Nothing is shown. -/
instance : IsPreorder World (Shows window []) where
  refl _ := Shows.of_log rfl
  trans _ _ _ h h' := h.trans h'

theorem showsHalted_after (window : Event → Option α) :
    HaltsAfter (Shows window []) (ShowsHalted window []) where
  refl w := ⟨[], Extends.refl w, Unfinished.nil, rfl⟩
  trans h h' := h.halted h'

theorem shows_push (window : Event → Option α) {e : Event} (he : e.kind ≠ .handler) (w : World) :
    Shows window (window e).toList w (w.push e) := by
  refine ⟨[e], (Extends.refl w).push e, Balanced.single he, ?_⟩
  show List.filterMap window ([e] ++ []) = _
  cases hwindow : window e <;> simp [hwindow]

/-- A window that lets no traffic through shows none. -/
theorem shows_steps (h : ∀ e : Event, e.kind = .traffic → window e = none) :
    TrafficSteps (Shows window []) where
  onClient _ _ _ := Shows.of_log rfl
  tick _ := Shows.of_log rfl
  push w e he := by
    have hpush := shows_push window (e := e) (by rw [he]; decide) w
    rw [h e he] at hpush
    exact hpush

theorem Shows.stretch (h : Shows window seen w w') : shown window (w.stretch w') = seen := by
  obtain ⟨new, hnew, -, hseen⟩ := h
  rw [hnew.stretch, hseen]

theorem ShowsHalted.stretch (h : ShowsHalted window seen w w') :
    shown window (w.stretch w') = seen := by
  obtain ⟨new, hnew, -, hseen⟩ := h
  rw [hnew.stretch, hseen]

end Shows

/-! ## Deliveries -/

/-- The handler that a pass over slot `itr` calls, and with what. -/
def slotCall (c : Client) (msg : IncomingPublish) (itr : Nat) : Option HandlerCall :=
  match (c.messageHandlers itr).topicName, (c.messageHandlers itr).pApplicationHandler with
  | some filter, some handler =>
      if slotMatches c.readBuf msg.topicName msg.topicNameLen (c.messageHandlers itr) filter then
        some (handlerCall c.readBuf msg itr handler
          (c.messageHandlers itr).pApplicationHandlerData)
      else none
  | _, _ => none

/-- A pass over a slot calls the handler that `slotCall` says, or does nothing. -/
theorem ends_deliverToSlot {callbacks : Callbacks M} {msg : IncomingPublish} {itr : Nat}
    {w : World} {Q : Unit → World → Prop} {H : World → Prop} :
    (deliverToSlot callbacks msg itr : M Unit).Ends w Q H ↔
      match slotCall w.client msg itr with
      | none => Q () w
      | some call => (callbacks.message call).Ends (w.push (.handlerCalled call))
          (fun _ w' => Q () (w'.push .handlerReturned)) H := by
  unfold deliverToSlot slotCall
  simp only [ends_bind, ends_getClient]
  cases (w.client.messageHandlers itr).topicName with
  | none => exact Iff.rfl
  | some filter =>
    cases (w.client.messageHandlers itr).pApplicationHandler with
    | none => exact Iff.rfl
    | some handler =>
      dsimp only
      split
      · simp only [ends_bind, ends_emit, ends_within]
      · exact Iff.rfl

section Deliveries

variable {callbacks : Callbacks M}
  (hmessage : ∀ call, Tracks Nests NestsHalted (callbacks.message call))
include hmessage

/-- Outside its handler, a pass over slot `itr` only calls it. -/
theorem deliverToSlot_shows {α : Type} (window : Event → Option α) (msg : IncomingPublish)
    (itr : Nat) (w : World) :
    (deliverToSlot callbacks msg itr : M Unit).Ends w
      (fun _ w' => Shows window
        ((slotCall w.client msg itr).bind fun call => window (.handlerCalled call)).toList w w')
      (ShowsHalted window
        ((slotCall w.client msg itr).bind fun call => window (.handlerCalled call)).toList w) := by
  rw [ends_deliverToSlot]
  cases slotCall w.client msg itr with
  | none => exact Shows.of_log rfl
  | some call =>
    have hcalled : List.filterMap window [.handlerCalled call] =
        (window (.handlerCalled call)).toList := by
      cases hwindow : window (.handlerCalled call) <;> simp [hwindow]
    refine (hmessage _ _).mono ?_ ?_
    · rintro - w' ⟨new, hnew, hbalanced⟩
      refine ⟨_, ?_, hbalanced.handler call, by rw [shown, hbalanced.outside_handler, hcalled]; rfl⟩
      exact (((Extends.refl w).push _).trans hnew).push _
    · rintro w' ⟨new, hnew, hunfinished⟩
      obtain ⟨hunfinished', houtside⟩ := hunfinished.handler call
      refine ⟨.handlerCalled call :: new, ?_, hunfinished', by rw [shown, houtside, hcalled]; rfl⟩
      exact ((Extends.refl w).push _).trans hnew

theorem deliverToSlot_nests (msg : IncomingPublish) (itr : Nat) :
    Tracks Nests NestsHalted (deliverToSlot callbacks msg itr : M Unit) := by
  intro w
  refine (deliverToSlot_shows hmessage (fun _ => (none : Option Unit)) msg itr w).mono ?_ ?_
  · rintro - w' ⟨new, hnew, hbalanced, -⟩
    exact ⟨new, hnew, hbalanced⟩
  · rintro w' ⟨new, hnew, hunfinished, -⟩
    exact ⟨new, hnew, hunfinished⟩

theorem deliverMessage_nests (env : Env) (msg : IncomingPublish) :
    Tracks Nests NestsHalted (deliverMessage env callbacks msg : M IoTError) := by
  have hall := (nests_steps env).tracking nestsHalted_after
  refine hall.bind hall.getClientState fun s => hall.bind (hall.setClientState _ _ _) fun _ => ?_
  refine hall.bind (hall.forEach (deliverToSlot_nests hmessage msg) _) fun _ => ?_
  exact hall.setClientState _ _ _

end Deliveries

/-! ## Calls -/

/-- Properly nested handlers are called by properly nested work. -/
theorem serving_of_nests {callbacks : Callbacks M}
    (hmessage : ∀ call, Tracks Nests NestsHalted (callbacks.message call)) (env : Env) :
    Serving env callbacks (Tracks Nests NestsHalted) := by
  have hprim := (nests_steps env).tracking nestsHalted_after
  have hwait : Waiting env callbacks (Tracks Nests NestsHalted) :=
    (nests_steps env).waiting nestsHalted_after (deliverMessage_nests hmessage env)
  exact hwait.serving hprim.init

theorem nests_apiCall (env : Env) (fuel depth : Nat) (call : ApiCall) :
    Tracks Nests NestsHalted (apiCall env fuel depth call : M IoTError) :=
  (nests_everything env).apiCall fuel
    (fun he w => nests_push (by rw [he w.client]; decide) w)
    (fun _ ih => serving_of_nests ((nests_everything env).applicationCallbacks fuel ih).1 env)
    depth call

/-- Handlers that call the client are properly nested. -/
theorem nests_message (env : Env) (fuel depth : Nat) :
    ∀ call, Tracks Nests NestsHalted
      ((applicationCallbacks env fuel (apiCall env fuel depth)).message call) :=
  ((nests_everything env).applicationCallbacks fuel (nests_apiCall env fuel depth)).1

end AwsIot.Mqtt
