/-
  Shadow/TopicPointers.lean --- the shadow layer with its topics where they are.

  `aws_iot_mqtt_subscribe` keeps the address of the filter it is passed, not a copy.  In `M`
  a slot of the handler table holds the filter itself; in `PointerM` it holds where the
  filter was, and the client finds there what is there when it looks.  The code is the same:
  `PointerM` is another meaning of what it is written over.

  The filters of the shadow layer are in static storage, apart from the one in the array
  `deleteAcceptedTopic` of `aws_iot_shadow_connect`, which holds anything after the return.
-/
import AwsIot.Shadow.Traversal

set_option autoImplicit false

namespace AwsIot.Shadow

open AwsIot.Foundation AwsIot.Mqtt Program

/-! ## Addresses -/

/-- Where a topic is. -/
inductive TopicPointer where
  /-- In static storage. -/
  | static (buffer : TopicBuffer)
  /-- In the array of a function, by the number of the array. -/
  | array (number : Nat)
  deriving DecidableEq, Repr

/-- A filter that the client was passed: where it is, and what it was. -/
structure PassedTopic where
  /-- The address. -/
  pointer : TopicPointer
  /-- The filter that is subscribed to. -/
  topic : List UInt8
  deriving DecidableEq, Repr

/-- What the client found when it looked at a slot in use. -/
structure SlotRead where
  /-- The slot. -/
  slot : Nat
  /-- What its `topicName` points to. -/
  found : List UInt8
  /-- The filter it was subscribed with. -/
  subscribed : List UInt8
  deriving DecidableEq, Repr

/-- What became of a topic. -/
structure TopicChange where
  /-- Where it is. -/
  pointer : TopicPointer
  /-- What it was. -/
  before : List UInt8
  /-- What was written over it, `none` if its array is gone. -/
  after : Option (List UInt8)
  /-- The filters of the slots in use and of the calls under way. -/
  inUse : List PassedTopic
  deriving DecidableEq, Repr

/-- The topic stayed the same, or nothing points to it. -/
def TopicChange.Harmless (c : TopicChange) : Prop :=
  c.after = some c.before ∨ ∀ p ∈ c.inUse, p.pointer ≠ c.pointer

instance (c : TopicChange) : Decidable c.Harmless := inferInstanceAs (Decidable (_ ∨ _))

/-! ## The state -/

/-- A program and its surroundings, with the topics where they are.  Of the topic names that
`world` has in the handler table only those that are NULL count. -/
structure PointerWorld where
  /-- The program and its surroundings. -/
  world : World
  /-- What was stored in the slots. -/
  slots : List (Nat × PassedTopic)
  /-- What was passed to the calls of the client that are under way, innermost first. -/
  passed : List PassedTopic
  /-- The topics in the arrays of functions that have not returned. -/
  arrays : Nat → Option (List UInt8)
  /-- The number of the next array. -/
  nextArray : Nat
  /-- What is found where an array was, after so many questions. -/
  remains : Nat → Nat → List UInt8
  /-- What the client has found in its slots, newest first. -/
  reads : List SlotRead
  /-- What has become of the topics, newest first. -/
  changes : List TopicChange

namespace PointerWorld

/-- The topic that is at an address, `none` where an array was. -/
def contents (w : PointerWorld) : TopicPointer → Option (List UInt8)
  | .static buffer => some (w.world.shadow.topicIn buffer)
  | .array number => w.arrays number

/-- What is found at an address. -/
def textAt (w : PointerWorld) (pointer : TopicPointer) : List UInt8 :=
  match pointer with
  | .static buffer => w.world.shadow.topicIn buffer
  | .array number => (w.arrays number).getD (w.remains w.world.time number)

/-- The slots in use, each with what was stored in it. -/
def usedSlots (w : PointerWorld) : List (Nat × PassedTopic) :=
  w.slots.filter fun p => (w.world.client.messageHandlers p.1).topicName.isSome

/-- The filters of the slots in use and of the calls under way. -/
def inUse (w : PointerWorld) : List PassedTopic := w.usedSlots.map (·.2) ++ w.passed

/-- A slot as the client finds it. -/
def slot (w : PointerWorld) (i : Nat) : MessageHandlers :=
  let handler := w.world.client.messageHandlers i
  match w.slots.lookup i with
  | some p => { handler with topicName := handler.topicName.map fun _ => ⟨w.textAt p.pointer⟩ }
  | none => handler

/-- The client as its code finds it. -/
def client (w : PointerWorld) : Client := { w.world.client with messageHandlers := w.slot }

/-- Replace the program and its surroundings by their image under `f`. -/
def onWorld (w : PointerWorld) (f : World → World) : PointerWorld := { w with world := f w.world }

/-- The client looks at its slots. -/
def look (w : PointerWorld) : PointerWorld :=
  { w with reads := (w.usedSlots.map fun p => ⟨p.1, w.textAt p.2.pointer, p.2.topic⟩) ++ w.reads }

/-- A subscribe stores the filter that the innermost call was passed. -/
def store (w : PointerWorld) (e : Event) : PointerWorld :=
  match e with
  | .registered i _ =>
      { w with
        slots := (w.passed.head?.toList.map fun p => (i, p)) ++ w.slots.filter fun p => p.1 ≠ i }
  | _ => w

/-- A topic is written over, or its array is gone. -/
def change (w : PointerWorld) (pointer : TopicPointer) (before : List UInt8)
    (after : Option (List UInt8)) : PointerWorld :=
  { w with changes := ⟨pointer, before, after, w.inUse⟩ :: w.changes }

/-- A call of the client is passed `p`. -/
def pass (w : PointerWorld) (p : PassedTopic) : PointerWorld := { w with passed := p :: w.passed }

/-- The innermost call of the client returns. -/
def unpass (w : PointerWorld) : PointerWorld := { w with passed := w.passed.tail }

/-- A function is entered that has an array, and writes `topic` to it. -/
def enter (w : PointerWorld) (topic : List UInt8) : PointerWorld :=
  { w with
    arrays := Function.update w.arrays w.nextArray (some topic)
    nextArray := w.nextArray + 1 }

/-- The function returns whose array is `number`. -/
def leave (w : PointerWorld) (number : Nat) : PointerWorld :=
  { w with arrays := Function.update w.arrays number none }

/-- The start of a run. -/
def start (remains : Nat → Nat → List UInt8) : PointerWorld :=
  ⟨.start, [], [], fun _ => none, 0, remains, [], []⟩

end PointerWorld

/-! ## Programs -/

/-- Programs whose topics are where they are. -/
abbrev PointerM := Program PointerWorld

instance : ClientOps PointerM where
  getClient := fun w => .done w.client w.look
  modifyClient f := fun w => .done () (w.look.onWorld fun v => v.onClient fun _ => f w.client)
  ask f := fun w => .done (f w.world.time) (w.onWorld World.tick)
  emit e := fun w => .done () ((w.onWorld fun v => v.push (e w.client)).store (e w.client))
  getClientState := fun w => .done w.world.client.clientState w
  setClientState _ expectedCurrentState newState := fun w =>
    if expectedCurrentState = w.world.client.clientState then
      .done .success (w.onWorld fun v => v.withState newState)
    else .done .mqttUnexpectedClientStateError w
  assignClientState newState := fun w => .done () (w.onWorld fun v => v.withState newState)
  within _ x := x

/-- Run a call of the client that is passed `p`. -/
def passTopic {α : Type} (p : PassedTopic) (x : CharPtr → PointerM α) : PointerM α := fun w =>
  match x ⟨p.topic⟩ (w.pass p) with
  | .done a w' => .done a w'.unpass
  | .halted w' => .halted w'

/-- Run a call of the client in a function whose array holds `topic`, and return from it. -/
def passArray {α : Type} (topic : List UInt8) (x : CharPtr → PointerM α) : PointerM α := fun w =>
  match passTopic ⟨.array w.nextArray, topic⟩ x (w.enter topic) with
  | .done a w' => .done a ((w'.change (.array w.nextArray) topic none).leave w.nextArray)
  | .halted w' => .halted w'

instance : ShadowOps PointerM where
  getRecords := fun w => .done w.world.shadow w
  modifyRecords f := fun w => .done () (w.onWorld fun v => v.onShadow f)
  storeTopic buffer topic := fun w =>
    .done () ((w.change (.static buffer) (w.world.shadow.topicIn buffer) (some topic)).onWorld
      fun v => v.onShadow fun s => s.storeTopic buffer topic)
  passing buffer topic x := fun w =>
    match buffer with
    | some buffer => passTopic ⟨.static buffer, w.world.shadow.topicIn buffer⟩ x w
    | none => passArray topic x w

/-- The world after an application's first calls. -/
def PointerWorld.after (env : ShadowEnv) (fuel : Nat) (remains : Nat → Nat → List UInt8)
    (calls : List ShadowCall) : PointerWorld :=
  ((shadowApplication env fuel calls : PointerM Unit).run (.start remains)).state

section Rules

variable {w : PointerWorld} {H : PointerWorld → Prop}

@[simp] theorem pointer_ends_getClient {Q : Client → PointerWorld → Prop} :
    (getClient : PointerM Client).Ends w Q H ↔ Q w.client w.look := Iff.rfl

@[simp] theorem pointer_ends_modifyClient {f : Client → Client} {Q : Unit → PointerWorld → Prop} :
    (modifyClient f : PointerM Unit).Ends w Q H ↔
      Q () (w.look.onWorld fun v => v.onClient fun _ => f w.client) := Iff.rfl

@[simp] theorem pointer_ends_emit {e : Client → Event} {Q : Unit → PointerWorld → Prop} :
    (emit e : PointerM Unit).Ends w Q H ↔
      Q () ((w.onWorld fun v => v.push (e w.client)).store (e w.client)) := Iff.rfl

@[simp] theorem pointer_ends_setClientState {site : StateSite} {old new : ClientState}
    {Q : IoTError → PointerWorld → Prop} :
    (setClientState site old new : PointerM IoTError).Ends w Q H ↔
      if old = w.world.client.clientState then Q .success (w.onWorld fun v => v.withState new)
      else Q .mqttUnexpectedClientStateError w := by
  by_cases h : old = w.world.client.clientState <;>
    simp [setClientState, Ends, h]

@[simp] theorem ends_passTopic {α : Type} {p : PassedTopic} {x : CharPtr → PointerM α}
    {Q : α → PointerWorld → Prop} :
    (passTopic p x).Ends w Q H ↔ (x ⟨p.topic⟩).Ends (w.pass p) (fun a w' => Q a w'.unpass) H := by
  unfold Ends passTopic
  cases x ⟨p.topic⟩ (w.pass p) <;> rfl

@[simp] theorem ends_passArray {α : Type} {topic : List UInt8} {x : CharPtr → PointerM α}
    {Q : α → PointerWorld → Prop} :
    (passArray topic x).Ends w Q H ↔
      (passTopic ⟨.array w.nextArray, topic⟩ x).Ends (w.enter topic)
        (fun a w' => Q a ((w'.change (.array w.nextArray) topic none).leave w.nextArray)) H := by
  unfold Ends passArray
  cases passTopic ⟨.array w.nextArray, topic⟩ x (w.enter topic) <;> rfl

end Rules

end AwsIot.Shadow
