/-
  Mqtt/Bag.lean --- what the handler table is for.

  An application sees a bag of subscriptions: subscribing adds one, unsubscribing
  takes out all that have the filter, and a message that arrives is owed to every
  subscription whose filter is its topic name or matches it.  The handler table
  stands for such a bag (`MessageHandlers.subscription`); where a subscription is
  stored, and what freed slots still hold, does not matter.
-/
import AwsIot.Foundation.SlotTable
import AwsIot.Mqtt.Answer
import AwsIot.Mqtt.Nesting
import AwsIot.Mqtt.TopicMatching

set_option autoImplicit false

namespace AwsIot.Mqtt

open AwsIot.Foundation Program

/-! ## Subscriptions -/

/-- A subscription as the application asked for it. -/
structure Subscription where
  /-- The topic filter. -/
  filter : List UInt8
  /-- The handler. -/
  handler : Nat
  /-- The data registered with it. -/
  data : Nat
  deriving DecidableEq, Repr

/-- The subscriptions of a client. -/
abbrev Bag := Multiset Subscription

/-- The filter takes the topic name: their levels match, and each wildcard stands against a
level of the name that exists and is not empty.  A text that is no topic filter has no such
meaning; what it takes is left to the client's own test. -/
def filterTakes (filter topicName : List UInt8) : Bool :=
  if WellPlaced (topicLevels filter) then
    FilterMatches filter topicName ∧ FilterFilled filter topicName
  else isTopicMatched filter topicName

/-- The filter is the topic name or takes it. -/
def Subscription.wants (s : Subscription) (topicName : List UInt8) : Bool :=
  s.filter = topicName || filterTakes s.filter topicName

/-- A handler called for a topic name. -/
structure Invocation where
  /-- The handler. -/
  handler : Nat
  /-- Its data. -/
  data : Nat
  /-- The topic name. -/
  topicName : List UInt8
  deriving DecidableEq, Repr

/-- What a call of a handler is for the application. -/
def HandlerCall.invocation (call : HandlerCall) : Invocation :=
  ⟨call.handler, call.data, call.topicName⟩

/-- The call that a subscription is owed for a topic name. -/
def Subscription.invocation (s : Subscription) (topicName : List UInt8) : Option Invocation :=
  if s.wants topicName then some ⟨s.handler, s.data, topicName⟩ else none

/-- The topic name of a PUBLISH packet that the parser accepts. -/
def publishedTopic (rxBufLen : Nat) (packet : List UInt8) : Option (List UInt8) :=
  let rxBuf := Memory.writeAt (fun _ => 0) 0 packet
  match deserializePublish rxBuf rxBufLen with
  | .error _ => none
  | .ok msg => some (rxBuf.slice msg.topicName msg.topicNameLen.toNat)

namespace Bag

/-- The calls that are owed for a packet. -/
def owed (bag : Bag) (rxBufLen : Nat) (packet : List UInt8) : Multiset Invocation :=
  match publishedTopic rxBufLen packet with
  | none => 0
  | some topicName => bag.filterMap fun s => s.invocation topicName

/-- The bag after a call that returned `rc`. -/
def after (bag : Bag) : ApiCall → IoTError → Bag
  | .init params, _ => if params.complete then 0 else bag
  | .subscribe (some topicName) _ _ (some handler) data, .success =>
      ⟨topicName.chars, handler, data⟩ ::ₘ bag
  | .unsubscribe (some topicFilter) _, .success => bag.filter fun s => s.filter ≠ topicFilter.chars
  | _, _ => bag

/-- The calls still owed after a stretch, oldest event first, that begins with `pending` ones.
A packet that is read while calls are owed, and a call that is not owed, have no place. -/
def settle (bag : Bag) (rxBufLen : Nat) :
    Multiset Invocation → List Event → Option (Multiset Invocation)
  | pending, [] => some pending
  | pending, .packetRead packet :: rest =>
      if pending = 0 then settle bag rxBufLen (bag.owed rxBufLen packet) rest else none
  | pending, .handlerCalled call :: rest =>
      if call.invocation ∈ pending then
        settle bag rxBufLen (pending.erase call.invocation) rest
      else none
  | pending, _ :: rest => settle bag rxBufLen pending rest

/-- In a stretch every packet is followed, before the next one, by exactly the calls owed for
it. -/
def Delivered (bag : Bag) (rxBufLen : Nat) (new : List Event) : Prop :=
  bag.settle rxBufLen 0 new = some 0

/-- As `Delivered`, for a stretch that may break off while calls are owed. -/
def Delivering (bag : Bag) (rxBufLen : Nat) (new : List Event) : Prop :=
  (bag.settle rxBufLen 0 new).isSome = true

variable {bag : Bag} {rxBufLen : Nat} {new more : List Event}

/-- A call that fails, and is not an initialisation, leaves the bag as it is. -/
theorem after_of_failure (bag : Bag) {call : ApiCall} {rc : IoTError} (hrc : rc ≠ .success)
    (hcall : ∀ params, call ≠ .init params) : bag.after call rc = bag := by
  unfold after
  split
  · exact absurd rfl (hcall _)
  · exact absurd rfl hrc
  · exact absurd rfl hrc
  · rfl

theorem settle_append (bag : Bag) (rxBufLen : Nat) (new more : List Event) :
    ∀ pending, bag.settle rxBufLen pending (new ++ more) =
      (bag.settle rxBufLen pending new).bind fun left => bag.settle rxBufLen left more := by
  induction new with
  | nil => intro pending; rfl
  | cons e new ih =>
    intro pending
    cases e with
    | packetRead packet =>
      rw [List.cons_append, settle, settle]
      split
      · exact ih _
      · rfl
    | handlerCalled call =>
      rw [List.cons_append, settle, settle]
      split
      · exact ih _
      · rfl
    | _ => exact ih pending

theorem settle_cons {e : Event} (hpacket : e.kind ≠ .packet) (hhandler : e.kind ≠ .handler)
    (pending : Multiset Invocation) (rest : List Event) :
    bag.settle rxBufLen pending (e :: rest) = bag.settle rxBufLen pending rest := by
  cases e <;> first | rfl | exact absurd rfl hpacket | exact absurd rfl hhandler

theorem Delivered.append (h : bag.Delivered rxBufLen new) (h' : bag.Delivered rxBufLen more) :
    bag.Delivered rxBufLen (new ++ more) := by
  unfold Delivered at *
  rw [settle_append, h]
  exact h'

theorem Delivered.delivering (h : bag.Delivered rxBufLen new) (h' : bag.Delivering rxBufLen more) :
    bag.Delivering rxBufLen (new ++ more) := by
  unfold Delivered Delivering at *
  rw [settle_append, h]
  exact h'

theorem delivered_single {e : Event} (hpacket : e.kind ≠ .packet) (hhandler : e.kind ≠ .handler) :
    bag.Delivered rxBufLen [e] := settle_cons hpacket hhandler 0 []

end Bag

/-! ## The bag of a table -/

/-- The subscription that a slot stands for. -/
def MessageHandlers.subscription (slot : MessageHandlers) : Option Subscription :=
  match slot.topicName, slot.pApplicationHandler with
  | some filter, some handler => some ⟨filter.chars, handler, slot.pApplicationHandlerData⟩
  | _, _ => none

/-- The bag that the first `n` slots of a handler table stand for. -/
def bagOf (n : Nat) (table : Nat → MessageHandlers) : Bag :=
  contents n fun slot => (table slot).subscription

/-- A used slot has a handler, and its filter is a C string of the stated length. -/
def MessageHandlers.IsProper (slot : MessageHandlers) : Prop :=
  ∀ filter, slot.topicName = some filter →
    slot.pApplicationHandler ≠ none ∧ filter.chars.length = slot.topicNameLen.toNat

/-- Every used slot is proper. -/
def ProperTable (table : Nat → MessageHandlers) : Prop := ∀ slot, (table slot).IsProper

section Table

variable {n : Nat} {table : Nat → MessageHandlers}

theorem MessageHandlers.IsProper.subscription_eq_none_iff {slot : MessageHandlers}
    (h : slot.IsProper) : slot.subscription = none ↔ slot.topicName = none := by
  unfold MessageHandlers.subscription
  cases hname : slot.topicName with
  | none => simp
  | some filter =>
    cases hhandler : slot.pApplicationHandler with
    | none => exact absurd hhandler (h filter hname).1
    | some handler => simp

theorem MessageHandlers.isProper_of_free {slot : MessageHandlers} (h : slot.topicName = none) :
    slot.IsProper := by
  intro filter hname
  rw [h] at hname
  cases hname

/-- The table is full exactly if the bag is. -/
theorem card_bagOf_eq_iff (h : ProperTable table) :
    Multiset.card (bagOf n table) = n ↔ ∀ slot < n, (table slot).topicName ≠ none := by
  unfold bagOf
  rw [card_contents_eq_iff]
  exact forall_congr' fun slot => imp_congr_right fun _ =>
    not_congr (h slot).subscription_eq_none_iff

/-- Filling a free slot adds its subscription to the bag. -/
theorem bagOf_update {slot : Nat} (hslot : slot < n) (hfree : (table slot).topicName = none)
    {handler : MessageHandlers} {s : Subscription} (hs : handler.subscription = some s) :
    bagOf n (Function.update table slot handler) = s ::ₘ bagOf n table := by
  have hnone : (table slot).subscription = none := by
    unfold MessageHandlers.subscription
    rw [hfree]
  have hsubs : (fun k => (Function.update table slot handler k).subscription) =
      Function.update (fun k => (table k).subscription) slot (some s) := by
    funext k
    by_cases hk : k = slot
    · rw [hk, Function.update_self, Function.update_self, hs]
    · rw [Function.update_of_ne hk, Function.update_of_ne hk]
  unfold bagOf
  rw [hsubs, contents_update hslot hnone]

theorem ProperTable.update (h : ProperTable table) (slot : Nat) {handler : MessageHandlers}
    (hproper : handler.IsProper) : ProperTable (Function.update table slot handler) := by
  intro k
  by_cases hk : k = slot
  · rw [hk, Function.update_self]
    exact hproper
  · rw [Function.update_of_ne hk]
    exact h k

/-- Emptying the slots with a filter takes its subscriptions out of the bag. -/
theorem bagOf_clearEqual (filter : CharPtr) :
    bagOf n (clearEqual n filter table) =
      (bagOf n table).filter fun s => s.filter ≠ filter.chars := by
  unfold bagOf
  rw [← contents_filter]
  refine contents_congr fun slot hslot => ?_
  unfold clearEqual MessageHandlers.subscription
  cases hname : (table slot).topicName with
  | none => simp [hname]
  | some name =>
    dsimp only
    by_cases heq : name.chars = filter.chars
    · rw [if_pos ⟨hslot, by simp [CharPtr.strEq, heq]⟩]
      cases hhandler : (table slot).pApplicationHandler with
      | none => simp
      | some handler => simp [Option.filter, heq]
    · rw [if_neg (by simp [CharPtr.strEq, heq])]
      cases hhandler : (table slot).pApplicationHandler with
      | none => simp [hname]
      | some handler => simp [hname, Option.filter, heq]

theorem ProperTable.clearEqual (h : ProperTable table) (filter : CharPtr) :
    ProperTable (clearEqual n filter table) := by
  intro slot
  unfold Mqtt.clearEqual
  split
  case h_1 =>
    split
    · exact MessageHandlers.isProper_of_free rfl
    · exact h slot
  case h_2 => exact h slot

theorem bagOf_emptyHandlers : bagOf n (emptyHandlers n table) = 0 := by
  refine contents_eq_zero fun slot hslot => ?_
  unfold emptyHandlers MessageHandlers.subscription
  rw [if_pos hslot]

theorem ProperTable.emptyHandlers (h : ProperTable table) :
    ProperTable (emptyHandlers n table) := by
  intro slot
  unfold Mqtt.emptyHandlers
  split
  · exact MessageHandlers.isProper_of_free rfl
  · exact h slot

end Table

end AwsIot.Mqtt
