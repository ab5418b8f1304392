/-
  Shadow/DeltaDispatch.lean --- a delta message is dispatched to the registered keys.

  The loop of `shadow_delta_callback` searches the receive buffer and the token array for one
  registered key after the other.  Both are static: a callback that makes a request has the
  document of that request parsed into the same array, and what arrives while the request
  waits goes into the same buffer.  As long as no callback changes what is found for the keys
  behind its own, and the first string that reads a key is the name of a member of the state,
  every key in the state has its callback called once, in the order of registration, with what
  the message says (`dispatch_independent`).
-/
import AwsIot.Shadow.DeltaVersion

set_option autoImplicit false

namespace AwsIot.Shadow

open AwsIot.Foundation AwsIot.Mqtt Program

/-! ## A dispatch -/

/-- Receiving a message: its document goes into the receive buffer and is parsed. -/
def receiveDelta (env : ShadowEnv) (call : HandlerCall) : M (Option Nat) := do
  receiveDocument call.payload
  isJsonValidAndParse env (rxDocument env.config (← getRecords))

/-- From `w` a delta message, the document `doc`, is received into `w₁`, it is not discarded,
and the world is `w'` when all callbacks have returned. -/
structure Dispatch (env : ShadowEnv) (fuel depth : Nat) (call : HandlerCall) (doc : Document)
    (w w₁ w' : World) : Prop where
  /-- The message fits the receive buffer. -/
  fits : call.payload.length ≤ env.config.shadowMaxSizeOfRxBuffer
  /-- The parser finds its tokens. -/
  receives : (receiveDelta env call).run w = .done (some doc.tokens.length) w₁
  /-- It is what the buffer starts with. -/
  text : doc.text = rxDocument env.config w₁.shadow
  /-- The parser is right about it. -/
  parses : doc.Parses env
  /-- It is not discarded. -/
  accepted : (newVersion w₁.shadow (versionNumber env (rxDocument env.config w₁.shadow)
    w₁.shadow.jsonTokenStruct doc.tokens.length)).isSome = true
  /-- The registration table has its size. -/
  size : w.shadow.tokenTableIndex ≤ env.config.maxJsonTokenExpected
  /-- The handler returns. -/
  returns : (shadowDeltaCallback env (handlersAt env fuel depth) call : M Unit).run w = .done () w'

/-- The member of a delta's state with the name `key`. -/
def Document.stateMember (doc : Document) (key : List UInt8) : Option (JsmnToken × Json) :=
  match doc.top (ascii "state") with
  | some (_, .object _ _ members) => members.find fun name => jsoneq doc.text name key
  | _ => none

/-- What happened from `w` to `w'`, newest first. -/
def newEvents (w w' : World) : List ShadowEvent :=
  w'.shadow.log.take (w'.shadow.log.length - w.shadow.log.length)

/-- What was done for the message that came `received` events after the start, in order. -/
def eventsOf (received : Nat) (events : List ShadowEvent) : List ShadowEvent :=
  (events.filter fun e => e.dispatchOf? = some received).reverse

/-- The value that a callback of entry `index` was called with. -/
def ShadowEvent.calledBack? (index : Nat) : ShadowEvent → Option (List UInt8)
  | .deltaCalledBack _ i value => if i = index then some value else none
  | _ => none

/-- The events are, entry by entry, what the message says: nothing if the entry is not in use
or its key no member of the state, or else an update of the variable, to the value of the
member if the type is scalar, and a call of the callback, if there is one, with the text of
the value. -/
inductive Dispatches (env : ShadowEnv) (doc : Document) (s : Records) (received : Nat) :
    List Nat → List ShadowEvent → Prop
  | nil : Dispatches env doc s received [] []
  | absent {index : Nat} {indices : List Nat} {events : List ShadowEvent}
      (habsent : (s.tokenTable index).isFree = false →
        doc.stateMember (s.tokenTable index).pStruct.pKey = none)
      (hrest : Dispatches env doc s received indices events) :
      Dispatches env doc s received (index :: indices) events
  | found {index : Nat} {indices : List Nat} {events : List ShadowEvent} {name : JsmnToken}
      {value : Json} {data : ShadowData}
      (hused : (s.tokenTable index).isFree = false)
      (hmember : doc.stateMember (s.tokenTable index).pStruct.pKey = some (name, value))
      (hdata : (s.tokenTable index).pStruct.type.isScalar = true →
        literal env (s.tokenTable index).pStruct.type (doc.textOf value.token) = some data)
      (hrest : Dispatches env doc s received indices events) :
      Dispatches env doc s received (index :: indices)
        (.deltaUpdated received index data ::
          (if (s.tokenTable index).callback then
            [.deltaCalledBack received index (doc.textOf value.token)] else []) ++ events)

/-- The message was dispatched to the keys registered in `s` as it should be, whatever the
callbacks did. -/
structure Dispatched (env : ShadowEnv) (doc : Document) (s : Records) (received : Nat)
    (events : List ShadowEvent) : Prop where
  /-- All registered keys had their turn, in order, with what the message says. -/
  inOrder : Dispatches env doc s received (List.range s.tokenTableIndex) (eventsOf received events)
  /-- The callback of a key in the state is called once, with the value there. -/
  once : ∀ index < s.tokenTableIndex, (s.tokenTable index).isFree = false →
    (s.tokenTable index).callback = true → ∀ name value,
    doc.stateMember (s.tokenTable index).pStruct.pKey = some (name, value) →
    (eventsOf received events).filterMap (ShadowEvent.calledBack? index) =
      [doc.textOf value.token]

/-- The first string in the document that reads the key, if any, is the name of the state's
member; if the type is scalar, its value is a literal of the type. -/
def StateNamedFirst (env : ShadowEnv) (doc : Document) (pDataStruct : JsonStruct) : Prop :=
  match doc.stateMember pDataStruct.pKey with
  | none => doc.tokens.tail.find? (jsoneq doc.text · pDataStruct.pKey) = none
  | some (name, value) =>
      doc.tokens.tail.find? (jsoneq doc.text · pDataStruct.pKey) = some name ∧
        (pDataStruct.type.isScalar = true → value.token.type = .primitive ∧
          (literal env pDataStruct.type (doc.textOf value.token)).isSome = true)

/-! ## What is found -/

/-- The events are, entry by entry, what is looked up for it: nothing, or an update of the
variable to what the conversion of the value stores, if it stores something, and a call of the
callback, if there is one, with the text of the value. -/
inductive FollowsSearch (env : ShadowEnv) (s : Records) (tokenCount received : Nat) :
    List Nat → List ShadowEvent → Prop
  | nil : FollowsSearch env s tokenCount received [] []
  | absent {index : Nat} {indices : List Nat} {events : List ShadowEvent}
      (habsent : lookUp env s tokenCount index = none)
      (hrest : FollowsSearch env s tokenCount received indices events) :
      FollowsSearch env s tokenCount received (index :: indices) events
  | found {index : Nat} {indices : List Nat} {events : List ShadowEvent} {value : List UInt8}
      {stored data : ShadowData}
      (hfound : lookUp env s tokenCount index = some (value, stored))
      (hdata : stored ≠ .unset → data = stored)
      (hrest : FollowsSearch env s tokenCount received indices events) :
      FollowsSearch env s tokenCount received (index :: indices)
        (.deltaUpdated received index data ::
          (if (s.tokenTable index).callback then [.deltaCalledBack received index value]
            else []) ++ events)

section LookUp

variable {env : ShadowEnv} {s : Records} {tokenCount index : Nat}

/-- What a variable held matters only if the conversion stores nothing. -/
theorem updateValueIfNoObject_unset (env : ShadowEnv) (json : List UInt8)
    (type : JsonPrimitiveType) (pData : ShadowData) (token : JsmnToken) :
    (updateValueIfNoObject env json type .unset token).2 ≠ .unset →
      (updateValueIfNoObject env json type pData token).2 =
        (updateValueIfNoObject env json type .unset token).2 := by
  unfold updateValueIfNoObject
  cases type with
  | string | object => exact fun h => absurd rfl h
  | _ =>
    dsimp only
    split
    · exact fun _ => rfl
    · exact fun h => absurd rfl h

/-- What the loop finds for an entry in use is what is looked up. -/
theorem isJsonKeyMatchingAndUpdateValue_lookUp (env : ShadowEnv) (tokenCount : Nat)
    (hused : (s.tokenTable index).isFree = false) (pData : ShadowData) :
    match isJsonKeyMatchingAndUpdateValue env (rxDocument env.config s) s.jsonTokenStruct
      tokenCount (s.tokenTable index).pStruct pData with
    | none => lookUp env s tokenCount index = none
    | some found => ∃ stored, lookUp env s tokenCount index =
        some (((rxDocument env.config s).drop found.dataPosition).take found.dataLength, stored) ∧
          (stored ≠ .unset → found.data = stored) := by
  unfold lookUp
  simp only [hused, Bool.false_eq_true, if_false, isJsonKeyMatchingAndUpdateValue_eq]
  cases keyIndex (rxDocument env.config s) s.jsonTokenStruct tokenCount
      (s.tokenTable index).pStruct.pKey with
  | none => rfl
  | some i => exact ⟨_, rfl, updateValueIfNoObject_unset env _ _ pData _⟩

theorem lookUp_free (hfree : (s.tokenTable index).isFree = true) :
    lookUp env s tokenCount index = none := by
  unfold lookUp
  exact if_pos hfree

/-- Members of the value of a member that is found. -/
theorem Members.members_of_find {reads : JsmnToken → Bool} {name : JsmnToken} {value : Json}
    {member : JsmnToken × Json} (hmember : member ∈ value.members) : ∀ members : Members,
    members.find reads = some (name, value) → member ∈ members.members
  | .nil, h => by cases h
  | .cons start stop first rest, h => by
      rw [Members.find] at h
      split at h
      case isTrue =>
        obtain ⟨-, rfl⟩ := Prod.mk.inj (Option.some.inj h)
        exact List.mem_append_left _ (List.mem_cons_of_mem _ hmember)
      case isFalse => exact List.mem_append_right _ (Members.members_of_find hmember rest h)

/-- A member of the state is a member in the document. -/
theorem Document.mem_of_stateMember {doc : Document} {key : List UInt8} {name : JsmnToken}
    {value : Json} (h : doc.stateMember key = some (name, value)) :
    (name, value) ∈ doc.root.members := by
  unfold Document.stateMember at h
  split at h
  case h_1 members htop =>
    exact Members.members_of_find (Members.mem_of_find members h).1 doc.members htop
  case h_2 => cases h

/-- A literal is a value. -/
theorem literal_ne_unset {type : JsonPrimitiveType} {text : List UInt8} {data : ShadowData}
    (h : literal env type text = some data) : data ≠ .unset := by
  rintro rfl
  cases type with
  | bool => simp only [literal] at h; split at h <;> simp at h
  | string | object => cases h
  | float | double => simp [literal] at h
  | _ => simp [literal] at h

/-- What is looked up for a key is the member of the state, if that is named first. -/
theorem lookUp_state {doc : Document} (hscans : Scans env)
    (htext : doc.text = rxDocument env.config s) (hparsed : doc.ParsedInto s.jsonTokenStruct)
    (hused : (s.tokenTable index).isFree = false)
    (hnamed : StateNamedFirst env doc (s.tokenTable index).pStruct) :
    match doc.stateMember (s.tokenTable index).pStruct.pKey with
    | none => lookUp env s doc.tokens.length index = none
    | some (_, value) => ∃ stored, lookUp env s doc.tokens.length index =
        some (doc.textOf value.token, stored) ∧
          ((s.tokenTable index).pStruct.type.isScalar = true → stored ≠ .unset ∧
            literal env (s.tokenTable index).pStruct.type (doc.textOf value.token) =
              some stored) := by
  have hsearch := keyIndex_document hparsed (s.tokenTable index).pStruct.pKey
  unfold StateNamedFirst at hnamed
  unfold lookUp
  simp only [hused, Bool.false_eq_true, if_false, isJsonKeyMatchingAndUpdateValue_eq]
  rw [← htext]
  cases hindex : keyIndex doc.text s.jsonTokenStruct doc.tokens.length
      (s.tokenTable index).pStruct.pKey with
  | none =>
    rw [hindex] at hsearch
    split
    case h_1 => rfl
    case h_2 name value hmember =>
      rw [hmember, hsearch] at hnamed
      cases hnamed.1
  | some i =>
    rw [hindex] at hsearch
    obtain ⟨token, hi, hfind⟩ := hsearch
    split
    case h_1 hnone =>
      rw [hnone, hfind] at hnamed
      cases hnamed
    case h_2 name value hmember =>
      rw [hmember] at hnamed
      obtain ⟨hfirst, hvalue⟩ := hnamed
      obtain rfl := Option.some.inj (hfind.symm.trans hfirst)
      obtain ⟨j, hname, hbehind⟩ := Document.member_indices (Document.mem_of_stateMember hmember)
      obtain rfl := Document.index_eq hi hname rfl
      have hin := List.mem_of_getElem? hbehind
      rw [Option.map_some, Option.map_some, hparsed _ _ hbehind]
      refine ⟨_, rfl, fun hscalar => ?_⟩
      obtain ⟨hprimitive, hliteral⟩ := hvalue hscalar
      obtain ⟨data, hdata⟩ := Option.isSome_iff_exists.mp hliteral
      have hstored : (matchAt env doc.text (s.tokenTable index).pStruct .unset value.token).data =
          data := updateValueIfNoObject_literal hscans hin hprimitive hdata .unset
      rw [hstored]
      exact ⟨literal_ne_unset hdata, hdata⟩

end LookUp

/-! ## What a dispatch says -/

section Dispatches

variable {env : ShadowEnv} {doc : Document} {s : Records} {received : Nat} {indices : List Nat}
  {events : List ShadowEvent}

theorem Dispatches.calledBack_none (h : Dispatches env doc s received indices events)
    {index : Nat} (hindex : index ∉ indices) :
    events.filterMap (ShadowEvent.calledBack? index) = [] := by
  induction h with
  | nil => rfl
  | absent habsent hrest ih => exact ih fun hmem => hindex (List.mem_cons_of_mem _ hmem)
  | @found i _ _ name value data hused hmember hdata hrest ih =>
    have hne : i ≠ index := fun heq => hindex (heq ▸ List.mem_cons_self)
    have hrest' := ih fun hmem => hindex (List.mem_cons_of_mem _ hmem)
    rw [List.cons_append, List.filterMap_cons_none rfl, List.filterMap_append, hrest']
    split
    · simp [ShadowEvent.calledBack?, hne]
    · rfl

/-- The callback of a key in the state is called once, with the value there. -/
theorem Dispatches.calledBack_once (h : Dispatches env doc s received indices events)
    (hnodup : indices.Nodup) {index : Nat} (hindex : index ∈ indices)
    (hused : (s.tokenTable index).isFree = false)
    (hcallback : (s.tokenTable index).callback = true) {name : JsmnToken} {value : Json}
    (hmember : doc.stateMember (s.tokenTable index).pStruct.pKey = some (name, value)) :
    events.filterMap (ShadowEvent.calledBack? index) = [doc.textOf value.token] := by
  induction h with
  | nil => cases hindex
  | absent habsent hrest ih =>
    obtain ⟨-, hnodup⟩ := List.nodup_cons.mp hnodup
    rcases List.mem_cons.mp hindex with rfl | hmem
    · rw [habsent hused] at hmember
      cases hmember
    · exact ih hnodup hmem
  | @found i _ _ name' value' data hused' hmember' hdata hrest ih =>
    obtain ⟨hnew, hnodup⟩ := List.nodup_cons.mp hnodup
    rw [List.cons_append, List.filterMap_cons_none rfl, List.filterMap_append]
    rcases List.mem_cons.mp hindex with rfl | hmem
    · rw [hrest.calledBack_none hnew, if_pos hcallback]
      obtain ⟨-, rfl⟩ := Prod.mk.inj (Option.some.inj (hmember'.symm.trans hmember))
      simp [ShadowEvent.calledBack?]
    · rw [ih hnodup hmem]
      have hne : i ≠ index := fun heq => hnew (heq ▸ hmem)
      split
      · simp [ShadowEvent.calledBack?, hne]
      · rfl

/-- What follows the search is what the message says, if the members of the state are named
first. -/
theorem FollowsSearch.dispatches (hscans : Scans env)
    (htext : doc.text = rxDocument env.config s) (hparsed : doc.ParsedInto s.jsonTokenStruct)
    (hnamed : ∀ index ∈ indices, (s.tokenTable index).isFree = false →
      StateNamedFirst env doc (s.tokenTable index).pStruct)
    (h : FollowsSearch env s doc.tokens.length received indices events) :
    Dispatches env doc s received indices events := by
  induction h with
  | nil => exact .nil
  | @absent index _ _ habsent hrest ih =>
    refine .absent (fun hused => ?_) (ih fun i hi => hnamed i (List.mem_cons_of_mem _ hi))
    have hstate := lookUp_state hscans htext hparsed hused (hnamed index List.mem_cons_self hused)
    split at hstate
    case h_1 hnone => exact hnone
    case h_2 =>
      obtain ⟨stored, hfound, -⟩ := hstate
      rw [habsent] at hfound
      cases hfound
  | @found index _ _ text stored data hfound hdata hrest ih =>
    have hrest' := ih fun i hi => hnamed i (List.mem_cons_of_mem _ hi)
    have hused : (s.tokenTable index).isFree = false := by
      by_contra hfree
      rw [lookUp_free (Bool.not_eq_false _ ▸ hfree)] at hfound
      cases hfound
    have hstate := lookUp_state hscans htext hparsed hused (hnamed index List.mem_cons_self hused)
    split at hstate
    case h_1 =>
      rw [hstate] at hfound
      cases hfound
    case h_2 name value hmember =>
      obtain ⟨stored', hfound', hliteral⟩ := hstate
      obtain ⟨rfl, rfl⟩ := Prod.mk.inj (Option.some.inj (hfound'.symm.trans hfound))
      refine .found hused hmember (fun hscalar => ?_) hrest'
      obtain ⟨hset, hvalue⟩ := hliteral hscalar
      rw [hdata hset]
      exact hvalue

end Dispatches

/-! ## What happens meanwhile -/

/-- What is logged for messages is logged for those that came after the first `n` events. -/
def NothingBefore (n : Nat) (w w' : World) : Prop :=
  n ≤ w.shadow.log.length → ∃ new, w'.shadow.log = new ++ w.shadow.log ∧
    ∀ e ∈ new, ∀ received, e.dispatchOf? = some received → n ≤ received

instance (n : Nat) : IsPreorder World (NothingBefore n) where
  refl _ _ := ⟨[], rfl, fun _ he => absurd he List.not_mem_nil⟩
  trans := by
    intro w w₁ w' h h' hn
    obtain ⟨new, hlog, hnew⟩ := h hn
    obtain ⟨new', hlog', hnew'⟩ := h' (by rw [hlog, List.length_append]; omega)
    refine ⟨new' ++ new, by rw [hlog', hlog, List.append_assoc], fun e he received hr => ?_⟩
    rcases List.mem_append.mp he with hmem | hmem
    · exact hnew' e hmem received hr
    · exact hnew e hmem received hr

section Meanwhile

variable {n : Nat} {env : ShadowEnv}

theorem nothingBefore_same {w w' : World} (h : w'.shadow.log = w.shadow.log) :
    NothingBefore n w w' := fun _ => ⟨[], h, fun _ he => absurd he List.not_mem_nil⟩

theorem nothingBefore_cons {w w' : World} {e : ShadowEvent}
    (hlog : w'.shadow.log = e :: w.shadow.log)
    (hdispatch : ∀ received, e.dispatchOf? = some received → n ≤ received) :
    NothingBefore n w w' := fun _ => ⟨[e], hlog, fun e' he' => by
      obtain rfl := List.mem_singleton.mp he'
      exact hdispatch⟩

theorem nothingBefore_steps (env : ShadowEnv) : AllSteps env.mqtt (NothingBefore n) :=
  allSteps_of_shadow (fun h => nothingBefore_same (congrArg Records.log h)) env.mqtt

/-- Logging something that is not done for a message. -/
theorem nothingBefore_note {e : ShadowEvent} (h : e.dispatchOf? = none) :
    Keeps (NothingBefore n) (note e : M Unit) := fun _ =>
  nothingBefore_cons rfl fun _ hr => absurd (h.symm.trans hr) (by simp)

theorem nothingBefore_shadowing (env : ShadowEnv) :
    Shadowing (m := M) env (Keeps (NothingBefore n)) where
  toEverything := (nothingBefore_steps env).everything
  serving hmessage := (nothingBefore_steps env).serving hmessage
  getRecords w := refl_of (NothingBefore n) w
  modifyRecords hf _ w := nothingBefore_same (hf w.shadow).1
  storeTopic buffer topic w :=
    nothingBefore_same (keepsVersion_storeTopic buffer topic w.shadow).1
  passing _ topic _ hx := hx ⟨topic⟩
  initializeRecords _ := nothingBefore_cons rfl fun _ h => by cases h
  note hkind := nothingBefore_note (not_delta hkind).2

variable {fuel : Nat} {handlers : Handlers M}

theorem nothingBefore_dispatching (hhandlers : Handled (Keeps (NothingBefore n)) handlers)
    {received : Nat} (hreceived : n ≤ received) :
    Dispatching (m := M) handlers received (Keeps (NothingBefore n)) := by
  have hnote : ∀ {e : ShadowEvent}, e.dispatchOf? = some received →
      Keeps (NothingBefore n) (note e : M Unit) := fun h _ =>
    nothingBefore_cons rfl fun _ hr => Option.some.inj (h.symm.trans hr) ▸ hreceived
  exact {
    toCompositional := keeps_compositional (NothingBefore n)
    getRecords := fun w => refl_of (NothingBefore n) w
    modifyRecords := fun hf _ _ w => nothingBefore_same (hf w.shadow).1
    updated := fun _ _ => hnote rfl
    calledBack := fun _ _ => hnote rfl
    returned := fun _ _ => nothingBefore_note rfl
    delta := hhandlers.delta }

/-- What `shadow_delta_callback` does with the document it has parsed. -/
def serveDelta (env : ShadowEnv) (handlers : Handlers M) (document : List UInt8)
    (received tokenCount : Nat) : M Unit := do
  note (.deltaReceived document)
  let version ← extractVersionNumber env document tokenCount
  match newVersion (← getRecords) version with
  | none => return ()
  | some version => do
      modifyRecords fun s => { s with shadowJsonVersionNum := version }
      dispatchFrom env handlers received tokenCount env.config.maxJsonTokenExpected 0

theorem shadowDeltaCallback_nothingBefore
    (hhandlers : Handled (Keeps (NothingBefore n)) handlers) (call : HandlerCall) :
    Keeps (NothingBefore n) (shadowDeltaCallback env handlers call) := by
  have hs := nothingBefore_shadowing (n := n) env
  unfold shadowDeltaCallback
  refine hs.ite (fun _ => hs.pure _) fun _ => ?_
  refine hs.bind (hs.modifyRecords (fun _ => ⟨rfl, rfl, rfl⟩) fun _ => rfl) fun _ => ?_
  refine hs.bind hs.getRecords fun s => hs.bind (hs.storing.parseObject _) fun result => ?_
  cases result with
  | none => exact hs.pure _
  | some tokenCount =>
    intro w
    by_cases hn : n ≤ w.shadow.log.length
    case neg => exact ends_iff_run.mpr ⟨fun _ _ _ h => absurd h hn, fun _ _ h => absurd h hn⟩
    refine ends_bind.mpr (ends_getRecords.mpr ?_)
    -- the message comes behind all that has happened
    have hrest : Keeps (NothingBefore n) (serveDelta env handlers (rxDocument env.config s)
        w.shadow.log.length tokenCount) := by
      refine hs.bind (nothingBefore_note rfl) fun _ => ?_
      refine hs.bind (hs.bind hs.getRecords fun _ => hs.pure _) fun version => ?_
      refine hs.bind hs.getRecords fun s' => ?_
      split
      · exact hs.pure _
      · exact hs.bind (fun _ => nothingBefore_same rfl) fun _ =>
          (nothingBefore_dispatching hhandlers hn).dispatchFrom tokenCount _ _
    exact hrest w

theorem nothingBefore_versioned (n : Nat) (env : ShadowEnv) (fuel : Nat) :
    Versioned (m := M) env fuel (Keeps (NothingBefore n)) where
  toRecording := (nothingBefore_shadowing env).recording
  ackStatusCallback hhandlers :=
    (nothingBefore_shadowing env).recording.ackStatusCallback fuel hhandlers
      (fun _ _ => nothingBefore_note rfl) fun _ _ => nothingBefore_same rfl
  shadowDeltaCallback := shadowDeltaCallback_nothingBefore
  resetLastReceivedVersion _ := nothingBefore_cons rfl fun _ h => by cases h
  setDiscardOldDeltaMsgs _ _ := nothingBefore_cons rfl fun _ h => by cases h

end Meanwhile

/-! ## The loop -/

/-- From `index` on, the registration table is that of `s₀`, and what is found for its entries
as well. -/
structure Holds (env : ShadowEnv) (s₀ : Records) (tokenCount index : Nat) (s : Records) :
    Prop where
  /-- As many entries are in use. -/
  size : s.tokenTableIndex = s₀.tokenTableIndex
  /-- They are the same, and the same is found. -/
  entries : ∀ i, index ≤ i → i < s₀.tokenTableIndex →
    s.tokenTable i = s₀.tokenTable i ∧ lookUp env s tokenCount i = lookUp env s₀ tokenCount i

section Loop

variable {env : ShadowEnv} {s₀ s s' : Records} {tokenCount index : Nat}

theorem Holds.next (h : Holds env s₀ tokenCount index s) :
    Holds env s₀ tokenCount (index + 1) s :=
  ⟨h.size, fun i hi => h.entries i (by omega)⟩

/-- Callbacks that keep the later entries keep what is to be dispatched. -/
theorem Holds.kept (h : Holds env s₀ tokenCount index s)
    (hkept : laterEntriesKept env s s' tokenCount index = true) :
    Holds env s₀ tokenCount (index + 1) s' := by
  simp only [laterEntriesKept, Bool.and_eq_true, decide_eq_true_eq, List.all_eq_true,
    List.mem_range, Bool.or_eq_true, beq_iff_eq] at hkept
  obtain ⟨hsize, hentries⟩ := hkept
  refine ⟨hsize.trans h.size, fun i hi hlt => ?_⟩
  obtain ⟨hentry, hfound⟩ := (hentries i (h.size ▸ hlt)).resolve_left (by omega)
  obtain ⟨hentry₀, hfound₀⟩ := h.entries i (by omega) hlt
  exact ⟨hentry.trans hentry₀, hfound.trans hfound₀⟩

theorem eventsOf_append (received : Nat) (new new' : List ShadowEvent) :
    eventsOf received (new ++ new') = eventsOf received new' ++ eventsOf received new := by
  unfold eventsOf
  rw [List.filter_append, List.reverse_append]

/-- What is logged only for later messages. -/
theorem eventsOf_later {received : Nat} {new : List ShadowEvent}
    (h : ∀ e ∈ new, ∀ r, e.dispatchOf? = some r → received + 1 ≤ r) :
    eventsOf received new = [] := by
  unfold eventsOf
  rw [List.reverse_eq_nil_iff, List.filter_eq_nil_iff]
  intro e he hr
  have := h e he received (of_decide_eq_true hr)
  omega

/-- What one turn of the loop logs, if its callback keeps the later entries. -/
def Turn (env : ShadowEnv) (s₀ : Records) (tokenCount received index : Nat) (w w' : World) :
    Prop :=
  ∃ new, w'.shadow.log = new ++ w.shadow.log ∧
    ((∀ i, .deltaReturned received i false ∉ new) →
      Holds env s₀ tokenCount (index + 1) w'.shadow ∧
        ∀ indices events, FollowsSearch env s₀ tokenCount received indices events →
          FollowsSearch env s₀ tokenCount received (index :: indices)
            (eventsOf received new ++ events))

variable {fuel depth received : Nat}

theorem dispatchEntry_turn {w : World} (hlt : index < s₀.tokenTableIndex)
    (hholds : Holds env s₀ tokenCount index w.shadow) (hlog : received < w.shadow.log.length) :
    (dispatchEntry env (handlersAt env fuel depth) received tokenCount index : M Unit).Ends w
      (fun _ w' => Turn env s₀ tokenCount received index w w') (fun _ => True) := by
  obtain ⟨hentry, hfound⟩ := hholds.entries index (Nat.le_refl _) hlt
  unfold dispatchEntry
  simp only [ends_bind, ends_getRecords, ends_ite]
  split
  case isFalse hfree =>
    have hfree' : (w.shadow.tokenTable index).isFree = true := not_not.mp hfree
    refine ⟨[], rfl, fun _ => ⟨hholds.next, fun _ _ h => .absent ?_ h⟩⟩
    rw [← hfound]
    exact lookUp_free hfree'
  case isTrue hused =>
    have hused' : (w.shadow.tokenTable index).isFree = false := Bool.eq_false_iff.mpr hused
    have hlooked := isJsonKeyMatchingAndUpdateValue_lookUp env tokenCount hused'
      (w.shadow.appData (w.shadow.tokenTable index).pStruct.pData)
    split
    case h_1 hnone =>
      rw [hnone, hfound] at hlooked
      exact ⟨[], rfl, fun _ => ⟨hholds.next, fun _ _ h => .absent hlooked h⟩⟩
    case h_2 found hsome =>
      rw [hsome] at hlooked
      obtain ⟨stored, hlooked, hdata⟩ := hlooked
      rw [hfound] at hlooked
      simp only [ends_bind, ends_modifyRecords, ends_note, ends_ite, ends_pure]
      generalize ((rxDocument env.config w.shadow).drop found.dataPosition).take
        found.dataLength = value at hlooked ⊢
      split
      case isFalse hcallback =>
        refine ⟨[_], rfl, fun _ => ⟨⟨hholds.size, fun i hi => hholds.entries i (by omega)⟩, ?_⟩⟩
        intro indices events hrest
        have hdispatch := FollowsSearch.found hlooked hdata hrest
        rw [← hentry, if_neg hcallback] at hdispatch
        simpa [eventsOf, ShadowEvent.dispatchOf?] using hdispatch
      case isTrue hcallback =>
        have hlater := (nothingBefore_versioned (received + 1) env fuel).handlersAt depth
        refine (hlater.delta _).mono ?_ (fun _ _ => trivial)
        intro _ w₁ hmeanwhile
        have hbehind : received + 1 ≤ w.shadow.log.length + 1 + 1 := by omega
        obtain ⟨new, hnew, hlater⟩ := hmeanwhile hbehind
        have hlog' : w₁.shadow.log = (new ++ [.deltaCalledBack received index value,
            .deltaUpdated received index found.data]) ++ w.shadow.log := by
          rw [hnew, List.append_assoc]
          rfl
        refine ⟨.deltaReturned received index
          (laterEntriesKept env w.shadow w₁.shadow tokenCount index) :: _,
          congrArg _ hlog', fun hkept => ⟨?_, fun indices events hrest => ?_⟩⟩
        · cases hk : laterEntriesKept env w.shadow w₁.shadow tokenCount index with
          | false => exact absurd List.mem_cons_self (hk ▸ hkept index)
          | true =>
            have hnext := hholds.kept hk
            exact ⟨hnext.size, hnext.entries⟩
        · have hdispatch := FollowsSearch.found hlooked hdata hrest
          rw [← hentry, if_pos hcallback] at hdispatch
          have hevents : eventsOf received (.deltaReturned received index
              (laterEntriesKept env w.shadow w₁.shadow tokenCount index) :: (new ++
                [.deltaCalledBack received index value,
                  .deltaUpdated received index found.data])) =
              [.deltaUpdated received index found.data,
                .deltaCalledBack received index value] := by
            rw [← List.singleton_append, eventsOf_append, eventsOf_append, eventsOf_later hlater]
            simp [eventsOf, ShadowEvent.dispatchOf?]
          rw [hevents]
          exact hdispatch

theorem dispatchFrom_dispatches : ∀ left index (w : World),
    s₀.tokenTableIndex ≤ index + left → Holds env s₀ tokenCount index w.shadow →
    received < w.shadow.log.length →
    (dispatchFrom env (handlersAt env fuel depth) received tokenCount left index : M Unit).Ends w
      (fun _ w' => ∃ new, w'.shadow.log = new ++ w.shadow.log ∧
        ((∀ i, .deltaReturned received i false ∉ new) →
          FollowsSearch env s₀ tokenCount received
            (List.range' index (s₀.tokenTableIndex - index)) (eventsOf received new)))
      (fun _ => True) := by
  intro left
  induction left with
  | zero =>
    intro index w hleft hholds hlog
    refine ⟨[], rfl, fun _ => ?_⟩
    rw [Nat.sub_eq_zero_of_le (show s₀.tokenTableIndex ≤ index from hleft)]
    exact .nil
  | succ left ih =>
    intro index w hleft hholds hlog
    unfold dispatchFrom
    simp only [ends_bind, ends_getRecords, ends_ite, ends_pure, hholds.size]
    split
    case isTrue hdone =>
      refine ⟨[], rfl, fun _ => ?_⟩
      rw [Nat.sub_eq_zero_of_le hdone]
      exact .nil
    case isFalse hmore =>
      have hlt : index < s₀.tokenTableIndex := Nat.lt_of_not_le hmore
      refine (dispatchEntry_turn hlt hholds hlog).mono ?_ (fun _ _ => trivial)
      rintro _ w₁ ⟨new, hnew, hturn⟩
      have hlog₁ : received < w₁.shadow.log.length := by
        rw [hnew, List.length_append]
        omega
      by_cases hkept : ∀ i, .deltaReturned received i false ∉ new
      case neg =>
        have hhandlers := (nothingBefore_versioned 0 env fuel).handlersAt depth
        have hdispatching := nothingBefore_dispatching hhandlers (Nat.zero_le received)
        refine (hdispatching.dispatchFrom tokenCount left (index + 1) w₁).mono ?_
          (fun _ _ => trivial)
        intro _ w₂ hlater
        obtain ⟨new', hnew', -⟩ := hlater (Nat.zero_le _)
        refine ⟨new' ++ new, by rw [hnew', hnew, List.append_assoc], fun hall => ?_⟩
        exact absurd (fun i hi => hall i (List.mem_append_right _ hi)) hkept
      case pos =>
        obtain ⟨hholds₁, hdispatches⟩ := hturn hkept
        refine (ih (index + 1) w₁ (by omega) hholds₁ hlog₁).mono ?_ (fun _ _ => trivial)
        rintro _ w₂ ⟨new', hnew', hrest⟩
        refine ⟨new' ++ new, by rw [hnew', hnew, List.append_assoc], fun hall => ?_⟩
        have hrest' := hdispatches _ _
          (hrest fun i hi => hall i (List.mem_append_left _ hi))
        have hrange : List.range' index (s₀.tokenTableIndex - index) =
            index :: List.range' (index + 1) (s₀.tokenTableIndex - (index + 1)) := by
          rw [show s₀.tokenTableIndex - index = s₀.tokenTableIndex - (index + 1) + 1 by omega,
            List.range'_succ]
        rw [hrange, eventsOf_append]
        exact hrest'

end Loop

/-! ## A message -/

theorem newEvents_eq {w w' : World} {new : List ShadowEvent}
    (h : w'.shadow.log = new ++ w.shadow.log) : newEvents w w' = new := by
  unfold newEvents
  rw [h, List.length_append, Nat.add_sub_cancel, List.take_left]

/-- Receiving a document leaves its tokens. -/
theorem receiveDelta_document {env : ShadowEnv} {call : HandlerCall} {w : World}
    {doc : Document} (hparses : doc.Parses env) :
    (receiveDelta env call).Ends w (fun result w₁ => doc.text = rxDocument env.config w₁.shadow →
      result = some doc.tokens.length ∧ doc.ParsedInto w₁.shadow.jsonTokenStruct)
      (fun _ => True) := by
  unfold receiveDelta receiveDocument isJsonValidAndParse
  simp only [ends_bind, ends_modifyRecords, ends_getRecords]
  generalize World.onShadow w _ = w₀
  by_cases htext : doc.text = rxDocument env.config w₀.shadow
  case pos =>
    rw [← htext]
    exact (parseObject_document hparses).mono (fun _ _ h _ => h) (fun _ h => h)
  case neg =>
    unfold parseObject
    simp only [ends_bind, ends_modifyRecords, ends_getRecords, ends_pure]
    exact fun hsame => absurd hsame htext

/-- If no callback changes what is found for the entries behind its own, the loop does what is
found when the message has been received. -/
theorem followsSearch_of_kept {env : ShadowEnv} {fuel depth : Nat} {call : HandlerCall}
    {doc : Document} {w w₁ w' : World} (h : Dispatch env fuel depth call doc w w₁ w')
    (hkept : ∀ index, .deltaReturned w.shadow.log.length index false ∉ newEvents w w') :
    FollowsSearch env w₁.shadow doc.tokens.length w.shadow.log.length
      (List.range w₁.shadow.tokenTableIndex) (eventsOf w.shadow.log.length (newEvents w w')) := by
  have hreceives := run_eq_done_iff.mp h.receives
  unfold receiveDelta receiveDocument isJsonValidAndParse parseObject at hreceives
  simp only [ends_bind, ends_modifyRecords, ends_getRecords, ends_pure] at hreceives
  obtain ⟨hcount, hw₁⟩ := hreceives
  have hends : (shadowDeltaCallback env (handlersAt env fuel depth) call : M Unit).Ends w
      (fun _ w' => (∀ index, .deltaReturned w.shadow.log.length index false ∉ newEvents w w') →
        FollowsSearch env w₁.shadow doc.tokens.length w.shadow.log.length
          (List.range w₁.shadow.tokenTableIndex)
          (eventsOf w.shadow.log.length (newEvents w w')))
      (fun _ => True) := by
    unfold shadowDeltaCallback receiveDocument isJsonValidAndParse parseObject
    rw [if_neg (Nat.not_lt.mpr h.fits)]
    simp only [ends_bind, ends_modifyRecords, ends_getRecords, ends_pure]
    rw [hcount, hw₁]
    generalize hdocument : rxDocument env.config (World.onShadow w _).shadow = document
    obtain rfl : rxDocument env.config w₁.shadow = document := by
      rw [← hdocument, ← hw₁]
      rfl
    have hlog : w₁.shadow.log = w.shadow.log := by rw [← hw₁]; rfl
    have hsize : w₁.shadow.tokenTableIndex ≤ env.config.maxJsonTokenExpected := by
      rw [← hw₁]
      exact h.size
    simp only [ends_bind, ends_getRecords, ends_note, ends_extractVersionNumber,
      World.shadow_onShadow]
    split
    case h_1 hold =>
      have hnone : newVersion w₁.shadow (versionNumber env (rxDocument env.config w₁.shadow)
        w₁.shadow.jsonTokenStruct doc.tokens.length) = none := hold
      have haccepted := h.accepted
      rw [hnone] at haccepted
      cases haccepted
    case h_2 version hnew =>
      rw [ends_bind, ends_modifyRecords]
      have hholds : Holds env w₁.shadow doc.tokens.length 0 (World.onShadow (World.onShadow w₁
          fun s => { s with log := .deltaReceived (rxDocument env.config w₁.shadow) :: s.log })
          fun s => { s with shadowJsonVersionNum := version }).shadow :=
        ⟨rfl, fun _ _ _ => ⟨rfl, rfl⟩⟩
      have hbehind : w.shadow.log.length < (.deltaReceived (rxDocument env.config w₁.shadow) ::
          w₁.shadow.log).length := by
        rw [List.length_cons, hlog]
        omega
      rw [hlog]
      refine (dispatchFrom_dispatches _ 0 _ (by rw [Nat.zero_add]; exact hsize) hholds
        hbehind).mono ?_ (fun _ _ => trivial)
      rintro _ w₂ ⟨new, hnew, hdispatches⟩ hkept
      have hevents : newEvents w w₂ =
          new ++ [.deltaReceived (rxDocument env.config w₁.shadow)] := by
        refine newEvents_eq ?_
        rw [hnew, List.append_assoc, ← hlog]
        rfl
      rw [hevents] at hkept ⊢
      have hinOrder := hdispatches fun i hi => hkept i (List.mem_append_left _ hi)
      rw [Nat.sub_zero, ← List.range_eq_range'] at hinOrder
      have hsame : eventsOf w.shadow.log.length
          (new ++ [.deltaReceived (rxDocument env.config w₁.shadow)]) =
          eventsOf w.shadow.log.length new := by
        rw [eventsOf_append]
        rfl
      exact hsame ▸ hinOrder
  exact hends.of_run h.returns hkept

/-- If no callback changes what is found for the entries behind its own, and the first string
that reads a registered key is the name of a member of the state, a message that is not
discarded is dispatched as it should be. -/
theorem dispatch_independent {env : ShadowEnv} {fuel depth : Nat} {call : HandlerCall}
    {doc : Document} {w w₁ w' : World} (hscans : Scans env)
    (h : Dispatch env fuel depth call doc w w₁ w')
    (hnamed : ∀ index < w₁.shadow.tokenTableIndex, (w₁.shadow.tokenTable index).isFree = false →
      StateNamedFirst env doc (w₁.shadow.tokenTable index).pStruct)
    (hkept : ∀ index, .deltaReturned w.shadow.log.length index false ∉ newEvents w w') :
    Dispatched env doc w₁.shadow w.shadow.log.length (newEvents w w') := by
  obtain ⟨-, hparsed⟩ := (receiveDelta_document h.parses).of_run h.receives h.text
  have hinOrder := (followsSearch_of_kept h hkept).dispatches hscans h.text hparsed
    fun index hmem => hnamed index (List.mem_range.mp hmem)
  refine ⟨hinOrder, fun index hindex hused hcallback name value hmember => ?_⟩
  exact hinOrder.calledBack_once List.nodup_range (List.mem_range.mpr hindex) hused hcallback
    hmember

/-! ### Requests in a callback -/

/-- The document `{"version":5,"state":{"a":1,"b":2}}`. -/
def twoKeysDocument : Document where
  text := ascii "\x7b\"version\":5,\"state\":\x7b\"a\":1,\"b\":2\x7d\x7d"
  start := 0
  stop := 35
  members := .cons 2 9 (.primitive 11 12) (.cons 14 19 (.object 21 34
    (.cons 23 24 (.primitive 26 27) (.cons 29 30 (.primitive 32 33) .nil))) .nil)
  ordered := by decide
  spans := by decide
  nested := by decide
  delimited := by decide

/-- The document `{"state":{"reported":{"a":1}},"clientToken":"x"}`. -/
def reportDocument : Document where
  text := ascii "\x7b\"state\":\x7b\"reported\":\x7b\"a\":1\x7d\x7d,\"clientToken\":\"x\"\x7d"
  start := 0
  stop := 48
  members := .cons 2 7 (.object 9 29 (.cons 11 19 (.object 21 28
    (.cons 23 24 (.primitive 26 27) .nil)) .nil)) (.cons 31 42 (.string 45 46) .nil)
  ordered := by decide
  spans := by decide
  nested := by decide
  delimited := by decide

/-- The document `{"clientToken":"c-0"}`. -/
def tokenDocument : Document where
  text := ascii "\x7b\"clientToken\":\"c-0\"\x7d"
  start := 0
  stop := 21
  members := .cons 2 13 (.string 16 19) .nil
  ordered := by decide
  spans := by decide
  nested := by decide
  delimited := by decide

/-- Surroundings in which the first callback makes a request. -/
def callbackEnv (request : ShadowCall) : ShadowEnv :=
  { quietShadowEnv (Document.parserOf [twoKeysDocument, reportDocument, tokenDocument]) with
    mqtt := quietEnv.receiving [(6, [0x20, 2, 0, 0]), (15, [0x90, 3, 0, 2, 0])]
    callback := fun n => if n = 19 then some request else none }

theorem callbackEnv_scans (request : ShadowCall) : Scans (callbackEnv request) :=
  quietShadowEnv_scans (Document.parserOf [twoKeysDocument, reportDocument, tokenDocument])

/-- The keys `a` and `b` are registered, and the client delivers a message. -/
def twoKeysWorld (request : ShadowCall) : World :=
  (((shadowApplication (callbackEnv request) 8 [
    .init ⟨true, 8883, true, true, true, false, false⟩,
    .connect ⟨⟨ascii "a"⟩, some ⟨ascii "c"⟩, 1, false⟩,
    .registerDelta (some ⟨ascii "a", 0, .int32, true⟩),
    .registerDelta (some ⟨ascii "b", 1, .int32, true⟩)] : M Unit).run World.start).state).withState
      .connectedWaitForCbReturn

/-- The delivery of a message with both keys. -/
def twoKeysCall : HandlerCall :=
  ⟨0, shadowDeltaCallbackHandler, 0, 4, ascii "$aws/things/a/shadow/update/delta",
    twoKeysDocument.text⟩

/-- The message, with what is behind it in the receive buffer. -/
def twoKeysMessage : Document where
  text := twoKeysDocument.text ++ List.replicate 479 0
  start := 0
  stop := 35
  members := twoKeysDocument.members
  ordered := twoKeysDocument.ordered
  spans := twoKeysDocument.spans
  nested := twoKeysDocument.nested
  delimited := by decide

/-- The world when the message has been received. -/
def twoKeysReceived (request : ShadowCall) : World :=
  ((receiveDelta (callbackEnv request) twoKeysCall).run (twoKeysWorld request)).state

/-- The world when it has been dispatched. -/
def twoKeysDispatched (request : ShadowCall) : World :=
  ((shadowDeltaCallback (callbackEnv request) (handlersAt (callbackEnv request) 8 8)
    twoKeysCall : M Unit).run (twoKeysWorld request)).state

/-- A get without a callback. -/
def plainGet : ShadowCall := .get ⟨some ⟨ascii "a"⟩, false, 0, false⟩

/-- An update without a callback. -/
def plainUpdate : ShadowCall :=
  .update ⟨some ⟨ascii "a"⟩, false, 0, false⟩ (some ⟨reportDocument.text⟩)

theorem dispatch_plainGet : Dispatch (callbackEnv plainGet) 8 8 twoKeysCall twoKeysMessage
    (twoKeysWorld plainGet) (twoKeysReceived plainGet) (twoKeysDispatched plainGet) where
  fits := by decide
  receives := run_eq_done (by decide +kernel)
  text := by decide +kernel
  parses := by decide +kernel
  accepted := by decide +kernel
  size := by decide +kernel
  returns := run_eq_done (by decide +kernel)

/-- A key whose member of the state is named first, with a literal as its value. -/
theorem stateNamedFirst_of_literal {env : ShadowEnv} {doc : Document} {pDataStruct : JsonStruct}
    {name : JsmnToken} {value : Json}
    (hmember : doc.stateMember pDataStruct.pKey = some (name, value))
    (hfind : doc.tokens.tail.find? (jsoneq doc.text · pDataStruct.pKey) = some name)
    (hprimitive : value.token.type = .primitive)
    (hliteral : (literal env pDataStruct.type (doc.textOf value.token)).isSome = true) :
    StateNamedFirst env doc pDataStruct := by
  unfold StateNamedFirst
  rw [hmember]
  exact ⟨hfind, fun _ => ⟨hprimitive, hliteral⟩⟩

/-- The keys `a` and `b` are named first. -/
theorem stateNamedFirst_twoKeys {env : ShadowEnv} {s : Records} (hsize : s.tokenTableIndex = 2)
    (hfirst : (s.tokenTable 0).pStruct = ⟨ascii "a", 0, .int32, true⟩)
    (hsecond : (s.tokenTable 1).pStruct = ⟨ascii "b", 1, .int32, true⟩)
    (hliterals : literal env .int32 (ascii "1") = some (.int32 1) ∧
      literal env .int32 (ascii "2") = some (.int32 2)) :
    ∀ index < s.tokenTableIndex, (s.tokenTable index).isFree = false →
      StateNamedFirst env twoKeysMessage (s.tokenTable index).pStruct := by
  intro index hlt _
  obtain rfl | rfl : index = 0 ∨ index = 1 := by omega
  · rw [hfirst]
    have hmember : twoKeysMessage.stateMember (ascii "a") =
        some (⟨.string, 23, 24⟩, .primitive 26 27) := rfl
    have htext : twoKeysMessage.textOf ⟨.primitive, 26, 27⟩ = ascii "1" := by decide +kernel
    refine stateNamedFirst_of_literal hmember (by decide +kernel) rfl ?_
    exact Option.isSome_of_eq_some ((congrArg _ htext).trans hliterals.1)
  · rw [hsecond]
    have hmember : twoKeysMessage.stateMember (ascii "b") =
        some (⟨.string, 29, 30⟩, .primitive 32 33) := rfl
    have htext : twoKeysMessage.textOf ⟨.primitive, 32, 33⟩ = ascii "2" := by decide +kernel
    refine stateNamedFirst_of_literal hmember (by decide +kernel) rfl ?_
    exact Option.isSome_of_eq_some ((congrArg _ htext).trans hliterals.2)

/-- A get leaves the tokens of the keys alone. -/
theorem dispatch_independent_get :
    Dispatched (callbackEnv plainGet) twoKeysMessage (twoKeysReceived plainGet).shadow
      (twoKeysWorld plainGet).shadow.log.length
      (newEvents (twoKeysWorld plainGet) (twoKeysDispatched plainGet)) := by
  have hdispatched := dispatch_independent (callbackEnv_scans plainGet) dispatch_plainGet
  have hsize : (twoKeysReceived plainGet).shadow.tokenTableIndex = 2 := by decide +kernel
  have hfirst : ((twoKeysReceived plainGet).shadow.tokenTable 0).pStruct =
      ⟨ascii "a", 0, .int32, true⟩ := by decide +kernel
  have hsecond : ((twoKeysReceived plainGet).shadow.tokenTable 1).pStruct =
      ⟨ascii "b", 1, .int32, true⟩ := by decide +kernel
  have hliterals : literal (callbackEnv plainGet) .int32 (ascii "1") = some (.int32 1) ∧
      literal (callbackEnv plainGet) .int32 (ascii "2") = some (.int32 2) := by decide +kernel
  have hall : (newEvents (twoKeysWorld plainGet) (twoKeysDispatched plainGet)).all (fun e =>
      match e with
      | .deltaReturned _ _ kept => kept
      | _ => true) = true := by decide +kernel
  -- what the world is does not matter any more, and is not to be computed again
  generalize twoKeysReceived plainGet = received at *
  refine hdispatched (stateNamedFirst_twoKeys hsize hfirst hsecond hliterals) fun index hmem => ?_
  exact absurd (List.all_eq_true.mp hall _ hmem) Bool.false_ne_true

/-- The document of an update is parsed into the tokens of the message, and the callback of
`b` is not called. -/
theorem not_dispatched :
    Dispatch (callbackEnv plainUpdate) 8 8 twoKeysCall twoKeysMessage (twoKeysWorld plainUpdate)
      (twoKeysReceived plainUpdate) (twoKeysDispatched plainUpdate) ∧
    ¬ Dispatched (callbackEnv plainUpdate) twoKeysMessage (twoKeysReceived plainUpdate).shadow
      (twoKeysWorld plainUpdate).shadow.log.length
      (newEvents (twoKeysWorld plainUpdate) (twoKeysDispatched plainUpdate)) := by
  refine ⟨⟨by decide, run_eq_done (by decide +kernel), by decide +kernel, by decide +kernel,
    by decide +kernel, by decide +kernel, run_eq_done (by decide +kernel)⟩, fun h => ?_⟩
  have hsize : (twoKeysReceived plainUpdate).shadow.tokenTableIndex = 2 := by decide +kernel
  have hkey : ((twoKeysReceived plainUpdate).shadow.tokenTable 1).pStruct.pKey = ascii "b" := by
    decide +kernel
  have honce := h.once 1 (by rw [hsize]; decide) (by decide +kernel) (by decide +kernel)
    ⟨.string, 29, 30⟩ (.primitive 32 33) (by rw [hkey]; rfl)
  have hnone : (eventsOf (twoKeysWorld plainUpdate).shadow.log.length
      (newEvents (twoKeysWorld plainUpdate) (twoKeysDispatched plainUpdate))).filterMap
        (ShadowEvent.calledBack? 1) = [] := by decide +kernel
  cases hnone.symm.trans honce

end AwsIot.Shadow
