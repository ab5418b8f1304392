/-
  Shadow/TokenRoundTrip.lean --- the way of a generated client token and back.

  A get or a delete request carries the client id and the next number, which is printed as
  a signed one.  The token is put into the request, taken out of it again for the record of
  the request, and compared with the token of every ack.  Every array on that way but the
  record's has room for all numbers.
-/
import AwsIot.Shadow.BuilderDocument
import AwsIot.Shadow.ClientToken
import AwsIot.Shadow.DeltaDispatch
import Mathlib.Data.List.TakeWhile

set_option autoImplicit false

namespace AwsIot.Shadow

open AwsIot.Foundation AwsIot.Mqtt Program

/-! ## Numbers -/

theorem decimal_of_lt {n : UInt32} (h : n.toNat < 2 ^ 31) : decimal n = CString.digits n.toNat :=
  if_pos h

theorem decimal_of_le {n : UInt32} (h : 2 ^ 31 ≤ n.toNat) :
    decimal n = 0x2D :: CString.digits (2 ^ 32 - n.toNat) := if_neg (Nat.not_lt.mpr h)

/-- A digit is no sign. -/
theorem digits_ne_sign (k : Nat) (l : List UInt8) : CString.digits k ≠ 0x2D :: l := by
  intro h
  have hsign : (0x2D : UInt8) ∈ CString.digits k := h ▸ List.mem_cons_self
  exact absurd (CString.mem_digits hsign).1 (by decide)

/-- Different numbers are printed differently. -/
theorem decimal_injective {m n : UInt32} (h : decimal m = decimal n) : m = n := by
  have hm := m.toNat_lt
  have hn := n.toNat_lt
  refine UInt32.toNat_inj.mp ?_
  rcases Nat.lt_or_ge m.toNat (2 ^ 31) with hm' | hm' <;>
    rcases Nat.lt_or_ge n.toNat (2 ^ 31) with hn' | hn'
  · rw [decimal_of_lt hm', decimal_of_lt hn'] at h
    exact CString.digits_injective h
  · rw [decimal_of_lt hm', decimal_of_le hn'] at h
    exact absurd h (digits_ne_sign _ _)
  · rw [decimal_of_le hm', decimal_of_lt hn'] at h
    exact absurd h.symm (digits_ne_sign _ _)
  · rw [decimal_of_le hm', decimal_of_le hn', List.cons.injEq] at h
    have hdigits := CString.digits_injective h.2
    omega

/-! ## The token -/

/-- The client token with the client id `id` and the number `n`. -/
def clientTokenWith (id : List UInt8) (n : UInt32) : List UInt8 := id ++ 0x2D :: decimal n

theorem length_clientTokenWith (id : List UInt8) (n : UInt32) :
    (clientTokenWith id n).length = id.length + 1 + (decimal n).length := by
  rw [clientTokenWith, List.length_append, List.length_cons, Nat.add_right_comm, Nat.add_assoc]

theorem all_isPlain_clientTokenWith {id : List UInt8} (hid : id.all isPlain = true) (n : UInt32) :
    (clientTokenWith id n).all isPlain = true := by
  rw [clientTokenWith, List.all_append, hid, Bool.true_and, List.all_cons,
    show isPlain 0x2D = true from rfl, Bool.true_and, List.all_eq_true]
  exact fun c hc => isPlain_of_mem_decimal hc

theorem clientTokenWith_injective {id : List UInt8} {m n : UInt32}
    (h : clientTokenWith id m = clientTokenWith id n) : m = n :=
  decimal_injective (List.cons.inj (List.append_cancel_left h)).2

/-! ## The ack -/

/-- The status that a topic tells. -/
def topicStatus (topicName : List UInt8) : Option AckStatus :=
  if strstr topicName (ascii "accepted") then some .accepted
  else if strstr topicName (ascii "rejected") then some .rejected
  else none

/-- The bytes from `shadowRxBuf` on once `payload` is received. -/
def receivedText (config : ShadowConfig) (payload : List UInt8) (s : Records) : List UInt8 :=
  rxDocument config { s with shadowRxBuf := s.shadowRxBuf.writeAt 0 (payload ++ [0]) }

/-- The payload is a document that the parser reads, and the first string in it that reads
"clientToken" has `token` behind it, which is what the client extracts. -/
def YieldsToken (env : ShadowEnv) (token payload : List UInt8) (s : Records) : Prop :=
  payload.length ≤ env.config.shadowMaxSizeOfRxBuffer ∧
    ∃ (doc : Document) (i : Nat) (key value : JsmnToken),
      doc.text = receivedText env.config payload s ∧ doc.Parses env ∧
      doc.tokens.tail.find? (jsoneq doc.text · shadowClientTokenString) = some key ∧
      doc.tokens[i]? = some key ∧ doc.tokens[i + 1]? = some value ∧
      value.stop = value.start + token.length ∧ doc.textOf value = token

/-- The first string of the document that reads "clientToken" has a token behind it whose
text, cut to eight bits of length, fits the array for acks and is `token`. -/
def TokenBehindFirst (config : ShadowConfig) (token : List UInt8) (doc : Document) : Prop :=
  ∃ i key value, doc.tokens.tail.find? (jsoneq doc.text · shadowClientTokenString) = some key ∧
    doc.tokens[i]? = some key ∧ doc.tokens[i + 1]? = some value ∧
    cutLength value < config.maxSizeClientTokenClientSequence ∧
    (doc.text.drop value.start).take (cutLength value) = token

/-- Record `index`, and no other in use, waits for an answer with `token`. -/
structure WaitsFor (config : ShadowConfig) (token : List UInt8) (index : Nat) (s : Records) :
    Prop where
  lt : index < config.maxAcksToComeinAtAnyGivenTime
  inUse : (s.ackWaitList index).isFree = false
  holds : (s.ackWaitList index).clientTokenID = token
  only : ∀ j < config.maxAcksToComeinAtAnyGivenTime, (s.ackWaitList j).isFree = false →
    (s.ackWaitList j).clientTokenID = token → j = index

/-- Record `index` is the first in use that waits for an answer with `token`. -/
structure FirstWaiting (config : ShadowConfig) (token : List UInt8) (index : Nat)
    (s : Records) : Prop where
  lt : index < config.maxAcksToComeinAtAnyGivenTime
  inUse : (s.ackWaitList index).isFree = false
  holds : (s.ackWaitList index).clientTokenID = token
  first : ∀ j < index, (s.ackWaitList j).isFree = false → (s.ackWaitList j).clientTokenID ≠ token

theorem WaitsFor.firstWaiting {config : ShadowConfig} {token : List UInt8} {index : Nat}
    {s : Records} (h : WaitsFor config token index s) : FirstWaiting config token index s where
  lt := h.lt
  inUse := h.inUse
  holds := h.holds
  first j hj hinUse htoken := Nat.ne_of_lt hj (h.only j (Nat.lt_trans hj h.lt) hinUse htoken)

theorem FirstWaiting.of_ackWaitList_eq {config : ShadowConfig} {token : List UInt8} {index : Nat}
    {s s' : Records} (h : FirstWaiting config token index s)
    (heq : s'.ackWaitList = s.ackWaitList) : FirstWaiting config token index s' where
  lt := h.lt
  inUse := heq ▸ h.inUse
  holds := heq ▸ h.holds
  first := heq ▸ h.first

section Match

variable {env : ShadowEnv} {fuel : Nat} {handlers : Handlers M} {w : World}
  {topicName token : List UInt8} {index : Nat} {status : AckStatus}

theorem ends_ackStatus (h : topicStatus topicName = some status) {Q : AckStatus → World → Prop}
    {H : World → Prop} : (ackStatus env topicName : M AckStatus).Ends w Q H ↔ Q status w := by
  unfold topicStatus at h
  unfold ackStatus
  split at h
  case isTrue haccepted =>
    obtain rfl := Option.some.inj h
    rw [if_pos haccepted]
    exact Iff.rfl
  case isFalse haccepted =>
    split at h
    case isTrue hrejected =>
      obtain rfl := Option.some.inj h
      rw [if_neg haccepted, if_pos hrejected]
      exact Iff.rfl
    case isFalse => cases h

theorem status_of_topicStatus (h : topicStatus topicName = some status) :
    status = .accepted ∨ status = .rejected := by
  unfold topicStatus at h
  split at h
  case isTrue => exact .inl (Option.some.inj h).symm
  case isFalse =>
    split at h
    case isTrue => exact .inr (Option.some.inj h).symm
    case isFalse => cases h

/-- The loop passes over the records in front, and acts on the one that waits. -/
theorem ends_resolveFrom (hwaits : FirstWaiting env.config token index w.shadow)
    (htopic : topicStatus topicName = some status) {Q : Unit → World → Prop} {H : World → Prop}
    {left i : Nat} (hlast : i + left = env.config.maxAcksToComeinAtAnyGivenTime)
    (hi : i ≤ index) :
    (resolveFrom env fuel handlers topicName token left i).Ends w Q H ↔
      (resolve env fuel handlers index status).Ends w Q H := by
  induction left generalizing i with
  | zero => exact absurd hwaits.lt (by omega)
  | succ left ih =>
    rw [resolveFrom, ends_bind, resolveRecord, ends_bind, ends_getRecords]
    dsimp only
    rcases Nat.eq_or_lt_of_le hi with rfl | hlt
    · have hstatus : ¬ (status ≠ .accepted ∧ status ≠ .rejected) := fun h =>
        (status_of_topicStatus htopic).elim h.1 h.2
      rw [if_neg (by simp [hwaits.inUse, hwaits.holds]), ends_bind, ends_ackStatus htopic,
        if_neg hstatus, ends_bind]
      exact Iff.rfl
    · have hother : (w.shadow.ackWaitList i).isFree = true ∨
          (w.shadow.ackWaitList i).clientTokenID ≠ token := by
        by_contra h
        obtain ⟨hinUse, htoken⟩ := not_or.mp h
        exact hwaits.first i hlt (Bool.eq_false_iff.mpr hinUse) (not_not.mp htoken)
      rw [if_pos hother, ends_pure]
      exact ih (by omega) hlt

/-- What is extracted is the token behind the first string that reads "clientToken". -/
theorem TokenBehindFirst.ends_extractClientToken {doc : Document}
    (h : TokenBehindFirst env.config token doc) (hparses : doc.Parses env)
    {Q : Option (List UInt8) → World → Prop} {H : World → Prop} :
    (extractClientToken env doc.text env.config.maxSizeClientTokenClientSequence :
        M (Option (List UInt8))).Ends w Q H ↔ Q (some token) (w.onShadow doc.parse) := by
  obtain ⟨i, key, value, hfind, hi, hvalue, hfits, htoken⟩ := h
  have hparsed := doc.parsedInto_parse w.shadow
  have hsearch := keyIndex_document hparsed shadowClientTokenString
  rw [Shadow.ends_extractClientToken hparses]
  cases hindex : keyIndex doc.text (doc.parse w.shadow).jsonTokenStruct doc.tokens.length
    shadowClientTokenString with
  | none =>
    rw [hindex, hfind] at hsearch
    cases hsearch
  | some i' =>
    rw [hindex] at hsearch
    obtain ⟨key', hi', hfind'⟩ := hsearch
    obtain rfl := Option.some.inj (hfind.symm.trans hfind')
    obtain rfl := Document.index_eq hi hi' rfl
    dsimp only
    rw [hparsed _ _ hvalue, if_neg (Nat.not_le_of_lt hfits), htoken]

/-- A whole token that is short enough is extracted. -/
theorem YieldsToken.exists_behindFirst {payload : List UInt8} {s : Records}
    (h : YieldsToken env token payload s)
    (hfits : token.length < env.config.maxSizeClientTokenClientSequence)
    (hshort : token.length < 256) :
    ∃ doc : Document, doc.text = receivedText env.config payload s ∧ doc.Parses env ∧
      TokenBehindFirst env.config token doc := by
  obtain ⟨-, doc, i, key, value, htext, hparses, hfind, hi, hvalue, hstop, htoken⟩ := h
  have hcut : cutLength value = token.length := by
    rw [cutLength_of_le (by omega), hstop, Nat.add_sub_cancel_left, Nat.mod_eq_of_lt hshort]
  rw [Document.textOf, hstop, Nat.add_sub_cancel_left] at htoken
  exact ⟨doc, htext, hparses, i, key, value, hfind, hi, hvalue, hcut ▸ hfits, hcut ▸ htoken⟩

/-- What the handler does with a document: what it stores before it looks for the client token
leaves the tables alone. -/
theorem ends_ackStatusCallback_document (fuel : Nat) (handlers : Handlers M)
    {call : HandlerCall} {doc : Document}
    (hfits : call.payload.length ≤ env.config.shadowMaxSizeOfRxBuffer)
    (htext : doc.text = receivedText env.config call.payload w.shadow) (hparses : doc.Parses env) :
    ∃ w', w'.client = w.client ∧ w'.shadow.ackWaitList = w.shadow.ackWaitList ∧
      w'.shadow.subscriptionList = w.shadow.subscriptionList ∧
      (∃ mine, w'.shadow.log = .ackReceived mine doc.text :: w.shadow.log) ∧
      ∀ Q H, (ackStatusCallback env fuel handlers call).Ends w Q H ↔
        (extractClientToken env doc.text env.config.maxSizeClientTokenClientSequence >>= fun
          | none => pure ()
          | some clientToken => resolveFrom env fuel handlers
              (topicString w.client call.topicNameAt) clientToken
              env.config.maxAcksToComeinAtAnyGivenTime 0 : M Unit).Ends w' Q H := by
  unfold ackStatusCallback
  rw [if_neg (Nat.not_lt.mpr hfits)]
  simp only [receiveDocument, ends_bind, ends_modifyRecords, ends_getRecords,
    World.shadow_onShadow]
  rw [receivedText] at htext
  rw [← htext]
  simp only [isJsonValidAndParse, ends_parseObject_document hparses, ends_bind, ends_getClient,
    ends_getRecords, ends_note]
  generalize isAckForMyThingName _ _ = mine
  cases mine with
  | false =>
    simp only [Bool.false_eq_true, if_false, ends_bind]
    refine ⟨_, ?_, ?_, ?_, ⟨false, ?_⟩, fun Q H => Iff.rfl⟩ <;> rfl
  | true =>
    simp only [if_true, extractVersionNumber, ends_bind, ends_getRecords, ends_pure]
    generalize List.findSome? _ _ = version
    cases version with
    | none =>
      simp only [ends_bind]
      refine ⟨_, ?_, ?_, ?_, ⟨true, ?_⟩, fun Q H => Iff.rfl⟩ <;> rfl
    | some version =>
      simp only [ends_bind, ends_modifyRecords]
      refine ⟨_, ?_, ?_, ?_, ⟨true, ?_⟩, fun Q H => Iff.rfl⟩ <;> rfl

/-- An ack from which the token is extracted is for the first record that waits for it. -/
theorem ends_ackStatusCallback (fuel : Nat) (handlers : Handlers M) {call : HandlerCall}
    {doc : Document} (hfits : call.payload.length ≤ env.config.shadowMaxSizeOfRxBuffer)
    (htext : doc.text = receivedText env.config call.payload w.shadow) (hparses : doc.Parses env)
    (hfirst : TokenBehindFirst env.config token doc)
    (hwaits : FirstWaiting env.config token index w.shadow)
    (htopic : topicStatus (topicString w.client call.topicNameAt) = some status) :
    ∃ w', w'.client = w.client ∧ w'.shadow.ackWaitList = w.shadow.ackWaitList ∧
      w'.shadow.subscriptionList = w.shadow.subscriptionList ∧
      (∃ mine document, w'.shadow.log = .ackReceived mine document :: w.shadow.log) ∧
      ∀ Q H, (ackStatusCallback env fuel handlers call).Ends w Q H ↔
        (resolve env fuel handlers index status).Ends w' Q H := by
  obtain ⟨w', hclient, hacks, hrecords, ⟨mine, hlog⟩, hends⟩ :=
    ends_ackStatusCallback_document fuel handlers hfits htext hparses
  have hwaits' : FirstWaiting env.config token index (w'.onShadow doc.parse).shadow :=
    hwaits.of_ackWaitList_eq hacks
  refine ⟨w'.onShadow doc.parse, hclient, hacks, hrecords, ⟨mine, doc.text, hlog⟩, fun Q H => ?_⟩
  rw [hends, ends_bind, hfirst.ends_extractClientToken hparses]
  exact ends_resolveFrom hwaits' htopic (Nat.zero_add _) (Nat.zero_le _)

end Match

/-! ### What the handler begins with -/

section Begins

variable {env : ShadowEnv} {fuel depth : Nat} {w : World} {topicName token : List UInt8}
  {index : Nat} {status : AckStatus}

/-- The first thing done from `w` to `w'` was to resolve record `index`. -/
def Resolved (index : Nat) (w w' : World) : Prop :=
  ∃ later, w'.shadow.log = later ++ .resolving index :: w.shadow.log

/-- What is done for a request behind its answer only adds to the log. -/
theorem release_grows : Keeps (NothingBefore 0) (do
    unsubscribeFromAcceptedAndRejected env fuel (handlersAt env fuel depth) index
    freeAckWait index : M Unit) := by
  have hs := nothingBefore_shadowing (n := 0) env
  have hhandlers := (nothingBefore_versioned 0 env fuel).handlersAt depth
  exact hs.bind (hs.subscribing.unsubscribeFromAcceptedAndRejected fuel hhandlers index)
    fun _ => hs.answering.freeAckWait index

theorem callback_grows : Keeps (NothingBefore 0) (do
    (handlersAt env fuel depth).action
    unsubscribeFromAcceptedAndRejected env fuel (handlersAt env fuel depth) index
    freeAckWait index : M Unit) :=
  (keeps_compositional (NothingBefore 0)).bind
    ((nothingBefore_versioned 0 env fuel).handlersAt depth).action fun _ => release_grows

theorem resolve_resolved : (resolve env fuel (handlersAt env fuel depth) index status :
    M Unit).Ends w (fun _ => Resolved index w) (Resolved index w) := by
  have hbehind : ∀ w', NothingBefore 0 (w.onShadow fun s =>
      { s with log := .resolving index :: s.log }) w' → Resolved index w w' := by
    intro w' h
    obtain ⟨later, hlater, -⟩ := h (Nat.zero_le _)
    exact ⟨later, hlater⟩
  have hcalled : ∀ request, Keeps (NothingBefore 0) (do
      note (.callbackCalled index request status)
      (handlersAt env fuel depth).action
      unsubscribeFromAcceptedAndRejected env fuel (handlersAt env fuel depth) index
      freeAckWait index : M Unit) := fun request =>
    (keeps_compositional (NothingBefore 0)).bind
      ((nothingBefore_shadowing env).note (by simp [ShadowEvent.kind])) fun _ => callback_grows
  rw [resolve, ends_bind, callBack, ends_bind, ends_getRecords]
  dsimp only
  rw [ends_bind, ends_note]
  split
  · exact ends_bind.mp ((hcalled _ _).mono (fun _ => hbehind) hbehind)
  · exact (release_grows _).mono (fun _ => hbehind) hbehind

/-- The loop resolves a record that holds the token, or nothing. -/
theorem resolveFrom_resolved (htopic : topicStatus topicName = some status) (left i : Nat) :
    (resolveFrom env fuel (handlersAt env fuel depth) topicName token left i : M Unit).Ends w
      (fun _ w' => w'.shadow.log = w.shadow.log ∨
        ∃ j, (w.shadow.ackWaitList j).clientTokenID = token ∧ Resolved j w w')
      (fun w' => w'.shadow.log = w.shadow.log ∨
        ∃ j, (w.shadow.ackWaitList j).clientTokenID = token ∧ Resolved j w w') := by
  induction left generalizing i with
  | zero => exact .inl rfl
  | succ left ih =>
    have hstatus : ¬ (status ≠ .accepted ∧ status ≠ .rejected) := fun h =>
      (status_of_topicStatus htopic).elim h.1 h.2
    rw [resolveFrom, ends_bind, resolveRecord, ends_bind, ends_getRecords]
    dsimp only
    split
    case isTrue => exact ih (i + 1)
    case isFalse hholds =>
      have htoken := not_not.mp (not_or.mp hholds).2
      rw [ends_bind, ends_ackStatus htopic, if_neg hstatus, ends_bind]
      exact resolve_resolved.mono (fun _ _ h => .inr ⟨i, htoken, h⟩)
        fun _ h => .inr ⟨i, htoken, h⟩

end Begins

/-! ## The round trip -/

/-- In `w` the handler is called for an ack, a document with the client token `token`, whose
topic tells `status`, and record `index` waits for it. -/
structure Echoes (env : ShadowEnv) (token : List UInt8) (doc : Document) (call : HandlerCall)
    (index : Nat) (status : AckStatus) (w : World) : Prop where
  fits : call.payload.length ≤ env.config.shadowMaxSizeOfRxBuffer
  text : doc.text = receivedText env.config call.payload w.shadow
  tells : JsmnTells env doc.text (some doc)
  hasToken : doc.HasClientToken token
  waits : WaitsFor env.config token index w.shadow
  topic : topicStatus (topicString w.client call.topicNameAt) = some status

/-- In `w` the handler reads the ack, and goes on as if it were for record `index`. -/
def MatchedTo (env : ShadowEnv) (fuel : Nat) (handlers : Handlers M) (call : HandlerCall)
    (index : Nat) (status : AckStatus) (w : World) : Prop :=
  ∃ w', w'.client = w.client ∧ w'.shadow.ackWaitList = w.shadow.ackWaitList ∧
    w'.shadow.subscriptionList = w.shadow.subscriptionList ∧
    (∃ mine document, w'.shadow.log = .ackReceived mine document :: w.shadow.log) ∧
    ∀ Q H, (ackStatusCallback env fuel handlers call).Ends w Q H ↔
      (resolve env fuel handlers index status).Ends w' Q H

/-- The request with the client token that is generated from the client id `id` and the number
`n` fits its array, and what is taken out of it is the token. -/
def ExtractedWhole (env : ShadowEnv) (id : List UInt8) (n : UInt32) : Prop :=
  ∀ w : World, w.shadow.mqttClientID = id → w.shadow.clientTokenNum = n →
    ∃ request token w' w'', (fillWithClientToken : M (List UInt8)).run w = .done token w' ∧
      token = clientTokenWith id n ∧
      (emptyJsonWithClientToken : M (List UInt8)).run w = .done request w' ∧
      request.length < env.config.maxSizeClientTokenClientSequence ∧
      (extractClientToken env request env.config.maxSizeClientIdWithSequence :
        M (Option (List UInt8))).run w' = .done (some token) w''

/-- A client token that is generated from the client id `id` and the number `n` survives
until the ack, for which the handler is called in `w`. -/
structure SurvivesTrip (env : ShadowEnv) (fuel : Nat) (handlers : Handlers M) (id : List UInt8)
    (n : UInt32) (call : HandlerCall) (index : Nat) (status : AckStatus) (w : World) : Prop where
  /-- It is in its request whole. -/
  extracted : ExtractedWhole env id n
  /-- The token fits its record. -/
  recorded : ∀ index thingName action callback timeoutSeconds w,
    (addToAckWaitList env index thingName action (clientTokenWith id n) callback
      timeoutSeconds : M Unit).Ends w
      (fun _ w' => (w'.shadow.ackWaitList index).isFree = false ∧
        (w'.shadow.ackWaitList index).clientTokenID = clientTokenWith id n ∧
        (w'.shadow.ackWaitList index).clientTokenID.length <
          env.config.maxSizeClientIdWithSequence) (fun _ => False)
  /-- The ack is for the record that waits for it. -/
  matched : MatchedTo env fuel handlers call index status w
  /-- Another number gives another token. -/
  distinct : ∀ m, clientTokenWith id m = clientTokenWith id n → m = n

section RoundTrip

variable {env : ShadowEnv} {fuel : Nat} {handlers : Handlers M} {id : List UInt8} {n : UInt32}
  {w : World}

/-- The token and the request with it. -/
theorem exists_run_emptyJsonWithClientToken (hid : w.shadow.mqttClientID = id)
    (hn : w.shadow.clientTokenNum = n) :
    ∃ w', (fillWithClientToken : M (List UInt8)).run w = .done (clientTokenWith id n) w' ∧
      (emptyJsonWithClientToken : M (List UInt8)).run w =
        .done (requestDocument (clientTokenWith id n)).text w' := by
  subst hid hn
  exact ⟨_, rfl, rfl⟩

theorem length_requestDocument (token : List UInt8) :
    (requestDocument token).text.length = token.length + 18 := by
  have hlength : (requestDocument token).text.length =
      (ascii "\x7b\"clientToken\":\"" ++ token).length + 2 := List.length_append
  rw [hlength, List.length_append]
  exact Nat.add_right_comm 16 token.length 2 ▸ Nat.add_comm 18 token.length

theorem ends_extractClientToken_request {token : List UInt8}
    (hparses : (requestDocument token).Parses env) {size : Nat}
    {Q : Option (List UInt8) → World → Prop} {H : World → Prop} :
    (extractClientToken env (requestDocument token).text size :
        M (Option (List UInt8))).Ends w Q H ↔
      if size ≤ token.length % 256 then H (w.onShadow (requestDocument token).parse)
      else Q (some ((requestDocument token).text.drop 16 |>.take (token.length % 256)))
        (w.onShadow (requestDocument token).parse) := by
  have hindex : keyIndex (requestDocument token).text
      ((requestDocument token).parse w.shadow).jsonTokenStruct
      (requestDocument token).tokens.length shadowClientTokenString = some 1 := rfl
  have hcut : cutLength ⟨.string, 16, 16 + token.length⟩ = token.length % 256 := by
    rw [cutLength_of_le (Nat.le_add_right _ _), Nat.add_sub_cancel_left]
  rw [ends_extractClientToken hparses, hindex, ← hcut]
  exact Iff.rfl

theorem addToAckWaitList_token {index : Nat} {thingName : List UInt8} {action : ShadowActions}
    {token : List UInt8} {callback : Bool} {timeoutSeconds : Nat} {H : World → Prop} :
    (addToAckWaitList env index thingName action token callback timeoutSeconds : M Unit).Ends w
      (fun _ w' => (w'.shadow.ackWaitList index).isFree = false ∧
        (w'.shadow.ackWaitList index).clientTokenID = token) H := by
  unfold addToAckWaitList updateAckWait
  simp [countdownSec]

/-- What is extracted from a request fits the array for it. -/
theorem ExtractedWhole.length_lt (h : ExtractedWhole env id n)
    (hparses : (requestDocument (clientTokenWith id n)).Parses env) :
    (clientTokenWith id n).length < env.config.maxSizeClientIdWithSequence ∧
      (clientTokenWith id n).length < 256 := by
  obtain ⟨w, hw, hn⟩ : ∃ w : World, w.shadow.mqttClientID = id ∧ w.shadow.clientTokenNum = n :=
    ⟨World.start.onShadow fun s => { s with mqttClientID := id, clientTokenNum := n }, rfl, rfl⟩
  obtain ⟨request, token, w', w'', -, rfl, hempty, -, hextract⟩ := h w hw hn
  obtain ⟨w₁, -, hempty'⟩ := exists_run_emptyJsonWithClientToken hw hn
  obtain ⟨rfl, rfl⟩ := Outcome.done.inj (hempty.symm.trans hempty')
  rw [run_eq_done_iff, ends_extractClientToken_request hparses] at hextract
  split at hextract
  case isTrue => exact hextract.elim
  case isFalse hfits =>
    have htoken := congrArg List.length (Option.some.inj hextract.1)
    rw [List.length_take] at htoken
    have hmod := Nat.mod_lt (clientTokenWith id n).length (show 0 < 256 by decide)
    omega

/-- A document with too many tokens is not read. -/
theorem ends_ackStatusCallback_refused (fuel : Nat) (handlers : Handlers M) {call : HandlerCall}
    {doc : Document} (hfits : call.payload.length ≤ env.config.shadowMaxSizeOfRxBuffer)
    (htext : doc.text = receivedText env.config call.payload w.shadow)
    (hrefused : (env.jsmnParse (doc.text.takeWhile (· ≠ 0))).count = none) :
    (ackStatusCallback env fuel handlers call).Ends w
      (fun _ w' => w'.shadow.log = w.shadow.log) (fun _ => False) := by
  unfold ackStatusCallback
  rw [if_neg (Nat.not_lt.mpr hfits)]
  simp only [receiveDocument, ends_bind, ends_modifyRecords, ends_getRecords,
    World.shadow_onShadow]
  rw [receivedText] at htext
  rw [← htext]
  unfold isJsonValidAndParse parseObject
  simp only [ends_bind, ends_modifyRecords, ends_getRecords, ends_pure, hrefused]
  exact rfl

/-- What was done from `w` to `w'` began with reading an ack and resolving record `index`. -/
def ReadAndResolved (index : Nat) (w w' : World) : Prop :=
  ∃ later mine document,
    w'.shadow.log = later ++ .resolving index :: .ackReceived mine document :: w.shadow.log

/-- Who reads an ack and does nothing resolves no record. -/
theorem not_readAndResolved {index : Nat} {w' : World}
    (hshort : w'.shadow.log.length ≤ w.shadow.log.length + 1) :
    ¬ ReadAndResolved index w w' := by
  rintro ⟨later, mine, document, hlater⟩
  rw [hlater] at hshort
  simp only [List.length_append, List.length_cons] at hshort
  omega

/-- If the record that waits for the ack is resolved, the ack is clear. -/
theorem behindFirst_of_resolved {token : List UInt8} {doc : Document} {call : HandlerCall}
    {index : Nat} {status : AckStatus} {depth : Nat} (h : Echoes env token doc call index status w)
    (hresolved : ReadAndResolved index w
      ((ackStatusCallback env fuel (handlersAt env fuel depth) call : M Unit).run w).state) :
    doc.tokens.length ≤ env.config.maxJsonTokenExpected ∧
      TokenBehindFirst env.config token doc := by
  obtain ⟨-, htells⟩ := h.tells
  split at htells
  case isFalse =>
    have hends := ends_ackStatusCallback_refused fuel (handlersAt env fuel depth) h.fits h.text
      htells
    have hlog := ends_state_iff.mp (hends.mono (fun _ _ hlog => hlog) fun _ h => h.elim)
    exact absurd hresolved (not_readAndResolved (by rw [hlog]; exact Nat.le_succ _))
  case isTrue htokens =>
  refine ⟨htokens, ?_⟩
  obtain ⟨w₁, -, hacks, -, ⟨mine, hlog⟩, hends⟩ :=
    ends_ackStatusCallback_document fuel (handlersAt env fuel depth) h.fits h.text htells
  have hread : ∀ {w' : World}, w'.shadow.log = w₁.shadow.log → ¬ ReadAndResolved index w w' :=
    fun heq => not_readAndResolved (by rw [heq, hlog]; exact Nat.le_refl _)
  have hbehind := (hends _ _).mp (ends_state_iff.mpr hresolved)
  rw [ends_bind, Shadow.ends_extractClientToken htells] at hbehind
  have hparsed := doc.parsedInto_parse w₁.shadow
  have hsearch := keyIndex_document hparsed shadowClientTokenString
  cases hindex : keyIndex doc.text (doc.parse w₁.shadow).jsonTokenStruct doc.tokens.length
    shadowClientTokenString with
  | none =>
    rw [hindex] at hbehind
    exact absurd hbehind (hread rfl)
  | some i =>
    rw [hindex] at hbehind hsearch
    obtain ⟨key, hi, hfind⟩ := hsearch
    obtain ⟨j, name, value, hj, hnext, hreads⟩ := exists_index_of_hasClientToken h.hasToken
    have hle := le_of_find?_tokens hfind hi hj hreads
    have hlength : i + 1 < doc.tokens.length :=
      Nat.lt_of_le_of_lt (by omega) (List.getElem?_eq_some_iff.mp hnext).1
    have hvalue := List.getElem?_eq_getElem hlength
    dsimp only at hbehind
    rw [hparsed _ _ hvalue] at hbehind
    split at hbehind
    case isTrue => exact absurd hbehind (hread rfl)
    case isFalse hfits =>
      refine ⟨i, key, _, hfind, hi, hvalue, Nat.lt_of_not_le hfits, ?_⟩
      -- the record that is resolved is the one that waits
      have hboth := hbehind.and (resolveFrom_resolved h.topic _ 0)
      obtain ⟨⟨later, mine', document, hlater⟩, hsame | ⟨j, htoken, later', hlater'⟩⟩ :=
        ends_state_iff.mp hboth
      · exact absurd ⟨later, mine', document, hlater⟩ (hread hsame)
      · rw [show (w₁.onShadow doc.parse).shadow.log = _ from hlog] at hlater'
        obtain ⟨-, htail⟩ := List.append_inj' (hlater'.symm.trans hlater) rfl
        obtain ⟨rfl, -⟩ : j = index ∧ _ := by simpa using htail
        rw [← htoken, show (w₁.onShadow doc.parse).shadow.ackWaitList = _ from hacks]
        exact h.waits.holds

/-- An ack is matched exactly if jsmn has tokens enough for it, and its first string that
reads "clientToken" has the token behind it. -/
theorem matchedTo_iff {token : List UInt8} {doc : Document} {call : HandlerCall} {index : Nat}
    {status : AckStatus} {depth : Nat} (h : Echoes env token doc call index status w) :
    MatchedTo env fuel (handlersAt env fuel depth) call index status w ↔
      doc.tokens.length ≤ env.config.maxJsonTokenExpected ∧
        TokenBehindFirst env.config token doc := by
  obtain ⟨-, htells⟩ := h.tells
  constructor
  · rintro ⟨w', -, -, -, ⟨mine, document, hlog⟩, hends⟩
    obtain ⟨later, hlater⟩ := ends_state_iff.mp ((hends _ _).mpr resolve_resolved)
    exact behindFirst_of_resolved h ⟨later, mine, document, hlog ▸ hlater⟩
  · rintro ⟨htokens, hfirst⟩
    rw [if_pos htokens] at htells
    exact ends_ackStatusCallback fuel _ h.fits h.text htells hfirst h.waits.firstWaiting h.topic

/-- For every client id that needs no escape, every number and every ack with the token, the
token survives exactly if it is shorter than the array of the record and its length a number
of eight bits, jsmn has tokens enough for the ack, and the first string in it that reads
"clientToken" has the token behind it. -/
theorem survivesTrip_iff (env : ShadowEnv) (fuel depth : Nat)
    (hrequest : env.config.maxSizeClientTokenClientSequence =
      env.config.maxSizeClientIdWithSequence + 20)
    (hjsmn : ∀ token : List UInt8, token.all isPlain = true → (requestDocument token).Parses env)
    (id : List UInt8) (hid : id.all isPlain = true) (n : UInt32) {doc : Document}
    {call : HandlerCall} {index : Nat} {status : AckStatus} {w : World}
    (hechoes : Echoes env (clientTokenWith id n) doc call index status w) :
    SurvivesTrip env fuel (handlersAt env fuel depth) id n call index status w ↔
      id.length + 1 + (decimal n).length < min env.config.maxSizeClientIdWithSequence 256 ∧
        doc.tokens.length ≤ env.config.maxJsonTokenExpected ∧
          TokenBehindFirst env.config (clientTokenWith id n) doc := by
  have hparses := hjsmn _ (all_isPlain_clientTokenWith hid n)
  rw [← length_clientTokenWith, Nat.lt_min, ← matchedTo_iff hechoes]
  constructor
  · exact fun h => ⟨h.extracted.length_lt hparses, h.matched⟩
  · rintro ⟨⟨hfits, hshort⟩, hmatched⟩
    refine ⟨fun w hw hn => ?_, fun _ _ _ _ _ w => ?_, hmatched, fun m => clientTokenWith_injective⟩
    · obtain ⟨w', hfill, hempty⟩ := exists_run_emptyJsonWithClientToken hw hn
      have hextract : (extractClientToken env (requestDocument (clientTokenWith id n)).text
          env.config.maxSizeClientIdWithSequence : M (Option (List UInt8))).Ends w'
          (fun found _ => found = some (clientTokenWith id n)) (fun _ => False) := by
        rw [ends_extractClientToken_request hparses, Nat.mod_eq_of_lt hshort,
          if_neg (Nat.not_le_of_lt hfits), drop_requestDocument, List.take_left' rfl]
      obtain ⟨_, w'', hrun, rfl⟩ := exists_run_of_ends hextract
      refine ⟨_, _, w', w'', hfill, rfl, hempty, ?_, hrun⟩
      rw [length_requestDocument]
      omega
    · exact Ends.mono addToAckWaitList_token (fun _ _ h => ⟨h.1, h.2, h.2 ▸ hfits⟩) fun _ h => h

end RoundTrip

/-! ### Clients with a number -/

/-- A parser of requests with a client token. -/
def requestParser (text : List UInt8) : JsmnResult :=
  let doc := requestDocument ((text.drop 16).take (text.length - 18))
  if text = doc.text then ⟨some doc.tokens.length, doc.tokens⟩ else ⟨none, []⟩

theorem takeWhile_requestDocument {token : List UInt8} (h : token.all isPlain = true)
    (behind : List UInt8) : ((requestDocument token).text ++ 0 :: behind).takeWhile (· ≠ 0) =
      (requestDocument token).text := by
  have hplain : ∀ c ∈ (requestDocument token).text, decide (c ≠ 0) = true := by
    intro c hc
    refine decide_eq_true ?_
    rintro rfl
    rcases List.mem_append.mp hc with hc | hc
    · rcases List.mem_append.mp hc with hc | hc
      · exact absurd hc (by decide)
      · exact absurd (List.all_eq_true.mp h 0 hc) (by decide)
    · exact absurd hc (by decide)
  rw [List.takeWhile_append_of_pos hplain]
  exact List.append_nil _

theorem requestParser_requestDocument (token : List UInt8) :
    requestParser (requestDocument token).text =
      ⟨some (requestDocument token).tokens.length, (requestDocument token).tokens⟩ := by
  have htoken : ((requestDocument token).text.drop 16).take
      ((requestDocument token).text.length - 18) = token := by
    rw [length_requestDocument, Nat.add_sub_cancel, drop_requestDocument, List.take_left' rfl]
  rw [requestParser, htoken, if_pos rfl]

theorem requestParser_parses (token : List UInt8) (h : token.all isPlain = true) :
    (requestDocument token).Parses (quietShadowEnv requestParser) := by
  have hplain := takeWhile_requestDocument h []
  have htext : (requestDocument token).text.takeWhile (· ≠ 0) = (requestDocument token).text := by
    rw [List.takeWhile_append] at hplain
    split at hplain
    case isTrue hall => exact (List.takeWhile_prefix _).eq_of_length hall
    case isFalse => exact hplain
  show requestParser ((requestDocument token).text.takeWhile (· ≠ 0)) = _
  rw [htext, requestParser_requestDocument]

/-- The document `{"clientToken":"<token>"}`, with what lies behind it. -/
def echoDocument (token behind : List UInt8) : Document where
  text := (requestDocument token).text ++ 0 :: behind
  start := 0
  stop := 18 + token.length
  members := (requestDocument token).members
  ordered := (requestDocument token).ordered
  spans := (requestDocument token).spans
  nested := (requestDocument token).nested
  delimited := by simp [requestDocument, Json.tokens, Members.tokens]

section Echo

variable {token behind : List UInt8}

theorem drop_echoDocument :
    (echoDocument token behind).text.drop 16 = token ++ (ascii "\"\x7d" ++ 0 :: behind) := by
  have hlength : 16 ≤ (requestDocument token).text.length := by
    rw [length_requestDocument]
    omega
  show ((requestDocument token).text ++ 0 :: behind).drop 16 = _
  rw [List.drop_append_of_le_length hlength, drop_requestDocument, List.append_assoc]

theorem hasClientToken_echoDocument : (echoDocument token behind).HasClientToken token := by
  refine ⟨⟨.string, 2, 13⟩, .string 16 (16 + token.length), List.mem_cons_self, rfl, rfl, ?_⟩
  show ((echoDocument token behind).text.drop 16).take (16 + token.length - 16) = token
  rw [drop_echoDocument, Nat.add_sub_cancel_left, List.take_left' rfl]

theorem tokenBehindFirst_echoDocument {config : ShadowConfig}
    (hfits : token.length < config.maxSizeClientTokenClientSequence)
    (hshort : token.length < 256) :
    TokenBehindFirst config token (echoDocument token behind) := by
  have hcut : cutLength ⟨.string, 16, 16 + token.length⟩ = token.length := by
    rw [cutLength_of_le (Nat.le_add_right _ _), Nat.add_sub_cancel_left, Nat.mod_eq_of_lt hshort]
  refine ⟨1, ⟨.string, 2, 13⟩, ⟨.string, 16, 16 + token.length⟩, rfl, rfl, rfl, ?_, ?_⟩
  · rw [hcut]
    exact hfits
  show ((echoDocument token behind).text.drop 16).take _ = token
  rw [drop_echoDocument, hcut, List.take_left' rfl]

theorem echoDocument_parses (h : token.all isPlain = true) :
    (echoDocument token behind).Parses (quietShadowEnv requestParser) := by
  show requestParser (((requestDocument token).text ++ 0 :: behind).takeWhile (· ≠ 0)) = _
  rw [takeWhile_requestDocument h, requestParser_requestDocument]
  rfl

end Echo

/-- What lies behind a payload that is received. -/
def behindReceived (config : ShadowConfig) (payload : List UInt8) (s : Records) : List UInt8 :=
  (s.shadowRxBuf.writeAt 0 (payload ++ [0])).slice (payload.length + 1)
    (config.shadowMaxSizeOfRxBuffer - payload.length)

theorem receivedText_eq {config : ShadowConfig} {payload : List UInt8} {s : Records}
    (h : payload.length ≤ config.shadowMaxSizeOfRxBuffer) :
    receivedText config payload s = payload ++ 0 :: behindReceived config payload s := by
  have hlength : config.shadowMaxSizeOfRxBuffer + 1 =
      (payload ++ [0]).length + (config.shadowMaxSizeOfRxBuffer - payload.length) := by
    rw [List.length_append, List.length_singleton]
    omega
  rw [receivedText, rxDocument, hlength, Memory.slice_add, Memory.slice_writeAt_self,
    List.append_assoc, Nat.zero_add, List.length_append]
  rfl

/-- A get request with the token is awaited, and the topic of its answer is in the read
buffer. -/
def waitingWorld (token : List UInt8) : World :=
  { World.start with
    client := { zeroedClient with
      readBufSize := 512
      readBuf := zeroedClient.readBuf.writeAt 4 (ascii "$aws/things/a/shadow/get/accepted") }
    shadow := { zeroedRecords with
      ackWaitList := fun i => ⟨token, ascii "a", .get, true, decide (i ≠ 0), 0, 1⟩ } }

/-- The call of the handler for the answer. -/
def echoCall (token : List UInt8) : HandlerCall where
  slot := 0
  handler := ackStatusCallbackHandler
  data := 0
  topicNameAt := 4
  topicName := ascii "$aws/things/a/shadow/get/accepted"
  payload := (requestDocument token).text

theorem echoes_waitingWorld {token : List UInt8} (h : token.all isPlain = true)
    (hfits : token.length + 18 ≤ ({} : ShadowConfig).shadowMaxSizeOfRxBuffer) :
    Echoes (quietShadowEnv requestParser) token
      (echoDocument token (behindReceived {} (requestDocument token).text zeroedRecords))
      (echoCall token) 0 .accepted (waitingWorld token) where
  fits := (length_requestDocument token).trans_le hfits
  text := (receivedText_eq ((length_requestDocument token).trans_le hfits)).symm
  tells := ⟨rfl, echoDocument_parses h⟩
  hasToken := hasClientToken_echoDocument
  waits := ⟨by decide, rfl, rfl, fun j _ hfree _ => by
    simpa [waitingWorld] using hfree⟩
  topic :=
    show topicStatus (topicString (waitingWorld []).client 4) = some .accepted by decide +kernel

theorem survivesTrip_device : SurvivesTrip (quietShadowEnv requestParser) 2
    (handlersAt (quietShadowEnv requestParser) 2 2) (ascii "device") 7
    (echoCall (ascii "device-7")) 0 .accepted (waitingWorld (ascii "device-7")) :=
  (survivesTrip_iff _ 2 2 rfl requestParser_parses (ascii "device") (by decide) 7
    (echoes_waitingWorld (by decide) (by decide))).mpr
    ⟨by decide, by decide, tokenBehindFirst_echoDocument (by decide) (by decide)⟩

/-- With a client id of 79 characters the number 1000000000 is one character too long. -/
theorem not_every_token_survivesTrip :
    ¬ ∀ (env : ShadowEnv) (fuel depth : Nat) (id : List UInt8) (n : UInt32) (doc : Document)
      (call : HandlerCall) (index : Nat) (status : AckStatus) (w : World),
      env.config.maxSizeClientIdWithSequence = env.config.maxSizeOfUniqueClientIdBytes + 10 →
      env.config.maxSizeClientTokenClientSequence =
        env.config.maxSizeClientIdWithSequence + 20 →
      (∀ token : List UInt8, token.all isPlain = true → (requestDocument token).Parses env) →
      id.length < env.config.maxSizeOfUniqueClientIdBytes → id.all isPlain = true →
      Echoes env (clientTokenWith id n) doc call index status w →
      SurvivesTrip env fuel (handlersAt env fuel depth) id n call index status w := by
  intro h
  have hsurvives := h (quietShadowEnv requestParser) 0 0 (List.replicate 79 0x61) 1000000000 _ _ _
    _ _ rfl rfl requestParser_parses (by decide) (by decide)
    (echoes_waitingWorld (by decide) (by decide))
  obtain ⟨-, w', -, -, htoken, hshort⟩ :=
    exists_run_of_ends (hsurvives.recorded 0 [] .get false 0 World.start)
  rw [htoken] at hshort
  exact absurd hshort (by decide)

end AwsIot.Shadow
