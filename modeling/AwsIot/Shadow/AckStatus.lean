/-
  Shadow/AckStatus.lean --- which status the callback of a request is given.

  The handler of acks is given the place of the topic in the read buffer, where no NUL ends
  it, and looks for words in what is there with `strstr`.  A word that does not occur in the
  topic is looked for in the payload and behind it.
-/
import AwsIot.Shadow.DeltaDispatch
import AwsIot.Shadow.TokenRoundTrip
import AwsIot.Shadow.TopicNames

set_option autoImplicit false

namespace AwsIot.Shadow

open AwsIot.Foundation AwsIot.Mqtt Program

/-! ## Searches -/

/-- How many characters of a string `strstr` looks at, the NUL behind it included: up to the
end of the first occurrence. -/
def strstrExtent : List UInt8 → List UInt8 → Nat
  | [], needle => if needle = [] then 0 else 1
  | c :: string, needle =>
      if needle.isPrefixOf (c :: string) then needle.length else strstrExtent string needle + 1

section Strings

variable {string a b needle : List UInt8}

theorem strstr_iff_occurs : strstr string needle = true ↔ needle <:+: string := by
  induction string with
  | nil => rw [strstr, List.isEmpty_iff, List.infix_nil]
  | cons c string ih =>
    rw [strstr, Bool.or_eq_true, List.isPrefixOf_iff_prefix, ih, List.infix_cons_iff]

theorem strstrExtent_le : strstrExtent string needle ≤ string.length + 1 := by
  induction string with
  | nil =>
    rw [strstrExtent]
    split <;> decide
  | cons c string ih =>
    rw [strstrExtent]
    split
    case isTrue hprefix =>
      exact (List.isPrefixOf_iff_prefix.mp hprefix).length_le.trans (Nat.le_succ _)
    case isFalse => exact Nat.succ_le_succ ih

/-- A search stays within the first part of a string exactly if it is successful there. -/
theorem strstrExtent_append_le_iff :
    strstrExtent (a ++ b) needle ≤ a.length ↔ strstr a needle = true := by
  induction a with
  | nil =>
    rw [strstr, List.isEmpty_iff, List.nil_append, List.length_nil, Nat.le_zero]
    cases b with
    | nil => simp [strstrExtent]
    | cons c b =>
      rw [strstrExtent]
      split
      case isTrue => exact List.length_eq_zero_iff
      case isFalse hprefix =>
        refine iff_of_false (Nat.succ_ne_zero _) ?_
        rintro rfl
        exact hprefix rfl
  | cons c a ih =>
    rw [strstr, Bool.or_eq_true, List.isPrefixOf_iff_prefix, List.cons_append, strstrExtent]
    split
    case isTrue hprefix =>
      have hprefix := List.isPrefixOf_iff_prefix.mp hprefix
      constructor
      · exact fun h => .inl (List.prefix_of_prefix_length_le hprefix
          (List.prefix_append (c :: a) b) h)
      · rintro (h | h)
        · exact h.length_le
        · exact ((strstr_iff_occurs.mp h).length_le).trans (Nat.le_succ _)
    case isFalse hprefix =>
      rw [List.length_cons, Nat.succ_le_succ_iff, ih, or_iff_right]
      exact fun h => hprefix
        (List.isPrefixOf_iff_prefix.mpr (h.trans (List.prefix_append (c :: a) b)))

/-- What is looked at of memory that starts with `a` lies in `a` exactly if there is a NUL in
it or the search is successful there. -/
theorem strstrExtent_takeWhile_le_iff :
    strstrExtent ((a ++ b).takeWhile (· ≠ 0)) needle ≤ a.length ↔
      strstr (a.takeWhile (· ≠ 0)) needle = true ∨ 0 ∈ a := by
  by_cases hnul : 0 ∈ a
  · have hlength : (a.takeWhile (· ≠ 0)).length ≠ a.length := fun h => by
      have heq := (List.takeWhile_prefix (· ≠ (0 : UInt8))).eq_of_length h
      exact absurd (List.takeWhile_eq_self_iff.mp heq 0 hnul) (by decide)
    have hshort := (List.takeWhile_prefix (l := a) (· ≠ (0 : UInt8))).length_le
    rw [List.takeWhile_append, if_neg hlength]
    exact iff_of_true (strstrExtent_le.trans (by omega)) (.inr hnul)
  · have hall : ∀ c ∈ a, decide (c ≠ 0) = true := by
      intro c hc
      refine decide_eq_true ?_
      rintro rfl
      exact hnul hc
    rw [List.takeWhile_append_of_pos hall, List.takeWhile_eq_self_iff.mpr hall,
      strstrExtent_append_le_iff, or_iff_left hnul]

end Strings

/-! ## What the handler looks for -/

/-- The words that a chain of alternatives looks for: up to the first that occurs. -/
def searchUntil (topicName : List UInt8) : List (List UInt8) → List (List UInt8)
  | [] => []
  | needle :: rest =>
      needle :: if strstr topicName needle then [] else searchUntil topicName rest

/-- What `isAckForMyThingName` looks for. -/
def ownershipSearches (s : Records) (topicName : List UInt8) : List (List UInt8) :=
  s.myThingName ::
    if strstr topicName s.myThingName then
      searchUntil topicName [ascii "get/accepted", ascii "update/accepted", ascii "delta"]
    else []

/-- What is looked for if a record waits for the ack. -/
def statusSearches (topicName : List UInt8) : List (List UInt8) :=
  searchUntil topicName [ascii "accepted", ascii "rejected"]

/-- A record in use waits for an answer with the token. -/
def isAwaited (config : ShadowConfig) (s : Records) (clientToken : List UInt8) : Bool :=
  (List.range config.maxAcksToComeinAtAnyGivenTime).any fun i =>
    !(s.ackWaitList i).isFree && (s.ackWaitList i).clientTokenID == clientToken

/-- What `AckStatusCallback` looks for in the topic. -/
def ackSearches (env : ShadowEnv) (call : HandlerCall) (w : World) : List (List UInt8) :=
  if env.config.shadowMaxSizeOfRxBuffer < call.payload.length then []
  else
    let topicName := topicString w.client call.topicNameAt
    let received := ((receiveDocument call.payload : M Unit).run w).state
    let document := rxDocument env.config received.shadow
    match (isJsonValidAndParse env document : M (Option Nat)).run received with
    | .done (some _) parsed =>
        ownershipSearches parsed.shadow topicName ++
          match (extractClientToken env document
            env.config.maxSizeClientTokenClientSequence : M (Option (List UInt8))).run parsed with
          | .done (some clientToken) w' =>
              if isAwaited env.config w'.shadow clientToken then statusSearches topicName else []
          | _ => []
    | _ => []

theorem any_searchUntil (topicName : List UInt8) (needles : List (List UInt8)) :
    (searchUntil topicName needles).any (strstr topicName) = needles.any (strstr topicName) := by
  induction needles with
  | nil => rfl
  | cons needle rest ih =>
    rw [searchUntil, List.any_cons, List.any_cons]
    cases strstr topicName needle with
    | true => rfl
    | false => exact congrArg _ ih

/-- An ack is taken for one of my thing exactly if its name and one of the other words are
found. -/
theorem isAckForMyThingName_eq_any (s : Records) (topicName : List UInt8) :
    isAckForMyThingName s topicName = (strstr topicName s.myThingName &&
      (ownershipSearches s topicName).tail.any (strstr topicName)) := by
  rw [isAckForMyThingName, ownershipSearches, List.tail_cons]
  cases strstr topicName s.myThingName with
  | false => rfl
  | true =>
    rw [if_pos rfl, any_searchUntil]
    simp [Bool.or_assoc]

/-! ## Acks -/

/-- The status that the end of an ack topic stands for. -/
def AckTopicTypes.status : AckTopicTypes → Option AckStatus
  | .accepted => some .accepted
  | .rejected => some .rejected
  | .action => none

/-- The handler is called for the ack topic of an action of a thing, and `packet`, which is what
was received from the topic on, lies in the read buffer. -/
structure ReceivedAck (c : Client) (call : HandlerCall) (packet : List UInt8)
    (thing : ThingName) (action : ShadowActions) (ackType : AckTopicTypes) : Prop where
  topic : call.topicName = ascii "$aws/things/" ++ (thing.bytes ++ topicTail action ackType)
  layout : ∃ id, packet = call.topicName ++ (id ++ call.payload)
  stored : c.readBuf.slice call.topicNameAt packet.length = packet
  inBuffer : call.topicNameAt + packet.length ≤ c.readBufSize

/-- Record `index` is the first that waits for the token, has a callback, and holds the token
whole. -/
structure Awaited (config : ShadowConfig) (token : List UInt8) (index : Nat) (s : Records) :
    Prop extends FirstWaiting config token index s where
  callback : (s.ackWaitList index).callback = true
  fits : token.length < config.maxSizeClientIdWithSequence

/-- Once the ack was read, the callback of the request in record `index` was called with
`status`. -/
def AnsweredWith (index : Nat) (status : AckStatus) (w w' : World) : Prop :=
  ∃ later mine document, w'.shadow.log = later ++
    .callbackCalled index (w.shadow.ackWaitList index).request status :: .resolving index ::
      .ackReceived mine document :: w.shadow.log

/-- The callback of the request that waits for the ack is called with the status of the topic,
and nothing is looked at behind the packet. -/
structure ClassifiedByTopic (env : ShadowEnv) (fuel depth : Nat) (call : HandlerCall)
    (packet : List UInt8) (status : AckStatus) (w : World) : Prop where
  answered : ∀ token index, YieldsToken env token call.payload w.shadow →
    Awaited env.config token index w.shadow →
    (ackStatusCallback env fuel (handlersAt env fuel depth) call : M Unit).Ends w
      (fun _ => AnsweredWith index status w) (AnsweredWith index status w)
  inside : ∀ needle ∈ ackSearches env call w,
    strstrExtent (topicString w.client call.topicNameAt) needle ≤ packet.length

/-- An ack of a refusal that a record waits for has no "accepted" from its topic up to the
first NUL in the buffer, and what is looked for occurs in the packet, or there is a NUL. -/
structure AckClear (env : ShadowEnv) (call : HandlerCall) (packet : List UInt8)
    (status : AckStatus) (w : World) : Prop where
  unmistaken : status = .rejected → ∀ token index, YieldsToken env token call.payload w.shadow →
    Awaited env.config token index w.shadow →
    strstr (topicString w.client call.topicNameAt) (ascii "accepted") = false
  inside : ∀ needle ∈ ackSearches env call w,
    strstr (packet.takeWhile (· ≠ 0)) needle = true ∨ 0 ∈ packet

section Acks

variable {env : ShadowEnv} {fuel depth : Nat} {call : HandlerCall} {packet : List UInt8}
  {thing : ThingName} {action : ShadowActions} {ackType : AckTopicTypes} {status : AckStatus}
  {w : World}

/-- The string at the topic is the packet and what is behind it, up to a NUL. -/
theorem ReceivedAck.topicString_eq {c : Client}
    (h : ReceivedAck c call packet thing action ackType) :
    ∃ behind, topicString c call.topicNameAt = (packet ++ behind).takeWhile (· ≠ 0) := by
  obtain ⟨k, hk⟩ := Nat.exists_eq_add_of_le h.inBuffer
  refine ⟨c.readBuf.slice (call.topicNameAt + packet.length) k, ?_⟩
  rw [topicString, hk, Nat.add_assoc, Nat.add_sub_cancel_left, Memory.slice_add, h.stored]

/-- It starts with the topic. -/
theorem ReceivedAck.topicName_prefix {c : Client}
    (h : ReceivedAck c call packet thing action ackType) :
    call.topicName <+: topicString c call.topicNameAt := by
  obtain ⟨behind, heq⟩ := h.topicString_eq
  obtain ⟨id, hlayout⟩ := h.layout
  have htail : (topicTail action ackType).all (· ≠ 0) = true := by
    cases action <;> cases ackType <;> decide
  have hplain : ∀ c ∈ call.topicName, decide (c ≠ 0) = true := by
    rw [h.topic, ← List.all_eq_true, List.all_append, List.all_append, htail, Bool.and_true]
    exact Bool.and_eq_true_iff.mpr ⟨by decide, List.all_eq_true.mpr fun c => thing.ne_nul⟩
  rw [heq, hlayout, List.append_assoc, List.takeWhile_append_of_pos hplain]
  exact List.prefix_append _ _

theorem ReceivedAck.strstr_topicString {c : Client} {needle : List UInt8}
    (h : ReceivedAck c call packet thing action ackType)
    (hneedle : strstr (topicTail action ackType) needle = true) :
    strstr (topicString c call.topicNameAt) needle = true := by
  have htail : topicTail action ackType <:+: call.topicName := by
    rw [h.topic, ← List.append_assoc]
    exact (List.suffix_append _ _).isInfix
  exact strstr_iff_occurs.mpr
    (((strstr_iff_occurs.mp hneedle).trans htail).trans h.topicName_prefix.isInfix)

/-- The status of the topic is told, if no "accepted" is found for a refusal. -/
theorem ReceivedAck.topicStatus_eq {c : Client}
    (h : ReceivedAck c call packet thing action ackType) (hstatus : ackType.status = some status)
    (hunmistaken : status = .rejected →
      strstr (topicString c call.topicNameAt) (ascii "accepted") = false) :
    topicStatus (topicString c call.topicNameAt) = some status := by
  cases ackType with
  | action => cases hstatus
  | accepted =>
    obtain rfl := Option.some.inj hstatus
    have hfound : strstr (topicTail action .accepted) (ascii "accepted") = true := by
      cases action <;> decide
    rw [topicStatus, if_pos (h.strstr_topicString hfound)]
  | rejected =>
    obtain rfl := Option.some.inj hstatus
    have hfound : strstr (topicTail action .rejected) (ascii "rejected") = true := by
      cases action <;> decide
    rw [topicStatus, hunmistaken rfl, if_neg Bool.false_ne_true,
      if_pos (h.strstr_topicString hfound)]

/-- The callback of the request is called with the status that is found. -/
theorem ackStatusCallback_answers {token : List UInt8} {index : Nat}
    (hsize : env.config.maxSizeClientIdWithSequence ≤ env.config.maxSizeClientTokenClientSequence)
    (hshort : env.config.maxSizeClientIdWithSequence ≤ 256)
    (hyields : YieldsToken env token call.payload w.shadow)
    (hawaited : Awaited env.config token index w.shadow)
    (htopic : topicStatus (topicString w.client call.topicNameAt) = some status) :
    (ackStatusCallback env fuel (handlersAt env fuel depth) call : M Unit).Ends w
      (fun _ => AnsweredWith index status w) (AnsweredWith index status w) := by
  have hfits := hawaited.fits
  obtain ⟨doc, htext, hparses, hfirst⟩ := hyields.exists_behindFirst (by omega) (by omega)
  obtain ⟨w', -, hacks, -, ⟨mine, document, hlog⟩, hends⟩ :=
    ends_ackStatusCallback fuel (handlersAt env fuel depth) hyields.1 htext hparses hfirst
      hawaited.toFirstWaiting htopic
  have hcallback : (w'.shadow.ackWaitList index).callback = true := hacks ▸ hawaited.callback
  rw [hends, resolve, ends_bind, callBack, ends_bind, ends_getRecords]
  dsimp only
  rw [ends_bind, ends_note, if_pos hcallback, ends_bind, ends_note, hacks]
  have hanswered : ∀ w'', NothingBefore 0 ((w'.onShadow fun s =>
      { s with log := .resolving index :: s.log }).onShadow fun s =>
        { s with log := .callbackCalled index (w.shadow.ackWaitList index).request status ::
          s.log }) w'' → AnsweredWith index status w w'' := by
    intro w'' hbehind
    obtain ⟨later, hlater, -⟩ := hbehind (Nat.zero_le _)
    refine ⟨later, mine, document, ?_⟩
    rw [← hlog]
    exact hlater
  -- whatever is done for the request afterwards only adds to the log
  exact ends_bind.mp ((callback_grows _).mono (fun _ => hanswered) hanswered)

/-- An answer is given with one status. -/
theorem AnsweredWith.status_eq {index : Nat} {status' : AckStatus} {w' : World}
    (h : AnsweredWith index status w w') (h' : AnsweredWith index status' w w') :
    status = status' := by
  obtain ⟨later, mine, document, hlog⟩ := h
  obtain ⟨later', mine', document', hlog'⟩ := h'
  obtain ⟨-, htail⟩ := List.append_inj' (hlog.symm.trans hlog') rfl
  simp only [List.cons.injEq, ShadowEvent.callbackCalled.injEq] at htail
  exact htail.1.2.2

/-- A refusal that is answered as one has no "accepted". -/
theorem ClassifiedByTopic.unmistaken {token : List UInt8} {index : Nat}
    (h : ClassifiedByTopic env fuel depth call packet .rejected w)
    (hsize : env.config.maxSizeClientIdWithSequence ≤ env.config.maxSizeClientTokenClientSequence)
    (hshort : env.config.maxSizeClientIdWithSequence ≤ 256)
    (hyields : YieldsToken env token call.payload w.shadow)
    (hawaited : Awaited env.config token index w.shadow) :
    strstr (topicString w.client call.topicNameAt) (ascii "accepted") = false := by
  by_contra hfound
  have hmistaken : topicStatus (topicString w.client call.topicNameAt) = some .accepted :=
    if_pos (Bool.not_eq_false _ ▸ hfound)
  have haccepted : (ackStatusCallback env fuel (handlersAt env fuel depth) call : M Unit).Ends w
      (fun _ => AnsweredWith index .accepted w) (AnsweredWith index .accepted w) :=
    ackStatusCallback_answers hsize hshort hyields hawaited hmistaken
  have hboth : ∀ w', AnsweredWith index .rejected w w' ∧ AnsweredWith index .accepted w w' →
      False := fun w' hw' => absurd (hw'.1.status_eq hw'.2) (by decide)
  exact ends_state_iff.mp (((h.answered token index hyields hawaited).and haccepted).mono
    (fun _ => hboth) hboth)

/-- For every ack, whatever the thing is called and whatever the buffer holds behind the
packet, the callback of the request is called with the status of the topic, and nothing is
looked at behind the packet, exactly if no "accepted" is found for a refusal and what is
looked for occurs in the packet or a NUL does. -/
theorem classifiedByTopic_iff
    (hsize : env.config.maxSizeClientIdWithSequence ≤ env.config.maxSizeClientTokenClientSequence)
    (hshort : env.config.maxSizeClientIdWithSequence ≤ 256)
    (hreceived : ReceivedAck w.client call packet thing action ackType)
    (hstatus : ackType.status = some status) (fuel depth : Nat) :
    ClassifiedByTopic env fuel depth call packet status w ↔ AckClear env call packet status w := by
  obtain ⟨behind, hstring⟩ := hreceived.topicString_eq
  constructor
  · intro h
    refine ⟨fun hrejected => ?_, fun needle hneedle => ?_⟩
    · subst hrejected
      exact fun token index => h.unmistaken hsize hshort
    · have hinside := h.inside needle hneedle
      rwa [hstring, strstrExtent_takeWhile_le_iff] at hinside
  · intro h
    refine ⟨fun token index hyields hawaited => ?_, fun needle hneedle => ?_⟩
    · exact ackStatusCallback_answers hsize hshort hyields hawaited
        (hreceived.topicStatus_eq hstatus fun hrejected =>
          h.unmistaken hrejected token index hyields hawaited)
    · rw [hstring, strstrExtent_takeWhile_le_iff]
      exact h.inside needle hneedle

end Acks

/-! ### Two acks -/

/-- The document `{"clientToken":"c-0"}`, as it lies in `shadowRxBuf`. -/
def ackDocument : Document where
  text := ascii "\x7b\"clientToken\":\"c-0\"\x7d" ++ List.replicate 493 0
  start := 0
  stop := 21
  members := .cons 2 13 (.string 16 19) .nil
  ordered := tokenDocument.ordered
  spans := tokenDocument.spans
  nested := tokenDocument.nested
  delimited := by decide

/-- The payload that it comes in. -/
def ackPayload : List UInt8 := ascii "\x7b\"clientToken\":\"c-0\"\x7d"

/-- Surroundings in which the document is read. -/
def ackEnv : ShadowEnv := quietShadowEnv (Document.parserOf [ackDocument])

/-- The packet, from the topic on. -/
def ackPacket (thing : List UInt8) (ackType : AckTopicTypes) : List UInt8 :=
  ascii "$aws/things/" ++ (thing ++ topicTail .get ackType) ++ ackPayload

/-- The call of the handler. -/
def ackCall (thing : List UInt8) (ackType : AckTopicTypes) : HandlerCall where
  slot := 0
  handler := ackStatusCallbackHandler
  data := 0
  topicNameAt := 4
  topicName := ascii "$aws/things/" ++ (thing ++ topicTail .get ackType)
  payload := ackPayload

/-- A get request is awaited, and the packet is in the read buffer. -/
def ackWorld (thing : List UInt8) (ackType : AckTopicTypes) : World :=
  { World.start with
    client := { zeroedClient with
      readBufSize := 512
      readBuf := zeroedClient.readBuf.writeAt 4 (ackPacket thing ackType) }
    shadow := { zeroedRecords with
      myThingName := thing
      ackWaitList := fun i => ⟨ascii "c-0", thing, .get, true, decide (i ≠ 0), 0, 1⟩ } }

theorem receivedAck_ackWorld (thing : ThingName) (ackType : AckTopicTypes)
    (hfits : 4 + (ackPacket thing.bytes ackType).length ≤ 512) :
    ReceivedAck (ackWorld thing.bytes ackType).client (ackCall thing.bytes ackType)
      (ackPacket thing.bytes ackType) thing .get ackType where
  topic := rfl
  layout := ⟨[], rfl⟩
  stored := Memory.slice_writeAt_self
  inBuffer := hfits

theorem yieldsToken_ackWorld (thing : List UInt8) (ackType : AckTopicTypes) :
    YieldsToken ackEnv (ascii "c-0") ackPayload (ackWorld thing ackType).shadow :=
  have htext : ackDocument.text = receivedText ackEnv.config ackPayload zeroedRecords := by
    decide +kernel
  ⟨by decide, ackDocument, 1, ⟨.string, 2, 13⟩, ⟨.string, 16, 19⟩, htext,
    Document.parses_parserOf _, by decide +kernel, rfl, rfl, by decide, by decide +kernel⟩

theorem awaited_ackWorld (thing : List UInt8) (ackType : AckTopicTypes) :
    Awaited ackEnv.config (ascii "c-0") 0 (ackWorld thing ackType).shadow where
  lt := by decide
  inUse := rfl
  holds := rfl
  first := nofun
  callback := rfl
  fits := by decide

theorem classifiedByTopic_accepted : ClassifiedByTopic ackEnv 2 2
    (ackCall (ascii "a") .accepted) (ackPacket (ascii "a") .accepted) .accepted
    (ackWorld (ascii "a") .accepted) :=
  (classifiedByTopic_iff (by decide) (by decide)
    (receivedAck_ackWorld ⟨ascii "a", by decide⟩ .accepted (by decide)) rfl 2 2).mpr
    ⟨nofun, by decide +kernel⟩

/-- A refusal for the thing `accepted` is taken for an acceptance. -/
theorem not_every_ack_classifiedByTopic :
    ¬ ∀ (env : ShadowEnv) (fuel depth : Nat) (call : HandlerCall) (packet : List UInt8)
      (thing : ThingName) (action : ShadowActions) (ackType : AckTopicTypes)
      (status : AckStatus) (w : World),
      env.config.maxSizeClientIdWithSequence ≤ env.config.maxSizeClientTokenClientSequence →
      env.config.maxSizeClientIdWithSequence ≤ 256 →
      ReceivedAck w.client call packet thing action ackType → ackType.status = some status →
      ClassifiedByTopic env fuel depth call packet status w := by
  intro h
  have hclassified := h ackEnv 2 2 _ _ _ _ _ .rejected _ (by decide) (by decide)
    (receivedAck_ackWorld ⟨ascii "accepted", by decide⟩ .rejected (by decide)) rfl
  have hfound := hclassified.unmistaken (by decide) (by decide)
    (yieldsToken_ackWorld (ascii "accepted") .rejected) (awaited_ackWorld (ascii "accepted") .rejected)
  exact absurd hfound (by decide +kernel)

end AwsIot.Shadow
