/-
  Shadow/LastVersion.lean --- whose version was received last.

  Both handlers take the number behind the first string that reads "version" for the version
  of the device's own document, if it is above the one they have.  The handler of acks looks
  for parts of names in the topic to see whether the ack is for the own thing, and in
  update/accepted topics as in get/accepted ones, which the interface excepts.

  What happens to the version is a history of messages and resets, in any order and with
  anything in between that leaves it alone.  Every run of an application has one, of the
  messages and resets that the run's log tells of, however its handlers and callbacks are
  nested.
-/
import AwsIot.Shadow.ClientToken
import AwsIot.Shadow.DeltaVersion
import AwsIot.Shadow.TokenRoundTrip

set_option autoImplicit false

namespace AwsIot.Shadow

open AwsIot.Foundation AwsIot.Mqtt Program

/-! ## The first half of the handlers -/

/-- `AckStatusCallback` up to the version: the document and the topic, if it goes on. -/
def storeAckVersion (env : ShadowEnv) (call : HandlerCall) :
    M (Option (List UInt8 × List UInt8)) := do
  if env.config.shadowMaxSizeOfRxBuffer < call.payload.length then return none
  receiveDocument call.payload
  let document := rxDocument env.config (← getRecords)
  match ← isJsonValidAndParse env document with
  | none => return none
  | some tokenCount => do
      let topicName := topicString (← getClient) call.topicNameAt
      let mine := isAckForMyThingName (← getRecords) topicName
      note (.ackReceived mine document)
      if mine then
        match ← extractVersionNumber env document tokenCount with
        | none => pure ()
        | some version => modifyRecords fun s =>
            { s with shadowJsonVersionNum := max s.shadowJsonVersionNum version }
      return some (document, topicName)

/-- `shadow_delta_callback` up to the version: how many events came before the message and how
many tokens it has, if it goes on. -/
def storeDeltaVersion (env : ShadowEnv) (call : HandlerCall) : M (Option (Nat × Nat)) := do
  if env.config.shadowMaxSizeOfRxBuffer < call.payload.length then return none
  receiveDocument call.payload
  let document := rxDocument env.config (← getRecords)
  match ← isJsonValidAndParse env document with
  | none => return none
  | some tokenCount => do
      let received := (← getRecords).log.length
      note (.deltaReceived document)
      let version ← extractVersionNumber env document tokenCount
      match newVersion (← getRecords) version with
      | none => return none
      | some version => do
          modifyRecords fun s => { s with shadowJsonVersionNum := version }
          return some (received, tokenCount)

/-! ## Histories -/

/-- The handlers that look at versions. -/
inductive VersionHandler where
  /-- `AckStatusCallback`. -/
  | ack
  /-- `shadow_delta_callback`. -/
  | delta

/-- A message that a handler was called for. -/
structure VersionMessage where
  /-- The handler. -/
  handler : VersionHandler
  /-- What it was called with. -/
  call : HandlerCall
  /-- Where it was called. -/
  start : World
  /-- What it had made of that when it was done with the version. -/
  finish : World

/-- The first half of the handler leads from `start` to `finish`. -/
def VersionMessage.Happens (env : ShadowEnv) (m : VersionMessage) : Prop :=
  match m.handler with
  | .ack => ∃ result, (storeAckVersion env m.call).run m.start = .done result m.finish
  | .delta => ∃ result, (storeDeltaVersion env m.call).run m.start = .done result m.finish

/-- What may happen to the version. -/
inductive Happening where
  /-- A message comes. -/
  | message (m : VersionMessage)
  /-- `aws_iot_shadow_reset_last_received_version`. -/
  | reset

/-- What happened from `w₀` on, newest first, and where that led. -/
inductive History (env : ShadowEnv) (w₀ : World) : List Happening → World → Prop
  | start : History env w₀ [] w₀
  | message {happened} (m : VersionMessage) : History env w₀ happened m.start →
      m.Happens env → History env w₀ (.message m :: happened) m.finish
  | reset {happened w w'} : History env w₀ happened w →
      (resetLastReceivedVersion : M Unit).run w = .done () w' →
      History env w₀ (.reset :: happened) w'
  | other {happened w w'} : History env w₀ happened w →
      w'.shadow.shadowJsonVersionNum = w.shadow.shadowJsonVersionNum →
      History env w₀ happened w'

/-- The event tells of a message or a reset. -/
def ShadowEvent.tellsHappening : ShadowEvent → Bool
  | .ackReceived .. | .deltaReceived _ | .versionReset => true
  | _ => false

/-- What the log of a run from `w` to `w'` tells of messages and resets, newest first. -/
def toldHappenings (w w' : World) : List ShadowEvent :=
  (newEvents w w').filter ShadowEvent.tellsHappening

/-- What the log tells of a happening. -/
def Happening.told : Happening → List ShadowEvent
  | .message m => toldHappenings m.start m.finish
  | .reset => [.versionReset]

/-- The messages that came after the last reset. -/
def sinceReset : List Happening → List VersionMessage
  | [] => []
  | .reset :: _ => []
  | .message m :: happened => m :: sinceReset happened

/-- The topics that tell the version of the document of `thingName`. -/
def versionTopics (thingName : List UInt8) : List (List UInt8) :=
  [ascii "$aws/things/" ++ thingName ++ ascii "/shadow/get/accepted",
    ascii "$aws/things/" ++ thingName ++ ascii "/shadow/update/delta"]

/-- The message came on one of these topics of the device's own thing. -/
def VersionMessage.IsOwn (m : VersionMessage) : Prop :=
  m.call.topicName ∈ versionTopics m.start.shadow.myThingName

/-- The document that the message is. -/
def VersionMessage.document (env : ShadowEnv) (m : VersionMessage) : List UInt8 :=
  receivedText env.config m.call.payload m.start.shadow

/-- The version received last is the version of a message on the own topics that came since
the last reset, if it is not 0, and other messages left it alone. -/
structure VersionBelongs (env : ShadowEnv) (happened : List Happening) (w : World) : Prop where
  owned : w.shadow.shadowJsonVersionNum = 0 ∨ ∃ m ∈ sinceReset happened, m.IsOwn ∧
    HasVersion env (m.document env) w.shadow.shadowJsonVersionNum.toNat
  others : ∀ m, .message m ∈ happened → ¬ m.IsOwn →
    m.finish.shadow.shadowJsonVersionNum = m.start.shadow.shadowJsonVersionNum

/-! ## The condition -/

/-- The handler looks for a version: by what it finds in the topic the ack is for the own
thing, or old delta messages are ignored. -/
def VersionMessage.Counts (m : VersionMessage) : Prop :=
  match m.handler with
  | .ack => isAckForMyThingName m.start.shadow
      (topicString m.start.client m.call.topicNameAt) = true
  | .delta => m.start.shadow.shadowDiscardOldDeltaFlag = true

/-- Every string of the document that reads "version" has a token behind it, which is no
number above `version`. -/
def TellsNoNewer (env : ShadowEnv) (version : UInt32) (doc : Document) : Prop :=
  ∀ i a, doc.tokens[i]? = some a → jsoneq doc.text a shadowVersionString = true →
    ∃ b, doc.tokens[i + 1]? = some b ∧
      ∀ u, parseUnsignedInteger32Value env doc.text b = some u → u ≤ version

/-- The document has a version if a string in it reads "version" and is the last token or
followed by a number, and every such string in front of its version's name is followed by the
same number. -/
structure TellsOwnVersion (env : ShadowEnv) (doc : Document) : Prop where
  first : VersionFirst env doc
  own : ∀ i a, doc.tokens[i]? = some a → jsoneq doc.text a shadowVersionString = true →
    (∀ b, doc.tokens[i + 1]? = some b →
      (parseUnsignedInteger32Value env doc.text b).isSome = true) → doc.version?.isSome = true

/-- If the handler looks for a version in the message, the message is a document of which jsmn
tells the truth, and it tells no version above the stored one or, on one of the own topics,
its own. -/
def VersionMessage.Meets (env : ShadowEnv) (m : VersionMessage) : Prop :=
  m.call.payload.length ≤ env.config.shadowMaxSizeOfRxBuffer → m.Counts →
    ∃ object, JsmnTells env (m.document env) object ∧
      ∀ doc ∈ object, doc.tokens.length ≤ env.config.maxJsonTokenExpected →
        TellsNoNewer env m.start.shadow.shadowJsonVersionNum doc ∨
          m.IsOwn ∧ TellsOwnVersion env doc

/-! ## What a message does to the version -/

/-- The tokens once `text` is parsed. -/
def parsedTokens (env : ShadowEnv) (text : List UInt8) (s : Records) (i : Nat) : JsmnToken :=
  (env.jsmnParse (text.takeWhile (· ≠ 0))).tokens.getD i (s.jsonTokenStruct i)

/-- How many of them there are if `text` is taken for an object. -/
def objectTokens (env : ShadowEnv) (text : List UInt8) (s : Records) : Option Nat :=
  (env.jsmnParse (text.takeWhile (· ≠ 0))).count.filter fun tokenCount =>
    1 ≤ tokenCount ∧ (parsedTokens env text s 0).type = .object

/-- The number that is taken for the version of `text`. -/
def foundVersion (env : ShadowEnv) (text : List UInt8) (s : Records) : Option UInt32 :=
  (objectTokens env text s).bind (versionNumber env text (parsedTokens env text s))

/-- The message raises the version to the number that it finds. -/
structure VersionMessage.Raises (env : ShadowEnv) (m : VersionMessage) : Prop where
  fits : m.call.payload.length ≤ env.config.shadowMaxSizeOfRxBuffer
  counts : m.Counts
  found : foundVersion env (m.document env) m.start.shadow =
    some m.finish.shadow.shadowJsonVersionNum
  above : m.start.shadow.shadowJsonVersionNum < m.finish.shadow.shadowJsonVersionNum

section Store

variable {env : ShadowEnv} {w : World}

theorem ends_isJsonValidAndParse {text : List UInt8} {Q : Option Nat → World → Prop}
    {H : World → Prop} :
    (isJsonValidAndParse env text : M (Option Nat)).Ends w Q H ↔ Q (objectTokens env text w.shadow)
      (w.onShadow fun s => { s with jsonTokenStruct := parsedTokens env text s }) := Iff.rfl

/-- The higher of two versions is the first, unless the second is above it. -/
theorem max_version (u v : UInt32) : max u v = u ∨ max u v = v ∧ u < v := by
  have hmax : max u v = if u ≤ v then v else u := rfl
  rw [hmax]
  split
  case isFalse => exact .inl rfl
  case isTrue hle =>
    rcases UInt32.le_iff_lt_or_eq.mp hle with hlt | rfl
    · exact .inr ⟨rfl, hlt⟩
    · exact .inl rfl

/-- Receiving and parsing a payload changes the buffer and the tokens only. -/
theorem ends_receive {payload : List UInt8} {α : Type} {rest : Records → Option Nat → M α}
    {Q : α → World → Prop} {H : World → Prop}
    (h : ∀ s w', rxDocument env.config s = receivedText env.config payload w.shadow →
      w'.client = w.client → w'.shadow.myThingName = w.shadow.myThingName →
      w'.shadow.shadowJsonVersionNum = w.shadow.shadowJsonVersionNum →
      w'.shadow.shadowDiscardOldDeltaFlag = w.shadow.shadowDiscardOldDeltaFlag →
      w'.shadow.jsonTokenStruct =
        parsedTokens env (receivedText env.config payload w.shadow) w.shadow →
      w'.shadow.log = w.shadow.log →
      (rest s (objectTokens env (receivedText env.config payload w.shadow) w.shadow)).Ends w'
        Q H) :
    (do
      receiveDocument payload
      let s ← getRecords
      rest s (← isJsonValidAndParse env (rxDocument env.config s))).Ends w Q H := by
  refine h _ _ ?_ ?_ ?_ ?_ ?_ ?_ ?_ <;> rfl

theorem foundVersion_eq {text : List UInt8} {s : Records} {tokenCount : Nat}
    (hcount : objectTokens env text s = some tokenCount) :
    foundVersion env text s = versionNumber env text (parsedTokens env text s) tokenCount := by
  rw [foundVersion, hcount, Option.bind_some]

theorem storeAckVersion_raises (env : ShadowEnv) (call : HandlerCall) (w : World) :
    (storeAckVersion env call).Ends w (fun _ w' =>
      w'.shadow.shadowJsonVersionNum = w.shadow.shadowJsonVersionNum ∨
        VersionMessage.Raises env ⟨.ack, call, w, w'⟩) (fun _ => False) := by
  unfold storeAckVersion
  rw [ends_ite]
  split
  case isTrue => exact .inl rfl
  case isFalse hfits =>
  refine ends_receive fun s w₁ hdocument hclient hname hversion _ htokens _ => ?_
  cases hcount : objectTokens env (receivedText env.config call.payload w.shadow) w.shadow with
  | none => exact .inl hversion
  | some tokenCount =>
    dsimp only
    rw [ends_bind, ends_getClient, ends_bind, ends_getRecords, ends_bind, ends_note]
    split
    case isFalse => exact .inl hversion
    case isTrue hmine =>
      have hcounts : isAckForMyThingName w.shadow (topicString w.client call.topicNameAt) =
          true := by
        rw [isAckForMyThingName, ← hname, ← hclient]
        exact hmine
      rw [ends_bind, ends_extractVersionNumber, hdocument]
      simp only [World.shadow_onShadow, htokens]
      cases hfound : versionNumber env (receivedText env.config call.payload w.shadow)
          (parsedTokens env (receivedText env.config call.payload w.shadow) w.shadow)
          tokenCount with
      | none => exact .inl hversion
      | some version =>
        dsimp only
        rw [ends_bind, ends_modifyRecords, ends_pure]
        rcases max_version w₁.shadow.shadowJsonVersionNum version with hmax | ⟨hmax, habove⟩
        · exact .inl (hmax.trans hversion)
        · refine .inr ⟨Nat.not_lt.mp hfits, hcounts, ?_, ?_⟩
          · show foundVersion env _ _ = some (max w₁.shadow.shadowJsonVersionNum version)
            rw [hmax, ← hfound]
            exact foundVersion_eq hcount
          · show w.shadow.shadowJsonVersionNum < max w₁.shadow.shadowJsonVersionNum version
            rw [hmax, ← hversion]
            exact habove

theorem newVersion_eq_some {s : Records} {version : Option UInt32} {stored : UInt32}
    (h : newVersion s version = some stored) : stored = s.shadowJsonVersionNum ∨
      s.shadowDiscardOldDeltaFlag = true ∧ version = some stored ∧
        s.shadowJsonVersionNum < stored := by
  unfold newVersion at h
  split at h
  case h_1 => exact .inl (Option.some.inj h).symm
  case h_2 v hv =>
    obtain ⟨hversion, hflag⟩ := Option.filter_eq_some_iff.mp hv
    split at h
    case isTrue hlt =>
      obtain rfl := Option.some.inj h
      exact .inr ⟨hflag, hversion, hlt⟩
    case isFalse => cases h

theorem storeDeltaVersion_raises (env : ShadowEnv) (call : HandlerCall) (w : World) :
    (storeDeltaVersion env call).Ends w (fun _ w' =>
      w'.shadow.shadowJsonVersionNum = w.shadow.shadowJsonVersionNum ∨
        VersionMessage.Raises env ⟨.delta, call, w, w'⟩) (fun _ => False) := by
  unfold storeDeltaVersion
  rw [ends_ite]
  split
  case isTrue => exact .inl rfl
  case isFalse hfits =>
  refine ends_receive fun s w₁ hdocument hclient hname hversion hflag htokens _ => ?_
  cases hcount : objectTokens env (receivedText env.config call.payload w.shadow) w.shadow with
  | none => exact .inl hversion
  | some tokenCount =>
    dsimp only
    rw [ends_bind, ends_getRecords, ends_bind, ends_note, ends_bind, ends_extractVersionNumber,
      ends_bind, ends_getRecords, hdocument]
    simp only [World.shadow_onShadow, htokens]
    split
    case h_1 => exact .inl hversion
    case h_2 version hnew =>
      rw [ends_bind, ends_modifyRecords, ends_pure]
      rcases newVersion_eq_some hnew with hsame | ⟨hcounts, hfound, habove⟩
      · exact .inl (hsame.trans hversion)
      · refine .inr ⟨Nat.not_lt.mp hfits, hflag.symm.trans hcounts, ?_, ?_⟩
        · exact (foundVersion_eq hcount).trans hfound
        · exact hversion ▸ habove

/-- A message leaves the version alone, or raises it to the number that is found. -/
theorem VersionMessage.Happens.raises {m : VersionMessage} (h : m.Happens env) :
    m.finish.shadow.shadowJsonVersionNum = m.start.shadow.shadowJsonVersionNum ∨
      m.Raises env := by
  obtain ⟨handler, call, w, w'⟩ := m
  cases handler with
  | ack =>
    obtain ⟨result, hrun⟩ := h
    exact (storeAckVersion_raises env call w).of_run hrun
  | delta =>
    obtain ⟨result, hrun⟩ := h
    exact (storeDeltaVersion_raises env call w).of_run hrun

end Store

/-! ## Whose version it is -/

section Own

variable {env : ShadowEnv} {s : Records} {text : List UInt8} {u : UInt32}

/-- Where jsmn tells the truth, a number is found in a document only. -/
theorem foundVersion_document {object : Option Document} (hjsmn : JsmnTells env text object)
    (h : foundVersion env text s = some u) :
    ∃ doc ∈ object, doc.text = text ∧ doc.tokens.length ≤ env.config.maxJsonTokenExpected ∧
      doc.Parses env ∧ doc.ParsedInto (parsedTokens env text s) ∧
      versionNumber env text (parsedTokens env text s) doc.tokens.length = some u := by
  obtain ⟨tokenCount, hcount, hfound⟩ := Option.bind_eq_some_iff.mp h
  obtain ⟨hcount, hobject⟩ := Option.filter_eq_some_iff.mp hcount
  obtain ⟨hpositive, htype⟩ := of_decide_eq_true hobject
  cases object with
  | none =>
    obtain ⟨n, rfl⟩ := Nat.exists_eq_add_of_le' hpositive
    obtain ⟨token, hhead, hnot⟩ := hjsmn n hcount
    obtain ⟨rest, hrest⟩ := List.head?_eq_some_iff.mp hhead
    rw [parsedTokens, hrest] at htype
    exact absurd htype hnot
  | some doc =>
    obtain ⟨rfl, hparses⟩ := hjsmn
    split at hparses
    case isFalse =>
      rw [hparses] at hcount
      cases hcount
    case isTrue hlength =>
      have hparsed : doc.ParsedInto (parsedTokens env doc.text s) := by
        intro i token hi
        rw [parsedTokens, hparses, List.getD_eq_getElem?_getD, hi, Option.getD_some]
      rw [hparses] at hcount
      obtain rfl := Option.some.inj hcount
      exact ⟨doc, rfl, rfl, hlength, hparses, hparsed, hfound⟩

variable {doc : Document} {tokens : Nat → JsmnToken}

/-- A number that is found stands behind a string that reads "version". -/
theorem exists_of_versionNumber (hparsed : doc.ParsedInto tokens)
    (h : versionNumber env doc.text tokens doc.tokens.length = some u) :
    ∃ i a, doc.tokens[i]? = some a ∧ jsoneq doc.text a shadowVersionString = true ∧
      ∀ b, doc.tokens[i + 1]? = some b →
        parseUnsignedInteger32Value env doc.text b = some u := by
  obtain ⟨i, hi, hfound⟩ := List.exists_of_findSome?_eq_some h
  rw [List.mem_range'_1] at hi
  split at hfound
  case isFalse => cases hfound
  case isTrue hreads =>
    have ha := List.getElem?_eq_getElem (show i < doc.tokens.length by omega)
    rw [hparsed i _ ha] at hreads
    refine ⟨i, _, ha, hreads, fun b hb => ?_⟩
    rwa [hparsed (i + 1) b hb] at hfound

/-- A document that tells nothing newer has no number that is newer. -/
theorem TellsNoNewer.le {version : UInt32} (h : TellsNoNewer env version doc)
    (hparsed : doc.ParsedInto tokens)
    (hfound : versionNumber env doc.text tokens doc.tokens.length = some u) : u ≤ version := by
  obtain ⟨i, a, ha, hreads, hnumber⟩ := exists_of_versionNumber hparsed hfound
  obtain ⟨b, hb, hle⟩ := h i a ha hreads
  exact hle u (hnumber b hb)

/-- What is found in a document that tells its own version is that version. -/
theorem TellsOwnVersion.hasVersion (h : TellsOwnVersion env doc) (hscans : Scans env)
    (hparses : doc.Parses env) (hparsed : doc.ParsedInto tokens)
    (hfound : versionNumber env doc.text tokens doc.tokens.length = some u) :
    HasVersion env doc.text u.toNat := by
  obtain ⟨i, a, ha, hreads, hnumber⟩ := exists_of_versionNumber hparsed hfound
  have hown := h.own i a ha hreads fun b hb => by rw [hnumber b hb]; rfl
  obtain ⟨n, hversion⟩ := Option.isSome_iff_exists.mp hown
  obtain ⟨hfound', hn⟩ := versionNumber_document hscans hparsed h.first hversion
  obtain rfl := Option.some.inj (hfound.symm.trans hfound')
  rw [UInt32.toNat_ofNat_of_lt' hn]
  exact ⟨doc, rfl, hparses, hversion⟩

/-- A message that meets the condition raises the version to its own, if at all, and came on
one of the own topics. -/
theorem VersionMessage.Raises.own {m : VersionMessage} (h : m.Raises env) (hscans : Scans env)
    (hmeets : m.Meets env) : m.IsOwn ∧
      HasVersion env (m.document env) m.finish.shadow.shadowJsonVersionNum.toNat := by
  obtain ⟨object, hjsmn, hdocument⟩ := hmeets h.fits h.counts
  obtain ⟨doc, hdoc, htext, hlength, hparses, hparsed, hfound⟩ :=
    foundVersion_document hjsmn h.found
  rw [← htext] at hparsed hfound ⊢
  rcases hdocument doc hdoc hlength with hold | ⟨hown, htells⟩
  · exact absurd h.above (UInt32.not_lt.mpr (hold.le hparsed hfound))
  · exact ⟨hown, htells.hasVersion hscans hparses hparsed hfound⟩

end Own

/-! ## Histories -/

section Histories

variable {env : ShadowEnv} {w₀ u w w' : World} {happened : List Happening}

/-- Between two resets the version never decreases. -/
theorem History.le (h : History env u happened w) (hreset : .reset ∉ happened) :
    u.shadow.shadowJsonVersionNum ≤ w.shadow.shadowJsonVersionNum := by
  induction h with
  | start => exact UInt32.le_refl _
  | message m _ hm ih =>
    have hle := ih fun hmem => hreset (List.mem_cons_of_mem _ hmem)
    rcases hm.raises with hsame | hraises
    · rwa [hsame]
    · exact UInt32.le_trans hle (UInt32.le_of_lt hraises.above)
  | reset => exact absurd List.mem_cons_self hreset
  | other _ hsame ih =>
    rw [hsame]
    exact ih hreset

/-- Only messages change the version, and only to what belongs to the own thing. -/
theorem History.belongs (h : History env w₀ happened w) (hscans : Scans env)
    (hzero : w₀.shadow.shadowJsonVersionNum = 0)
    (hmeets : ∀ m, .message m ∈ happened → m.Meets env) : VersionBelongs env happened w := by
  induction h with
  | start => exact ⟨.inl hzero, fun m hmem => absurd hmem List.not_mem_nil⟩
  | @message happened m _ hm ih =>
    have hbefore := ih fun m' hmem => hmeets m' (List.mem_cons_of_mem _ hmem)
    have hraised : m.finish.shadow.shadowJsonVersionNum = m.start.shadow.shadowJsonVersionNum ∨
        m.IsOwn ∧ HasVersion env (m.document env) m.finish.shadow.shadowJsonVersionNum.toNat :=
      hm.raises.imp_right fun hraises => hraises.own hscans (hmeets m List.mem_cons_self)
    refine ⟨?_, fun m' hmem hother => ?_⟩
    · rcases hraised with hsame | ⟨hown, hversion⟩
      · rw [hsame]
        refine hbefore.owned.imp_right fun ⟨m', hm', hown⟩ => ⟨m', ?_, hown⟩
        exact List.mem_cons_of_mem _ hm'
      · exact .inr ⟨m, List.mem_cons_self, hown, hversion⟩
    · rcases List.mem_cons.mp hmem with heq | hmem
      · obtain rfl := Happening.message.inj heq
        exact hraised.resolve_right fun h => hother h.1
      · exact hbefore.others m' hmem hother
  | reset _ hrun ih =>
    have hbefore := ih fun m' hmem => hmeets m' (List.mem_cons_of_mem _ hmem)
    refine ⟨.inl ?_, fun m' hmem hother => ?_⟩
    · cases hrun
      rfl
    · rcases List.mem_cons.mp hmem with heq | hmem
      · cases heq
      · exact hbefore.others m' hmem hother
  | other _ hsame ih =>
    obtain ⟨howned, hothers⟩ := ih hmeets
    exact ⟨hsame ▸ howned, hothers⟩

/-- One history after the other. -/
theorem History.append {later : List Happening} (h : History env w₀ happened u)
    (h' : History env u later w) : History env w₀ (later ++ happened) w := by
  induction h' with
  | start => exact h
  | message m _ hm ih => exact ih.message m hm
  | reset _ hrun ih => exact ih.reset hrun
  | other _ hsame ih => exact ih.other hsame

/-- There is a history from one world to the other, of what the log tells of. -/
def HasHistory (env : ShadowEnv) (w w' : World) : Prop := ∃ happened new,
  History env w happened w' ∧ w'.shadow.log = new ++ w.shadow.log ∧
    new.filter ShadowEvent.tellsHappening = happened.flatMap Happening.told

instance : IsPreorder World (HasHistory env) where
  refl _ := ⟨[], [], .start, rfl, rfl⟩
  trans := by
    rintro w w₁ w' ⟨happened, new, h, hlog, htold⟩ ⟨later, more, h', hlog', htold'⟩
    refine ⟨later ++ happened, more ++ new, h.append h', ?_, ?_⟩
    · rw [hlog', hlog, List.append_assoc]
    · rw [List.filter_append, List.flatMap_append, htold, htold']

theorem hasHistory_of_same (h : w'.shadow.shadowJsonVersionNum = w.shadow.shadowJsonVersionNum)
    (hlog : w'.shadow.log = w.shadow.log) : HasHistory env w w' :=
  ⟨[], [], .other .start h, hlog, rfl⟩

/-- An event that tells of neither a message nor a reset. -/
theorem hasHistory_log {e : ShadowEvent} (he : e.tellsHappening = false)
    (h : w'.shadow.shadowJsonVersionNum = w.shadow.shadowJsonVersionNum)
    (hlog : w'.shadow.log = e :: w.shadow.log) : HasHistory env w w' :=
  ⟨[], [e], .other .start h, hlog, List.filter_singleton.trans (by rw [he]; rfl)⟩

/-- Of a message in the history the log tells what its handler logged. -/
theorem hasHistory_message (m : VersionMessage) (hm : m.Happens env)
    (hlog : m.start.shadow.log <:+ m.finish.shadow.log) : HasHistory env m.start m.finish := by
  obtain ⟨new, hnew⟩ := hlog
  refine ⟨[.message m], new, .message m .start hm, hnew.symm, ?_⟩
  rw [List.flatMap_singleton, Happening.told, toldHappenings, newEvents_eq hnew.symm]

theorem hasHistory_steps (env : ShadowEnv) : AllSteps env.mqtt (HasHistory env) :=
  allSteps_of_shadow (fun h => hasHistory_of_same (congrArg Records.shadowJsonVersionNum h)
    (congrArg Records.log h)) env.mqtt

theorem tellsHappening_of_kind {e : ShadowEvent} (he : e.kind ≠ .delta) :
    e.tellsHappening = false := by
  cases e <;> first | rfl | exact absurd rfl he

theorem hasHistory_shadowing (env : ShadowEnv) :
    Shadowing (m := M) env (Keeps (HasHistory env)) where
  toEverything := (hasHistory_steps env).everything
  serving hmessage := (hasHistory_steps env).serving hmessage
  getRecords w := refl_of (HasHistory env) w
  modifyRecords hf _ w := hasHistory_of_same (hf w.shadow).2.1 (hf w.shadow).1
  storeTopic buffer topic w :=
    have hkeeps := keepsVersion_storeTopic buffer topic w.shadow
    hasHistory_of_same hkeeps.2.1 hkeeps.1
  passing _ topic _ hx := hx ⟨topic⟩
  initializeRecords _ := hasHistory_log (e := .recordsInitialized) rfl rfl rfl
  note he _ := hasHistory_log (tellsHappening_of_kind he) rfl rfl

variable {fuel : Nat} {handlers : Handlers M}

/-- `AckStatusCallback` is its first half and the search for the request. -/
theorem ackStatusCallback_stores {call : HandlerCall} {Q : Unit → World → Prop}
    {H : World → Prop} :
    (ackStatusCallback env fuel handlers call).Ends w Q H ↔
      (storeAckVersion env call >>= fun
        | none => return ()
        | some (document, topicName) => do
            match ← extractClientToken env document
                env.config.maxSizeClientTokenClientSequence with
            | none => return ()
            | some clientToken =>
                resolveFrom env fuel handlers topicName clientToken
                  env.config.maxAcksToComeinAtAnyGivenTime 0 : M Unit).Ends w Q H := by
  unfold ackStatusCallback storeAckVersion
  simp only [ends_bind, ends_ite]
  split
  case isTrue => exact Iff.rfl
  case isFalse =>
  simp only [receiveDocument, ends_modifyRecords, ends_getRecords, ends_isJsonValidAndParse,
    World.shadow_onShadow]
  generalize objectTokens env _ _ = result
  cases result with
  | none => exact Iff.rfl
  | some tokenCount =>
    simp only [ends_bind, ends_getClient, ends_getRecords, ends_note]
    generalize isAckForMyThingName _ _ = mine
    cases mine with
    | false => exact Iff.rfl
    | true =>
      simp only [if_true, ends_bind, ends_extractVersionNumber]
      generalize versionNumber env _ _ _ = version
      cases version with
      | none => exact Iff.rfl
      | some version => exact Iff.rfl

/-- `shadow_delta_callback` is its first half and the loop. -/
theorem shadowDeltaCallback_stores {call : HandlerCall} {Q : Unit → World → Prop}
    {H : World → Prop} :
    (shadowDeltaCallback env handlers call).Ends w Q H ↔
      (storeDeltaVersion env call >>= fun
        | none => return ()
        | some (received, tokenCount) =>
            dispatchFrom env handlers received tokenCount
              env.config.maxJsonTokenExpected 0 : M Unit).Ends w Q H := by
  unfold shadowDeltaCallback storeDeltaVersion
  simp only [ends_bind, ends_ite]
  split
  case isTrue => exact Iff.rfl
  case isFalse =>
  simp only [receiveDocument, ends_modifyRecords, ends_getRecords, ends_isJsonValidAndParse,
    World.shadow_onShadow]
  generalize objectTokens env _ _ = result
  cases result with
  | none => exact Iff.rfl
  | some tokenCount =>
    simp only [ends_bind, ends_getRecords, ends_note, ends_extractVersionNumber]
    generalize newVersion _ _ = version
    cases version with
    | none => exact Iff.rfl
    | some version => exact Iff.rfl

theorem happens_storeAckVersion (env : ShadowEnv) (call : HandlerCall) (w : World) :
    VersionMessage.Happens env
      ⟨.ack, call, w, ((storeAckVersion env call).run w).state⟩ := by
  obtain ⟨result, w', hrun, -⟩ := exists_run_of_ends (storeAckVersion_raises env call w)
  refine ⟨result, ?_⟩
  dsimp only
  rw [hrun, Outcome.state_done]

theorem happens_storeDeltaVersion (env : ShadowEnv) (call : HandlerCall) (w : World) :
    VersionMessage.Happens env
      ⟨.delta, call, w, ((storeDeltaVersion env call).run w).state⟩ := by
  obtain ⟨result, w', hrun, -⟩ := exists_run_of_ends (storeDeltaVersion_raises env call w)
  refine ⟨result, ?_⟩
  dsimp only
  rw [hrun, Outcome.state_done]

/-- The first half of a handler only adds to the log. -/
theorem storeAckVersion_grows (env : ShadowEnv) (call : HandlerCall) (w : World) :
    (storeAckVersion env call).Ends w (fun _ w' => w.shadow.log <:+ w'.shadow.log)
      (fun w' => w.shadow.log <:+ w'.shadow.log) := by
  unfold storeAckVersion
  rw [ends_ite]
  split
  case isTrue => exact List.suffix_rfl
  case isFalse =>
  refine ends_receive fun s w₁ hdocument _ _ _ _ _ hlog => ?_
  cases objectTokens env (receivedText env.config call.payload w.shadow) w.shadow with
  | none => exact hlog ▸ List.suffix_rfl
  | some tokenCount =>
    dsimp only
    rw [ends_bind, ends_getClient, ends_bind, ends_getRecords, ends_bind, ends_note, ← hlog]
    split
    case isFalse => exact List.suffix_cons _ _
    case isTrue =>
      rw [ends_bind, ends_extractVersionNumber]
      split
      · exact List.suffix_cons _ _
      · exact List.suffix_cons _ _

theorem storeDeltaVersion_grows (env : ShadowEnv) (call : HandlerCall) (w : World) :
    (storeDeltaVersion env call).Ends w (fun _ w' => w.shadow.log <:+ w'.shadow.log)
      (fun w' => w.shadow.log <:+ w'.shadow.log) := by
  unfold storeDeltaVersion
  rw [ends_ite]
  split
  case isTrue => exact List.suffix_rfl
  case isFalse =>
  refine ends_receive fun s w₁ hdocument _ _ _ _ _ hlog => ?_
  cases objectTokens env (receivedText env.config call.payload w.shadow) w.shadow with
  | none => exact hlog ▸ List.suffix_rfl
  | some tokenCount =>
    dsimp only
    rw [ends_bind, ends_getRecords, ends_bind, ends_note, ends_bind, ends_extractVersionNumber,
      ends_bind, ends_getRecords, ← hlog]
    split
    · exact List.suffix_cons _ _
    · exact List.suffix_cons _ _

/-- The first half of a handler is a message in the history. -/
theorem hasHistory_storeAckVersion (call : HandlerCall) :
    Keeps (HasHistory env) (storeAckVersion env call) :=
  fun w => ends_state_iff.mpr <| hasHistory_message _ (happens_storeAckVersion env call w)
    (ends_state_iff.mp (storeAckVersion_grows env call w))

theorem hasHistory_storeDeltaVersion (call : HandlerCall) :
    Keeps (HasHistory env) (storeDeltaVersion env call) :=
  fun w => ends_state_iff.mpr <| hasHistory_message _ (happens_storeDeltaVersion env call w)
    (ends_state_iff.mp (storeDeltaVersion_grows env call w))

theorem hasHistory_dispatching (hhandlers : Handled (Keeps (HasHistory env)) handlers)
    (received : Nat) : Dispatching (m := M) handlers received (Keeps (HasHistory env)) where
  toCompositional := keeps_compositional (HasHistory env)
  getRecords w := refl_of (HasHistory env) w
  modifyRecords hf _ _ w := hasHistory_of_same (hf w.shadow).2.1 (hf w.shadow).1
  updated _ _ _ := hasHistory_log rfl rfl rfl
  calledBack _ _ _ := hasHistory_log rfl rfl rfl
  returned _ _ _ := hasHistory_log rfl rfl rfl
  delta := hhandlers.delta

/-- Every run has a history, however handlers and callbacks are nested. -/
theorem hasHistory_versioned (env : ShadowEnv) (fuel : Nat) :
    Versioned (m := M) env fuel (Keeps (HasHistory env)) where
  toRecording := (hasHistory_shadowing env).recording
  ackStatusCallback hhandlers call w := by
    have hs := hasHistory_shadowing env
    refine ackStatusCallback_stores.mpr
      (hs.bind (hasHistory_storeAckVersion call) (fun result => ?_) w)
    cases result with
    | none => exact hs.pure _
    | some result => exact hs.recording.answer fuel hhandlers result.2 result.1 _
  shadowDeltaCallback hhandlers call w := by
    have hs := hasHistory_shadowing env
    refine shadowDeltaCallback_stores.mpr
      (hs.bind (hasHistory_storeDeltaVersion call) (fun result => ?_) w)
    cases result with
    | none => exact hs.pure _
    | some result =>
      exact (hasHistory_dispatching hhandlers result.1).dispatchFrom result.2 _ _
  resetLastReceivedVersion _ := ⟨[.reset], [.versionReset], .reset .start rfl, rfl, rfl⟩
  setDiscardOldDeltaMsgs flag _ := hasHistory_log (e := .discardSet flag) rfl rfl rfl

end Histories

/-- Between two resets the version received last never decreases.  It is 0 or the version of a
message on the own topics, and no other message changes it, in every history whose messages
meet the condition; and every run of an application is such a history, of the messages and
resets that its log tells of. -/
theorem lastVersion_belongs {env : ShadowEnv} (hscans : Scans env) :
    (∀ u happened w, History env u happened w → .reset ∉ happened →
      u.shadow.shadowJsonVersionNum ≤ w.shadow.shadowJsonVersionNum) ∧
    (∀ w₀ happened w, History env w₀ happened w → w₀.shadow.shadowJsonVersionNum = 0 →
      (∀ m, .message m ∈ happened → m.Meets env) → VersionBelongs env happened w) ∧
    ∀ fuel calls w, ∃ happened,
      History env w happened ((shadowApplication env fuel calls : M Unit).run w).state ∧
      toldHappenings w ((shadowApplication env fuel calls : M Unit).run w).state =
        happened.flatMap Happening.told := by
  refine ⟨fun _ _ _ h => h.le, fun _ _ _ h => h.belongs hscans, fun fuel calls w => ?_⟩
  obtain ⟨happened, new, h, hlog, htold⟩ :=
    ends_state_iff.mp ((hasHistory_versioned env fuel).shadowApplication calls w)
  exact ⟨happened, h, by rw [toldHappenings, newEvents_eq hlog, htold]⟩

/-! ### Three acks -/

/-- Surroundings in which `versionDocument` is read. -/
def versionEnv : ShadowEnv := quietShadowEnv (Document.parserOf [versionDocument])

/-- The payload that it comes in. -/
def versionPayload : List UInt8 := versionDocument.text.takeWhile (· ≠ 0)

/-- The client of the thing `a`, with the message in its read buffer. -/
def versionWorld (topicName : List UInt8) : World :=
  { World.start with
    client := { zeroedClient with
      readBufSize := 512
      readBuf := zeroedClient.readBuf.writeAt 4 (topicName ++ versionPayload) }
    shadow := { zeroedRecords with myThingName := ascii "a" } }

/-- The call of the handler. -/
def versionCall (topicName : List UInt8) : HandlerCall :=
  ⟨0, ackStatusCallbackHandler, 0, 4, topicName, versionPayload⟩

/-- The message, on the topic `topicName`. -/
def versionAck (topicName : List UInt8) : VersionMessage where
  handler := .ack
  call := versionCall topicName
  start := versionWorld topicName
  finish := ((storeAckVersion versionEnv (versionCall topicName)).run
    (versionWorld topicName)).state

theorem history_versionAck (topicName : List UInt8) :
    History versionEnv (versionWorld topicName) [.message (versionAck topicName)]
      (versionAck topicName).finish :=
  .message (versionAck topicName) .start
    (happens_storeAckVersion versionEnv (versionCall topicName) (versionWorld topicName))

/-- The topic of accepted gets of the thing `a`. -/
def ownGetAccepted : List UInt8 := ascii "$aws/things/a/shadow/get/accepted"

theorem versionBelongs_ownGetAccepted :
    VersionBelongs versionEnv [.message (versionAck ownGetAccepted)]
      (versionAck ownGetAccepted).finish := by
  have hscans : Scans versionEnv := quietShadowEnv_scans (Document.parserOf [versionDocument])
  refine (lastVersion_belongs hscans).2.1 _ _ _
    (history_versionAck ownGetAccepted) rfl fun m hm => ?_
  obtain rfl := Happening.message.inj (List.mem_singleton.mp hm)
  have htext : versionDocument.text = (versionAck ownGetAccepted).document versionEnv := by
    decide +kernel
  have htells : JsmnTells versionEnv ((versionAck ownGetAccepted).document versionEnv)
      (some versionDocument) := by
    refine ⟨htext, ?_⟩
    rw [if_pos (by decide +kernel)]
    exact Document.parses_parserOf versionDocument
  have hown : TellsOwnVersion versionEnv versionDocument :=
    ⟨versionFirst_versionDocument versionEnv rfl rfl, fun _ _ _ _ _ => by decide +kernel⟩
  intro _ _
  refine ⟨some versionDocument, htells, fun doc hdoc _ => ?_⟩
  obtain rfl := Option.some.inj hdoc
  exact .inr ⟨List.mem_cons_self, hown⟩

/-- The topic of accepted updates of it. -/
def ownUpdateAccepted : List UInt8 := ascii "$aws/things/a/shadow/update/accepted"

/-- The topic of accepted gets of another thing. -/
def otherGetAccepted : List UInt8 := ascii "$aws/things/b/shadow/get/accepted"

/-- The version is taken from an update/accepted message, and from a message for another
thing. -/
theorem not_every_history_belongs :
    (History versionEnv (versionWorld ownUpdateAccepted) [.message (versionAck ownUpdateAccepted)]
        (versionAck ownUpdateAccepted).finish ∧
      ¬ VersionBelongs versionEnv [.message (versionAck ownUpdateAccepted)]
        (versionAck ownUpdateAccepted).finish) ∧
    History versionEnv (versionWorld otherGetAccepted) [.message (versionAck otherGetAccepted)]
        (versionAck otherGetAccepted).finish ∧
      ¬ VersionBelongs versionEnv [.message (versionAck otherGetAccepted)]
        (versionAck otherGetAccepted).finish := by
  have hraises : ∀ topicName ∈ [ownUpdateAccepted, otherGetAccepted],
      topicName ∉ versionTopics (ascii "a") ∧
        (versionAck topicName).finish.shadow.shadowJsonVersionNum ≠ 0 := by
    decide +kernel
  refine ⟨⟨history_versionAck _, fun h => ?_⟩, history_versionAck _, fun h => ?_⟩
  · obtain ⟨hother, hraised⟩ := hraises _ List.mem_cons_self
    exact hraised (h.others _ List.mem_cons_self hother)
  · obtain ⟨hother, hraised⟩ := hraises _ (List.mem_cons_of_mem _ List.mem_cons_self)
    exact hraised (h.others _ List.mem_cons_self hother)

end AwsIot.Shadow
