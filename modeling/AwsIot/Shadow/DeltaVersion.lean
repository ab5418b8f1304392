/-
  Shadow/DeltaVersion.lean --- delta messages of old versions are ignored.

  `shadow_delta_callback` compares the version of a message with the highest one received, in
  delta messages or in acks.  The version of a document is what follows the first string that
  reads "version" and is followed by a number, be that a member of the document itself or of
  something in it.  In a run in which it always is the member of the document itself, the
  versions of the messages that are dispatched only go forward
  (`dispatched_versions_increase`).
-/
import AwsIot.Shadow.KeyMatch
import AwsIot.Shadow.Traversal

set_option autoImplicit false

namespace AwsIot.Shadow

open AwsIot.Foundation AwsIot.Mqtt Program

/-! ## What has been received -/

/-- The bytes are a document whose member "version" is `v`. -/
def HasVersion (env : ShadowEnv) (document : List UInt8) (v : Nat) : Prop :=
  ∃ doc : Document, doc.text = document ∧ doc.Parses env ∧ doc.version? = some v

/-- The document that came with a delta message, or with an ack that counts. -/
def ShadowEvent.document? : ShadowEvent → Option (List UInt8)
  | .deltaReceived document | .ackReceived true document => some document
  | _ => none

/-- The delta message for which a variable was changed or a callback called: how many events
came before it. -/
def ShadowEvent.dispatchOf? : ShadowEvent → Option Nat
  | .deltaUpdated received _ _ | .deltaCalledBack received _ _ => some received
  | _ => none

/-- The version came after the last reset, in a delta message or an ack. -/
def Seen (env : ShadowEnv) : List ShadowEvent → Nat → Prop
  | [], _ => False
  | .versionReset :: _, _ => False
  | e :: log, v =>
      (∃ document, e.document? = some document ∧ HasVersion env document v) ∨ Seen env log v

/-- The callback of a registered key was called for the delta message that came `received`
events after the start. -/
def CalledBack (log : List ShadowEvent) (received : Nat) : Prop :=
  ∃ index value, .deltaCalledBack received index value ∈ log

/-- Delta messages that are not newer than all that has been received are ignored, and the
versions of those that callbacks are called for increase from one reset to the next.  Both
are about what has happened, newest first. -/
structure GoForward (env : ShadowEnv) (log : List ShadowEvent) : Prop where
  /-- No variable is changed and no callback called for an old message. -/
  ignored : ∀ document before v u, .deltaReceived document :: before <:+ log →
    HasVersion env document v → Seen env before u → v ≤ u →
    ∀ e ∈ log, e.dispatchOf? ≠ some before.length
  /-- Versions increase. -/
  increasing : ∀ document' between document before v v',
    .deltaReceived document' :: (between ++ .deltaReceived document :: before) <:+ log →
    .versionReset ∉ between → HasVersion env document v → HasVersion env document' v' →
    CalledBack log before.length →
    CalledBack log (between ++ .deltaReceived document :: before).length → v < v'

/-- If the document has a version, it has 32 bits, and every string in front of its name that
reads "version" is followed by the same number or by none. -/
def VersionFirst (env : ShadowEnv) (doc : Document) : Prop :=
  ∀ name value n, doc.top shadowVersionString = some (name, value) → doc.version? = some n →
    n < 2 ^ 32 ∧ ∀ a b u, [a, b] <:+: doc.tokens → a.start < name.start →
      jsoneq doc.text a shadowVersionString = true →
      parseUnsignedInteger32Value env doc.text b = some u → u.toNat = n

/-- Old messages were ignored all the time, and the version of every document that was
received is the first. -/
structure Meets (env : ShadowEnv) (log : List ShadowEvent) : Prop where
  /-- Nobody asked for old messages. -/
  discards : .discardSet false ∉ log
  /-- Documents have their versions first. -/
  versionFirst : ∀ e ∈ log, ∀ doc : Document, e.document? = some doc.text → doc.Parses env →
    VersionFirst env doc

theorem Meets.earlier {env : ShadowEnv} {log log' : List ShadowEvent} (h : Meets env log')
    (hgrows : log <:+ log') : Meets env log where
  discards hmem := h.discards (hgrows.subset hmem)
  versionFirst e he := h.versionFirst e (hgrows.subset he)

/-! ## The version of a document -/

section Version

variable {env : ShadowEnv} {doc : Document} {n : Nat}

theorem Document.version?_eq_some (h : doc.version? = some n) :
    ∃ name value, doc.top shadowVersionString = some (name, value) ∧
      value.token.type = .primitive ∧ natLiteral (doc.textOf value.token) = some n := by
  unfold Document.version? at h
  split at h
  case h_1 => cases h
  case h_2 name value htop =>
    split at h
    case isTrue hprimitive => exact ⟨name, value, htop, hprimitive, h⟩
    case isFalse => cases h

/-- The number of a literal is read. -/
theorem parseUnsignedInteger32Value_literal (hscans : Scans env) {token : JsmnToken}
    (htoken : token ∈ doc.tokens) (hprimitive : token.type = .primitive)
    (hliteral : natLiteral (doc.textOf token) = some n) (hn : n < 2 ^ 32) :
    parseUnsignedInteger32Value env doc.text token = some (UInt32.ofNat n) := by
  have hunsigned : unsignedLiteral 32 (doc.textOf token) = some n :=
    Option.filter_eq_some_iff.mpr ⟨hliteral, decide_eq_true hn⟩
  have hdata : literal env .uint32 (doc.textOf token) = some (.uint32 (UInt32.ofNat n)) := by
    simp only [literal, hunsigned, Option.map_some]
  have hstored := updateValueIfNoObject_literal hscans htoken hprimitive hdata .unset
  unfold updateValueIfNoObject at hstored
  cases hparsed : parseUnsignedInteger32Value env doc.text token with
  | none => simp [hparsed] at hstored
  | some u =>
    simp only [hparsed, Option.map_some, ShadowData.uint32.injEq] at hstored
    rw [hstored]

/-- What `extractVersionNumber` finds among the tokens of a document. -/
def versionNumber (env : ShadowEnv) (json : List UInt8) (jsonTokenStruct : Nat → JsmnToken)
    (tokenCount : Nat) : Option UInt32 :=
  (List.range' 1 (tokenCount - 1)).findSome? fun i =>
    if jsoneq json (jsonTokenStruct i) shadowVersionString then
      parseUnsignedInteger32Value env json (jsonTokenStruct (i + 1))
    else none

theorem ends_extractVersionNumber {json : List UInt8} {tokenCount : Nat} {w : World}
    {Q : Option UInt32 → World → Prop} {H : World → Prop} :
    (extractVersionNumber env json tokenCount : M (Option UInt32)).Ends w Q H ↔
      Q (versionNumber env json w.shadow.jsonTokenStruct tokenCount) w := Iff.rfl

/-- The version of a document that has it first is the one that is found. -/
theorem versionNumber_document (hscans : Scans env) {jsonTokenStruct : Nat → JsmnToken}
    (hparsed : doc.ParsedInto jsonTokenStruct) (hfirst : VersionFirst env doc)
    (hversion : doc.version? = some n) :
    versionNumber env doc.text jsonTokenStruct doc.tokens.length = some (UInt32.ofNat n) ∧
      n < 2 ^ 32 := by
  obtain ⟨name, value, htop, hprimitive, hliteral⟩ := Document.version?_eq_some hversion
  obtain ⟨hn, hothers⟩ := hfirst name value n htop hversion
  refine ⟨?_, hn⟩
  obtain ⟨hmember, hreads⟩ := Document.mem_of_top htop
  obtain ⟨i, hname, hvalue⟩ := Document.member_indices hmember
  let found : Nat → Option UInt32 := fun i =>
    if jsoneq doc.text (jsonTokenStruct i) shadowVersionString then
      parseUnsignedInteger32Value env doc.text (jsonTokenStruct (i + 1))
    else none
  show (List.range' 1 (doc.tokens.length - 1)).findSome? found = some (UInt32.ofNat n)
  have hpos : 0 < i := by
    refine Nat.pos_of_ne_zero fun hzero => ?_
    subst hzero
    obtain rfl : doc.root.token = name := Option.some.inj hname
    simp [jsoneq, Document.root, Json.token] at hreads
  have hlt : i + 1 < doc.tokens.length := (List.getElem?_eq_some_iff.mp hvalue).1
  have hfound : found i = some (UInt32.ofNat n) := by
    simp only [found, hparsed i name hname, hparsed (i + 1) _ hvalue, hreads, if_true]
    exact parseUnsignedInteger32Value_literal hscans (List.mem_of_getElem? hvalue) hprimitive
      hliteral hn
  have hmem : i ∈ List.range' 1 (doc.tokens.length - 1) := by
    rw [List.mem_range'_1]
    omega
  cases hsome : (List.range' 1 (doc.tokens.length - 1)).findSome? found with
  | none =>
    rw [List.findSome?_eq_none_iff] at hsome
    rw [hsome i hmem] at hfound
    cases hfound
  | some u =>
    obtain ⟨front, j, behind, hsplit, hj, hnone⟩ := List.findSome?_eq_some_iff.mp hsome
    have hsorted : (List.range' 1 (doc.tokens.length - 1)).Pairwise (· < ·) :=
      List.pairwise_lt_range'
    rw [hsplit] at hmem hsorted
    rcases List.mem_append.mp hmem with hfront | hrest
    · rw [hnone i hfront] at hfound
      cases hfound
    rcases List.mem_cons.mp hrest with rfl | hbehind
    · exact hj.symm.trans hfound
    -- another string that reads "version" comes first
    have hbefore : j < i := by
      have hcons := (List.pairwise_append.mp hsorted).2.1
      exact (List.pairwise_cons.mp hcons).1 i hbehind
    have hja := List.getElem?_eq_getElem (show j < doc.tokens.length by omega)
    have hjb := List.getElem?_eq_getElem (show j + 1 < doc.tokens.length by omega)
    simp only [found, hparsed j _ hja, hparsed (j + 1) _ hjb] at hj
    split at hj
    case isFalse => cases hj
    case isTrue hreads' =>
      have hinfix : [doc.tokens[j], doc.tokens[j + 1]] <:+: doc.tokens := by
        refine ⟨doc.tokens.take j, doc.tokens.drop (j + 2), ?_⟩
        conv_rhs => rw [← List.take_append_drop j doc.tokens]
        rw [List.append_assoc, List.drop_eq_getElem_cons (show j < doc.tokens.length by omega),
          List.drop_eq_getElem_cons (show j + 1 < doc.tokens.length by omega)]
        rfl
      have hstart : (doc.tokens[j]).start < name.start := by
        obtain ⟨hi, hname'⟩ := List.getElem?_eq_some_iff.mp hname
        rw [← hname']
        have hordered : doc.tokens.Pairwise fun a b => a.start < b.start := doc.ordered
        exact List.pairwise_iff_getElem.mp hordered j i (by omega) hi hbefore
      have hu := hothers _ _ u hinfix hstart hreads' hj
      rw [← hu, UInt32.ofNat_toNat]

end Version

/-! ## What a step keeps -/

/-- The delta message that came `received` events after the start is newer than all that had
been received. -/
structure New (env : ShadowEnv) (log : List ShadowEvent) (received : Nat) : Prop where
  /-- It came. -/
  came : received < log.length
  /-- It is newer. -/
  above : ∀ document before v u, .deltaReceived document :: before <:+ log →
    before.length = received → HasVersion env document v → Seen env before u → u < v

theorem New.grows {env : ShadowEnv} {log log' : List ShadowEvent} {received : Nat}
    (h : New env log received) (hgrows : log <:+ log') : New env log' received where
  came := h.came.trans_le hgrows.length_le
  above document before v u hsuffix hlength := by
    refine h.above document before v u ?_ hlength
    refine List.suffix_of_suffix_length_le hsuffix hgrows ?_
    rw [List.length_cons, hlength]
    exact h.came

theorem seen_cons {env : ShadowEnv} {e : ShadowEvent} {log : List ShadowEvent} {v : Nat}
    (h : Seen env (e :: log) v) :
    (∃ document, e.document? = some document ∧ HasVersion env document v) ∨ Seen env log v := by
  cases e with
  | versionReset => exact h.elim
  | _ => exact h

/-- Everything that was dispatched was new, and nothing above the stored version has come. -/
structure Current (env : ShadowEnv) (s : Records) : Prop where
  /-- Old messages are ignored. -/
  discards : s.shadowDiscardOldDeltaFlag = true
  /-- The stored version is the highest. -/
  highest : ∀ v, Seen env s.log v → v ≤ s.shadowJsonVersionNum.toNat
  /-- What was dispatched was new. -/
  new : ∀ e ∈ s.log, ∀ received, e.dispatchOf? = some received → New env s.log received

/-- The log only grows, and as long as the documents have their versions first, all stays
current. -/
def StaysCurrent (env : ShadowEnv) (w w' : World) : Prop :=
  w.shadow.log <:+ w'.shadow.log ∧
    (Meets env w'.shadow.log → Current env w.shadow → Current env w'.shadow)

/-- The same while a message is dispatched that is new. -/
def StaysCurrentIn (env : ShadowEnv) (received : Nat) (w w' : World) : Prop :=
  w.shadow.log <:+ w'.shadow.log ∧
    (Meets env w'.shadow.log → New env w.shadow.log received → Current env w.shadow →
      Current env w'.shadow)

instance (env : ShadowEnv) : IsPreorder World (StaysCurrent env) where
  refl w := ⟨List.suffix_refl _, fun _ h => h⟩
  trans := by
    rintro w w₁ w' ⟨hgrows, hstays⟩ ⟨hgrows', hstays'⟩
    exact ⟨hgrows.trans hgrows', fun hmeets h => hstays' hmeets (hstays (hmeets.earlier hgrows') h)⟩

instance (env : ShadowEnv) (received : Nat) : IsPreorder World (StaysCurrentIn env received) where
  refl w := ⟨List.suffix_refl _, fun _ _ h => h⟩
  trans := by
    rintro w w₁ w' ⟨hgrows, hstays⟩ ⟨hgrows', hstays'⟩
    exact ⟨hgrows.trans hgrows', fun hmeets hnew h =>
      hstays' hmeets (hnew.grows hgrows) (hstays (hmeets.earlier hgrows') hnew h)⟩

theorem StaysCurrent.within {env : ShadowEnv} {w w' : World} (h : StaysCurrent env w w')
    (received : Nat) : StaysCurrentIn env received w w' :=
  ⟨h.1, fun hmeets _ => h.2 hmeets⟩

/-- The log and the version received last are the same. -/
def SameVersion (s s' : Records) : Prop :=
  s'.log = s.log ∧ s'.shadowJsonVersionNum = s.shadowJsonVersionNum ∧
    s'.shadowDiscardOldDeltaFlag = s.shadowDiscardOldDeltaFlag

section Current

variable {env : ShadowEnv} {s s' : Records} {e : ShadowEvent}

/-- One more event. -/
theorem Current.cons (h : Current env s) (hlog : s'.log = e :: s.log)
    (hflag : s'.shadowDiscardOldDeltaFlag = true)
    (hhighest : ∀ v, Seen env (e :: s.log) v → v ≤ s'.shadowJsonVersionNum.toNat)
    (hnew : ∀ received, e.dispatchOf? = some received → New env s.log received) :
    Current env s' where
  discards := hflag
  highest := hlog ▸ hhighest
  new e' he' received hreceived := by
    have hgrows : s.log <:+ s'.log := hlog ▸ List.suffix_cons e s.log
    rw [hlog] at he'
    rcases List.mem_cons.mp he' with rfl | hmem
    · exact (hnew received hreceived).grows hgrows
    · exact (h.new e' hmem received hreceived).grows hgrows

/-- The versions that came are no higher than the stored one, as it is after the event. -/
theorem Current.seen (h : Current env s)
    (hversion : s.shadowJsonVersionNum ≤ s'.shadowJsonVersionNum)
    (hdocument : ∀ document v, e.document? = some document → HasVersion env document v →
      v ≤ s'.shadowJsonVersionNum.toNat) :
    ∀ v, Seen env (e :: s.log) v → v ≤ s'.shadowJsonVersionNum.toNat := by
  intro v hv
  rcases seen_cons hv with ⟨document, hcame, hhas⟩ | hold
  · exact hdocument document v hcame hhas
  · exact (h.highest v hold).trans (UInt32.le_iff_toNat_le.mp hversion)

theorem Current.same (hsame : SameVersion s s') (h : Current env s) : Current env s' := by
  obtain ⟨hlog, hversion, hflag⟩ := hsame
  refine ⟨hflag.trans h.discards, ?_, ?_⟩
  · rw [hlog, hversion]
    exact h.highest
  · rw [hlog]
    exact h.new

theorem not_delta {e : ShadowEvent} (h : e.kind ≠ .delta) :
    e.document? = none ∧ e.dispatchOf? = none := by
  cases e <;> first | exact ⟨rfl, rfl⟩ | exact absurd rfl h

end Current

/-! ## What the client and the tables keep -/

section Steps

variable {env : ShadowEnv}

theorem staysCurrent_of_same {w w' : World} (h : SameVersion w.shadow w'.shadow) :
    StaysCurrent env w w' :=
  ⟨by rw [h.1], fun _ hcurrent => hcurrent.same h⟩

theorem staysCurrent_same {w w' : World} (h : w'.shadow = w.shadow) : StaysCurrent env w w' :=
  staysCurrent_of_same (by rw [h]; exact ⟨rfl, rfl, rfl⟩)

theorem staysCurrent_steps (env : ShadowEnv) : AllSteps env.mqtt (StaysCurrent env) :=
  allSteps_of_shadow staysCurrent_same env.mqtt

theorem staysCurrent_modifyRecords {f : Records → Records} (hf : KeepsVersion f) :
    Keeps (StaysCurrent env) (modifyRecords f : M Unit) := fun w =>
  staysCurrent_of_same (hf w.shadow)

/-- One event that is not about delta messages. -/
theorem staysCurrent_cons {w : World} {f : Records → Records} {e : ShadowEvent}
    (hkind : e.kind ≠ .delta) (hlog : (f w.shadow).log = e :: w.shadow.log)
    (hversion : (f w.shadow).shadowJsonVersionNum = w.shadow.shadowJsonVersionNum)
    (hflag : (f w.shadow).shadowDiscardOldDeltaFlag = w.shadow.shadowDiscardOldDeltaFlag) :
    StaysCurrent env w (w.onShadow f) := by
  obtain ⟨hdocument, hdispatch⟩ := not_delta hkind
  refine ⟨hlog ▸ List.suffix_cons e _, fun _ h => ?_⟩
  refine h.cons hlog (hflag.trans h.discards) (h.seen (hversion ▸ UInt32.le_refl _) ?_) ?_
  · exact fun document v hd => absurd (hdocument.symm.trans hd) (by simp)
  · exact fun received hr => absurd (hdispatch.symm.trans hr) (by simp)

theorem staysCurrent_shadowing (env : ShadowEnv) : 
    Shadowing (m := M) env (Keeps (StaysCurrent env)) where
  toEverything := (staysCurrent_steps env).everything
  serving hmessage := (staysCurrent_steps env).serving hmessage
  getRecords w := refl_of (StaysCurrent env) w
  modifyRecords hf _ := staysCurrent_modifyRecords hf
  storeTopic buffer topic w := staysCurrent_of_same (keepsVersion_storeTopic buffer topic w.shadow)
  passing _ topic _ hx := hx ⟨topic⟩
  initializeRecords _ := staysCurrent_cons (e := .recordsInitialized) (fun h => by cases h) rfl rfl rfl
  note hkind _ := staysCurrent_cons hkind rfl rfl rfl

end Steps

/-! ## Received documents -/

section Received

variable {env : ShadowEnv}

/-- If the document has a version, `version` is it. -/
def FindsVersion (env : ShadowEnv) (document : List UInt8) (version : Option UInt32) : Prop :=
  ∀ v, HasVersion env document v → version = some (UInt32.ofNat v) ∧ v < 2 ^ 32

/-- Parsing leaves the log and the version alone, and then the version is found of a document
that has it first. -/
theorem ends_parse (hscans : Scans env) (document : List UInt8) (w : World) {H : World → Prop} :
    (isJsonValidAndParse env document : M (Option Nat)).Ends w (fun result w' =>
      SameVersion w.shadow w'.shadow ∧ ∀ tokenCount, result = some tokenCount →
        (∀ doc : Document, doc.text = document → doc.Parses env → VersionFirst env doc) →
          FindsVersion env document
            (versionNumber env document w'.shadow.jsonTokenStruct tokenCount)) H := by
  have hdocument : ∀ doc : Document, doc.text = document → doc.Parses env →
      (parseObject env document : M (Option Nat)).Ends w (fun result w' =>
        result = some doc.tokens.length ∧ doc.ParsedInto w'.shadow.jsonTokenStruct) H := by
    rintro doc rfl hparses
    exact parseObject_document hparses
  unfold isJsonValidAndParse
  unfold parseObject at hdocument ⊢
  simp only [ends_bind, ends_modifyRecords, ends_getRecords, ends_pure] at hdocument ⊢
  refine ⟨⟨rfl, rfl, rfl⟩, ?_⟩
  rintro tokenCount hcount hfirst v ⟨doc, htext, hparses, hversion⟩
  obtain ⟨hsome, hparsed⟩ := hdocument doc htext hparses
  obtain rfl := Option.some.inj (hcount.symm.trans hsome)
  subst htext
  exact versionNumber_document hscans hparsed (hfirst doc rfl hparses) hversion

variable {fuel : Nat} {handlers : Handlers M} (hscans : Scans env)
  (hhandlers : Handled (Keeps (StaysCurrent env)) handlers)

omit hscans hhandlers in
theorem le_max_version (u v : UInt32) : u ≤ max u v ∧ v ≤ max u v := by
  have hmax : max u v = if u ≤ v then v else u := rfl
  rw [hmax]
  split
  case isTrue hle => exact ⟨hle, UInt32.le_refl v⟩
  case isFalse hlt => exact ⟨UInt32.le_refl u, UInt32.le_of_lt (UInt32.not_le.mp hlt)⟩

omit hscans hhandlers in
theorem le_of_findsVersion {document : List UInt8} {version : Option UInt32} {stored : UInt32}
    (hfinds : FindsVersion env document version) (hstored : ∀ u, version = some u → u ≤ stored)
    {v : Nat} (hhas : HasVersion env document v) : v ≤ stored.toNat := by
  obtain ⟨hversion, hv⟩ := hfinds v hhas
  have hle := UInt32.le_iff_toNat_le.mp (hstored _ hversion)
  rwa [UInt32.toNat_ofNat_of_lt' hv] at hle

include hscans hhandlers in
theorem ackStatusCallback_staysCurrent (call : HandlerCall) :
    Keeps (StaysCurrent env) (ackStatusCallback env fuel handlers call) := by
  have hs := staysCurrent_shadowing env
  unfold ackStatusCallback
  refine hs.ite (fun _ => hs.pure _) fun _ => ?_
  refine hs.bind (hs.modifyRecords (fun _ => ⟨rfl, rfl, rfl⟩) fun _ => rfl) fun _ => ?_
  refine hs.bind hs.getRecords fun s w => ?_
  refine ends_bind.mpr ((ends_parse hscans (rxDocument env.config s) w).mono ?_ fun _ h => h)
  rintro result w₁ ⟨hsame, hfinds⟩
  have h₁ : StaysCurrent env w w₁ := staysCurrent_of_same hsame
  cases result with
  | none => exact h₁
  | some tokenCount =>
    simp only [ends_bind, ends_getClient, ends_getRecords, ends_note]
    generalize topicString w₁.client call.topicNameAt = topicName
    -- the version is stored, and then comes the answer
    have hstep : ∀ w₂, StaysCurrent env w₁ w₂ →
        (answerAck env fuel handlers topicName (rxDocument env.config s)
          env.config.maxSizeClientTokenClientSequence : M Unit).Ends w₂
        (fun _ w' => StaysCurrent env w w') (StaysCurrent env w) := fun w₂ h₂ =>
      (hs.recording.answer fuel hhandlers topicName _ _ w₂).mono
        (fun _ _ h => trans_of (StaysCurrent env) h₁ (trans_of (StaysCurrent env) h₂ h))
        (fun _ h => trans_of (StaysCurrent env) h₁ (trans_of (StaysCurrent env) h₂ h))
    have hack : ∀ {mine : Bool} {w₂ : World},
        w₂.shadow.log = .ackReceived mine (rxDocument env.config s) :: w₁.shadow.log →
        w₂.shadow.shadowDiscardOldDeltaFlag = w₁.shadow.shadowDiscardOldDeltaFlag →
        w₁.shadow.shadowJsonVersionNum ≤ w₂.shadow.shadowJsonVersionNum →
        (mine = true → ∀ u, versionNumber env (rxDocument env.config s)
          w₁.shadow.jsonTokenStruct tokenCount = some u → u ≤ w₂.shadow.shadowJsonVersionNum) →
        StaysCurrent env w₁ w₂ := by
      intro mine w₂ hlog hflag hkept hstored
      refine ⟨hlog ▸ List.suffix_cons _ _, fun hmeets h => ?_⟩
      refine h.cons hlog (hflag.trans h.discards) (h.seen hkept ?_) fun _ h => by cases h
      intro document v hdocument hhas
      cases mine with
      | false => cases hdocument
      | true =>
        obtain rfl := Option.some.inj hdocument
        refine le_of_findsVersion (hfinds tokenCount rfl fun doc htext hparses => ?_)
          (hstored rfl) hhas
        exact hmeets.versionFirst _ (hlog ▸ List.mem_cons_self) doc (by rw [htext]; rfl) hparses
    split
    case isFalse hmine =>
      exact hstep _ (hack rfl rfl (UInt32.le_refl _) fun h => absurd h hmine)
    case isTrue hmine =>
      rw [ends_bind, ends_extractVersionNumber]
      cases hversion : versionNumber env (rxDocument env.config s) w₁.shadow.jsonTokenStruct
          tokenCount with
      | none =>
        simp only [World.shadow_onShadow, hversion]
        refine hstep _ (hack rfl rfl (UInt32.le_refl _) fun _ u hu => ?_)
        cases hversion.symm.trans hu
      | some version =>
        simp only [World.shadow_onShadow, hversion]
        rw [ends_bind, ends_modifyRecords]
        refine hstep _ (hack rfl rfl (le_max_version _ _).1 fun _ u hu => ?_)
        obtain rfl := Option.some.inj (hversion.symm.trans hu)
        exact (le_max_version _ _).2

/-- What is done for a new message is logged as such. -/
theorem staysCurrentIn_note {received : Nat} {e : ShadowEvent} (hdocument : e.document? = none)
    (hdispatch : e.dispatchOf? = some received) :
    Keeps (StaysCurrentIn env received) (note e) := fun w =>
  ⟨List.suffix_cons e _, fun _ hnew h => h.cons rfl h.discards
    (h.seen (UInt32.le_refl _) fun _ _ hd => absurd (hdocument.symm.trans hd) (by simp))
    fun _ hr => Option.some.inj (hdispatch.symm.trans hr) ▸ hnew⟩

/-- The end of a callback changes nothing. -/
theorem staysCurrent_deltaReturned {received index : Nat} {kept : Bool} :
    Keeps (StaysCurrent env) (note (.deltaReturned received index kept)) := fun _ =>
  ⟨List.suffix_cons _ _, fun _ h => h.cons rfl h.discards
    (h.seen (UInt32.le_refl _) fun _ _ h => by cases h) fun _ h => by cases h⟩

theorem keeps_staysCurrentIn {α : Type} {x : M α} (received : Nat)
    (h : Keeps (StaysCurrent env) x) : Keeps (StaysCurrentIn env received) x := fun w =>
  (h w).mono (fun _ _ h => h.within received) (fun _ h => h.within received)

include hhandlers in
theorem staysCurrentIn_dispatching (received : Nat) :
    Dispatching (m := M) handlers received (Keeps (StaysCurrentIn env received)) where
  toCompositional := keeps_compositional (StaysCurrentIn env received)
  getRecords w := refl_of (StaysCurrentIn env received) w
  modifyRecords hf _ _ := keeps_staysCurrentIn received (staysCurrent_modifyRecords hf)
  updated _ _ := staysCurrentIn_note rfl rfl
  calledBack _ _ := staysCurrentIn_note rfl rfl
  returned _ _ := keeps_staysCurrentIn received staysCurrent_deltaReturned
  delta := keeps_staysCurrentIn received hhandlers.delta

omit hscans hhandlers in
/-- A message that is not old has a version above the stored one, if any. -/
theorem newVersion_some {s : Records} {version : Option UInt32} {stored : UInt32}
    (hflag : s.shadowDiscardOldDeltaFlag = true) (h : newVersion s version = some stored) :
    s.shadowJsonVersionNum ≤ stored ∧
      ∀ u, version = some u → u = stored ∧ s.shadowJsonVersionNum < u := by
  cases version with
  | none =>
    obtain rfl := Option.some.inj h
    exact ⟨UInt32.le_refl _, by simp⟩
  | some u =>
    simp only [newVersion, hflag, Option.filter_some, if_true] at h
    split at h
    case isFalse => cases h
    case isTrue hlt =>
      obtain rfl := Option.some.inj h
      exact ⟨UInt32.le_of_lt hlt, fun u' hu => by cases hu; exact ⟨rfl, hlt⟩⟩

omit hscans hhandlers in
theorem newVersion_none {s : Records} {version : Option UInt32}
    (h : newVersion s version = none) : ∀ u, version = some u → u ≤ s.shadowJsonVersionNum := by
  rintro u rfl
  simp only [newVersion] at h
  split at h
  case h_1 => cases h
  case h_2 v hv =>
    obtain rfl : u = v := Option.some.inj (Option.filter_eq_some_iff.mp hv).1
    split at h
    case isTrue => cases h
    case isFalse hle => exact UInt32.not_lt.mp hle

include hscans hhandlers in
theorem shadowDeltaCallback_staysCurrent (call : HandlerCall) :
    Keeps (StaysCurrent env) (shadowDeltaCallback env handlers call) := by
  have hs := staysCurrent_shadowing env
  unfold shadowDeltaCallback
  refine hs.ite (fun _ => hs.pure _) fun _ => ?_
  refine hs.bind (hs.modifyRecords (fun _ => ⟨rfl, rfl, rfl⟩) fun _ => rfl) fun _ => ?_
  refine hs.bind hs.getRecords fun s w => ?_
  refine ends_bind.mpr ((ends_parse hscans (rxDocument env.config s) w).mono ?_ fun _ h => h)
  rintro result w₁ ⟨hsame, hfinds⟩
  have h₁ : StaysCurrent env w w₁ := staysCurrent_of_same hsame
  cases result with
  | none => exact h₁
  | some tokenCount =>
    simp only [ends_bind, ends_getRecords, ends_note, ends_extractVersionNumber,
      World.shadow_onShadow]
    have hfinds' := hfinds tokenCount rfl
    generalize versionNumber env (rxDocument env.config s) w₁.shadow.jsonTokenStruct
      tokenCount = version at hfinds' ⊢
    -- the message is noted, and if it is new, its version stored
    have hreceived : ∀ {w₂ : World}, w₂.shadow.log =
          .deltaReceived (rxDocument env.config s) :: w₁.shadow.log →
        w₂.shadow.shadowDiscardOldDeltaFlag = w₁.shadow.shadowDiscardOldDeltaFlag →
        (w₁.shadow.shadowDiscardOldDeltaFlag = true →
          w₁.shadow.shadowJsonVersionNum ≤ w₂.shadow.shadowJsonVersionNum ∧
            ∀ u, version = some u → u ≤ w₂.shadow.shadowJsonVersionNum) →
        StaysCurrent env w₁ w₂ := by
      intro w₂ hlog hflag hstored
      refine ⟨hlog ▸ List.suffix_cons _ _, fun hmeets h => ?_⟩
      obtain ⟨hkept, hversion⟩ := hstored h.discards
      refine h.cons hlog (hflag.trans h.discards) (h.seen hkept ?_) fun _ h => by cases h
      rintro document v hdocument hhas
      obtain rfl := Option.some.inj hdocument
      refine le_of_findsVersion (hfinds' fun doc htext hparses => ?_) hversion hhas
      exact hmeets.versionFirst _ (hlog ▸ List.mem_cons_self) doc (by rw [htext]; rfl) hparses
    split
    case h_1 hold =>
      rw [ends_pure]
      refine trans_of (StaysCurrent env) h₁ (hreceived ?_ ?_ fun _ => ?_)
      · rfl
      · rfl
      · exact ⟨UInt32.le_refl _, newVersion_none hold⟩
    case h_2 stored hnew =>
      rw [ends_bind, ends_modifyRecords]
      generalize hw₂ : World.onShadow (World.onShadow w₁ _) _ = w₂
      have hlog : w₂.shadow.log =
          .deltaReceived (rxDocument env.config s) :: w₁.shadow.log := by rw [← hw₂]; rfl
      have hstored : w₂.shadow.shadowJsonVersionNum = stored := by rw [← hw₂]; rfl
      have hflag : w₂.shadow.shadowDiscardOldDeltaFlag = w₁.shadow.shadowDiscardOldDeltaFlag := by
        rw [← hw₂]
        rfl
      have h₂ : StaysCurrent env w₁ w₂ := by
        refine hreceived hlog hflag fun hdiscards => ?_
        obtain ⟨hkept, hversion⟩ := newVersion_some hdiscards hnew
        rw [hstored]
        exact ⟨hkept, fun u hu => (hversion u hu).1 ▸ UInt32.le_refl _⟩
      -- it is above all that had come
      have habove : Meets env w₂.shadow.log → Current env w₁.shadow →
          New env w₂.shadow.log w₁.shadow.log.length := by
        intro hmeets h
        refine ⟨by rw [hlog, List.length_cons]; omega, ?_⟩
        intro document before v u hsuffix hlength hhas hu
        have heq : (.deltaReceived document :: before : List ShadowEvent) =
            .deltaReceived (rxDocument env.config s) :: w₁.shadow.log := by
          rw [hlog] at hsuffix
          exact hsuffix.eq_of_length (by rw [List.length_cons, List.length_cons, hlength])
        obtain ⟨hdocument, rfl⟩ := List.cons.inj heq
        obtain rfl := ShadowEvent.deltaReceived.inj hdocument
        have hfirst := fun doc (htext : doc.text = rxDocument env.config s) hparses =>
          hmeets.versionFirst _ (hlog ▸ List.mem_cons_self) doc (by rw [htext]; rfl) hparses
        obtain ⟨hversion, hv⟩ := hfinds' hfirst v hhas
        obtain ⟨-, hlt⟩ := (newVersion_some h.discards hnew).2 _ hversion
        have hlt' := UInt32.lt_iff_toNat_lt.mp hlt
        rw [UInt32.toNat_ofNat_of_lt' hv] at hlt'
        exact (h.highest u hu).trans_lt hlt'
      have hend : ∀ w', StaysCurrentIn env w₁.shadow.log.length w₂ w' → StaysCurrent env w w' := by
        rintro w' ⟨hgrows, hstays⟩
        refine trans_of (StaysCurrent env) h₁ ⟨h₂.1.trans hgrows, fun hmeets h => ?_⟩
        have hmeets' := hmeets.earlier hgrows
        exact hstays hmeets (habove hmeets' h) (h₂.2 hmeets' h)
      have hdispatching := staysCurrentIn_dispatching hhandlers w₁.shadow.log.length
      exact (hdispatching.dispatchFrom tokenCount env.config.maxJsonTokenExpected 0 w₂).mono
        (fun _ => hend) hend

end Received

/-! ## Runs -/

theorem staysCurrent_versioned {env : ShadowEnv} (hscans : Scans env) (fuel : Nat) :
    Versioned (m := M) env fuel (Keeps (StaysCurrent env)) where
  toRecording := (staysCurrent_shadowing env).recording
  ackStatusCallback hhandlers := ackStatusCallback_staysCurrent hscans hhandlers
  shadowDeltaCallback hhandlers := shadowDeltaCallback_staysCurrent hscans hhandlers
  resetLastReceivedVersion _ := ⟨List.suffix_cons _ _, fun _ h =>
    h.cons rfl h.discards (fun _ hv => hv.elim) fun _ h => by cases h⟩
  setDiscardOldDeltaMsgs flag w := by
    refine ⟨List.suffix_cons _ _, fun hmeets h => ?_⟩
    cases flag with
    | false => exact absurd List.mem_cons_self hmeets.discards
    | true =>
      exact h.cons rfl rfl (h.seen (UInt32.le_refl _) fun _ _ h => by cases h)
        fun _ h => by cases h

theorem current_start (env : ShadowEnv) : Current env World.start.shadow where
  discards := rfl
  highest _ h := h.elim
  new _ h := absurd h List.not_mem_nil

theorem Seen.append {env : ShadowEnv} {v : Nat} {log : List ShadowEvent}
    (h : Seen env log v) : ∀ between : List ShadowEvent, .versionReset ∉ between →
      Seen env (between ++ log) v
  | [], _ => h
  | e :: between, hreset => by
      have hrest := Seen.append h between fun hmem => hreset (List.mem_cons_of_mem e hmem)
      cases e with
      | versionReset => exact absurd List.mem_cons_self hreset
      | _ => exact .inr hrest

/-- The versions go forward if all is current. -/
theorem Current.goForward {env : ShadowEnv} {s : Records} (h : Current env s) :
    GoForward env s.log where
  ignored document before v u hsuffix hhas hseen hle e he hdispatch := by
    have hnew := h.new e he before.length hdispatch
    have hlt := hnew.above document before v u hsuffix rfl hhas hseen
    omega
  increasing := by
    rintro document' between document before v v' hsuffix hreset hhas hhas' - hcalled
    obtain ⟨index, value, hmem⟩ := hcalled
    have hnew := h.new _ hmem _ rfl
    have hcame : Seen env (.deltaReceived document :: before) v := Or.inl ⟨document, rfl, hhas⟩
    exact hnew.above document' _ v' v hsuffix rfl hhas' (hcame.append between hreset)

/-- In a run in which old messages are ignored and every document has its version first,
versions only go forward. -/
theorem dispatched_versions_increase {env : ShadowEnv} (hscans : Scans env) (fuel : Nat)
    (calls : List ShadowCall) {w : World}
    (hrun : w = ((shadowApplication env fuel calls : M Unit).run World.start).state)
    (hmeets : Meets env w.shadow.log) : GoForward env w.shadow.log := by
  have hkeeps : StaysCurrent env World.start w := by
    rw [hrun]
    exact ends_state_iff.mp ((staysCurrent_versioned hscans fuel).shadowApplication calls
      World.start)
  exact (hkeeps.2 hmeets (current_start env)).goForward

/-! ### Two messages -/

/-- The document `{"version":5,"state":{"length":1}}`. -/
def versionDocument : Document where
  text := ascii "\x7b\"version\":5,\"state\":\x7b\"length\":1\x7d\x7d" ++ List.replicate 480 0
  start := 0
  stop := 34
  members := .cons 2 9 (.primitive 11 12)
    (.cons 14 19 (.object 21 33 (.cons 23 29 (.primitive 31 32) .nil)) .nil)
  ordered := by decide
  spans := by decide
  nested := by decide
  delimited := by decide

/-- The document `{"state":{"version":9,"length":2},"version":4}`. -/
def nestedDocument : Document where
  text := ascii "\x7b\"state\":\x7b\"version\":9,\"length\":2\x7d,\"version\":4\x7d" ++
    List.replicate 468 0
  start := 0
  stop := 46
  members := .cons 2 7 (.object 9 33
    (.cons 11 18 (.primitive 20 21) (.cons 23 29 (.primitive 31 32) .nil)))
    (.cons 35 42 (.primitive 44 45) .nil)
  ordered := by decide
  spans := by decide
  nested := by decide
  delimited := by decide

/-- A message to the delta topic of the thing `a`. -/
def deltaPacket (doc : Document) : List UInt8 :=
  let topic := ascii "$aws/things/a/shadow/update/delta"
  let payload := doc.text.takeWhile (· ≠ 0)
  0x30 :: UInt8.ofNat (2 + topic.length + payload.length) :: 0 :: UInt8.ofNat topic.length ::
    (topic ++ payload)

/-- Surroundings in which two messages arrive after the subscription. -/
def deltaEnv (first second : Document) : ShadowEnv :=
  { quietShadowEnv (Document.parserOf [first, second]) with
    mqtt := quietEnv.receiving [(6, [0x20, 2, 0, 0]), (15, [0x90, 3, 0, 2, 0]),
      (21, deltaPacket first), (30, deltaPacket second)] }

theorem deltaEnv_scans (first second : Document) : Scans (deltaEnv first second) :=
  quietShadowEnv_scans (Document.parserOf [first, second])

/-- The world after both. -/
def deltaWorld (first second : Document) : World :=
  ((shadowApplication (deltaEnv first second) 8 [
    .init ⟨true, 8883, true, true, true, false, false⟩,
    .connect ⟨⟨ascii "a"⟩, some ⟨ascii "c"⟩, 1, false⟩,
    .registerDelta (some lengthKey), .yield 5, .yield 5] : M Unit).run World.start).state

/-- What the message of version 4 is found to say is 9, which is above 5. -/
theorem goes_backward :
    Scans (deltaEnv versionDocument nestedDocument) ∧
    .discardSet false ∉ (deltaWorld versionDocument nestedDocument).shadow.log ∧
    ¬ GoForward (deltaEnv versionDocument nestedDocument)
      (deltaWorld versionDocument nestedDocument).shadow.log := by
  refine ⟨deltaEnv_scans _ _, by decide +kernel, fun h => ?_⟩
  have hfirst : HasVersion (deltaEnv versionDocument nestedDocument) versionDocument.text 5 :=
    ⟨versionDocument, rfl, by decide +kernel, by decide +kernel⟩
  have hsecond : HasVersion (deltaEnv versionDocument nestedDocument) nestedDocument.text 4 :=
    ⟨nestedDocument, rfl, by decide +kernel, by decide +kernel⟩
  have hlog : ∃ before, (deltaWorld versionDocument nestedDocument).shadow.log =
      [.returned (.yield 5) .success, .deltaReturned 15 0 true,
        .deltaCalledBack 15 0 (ascii "2"), .deltaUpdated 15 0 (.int32 2)] ++
      .deltaReceived nestedDocument.text ::
      ([.called (.yield 5), .returned (.yield 5) .success, .deltaReturned 9 0 true,
        .deltaCalledBack 9 0 (ascii "1"), .deltaUpdated 9 0 (.int32 1)] ++
      .deltaReceived versionDocument.text :: before) ∧
      before.length = 9 :=
    ⟨(deltaWorld versionDocument nestedDocument).shadow.log.drop 11, by decide +kernel,
      by decide +kernel⟩
  obtain ⟨before, hlog, hlength⟩ := hlog
  rw [hlog] at h
  have hseen : Seen (deltaEnv versionDocument nestedDocument)
      (.deltaReceived versionDocument.text :: before) 5 := Or.inl ⟨_, rfl, hfirst⟩
  refine h.ignored nestedDocument.text _ 4 5 (List.suffix_append _ _) hsecond
    (hseen.append _ (by decide)) (by decide) (.deltaUpdated 15 0 (.int32 2)) ?_ ?_
  · simp
  · simp [ShadowEvent.dispatchOf?, hlength]

/-- Its text and tokens make a document one that has its version first. -/
theorem versionFirst_versionDocument (env : ShadowEnv) {doc : Document}
    (htext : doc.text = versionDocument.text) (htokens : doc.tokens = versionDocument.tokens) :
    VersionFirst env doc := by
  intro name value n htop hversion
  obtain ⟨_, _, htop', -, hliteral⟩ := Document.version?_eq_some hversion
  obtain ⟨rfl, rfl⟩ := Prod.mk.inj (Option.some.inj (htop.symm.trans htop'))
  obtain ⟨hmember, hreads⟩ := Document.mem_of_top htop
  obtain ⟨i, hname, hvalue⟩ := Document.member_indices hmember
  rw [htokens] at hname hvalue
  rw [htext] at hreads
  have hone : ∀ j < 7, ∀ token, versionDocument.tokens[j]? = some token →
      jsoneq versionDocument.text token shadowVersionString = true → j = 1 := by decide +kernel
  have hlt : i < versionDocument.tokens.length := (List.getElem?_eq_some_iff.mp hname).1
  obtain rfl : i = 1 := hone i hlt name hname hreads
  obtain rfl : (⟨.string, 2, 9⟩ : JsmnToken) = name := Option.some.inj hname
  have htoken : (⟨.primitive, 11, 12⟩ : JsmnToken) = value.token := Option.some.inj hvalue
  rw [← htoken, Document.textOf, htext] at hliteral
  obtain rfl : 5 = n := Option.some.inj (Eq.trans (by decide +kernel) hliteral)
  refine ⟨by decide, fun a b u hinfix hstart hreads' => ?_⟩
  have hmem : a ∈ versionDocument.tokens := htokens ▸ hinfix.subset List.mem_cons_self
  have hfront : ∀ token ∈ versionDocument.tokens, token.start < 2 →
      jsoneq versionDocument.text token shadowVersionString = false := by decide +kernel
  rw [htext, hfront a hmem hstart] at hreads'
  cases hreads'

/-- A message that comes twice. -/
theorem dispatched_versions_increase_twice :
    GoForward (deltaEnv versionDocument versionDocument)
      (deltaWorld versionDocument versionDocument).shadow.log := by
  refine dispatched_versions_increase (deltaEnv_scans _ _) 8 _ rfl ⟨by decide +kernel, ?_⟩
  intro e he doc hdocument hparses
  have hall : ∀ e ∈ (deltaWorld versionDocument versionDocument).shadow.log,
      e.document? = none ∨ e.document? = some versionDocument.text := by decide +kernel
  have htext : doc.text = versionDocument.text := by
    rcases hall e he with hnone | hsome
    · cases hnone.symm.trans hdocument
    · exact Option.some.inj (hdocument.symm.trans hsome)
  have hparsed : versionDocument.Parses (deltaEnv versionDocument versionDocument) := by
    decide +kernel
  have hresult : (⟨some doc.tokens.length, doc.tokens⟩ : JsmnResult) =
      ⟨some versionDocument.tokens.length, versionDocument.tokens⟩ := by
    rw [← hparses, ← hparsed, htext]
  exact versionFirst_versionDocument _ htext (congrArg JsmnResult.tokens hresult)

end AwsIot.Shadow
