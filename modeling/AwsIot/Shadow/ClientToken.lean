/-
  Shadow/ClientToken.lean --- which client token a document is found to have.

  `extractClientToken` takes the first string of a document that reads "clientToken" for the
  name of a member of the document itself, and the token behind it for its value.  It cuts
  the length of that to eight bits, and is not told how long the array of its caller is.
-/
import AwsIot.Shadow.KeyMatch

set_option autoImplicit false

namespace AwsIot.Shadow

open AwsIot.Foundation AwsIot.Mqtt Program

/-! ## Members of the object itself -/

/-- The members of an object, without those in their values. -/
def Members.own : Members → List (JsmnToken × Json)
  | .nil => []
  | .cons start stop value rest => (⟨.string, start, stop⟩, value) :: rest.own

theorem Members.own_subset : ∀ members : Members, members.own ⊆ members.members
  | .nil => List.Subset.refl _
  | .cons start stop value rest => by
      rw [Members.own, Members.members]
      exact List.cons_subset_cons _
        (List.Subset.trans rest.own_subset (List.subset_append_right _ _))

/-- `bytes` is the value, a string, of a member "clientToken" of the document itself. -/
def Document.HasClientToken (doc : Document) (bytes : List UInt8) : Prop :=
  ∃ name value, (name, value) ∈ doc.members.own ∧
    jsoneq doc.text name shadowClientTokenString = true ∧
    value.token.type = .string ∧ doc.textOf value.token = bytes

/-- What jsmn tells of a text is right: the tokens of the object that the text is, unless
they are too many, or else that it is none. -/
def JsmnTells (env : ShadowEnv) (text : List UInt8) (object : Option Document) : Prop :=
  match object with
  | some doc => doc.text = text ∧
      if doc.tokens.length ≤ env.config.maxJsonTokenExpected then doc.Parses env
      else (env.jsmnParse (text.takeWhile (· ≠ 0))).count = none
  | none => ∀ n, (env.jsmnParse (text.takeWhile (· ≠ 0))).count = some (n + 1) →
      ∃ token ∈ (env.jsmnParse (text.takeWhile (· ≠ 0))).tokens.head?, token.type ≠ .object

/-! ## The search -/

/-- The length of a token, cut to eight bits. -/
def cutLength (token : JsmnToken) : Nat :=
  (UInt8.ofNat token.stop - UInt8.ofNat token.start).toNat

/-- The arrays that the callers of `extractClientToken` have for the client token. -/
def callerSizes (config : ShadowConfig) : List Nat :=
  [config.maxSizeClientIdWithSequence, config.maxSizeClientTokenClientSequence]

/-- `extractClientToken` stores nothing behind the array of either caller, and returns true
with the bytes of a client token of the document exactly if there is one. -/
def ExtractsClientToken (env : ShadowEnv) (text : List UInt8) (object : Option Document)
    (w : World) : Prop :=
  ∀ size ∈ callerSizes env.config, ∃ token w',
    (extractClientToken env text size : M (Option (List UInt8))).run w = .done token w' ∧
    (∀ bytes ∈ token, ∃ doc ∈ object, doc.HasClientToken bytes) ∧
    ((∃ doc ∈ object, ∃ bytes, doc.HasClientToken bytes) → token.isSome = true)

/-- The first string of the document that reads "clientToken", if any, has a token behind it
whose text, cut to eight bits of length, fits the arrays of the callers and is the client
token. -/
def ClientTokenFirst (config : ShadowConfig) (doc : Document) : Prop :=
  ∀ i key, doc.tokens.tail.find? (jsoneq doc.text · shadowClientTokenString) = some key →
    doc.tokens[i]? = some key → ∃ value, doc.tokens[i + 1]? = some value ∧
      (∀ size ∈ callerSizes config, cutLength value < size) ∧
      doc.HasClientToken ((doc.text.drop value.start).take (cutLength value))

/-- jsmn has tokens enough for the document, and its first string that reads "clientToken" is
right; or it has not, and the document has no client token. -/
def ClientTokenClear (config : ShadowConfig) (object : Option Document) : Prop :=
  ∀ doc ∈ object,
    if doc.tokens.length ≤ config.maxJsonTokenExpected then ClientTokenFirst config doc
    else ¬ ∃ bytes, doc.HasClientToken bytes

section Search

variable {env : ShadowEnv} {doc : Document} {w : World} {size : Nat}

/-- The name of a member is one of the tokens behind the first. -/
theorem exists_index_of_hasClientToken {bytes : List UInt8} (h : doc.HasClientToken bytes) :
    ∃ i name value, doc.tokens[i + 1]? = some name ∧ doc.tokens[i + 2]? = some value ∧
      jsoneq doc.text name shadowClientTokenString = true := by
  obtain ⟨name, value, hown, hname, -, -⟩ := h
  have hmember : (name, value) ∈ doc.root.members := doc.members.own_subset hown
  obtain ⟨i, hi, hnext⟩ := Document.member_indices hmember
  cases i with
  | zero =>
    -- the first token is the object, and no string
    obtain ⟨rest, hroot⟩ := doc.root.tokens_eq_cons
    rw [Document.tokens, hroot] at hi
    obtain rfl := Option.some.inj hi
    simp [jsoneq, Document.root, Json.token] at hname
  | succ i => exact ⟨i, name, value.token, hi, hnext, hname⟩

/-- The storage once the document is parsed. -/
def Document.parse (doc : Document) (s : Records) : Records :=
  { s with jsonTokenStruct := fun i => doc.tokens.getD i (s.jsonTokenStruct i) }

theorem Document.parsedInto_parse (s : Records) : doc.ParsedInto (doc.parse s).jsonTokenStruct := by
  intro i token h
  show doc.tokens.getD i (s.jsonTokenStruct i) = token
  rw [List.getD_eq_getElem?_getD, h, Option.getD_some]

theorem ends_parseObject_document (hparses : doc.Parses env)
    {Q : Option Nat → World → Prop} {H : World → Prop} :
    (parseObject env doc.text : M (Option Nat)).Ends w Q H ↔
      Q (some doc.tokens.length) (w.onShadow doc.parse) := by
  obtain ⟨rest, hroot⟩ := doc.root.tokens_eq_cons
  have hcons : doc.tokens = doc.root.token :: rest := hroot
  have hfilter : (some doc.tokens.length).filter (fun tokenCount => decide (1 ≤ tokenCount ∧
      ((doc.parse w.shadow).jsonTokenStruct 0).type = .object)) = some doc.tokens.length := by
    rw [Option.filter_eq_some_iff]
    exact ⟨rfl, by simp [Document.parse, hcons, Document.root, Json.token]⟩
  unfold parseObject
  simp only [ends_bind, ends_modifyRecords, ends_getRecords, ends_pure, World.shadow_onShadow]
  rw [hparses]
  show Q ((some doc.tokens.length).filter _) (w.onShadow doc.parse) ↔ _
  rw [← hfilter]
  exact Iff.rfl

/-- A run of `extractClientToken` on a document: the search, and what it finds. -/
theorem ends_extractClientToken (hparses : doc.Parses env) (w : World) (size : Nat)
    {Q : Option (List UInt8) → World → Prop} {H : World → Prop} :
    (extractClientToken env doc.text size : M (Option (List UInt8))).Ends w Q H ↔
      match keyIndex doc.text (doc.parse w.shadow).jsonTokenStruct doc.tokens.length
        shadowClientTokenString with
      | none => Q none (w.onShadow doc.parse)
      | some i =>
          let value := (doc.parse w.shadow).jsonTokenStruct (i + 1)
          if size ≤ cutLength value then H (w.onShadow doc.parse)
          else Q (some ((doc.text.drop value.start).take (cutLength value)))
            (w.onShadow doc.parse) := by
  rw [extractClientToken, ends_bind, ends_parseObject_document hparses]
  show ((getRecords : M Records) >>= fun s => match keyIndex doc.text s.jsonTokenStruct
    doc.tokens.length shadowClientTokenString with
    | none => pure none
    | some i => _).Ends (w.onShadow doc.parse) Q H ↔ _
  rw [ends_bind, ends_getRecords, World.shadow_onShadow]
  cases keyIndex doc.text (doc.parse w.shadow).jsonTokenStruct doc.tokens.length
    shadowClientTokenString with
  | none => exact Iff.rfl
  | some i =>
    show (if size ≤ cutLength ((doc.parse w.shadow).jsonTokenStruct (i + 1)) then _
      else _ : M _).Ends (w.onShadow doc.parse) Q H ↔ _
    rw [ends_ite]
    exact Iff.rfl

/-- No string before the first that is found reads the key. -/
theorem le_of_find?_tokens {key name : JsmnToken} {i j : Nat} {read : JsmnToken → Bool}
    (hfind : doc.tokens.tail.find? read = some key) (hi : doc.tokens[i]? = some key)
    (hj : doc.tokens[j + 1]? = some name) (hread : read name = true) : i ≤ j + 1 := by
  obtain ⟨-, k, hk, rfl, hbefore⟩ := List.find?_eq_some_iff_getElem.mp hfind
  have hkey : doc.tokens[k + 1]? = some doc.tokens.tail[k] := by
    rw [← List.getElem?_tail]
    exact List.getElem?_eq_getElem hk
  obtain rfl := Document.index_eq hi hkey rfl
  refine Nat.succ_le_succ (Nat.le_of_not_lt fun hlt => ?_)
  have hj' : j < doc.tokens.tail.length := Nat.lt_trans hlt hk
  have hname : doc.tokens.tail[j] = name := by
    rw [← List.getElem?_tail] at hj
    exact (List.getElem?_eq_some_iff.mp hj).2
  have hnot := hbefore j hlt
  rw [hname, hread] at hnot
  cases hnot

/-- With tokens enough, the client token is extracted exactly if it is found first. -/
theorem extractsClientToken_iff_first (hparses : doc.Parses env) (w : World) :
    ExtractsClientToken env doc.text (some doc) w ↔ ClientTokenFirst env.config doc := by
  have hparsed := doc.parsedInto_parse w.shadow
  have hends := fun size Q H => ends_extractClientToken hparses w size (Q := Q) (H := H)
  have hsearch := keyIndex_document hparsed shadowClientTokenString
  generalize doc.parse w.shadow = s at hparsed hends hsearch
  generalize w.onShadow doc.parse = w' at hends
  constructor
  · intro hextracts i key hfind hi
    cases hindex : keyIndex doc.text s.jsonTokenStruct doc.tokens.length
      shadowClientTokenString with
    | none =>
      rw [hindex, hfind] at hsearch
      cases hsearch
    | some i' =>
      rw [hindex] at hsearch
      obtain ⟨key', hi', hfind'⟩ := hsearch
      obtain rfl := Option.some.inj (hfind.symm.trans hfind')
      obtain rfl := Document.index_eq hi hi' rfl
      have hfound : ∀ size ∈ callerSizes env.config,
          cutLength (s.jsonTokenStruct (i + 1)) < size ∧ doc.HasClientToken
            ((doc.text.drop (s.jsonTokenStruct (i + 1)).start).take
              (cutLength (s.jsonTokenStruct (i + 1)))) := by
        intro size hsize
        obtain ⟨token, w'', hrun, hsound, -⟩ := hextracts size hsize
        have hrun := (hends size _ _).mp (run_eq_done_iff.mp hrun)
        rw [hindex] at hrun
        dsimp only at hrun
        split at hrun
        case isTrue => exact hrun.elim
        case isFalse hfits =>
          obtain ⟨_, hdoc, hhas⟩ := hsound _ hrun.1.symm
          obtain rfl := Option.some.inj hdoc
          exact ⟨Nat.lt_of_not_le hfits, hhas⟩
      obtain ⟨-, hhas⟩ := hfound _ List.mem_cons_self
      obtain ⟨j, name, value, hj, hnext, hread⟩ := exists_index_of_hasClientToken hhas
      have hle := le_of_find?_tokens hfind hi hj hread
      have hlength : i + 1 < doc.tokens.length :=
        Nat.lt_of_le_of_lt (by omega) (List.getElem?_eq_some_iff.mp hnext).1
      have hvalue := List.getElem?_eq_getElem hlength
      rw [hparsed _ _ hvalue] at hfound hhas
      exact ⟨_, hvalue, fun size hsize => (hfound size hsize).1, hhas⟩
  · intro hfirst size hsize
    have hrun := hends size
    cases hindex : keyIndex doc.text s.jsonTokenStruct doc.tokens.length
      shadowClientTokenString with
    | none =>
      rw [hindex] at hsearch hrun
      refine ⟨none, w', run_eq_done_iff.mpr ((hrun _ _).mpr ⟨rfl, rfl⟩), nofun, ?_⟩
      rintro ⟨_, hdoc, bytes, hhas⟩
      obtain rfl := Option.some.inj hdoc
      obtain ⟨j, name, value, hj, -, hread⟩ := exists_index_of_hasClientToken hhas
      rw [← List.getElem?_tail] at hj
      exact absurd hread (List.find?_eq_none.mp hsearch name (List.mem_of_getElem? hj))
    | some i =>
      rw [hindex] at hsearch hrun
      obtain ⟨key, hi, hfind⟩ := hsearch
      obtain ⟨value, hvalue, hfits, hhas⟩ := hfirst i key hfind hi
      dsimp only at hrun
      rw [hparsed _ _ hvalue] at hrun
      refine ⟨some ((doc.text.drop value.start).take (cutLength value)), w',
        run_eq_done_iff.mpr ((hrun _ _).mpr ?_), ?_, fun _ => rfl⟩
      · rw [if_neg (Nat.not_le_of_lt (hfits size hsize))]
        exact ⟨rfl, rfl⟩
      · intro bytes hbytes
        obtain rfl := Option.some.inj hbytes
        exact ⟨doc, rfl, hhas⟩

end Search

/-- A text that jsmn refuses has no client token. -/
theorem extractClientToken_refused {env : ShadowEnv} {text : List UInt8} {w : World}
    (hrefused : ∀ n, (env.jsmnParse (text.takeWhile (· ≠ 0))).count = some (n + 1) →
      ∃ token ∈ (env.jsmnParse (text.takeWhile (· ≠ 0))).tokens.head?, token.type ≠ .object)
    (size : Nat) : (extractClientToken env text size : M (Option (List UInt8))).Ends w
      (fun token _ => token = none) (fun _ => False) := by
  rw [extractClientToken, parseObject]
  simp only [ends_bind, ends_modifyRecords, ends_getRecords, ends_pure, World.shadow_onShadow]
  generalize env.jsmnParse (text.takeWhile (· ≠ 0)) = result at hrefused ⊢
  split
  case h_1 => exact rfl
  case h_2 tokenCount hfilter =>
    obtain ⟨hcount, hobject⟩ := Option.filter_eq_some_iff.mp hfilter
    obtain ⟨hpositive, htype⟩ := of_decide_eq_true hobject
    obtain ⟨n, rfl⟩ := Nat.exists_eq_add_of_le' hpositive
    obtain ⟨token, hhead, hnot⟩ := hrefused n hcount
    obtain ⟨rest, hrest⟩ := List.head?_eq_some_iff.mp hhead
    rw [hrest] at htype
    exact absurd htype hnot

/-- For every text and every world, the client token is extracted exactly if there are tokens
enough and the first string that reads "clientToken" has the client token behind it. -/
theorem extractsClientToken_iff (env : ShadowEnv) (text : List UInt8) (object : Option Document)
    (hjsmn : JsmnTells env text object) (w : World) :
    ExtractsClientToken env text object w ↔ ClientTokenClear env.config object := by
  cases object with
  | none =>
    refine iff_of_true (fun size _ => ?_) fun doc hdoc => by cases hdoc
    obtain ⟨token, w', hrun, rfl⟩ := exists_run_of_ends (extractClientToken_refused hjsmn size)
    exact ⟨none, w', hrun, nofun, fun ⟨_, hdoc, _⟩ => by cases hdoc⟩
  | some doc =>
    obtain ⟨rfl, hparses⟩ := hjsmn
    have hclear : ClientTokenClear env.config (some doc) ↔
        if doc.tokens.length ≤ env.config.maxJsonTokenExpected then
          ClientTokenFirst env.config doc
        else ¬ ∃ bytes, doc.HasClientToken bytes := by
      constructor
      · exact fun h => h doc rfl
      · rintro h _ hdoc
        obtain rfl := Option.some.inj hdoc
        exact h
    rw [hclear]
    split at hparses
    case isTrue htokens =>
      rw [if_pos htokens]
      exact extractsClientToken_iff_first hparses w
    case isFalse htokens =>
      rw [if_neg htokens]
      have hrefused : ∀ size,
          (extractClientToken env doc.text size : M (Option (List UInt8))).Ends w
          (fun token _ => token = none) (fun _ => False) :=
        extractClientToken_refused fun n h => by
          rw [hparses] at h
          cases h
      constructor
      · intro hextracts hhas
        obtain ⟨token, w', hrun, -, hcomplete⟩ := hextracts _ List.mem_cons_self
        have htoken := hcomplete ⟨doc, rfl, hhas⟩
        rw [Ends.of_run (hrefused _) hrun] at htoken
        cases htoken
      · intro hnot size _
        obtain ⟨token, w', hrun, rfl⟩ := exists_run_of_ends (hrefused size)
        refine ⟨none, w', hrun, nofun, ?_⟩
        rintro ⟨_, hdoc, hhas⟩
        obtain rfl := Option.some.inj hdoc
        exact absurd hhas hnot

/-! ## Requests with a client token -/

/-- The document `{"clientToken":"<token>"}`. -/
def requestDocument (token : List UInt8) : Document where
  text := ascii "\x7b\"clientToken\":\"" ++ token ++ ascii "\"\x7d"
  start := 0
  stop := 18 + token.length
  members := .cons 2 13 (.string 16 (16 + token.length)) .nil
  ordered := by simp [Json.tokens, Members.tokens]
  spans := by simp [Json.tokens, Members.tokens]
  nested := by simp [Json.nested, Members.nested, Members.tokens, Json.token]
  delimited := by simp [Json.tokens, Members.tokens]

section Request

variable {env : ShadowEnv} {token : List UInt8}

theorem find?_requestDocument (token : List UInt8) :
    (requestDocument token).tokens.tail.find?
      (jsoneq (requestDocument token).text · shadowClientTokenString) =
        some ⟨.string, 2, 13⟩ := rfl

theorem cutLength_of_le {token : JsmnToken} (h : token.start ≤ token.stop) :
    cutLength token = (token.stop - token.start) % 256 := by
  rw [cutLength, ← UInt8.ofNat_sub h, UInt8.toNat_ofNat']

theorem drop_requestDocument (token : List UInt8) :
    (requestDocument token).text.drop 16 = token ++ ascii "\"\x7d" :=
  (congrArg (List.drop 16) (List.append_assoc _ _ _)).trans (List.drop_left' (by decide))

theorem textOf_requestDocument (token : List UInt8) :
    (requestDocument token).textOf ⟨.string, 16, 16 + token.length⟩ = token := by
  rw [Document.textOf]
  dsimp only
  rw [drop_requestDocument, Nat.add_sub_cancel_left, List.take_left' rfl]

theorem hasClientToken_requestDocument (token bytes : List UInt8) :
    (requestDocument token).HasClientToken bytes ↔ token = bytes := by
  constructor
  · rintro ⟨name, value, hown, -, -, rfl⟩
    obtain ⟨rfl, rfl⟩ := Prod.mk.inj (List.mem_singleton.mp hown)
    exact (textOf_requestDocument token).symm
  · rintro rfl
    exact ⟨_, _, List.mem_cons_self, rfl, rfl, textOf_requestDocument token⟩

/-- The request is clear exactly if its client token fits the arrays. -/
theorem clientTokenFirst_requestDocument (config : ShadowConfig) (token : List UInt8) :
    ClientTokenFirst config (requestDocument token) ↔
      token.length < 256 ∧ ∀ size ∈ callerSizes config, token.length < size := by
  have hcut : cutLength ⟨.string, 16, 16 + token.length⟩ = token.length % 256 := by
    rw [cutLength_of_le (Nat.le_add_right _ _), Nat.add_sub_cancel_left]
  constructor
  · intro hfirst
    obtain ⟨value, hvalue, hfits, hhas⟩ := hfirst 1 _ (find?_requestDocument token) rfl
    obtain rfl := Option.some.inj hvalue
    rw [hasClientToken_requestDocument, drop_requestDocument, hcut] at hhas
    have hshort : token.length < 256 := by
      have hlength := congrArg List.length hhas
      rw [List.length_take] at hlength
      have := Nat.mod_lt token.length (show 0 < 256 by decide)
      omega
    rw [hcut, Nat.mod_eq_of_lt hshort] at hfits
    exact ⟨hshort, hfits⟩
  · rintro ⟨hshort, hfits⟩ i key hfind hi
    obtain rfl := Option.some.inj ((find?_requestDocument token).symm.trans hfind)
    obtain rfl : 1 = i := Document.index_eq (rfl : (requestDocument token).tokens[1]? = _) hi rfl
    refine ⟨_, rfl, ?_, ?_⟩
    · rw [hcut, Nat.mod_eq_of_lt hshort]
      exact hfits
    · rw [hasClientToken_requestDocument, drop_requestDocument, hcut, Nat.mod_eq_of_lt hshort,
        List.take_left' rfl]

end Request

/-- What a parser of one document tells of it is right. -/
theorem Document.parses_parserOf (doc : Document) :
    doc.Parses (quietShadowEnv (Document.parserOf [doc])) := by
  simp [Document.Parses, quietShadowEnv, Document.parserOf]

theorem jsmnTells_requestDocument (token : List UInt8) :
    JsmnTells (quietShadowEnv (Document.parserOf [requestDocument token]))
      (requestDocument token).text (some (requestDocument token)) := by
  refine ⟨rfl, ?_⟩
  split
  case isTrue => exact Document.parses_parserOf _
  case isFalse htokens => exact absurd (show 3 ≤ 120 by decide) htokens

theorem extractsClientToken_device :
    ExtractsClientToken (quietShadowEnv (Document.parserOf [requestDocument (ascii "device-0")]))
      (requestDocument (ascii "device-0")).text (some (requestDocument (ascii "device-0")))
      World.start :=
  (extractsClientToken_iff _ _ _ (jsmnTells_requestDocument _) _).mpr fun doc hdoc => by
    obtain rfl := Option.some.inj hdoc
    rw [if_pos (by decide)]
    exact (clientTokenFirst_requestDocument _ _).mpr ⟨by decide, by decide⟩

/-- A client token of ninety characters is stored behind the array of the request. -/
theorem not_every_document_extractsClientToken :
    ¬ ∀ (env : ShadowEnv) (text : List UInt8) (object : Option Document) (w : World),
      JsmnTells env text object → ExtractsClientToken env text object w := by
  intro h
  have hextracts := h _ _ _ World.start (jsmnTells_requestDocument (List.replicate 90 0x61))
  rw [extractsClientToken_iff_first (Document.parses_parserOf _),
    clientTokenFirst_requestDocument] at hextracts
  exact absurd (hextracts.2 90 (by decide)) (by decide)

end AwsIot.Shadow
