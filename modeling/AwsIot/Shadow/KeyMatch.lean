/-
  Shadow/KeyMatch.lean --- which registered key a document is found to have.

  `isJsonKeyMatchingAndUpdateValue` takes the first string of a document that reads the key
  for the name of a member, and the next token for its value.  It drops the return code of
  the conversion.  So what it tells is true exactly if that string is the name of a member,
  whose value, if the key's variable is a number or a truth value, is a literal of its type
  (`keyMatch_iff`).
-/
import AwsIot.Shadow.Document
import Mathlib.Data.List.Find

set_option autoImplicit false

namespace AwsIot.Shadow

open AwsIot.Foundation AwsIot.Mqtt Program

/-- The type is one of numbers or of truth values. -/
def JsonPrimitiveType.isScalar : JsonPrimitiveType → Bool
  | .string | .object => false
  | _ => true

/-- The document has a member with exactly the name `key`; `found` delimits its value, and
holds it if the type is scalar. -/
def TellsMember (env : ShadowEnv) (doc : Document) (pDataStruct : JsonStruct)
    (found : KeyMatch) : Prop :=
  ∃ name value, (name, value) ∈ doc.root.members ∧
    jsoneq doc.text name pDataStruct.pKey = true ∧
    found.dataPosition = value.token.start ∧
    found.dataLength = value.token.stop - value.token.start ∧
    (pDataStruct.type.isScalar = true → value.token.type = .primitive ∧
      literal env pDataStruct.type (doc.textOf value.token) = some found.data)

/-- What `isJsonKeyMatchingAndUpdateValue` tells of a document is true, and does not depend
on what `jsonTokenStruct` holds behind its tokens. -/
def TellsTruth (env : ShadowEnv) (doc : Document) (jsonTokenStruct : Nat → JsmnToken)
    (pDataStruct : JsonStruct) (pData : ShadowData) : Prop :=
  (∀ found, isJsonKeyMatchingAndUpdateValue env doc.text jsonTokenStruct doc.tokens.length
    pDataStruct pData = some found → TellsMember env doc pDataStruct found) ∧
  ∀ other : Nat → JsmnToken, (∀ i < doc.tokens.length, other i = jsonTokenStruct i) →
    isJsonKeyMatchingAndUpdateValue env doc.text other doc.tokens.length pDataStruct pData =
      isJsonKeyMatchingAndUpdateValue env doc.text jsonTokenStruct doc.tokens.length pDataStruct
        pData

/-- The first string in the document that reads the key, if any, is the name of a member; if
the type is scalar, its value is a literal of the type. -/
def NamedFirst (env : ShadowEnv) (doc : Document) (pDataStruct : JsonStruct) : Prop :=
  ∀ token, doc.tokens.tail.find? (jsoneq doc.text · pDataStruct.pKey) = some token →
    ∃ value, (token, value) ∈ doc.root.members ∧ (pDataStruct.type.isScalar = true →
      value.token.type = .primitive ∧
        (literal env pDataStruct.type (doc.textOf value.token)).isSome = true)

/-! ## The search -/

section Search

variable {env : ShadowEnv} {doc : Document} {jsonTokenStruct : Nat → JsmnToken}
  {pDataStruct : JsonStruct} {pData : ShadowData}

/-- The index that `isJsonKeyMatchingAndUpdateValue` finds. -/
def keyIndex (json : List UInt8) (jsonTokenStruct : Nat → JsmnToken) (tokenCount : Nat)
    (key : List UInt8) : Option Nat :=
  (List.range' 1 (tokenCount - 1)).find? fun i => jsoneq json (jsonTokenStruct i) key

/-- The search looks at the tokens of the document only. -/
theorem keyIndex_congr {json key : List UInt8} {tokenCount : Nat} {other : Nat → JsmnToken}
    (h : ∀ i < tokenCount, other i = jsonTokenStruct i) :
    keyIndex json other tokenCount key = keyIndex json jsonTokenStruct tokenCount key := by
  unfold keyIndex
  refine List.find?_congr fun i hi => ?_
  rw [List.mem_range'_1] at hi
  rw [h i (by omega)]

/-- Searching an array that holds a list is searching the list. -/
theorem find?_range' {α : Type} {p : α → Bool} {f : Nat → α} : ∀ (l : List α) (start : Nat),
    (∀ k a, l[k]? = some a → f (start + k) = a) →
    match (List.range' start l.length).find? fun i => p (f i) with
    | none => l.find? p = none
    | some i => ∃ k a, i = start + k ∧ l[k]? = some a ∧ l.find? p = some a
  | [], start, _ => rfl
  | a :: l, start, h => by
      have hhead : f start = a := h 0 a rfl
      rw [List.length_cons, List.range'_succ, List.find?_cons, hhead]
      cases hp : p a with
      | true => exact ⟨0, a, rfl, rfl, List.find?_cons_of_pos hp⟩
      | false =>
        rw [List.find?_cons_of_neg (by simp [hp])]
        have hrest := find?_range' (p := p) (f := f) l (start + 1) fun k b hb => by
          rw [Nat.add_right_comm]
          exact h (k + 1) b hb
        dsimp only
        split
        case h_1 hnone => rw [hnone] at hrest; exact hrest
        case h_2 i hsome =>
          rw [hsome] at hrest
          obtain ⟨k, b, rfl, hb, hfind⟩ := hrest
          exact ⟨k + 1, b, by omega, hb, hfind⟩

/-- What is told of a key whose value has token `token`. -/
def matchAt (env : ShadowEnv) (json : List UInt8) (pDataStruct : JsonStruct)
    (pData : ShadowData) (token : JsmnToken) : KeyMatch where
  dataPosition := token.start
  dataLength := token.stop - token.start
  data := (updateValueIfNoObject env json pDataStruct.type pData token).2

theorem isJsonKeyMatchingAndUpdateValue_eq (env : ShadowEnv) (json : List UInt8)
    (jsonTokenStruct : Nat → JsmnToken) (tokenCount : Nat) (pDataStruct : JsonStruct)
    (pData : ShadowData) :
    isJsonKeyMatchingAndUpdateValue env json jsonTokenStruct tokenCount pDataStruct pData =
      (keyIndex json jsonTokenStruct tokenCount pDataStruct.pKey).map fun i =>
        matchAt env json pDataStruct pData (jsonTokenStruct (i + 1)) := rfl

/-- The search finds the first string of the document that reads the key. -/
theorem keyIndex_document (hparsed : doc.ParsedInto jsonTokenStruct) (key : List UInt8) :
    match keyIndex doc.text jsonTokenStruct doc.tokens.length key with
    | none => doc.tokens.tail.find? (jsoneq doc.text · key) = none
    | some i => ∃ token, doc.tokens[i]? = some token ∧
        doc.tokens.tail.find? (jsoneq doc.text · key) = some token := by
  have htail : ∀ k token, doc.tokens.tail[k]? = some token → jsonTokenStruct (1 + k) = token :=
    fun k token h => hparsed (1 + k) token (by rw [Nat.add_comm, ← List.getElem?_tail]; exact h)
  have h := find?_range' (p := (jsoneq doc.text · key)) doc.tokens.tail 1 htail
  rw [List.length_tail] at h
  unfold keyIndex
  split
  case h_1 hnone => rw [hnone] at h; exact h
  case h_2 i hsome =>
    rw [hsome] at h
    obtain ⟨k, token, rfl, htoken, hfind⟩ := h
    exact ⟨token, by rw [Nat.add_comm, ← List.getElem?_tail]; exact htoken, hfind⟩

end Search

/-! ## Conversions -/

section Conversion

variable {env : ShadowEnv} {doc : Document} {token : JsmnToken} {data : ShadowData}

/-- A natural number starts with a digit. -/
theorem head?_natLiteral {text : List UInt8} {n : Nat} (h : natLiteral text = some n)
    (rest : List UInt8) : (text ++ rest).head? ≠ some 0x2D := by
  unfold natLiteral at h
  split at h
  case isFalse => cases h
  case isTrue hdigits =>
    obtain ⟨hne, hall, -⟩ := hdigits
    obtain ⟨c, text, rfl⟩ := List.exists_cons_of_ne_nil hne
    intro hhead
    obtain rfl : c = 0x2D := Option.some.inj hhead
    simp [isDigit] at hall

theorem parseNumber_primitive {α : Type} {scan : List UInt8 → Option α} {json : List UInt8}
    (h : token.type = .primitive) : parseNumber scan json token = scan (json.drop token.start) := by
  unfold parseNumber
  rw [if_neg (not_not.mpr h)]

theorem parseUnsigned_primitive {α : Type} {scan : List UInt8 → Option α} {json : List UInt8}
    (h : token.type = .primitive) (hhead : (json.drop token.start).head? ≠ some 0x2D) :
    parseUnsigned scan json token = scan (json.drop token.start) := by
  unfold parseUnsigned
  rw [if_neg (not_or.mpr ⟨not_not.mpr h, hhead⟩)]

theorem parseBooleanValue_literal {json rest : List UInt8} {b : Bool}
    (h : token.type = .primitive)
    (htext : json.drop token.start = ascii (if b then "true" else "false") ++ rest) :
    parseBooleanValue json token = some b := by
  unfold parseBooleanValue
  rw [htext, if_neg (not_not.mpr h)]
  cases b with
  | true => rw [if_pos]; exact List.take_left' (by decide)
  | false =>
    rw [if_neg, if_pos]
    · exact List.take_left' (by decide)
    · intro htake
      have hlong : ((ascii "false" ++ rest).take 4) = (ascii "false").take 4 :=
        List.take_append_of_le_length (by decide)
      rw [if_neg (by decide), hlong] at htake
      exact absurd htake (by decide)

/-- Conversion of a literal stores its value. -/
theorem updateValueIfNoObject_literal (hscans : Scans env) (htoken : token ∈ doc.tokens)
    (hprimitive : token.type = .primitive) {type : JsonPrimitiveType}
    (hliteral : literal env type (doc.textOf token) = some data) (pData : ShadowData) :
    (updateValueIfNoObject env doc.text type pData token).2 = data := by
  have htext := Document.drop_start htoken
  have hscan : type ≠ .bool → scan env type (doc.text.drop token.start) = some data := by
    intro htype
    rw [htext]
    exact hscans type _ _ data htype hliteral (doc.delimited token htoken hprimitive)
  have hunsigned : ∀ {bits : Nat} {n : Nat}, unsignedLiteral bits (doc.textOf token) = some n →
      (doc.text.drop token.start).head? ≠ some 0x2D := by
    intro bits n h
    rw [htext]
    exact head?_natLiteral (Option.filter_eq_some_iff.mp h).1 _
  cases type with
  | bool =>
    have hparsed : (parseBooleanValue doc.text token).map ShadowData.bool = some data := by
      simp only [literal] at hliteral
      split at hliteral
      case isTrue htrue =>
        rw [htrue] at htext
        rw [parseBooleanValue_literal (b := true) hprimitive htext]
        exact hliteral
      case isFalse =>
        split at hliteral
        case isTrue hfalse =>
          rw [hfalse] at htext
          rw [parseBooleanValue_literal (b := false) hprimitive htext]
          exact hliteral
        case isFalse => cases hliteral
    simp only [updateValueIfNoObject, hparsed]
  | string | object => cases hliteral
  | int32 | int16 | int8 | float | double =>
    have hparsed := hscan (by decide)
    simp only [scan] at hparsed
    simp only [updateValueIfNoObject, parseInteger32Value, parseInteger16Value,
      parseInteger8Value, parseFloatValue, parseDoubleValue, parseNumber_primitive hprimitive,
      hparsed]
  | uint32 | uint16 | uint8 =>
    obtain ⟨n, hn, -⟩ := Option.map_eq_some_iff.mp hliteral
    have hparsed := hscan (by decide)
    simp only [scan] at hparsed
    simp only [updateValueIfNoObject, parseUnsignedInteger32Value, parseUnsignedInteger16Value,
      parseUnsignedInteger8Value, parseUnsigned_primitive hprimitive (hunsigned hn), hparsed]

end Conversion

/-! ## What is told -/

section Told

variable {env : ShadowEnv} {doc : Document} {jsonTokenStruct : Nat → JsmnToken}
  {pDataStruct : JsonStruct} {pData : ShadowData}

/-- What is told of a string that is found does not depend on the tokens behind the
document's, so there is one more. -/
theorem TellsTruth.next {i : Nat} (htells : TellsTruth env doc jsonTokenStruct pDataStruct pData)
    (hindex : keyIndex doc.text jsonTokenStruct doc.tokens.length pDataStruct.pKey = some i) :
    i + 1 < doc.tokens.length := by
  by_contra hbehind
  let other : Nat → JsmnToken := fun k =>
    if k < doc.tokens.length then jsonTokenStruct k
    else { jsonTokenStruct k with start := (jsonTokenStruct k).start + 1 }
  have hsame : ∀ k < doc.tokens.length, other k = jsonTokenStruct k := fun k hk => if_pos hk
  have h := htells.2 other hsame
  rw [isJsonKeyMatchingAndUpdateValue_eq, isJsonKeyMatchingAndUpdateValue_eq,
    keyIndex_congr hsame, hindex] at h
  have hstart : (other (i + 1)).start = (jsonTokenStruct (i + 1)).start :=
    congrArg KeyMatch.dataPosition (Option.some.inj h)
  simp [other, hbehind] at hstart

/-- A truth is told of the name of a member. -/
theorem TellsTruth.namedFirst (hparsed : doc.ParsedInto jsonTokenStruct)
    (htells : TellsTruth env doc jsonTokenStruct pDataStruct pData) :
    NamedFirst env doc pDataStruct := by
  intro token hfirst
  have hsearch := keyIndex_document hparsed pDataStruct.pKey
  cases hindex : keyIndex doc.text jsonTokenStruct doc.tokens.length pDataStruct.pKey with
  | none => rw [hindex, hfirst] at hsearch; cases hsearch
  | some i =>
    rw [hindex] at hsearch
    obtain ⟨found, htoken, hfound⟩ := hsearch
    obtain rfl := Option.some.inj (hfirst.symm.trans hfound)
    have hnext := htells.next hindex
    obtain ⟨name, value, hmember, -, hposition, -, hvalue⟩ := htells.1 _ (by
      rw [isJsonKeyMatchingAndUpdateValue_eq, hindex]
      rfl)
    obtain ⟨j, hname, hbehind⟩ := Document.member_indices hmember
    have hafter := List.getElem?_eq_getElem hnext
    change (jsonTokenStruct (i + 1)).start = value.token.start at hposition
    rw [hparsed (i + 1) _ hafter] at hposition
    have hij : i + 1 = j + 1 := Document.index_eq hafter hbehind hposition
    obtain rfl : i = j := by omega
    obtain rfl := Option.some.inj (htoken.symm.trans hname)
    refine ⟨value, hmember, fun hscalar => ?_⟩
    obtain ⟨hprimitive, hliteral⟩ := hvalue hscalar
    exact ⟨hprimitive, by rw [hliteral]; rfl⟩

/-- What is told of the name of a member is true. -/
theorem NamedFirst.tellsTruth (hscans : Scans env) (hparsed : doc.ParsedInto jsonTokenStruct)
    (hnamed : NamedFirst env doc pDataStruct) :
    TellsTruth env doc jsonTokenStruct pDataStruct pData := by
  have hsearch := keyIndex_document hparsed pDataStruct.pKey
  have hmember : ∀ {i}, keyIndex doc.text jsonTokenStruct doc.tokens.length pDataStruct.pKey =
      some i → ∃ name value, (name, value) ∈ doc.root.members ∧
        jsoneq doc.text name pDataStruct.pKey = true ∧
        doc.tokens[i + 1]? = some value.token ∧ (pDataStruct.type.isScalar = true →
          value.token.type = .primitive ∧
            (literal env pDataStruct.type (doc.textOf value.token)).isSome = true) := by
    intro i hindex
    rw [hindex] at hsearch
    obtain ⟨token, htoken, hfound⟩ := hsearch
    obtain ⟨value, hin, hvalue⟩ := hnamed token hfound
    obtain ⟨j, hname, hbehind⟩ := Document.member_indices hin
    obtain rfl := Document.index_eq htoken hname rfl
    have hreads := List.find?_some (p := (jsoneq doc.text · pDataStruct.pKey)) hfound
    exact ⟨token, value, hin, hreads, hbehind, hvalue⟩
  refine ⟨fun found hfound => ?_, fun other hsame => ?_⟩
  · rw [isJsonKeyMatchingAndUpdateValue_eq, Option.map_eq_some_iff] at hfound
    obtain ⟨i, hindex, rfl⟩ := hfound
    obtain ⟨name, value, hin, hreads, hbehind, hvalue⟩ := hmember hindex
    rw [hparsed (i + 1) _ hbehind]
    refine ⟨name, value, hin, hreads, rfl, rfl, fun hscalar => ?_⟩
    obtain ⟨hprimitive, hliteral⟩ := hvalue hscalar
    obtain ⟨data, hdata⟩ := Option.isSome_iff_exists.mp hliteral
    have htoken := List.mem_of_getElem? hbehind
    exact ⟨hprimitive, hdata.trans (congrArg some
      (updateValueIfNoObject_literal hscans htoken hprimitive hdata pData).symm)⟩
  · rw [isJsonKeyMatchingAndUpdateValue_eq, isJsonKeyMatchingAndUpdateValue_eq,
      keyIndex_congr hsame]
    cases hindex : keyIndex doc.text jsonTokenStruct doc.tokens.length pDataStruct.pKey with
    | none => rfl
    | some i =>
      obtain ⟨_, _, -, -, hbehind, -⟩ := hmember hindex
      obtain ⟨hlt, -⟩ := List.getElem?_eq_some_iff.mp hbehind
      simp only [Option.map_some, hsame (i + 1) hlt]

/-- What `isJsonKeyMatchingAndUpdateValue` tells of a key is true exactly if the first string
of the document that reads the key is the name of a member with a value of the key's type. -/
theorem keyMatch_iff (hscans : Scans env) (hparsed : doc.ParsedInto jsonTokenStruct) :
    TellsTruth env doc jsonTokenStruct pDataStruct pData ↔ NamedFirst env doc pDataStruct :=
  ⟨fun h => h.namedFirst hparsed, fun h => h.tellsTruth hscans hparsed⟩

end Told

/-! ### Documents with a length -/

/-- The array that holds the tokens of the document, and none behind them. -/
def Document.stored (doc : Document) (i : Nat) : JsmnToken :=
  doc.tokens.getD i ⟨.undefined, 0, 0⟩

theorem Document.parsedInto_stored (doc : Document) : doc.ParsedInto doc.stored := by
  intro i token h
  rw [stored, List.getD_eq_getElem?_getD, h, Option.getD_some]

/-- The key `length`, of a signed number. -/
def lengthKey : JsonStruct := ⟨ascii "length", 0, .int32, true⟩

/-- The document `{"length":23}`. -/
def lengthDocument : Document where
  text := ascii "\x7b\"length\":23\x7d"
  start := 0
  stop := 13
  members := .cons 2 8 (.primitive 10 12) .nil
  ordered := by decide
  spans := by decide
  nested := by decide
  delimited := by decide

/-- The document `{"mode":"length","length":23}`. -/
def modeDocument : Document where
  text := ascii "\x7b\"mode\":\"length\",\"length\":23\x7d"
  start := 0
  stop := 29
  members := .cons 2 6 (.string 9 15) (.cons 18 24 (.primitive 26 28) .nil)
  ordered := by decide
  spans := by decide
  nested := by decide
  delimited := by decide

/-- The document `{"length":null}`. -/
def nullDocument : Document where
  text := ascii "\x7b\"length\":null\x7d"
  start := 0
  stop := 15
  members := .cons 2 8 (.primitive 10 14) .nil
  ordered := by decide
  spans := by decide
  nested := by decide
  delimited := by decide

/-- The document `{"names":["length"]}`. -/
def namesDocument : Document where
  text := ascii "\x7b\"names\":[\"length\"]\x7d"
  start := 0
  stop := 20
  members := .cons 2 7 (.array 9 19 (.cons (.string 11 17) .nil)) .nil
  ordered := by decide
  spans := by decide
  nested := by decide
  delimited := by decide

example : isJsonKeyMatchingAndUpdateValue (quietShadowEnv fun _ => ⟨none, []⟩)
    lengthDocument.text lengthDocument.stored 3 lengthKey .unset = some ⟨10, 2, .int32 23⟩ := by
  decide +kernel

theorem keyMatch_lengthDocument :
    TellsTruth (quietShadowEnv fun _ => ⟨none, []⟩) lengthDocument lengthDocument.stored
      lengthKey .unset :=
  (keyMatch_iff (quietShadowEnv_scans _) lengthDocument.parsedInto_stored).mpr fun token h => by
    obtain rfl : (⟨.string, 2, 8⟩ : JsmnToken) = token := Option.some.inj (Eq.trans (by decide) h)
    exact ⟨.primitive 10 12, by simp [lengthDocument, Document.root, Json.members, Members.members],
      fun _ => ⟨rfl, by decide⟩⟩

/-- A string value, an element of an array, and a value of another type than the key's. -/
theorem not_tellsTruth :
    ¬ TellsTruth (quietShadowEnv fun _ => ⟨none, []⟩) modeDocument modeDocument.stored
      lengthKey .unset ∧
    ¬ TellsTruth (quietShadowEnv fun _ => ⟨none, []⟩) namesDocument namesDocument.stored
      lengthKey .unset ∧
    ¬ TellsTruth (quietShadowEnv fun _ => ⟨none, []⟩) nullDocument nullDocument.stored
      lengthKey .unset := by
  refine ⟨fun h => ?_, fun h => ?_, fun h => ?_⟩
  · obtain ⟨value, hmember, -⟩ := h.namedFirst modeDocument.parsedInto_stored ⟨.string, 9, 15⟩
      (by decide)
    simp [modeDocument, Document.root, Json.members, Members.members] at hmember
  · obtain ⟨value, hmember, -⟩ := h.namedFirst namesDocument.parsedInto_stored ⟨.string, 11, 17⟩
      (by decide)
    simp [namesDocument, Document.root, Json.members, Members.members, Elements.members] at hmember
  · obtain ⟨value, hmember, hvalue⟩ := h.namedFirst nullDocument.parsedInto_stored
      ⟨.string, 2, 8⟩ (by decide)
    obtain rfl : value = .primitive 10 14 := by
      simpa [nullDocument, Document.root, Json.members, Members.members] using hmember
    exact absurd (hvalue rfl).2 (by decide)

end AwsIot.Shadow
