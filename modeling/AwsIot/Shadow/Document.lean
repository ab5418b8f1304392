/-
  Shadow/Document.lean --- JSON documents as the parser lays them out.

  jsmn gives a token for every value and for the name of every object member, in the order
  in which they start in the text, so that the token of a member's value follows that of
  its name.  `Json` is the tree that the flat list of tokens comes from, and `Document` a
  text with such a tree.  The literals of numbers and truth values are those of JSON.
-/
import AwsIot.Shadow.Json
import Mathlib.Data.List.Infix

set_option autoImplicit false

namespace AwsIot.Shadow

open AwsIot.Foundation AwsIot.Mqtt Program

/-! ## Trees -/

mutual

/-- A JSON value, with the places of its tokens in the text. -/
inductive Json where
  | primitive (start stop : Nat)
  | string (start stop : Nat)
  | array (start stop : Nat) (elements : Elements)
  | object (start stop : Nat) (members : Members)

/-- The elements of an array. -/
inductive Elements where
  | nil
  | cons (value : Json) (rest : Elements)

/-- The members of an object; a name is a string. -/
inductive Members where
  | nil
  | cons (start stop : Nat) (value : Json) (rest : Members)

end

/-- The token of a value itself. -/
def Json.token : Json → JsmnToken
  | .primitive start stop => ⟨.primitive, start, stop⟩
  | .string start stop => ⟨.string, start, stop⟩
  | .array start stop _ => ⟨.array, start, stop⟩
  | .object start stop _ => ⟨.object, start, stop⟩

mutual

/-- The tokens of a value, in order. -/
def Json.tokens : Json → List JsmnToken
  | .primitive start stop => [⟨.primitive, start, stop⟩]
  | .string start stop => [⟨.string, start, stop⟩]
  | .array start stop elements => ⟨.array, start, stop⟩ :: elements.tokens
  | .object start stop members => ⟨.object, start, stop⟩ :: members.tokens

/-- The tokens of the elements of an array. -/
def Elements.tokens : Elements → List JsmnToken
  | .nil => []
  | .cons value rest => value.tokens ++ rest.tokens

/-- The tokens of the members of an object. -/
def Members.tokens : Members → List JsmnToken
  | .nil => []
  | .cons start stop value rest => ⟨.string, start, stop⟩ :: value.tokens ++ rest.tokens

end

mutual

/-- The object members in a value, at any depth: the token of the name, and the value. -/
def Json.members : Json → List (JsmnToken × Json)
  | .primitive _ _ | .string _ _ => []
  | .array _ _ elements => elements.members
  | .object _ _ members => members.members

/-- The object members in the elements of an array. -/
def Elements.members : Elements → List (JsmnToken × Json)
  | .nil => []
  | .cons value rest => value.members ++ rest.members

/-- The members of an object, and those in their values. -/
def Members.members : Members → List (JsmnToken × Json)
  | .nil => []
  | .cons start stop value rest =>
      (⟨.string, start, stop⟩, value) :: value.members ++ rest.members

end

/-- The first member of an object whose name is one that `reads` looks for. -/
def Members.find (reads : JsmnToken → Bool) : Members → Option (JsmnToken × Json)
  | .nil => none
  | .cons start stop value rest =>
      if reads ⟨.string, start, stop⟩ then some (⟨.string, start, stop⟩, value)
      else rest.find reads

theorem Members.mem_of_find {reads : JsmnToken → Bool} {name : JsmnToken} {value : Json} :
    ∀ members : Members, members.find reads = some (name, value) →
      (name, value) ∈ members.members ∧ reads name = true
  | .nil, h => by cases h
  | .cons start stop first rest, h => by
      rw [Members.find] at h
      split at h
      case isTrue hreads =>
        obtain ⟨rfl, rfl⟩ := Prod.mk.inj (Option.some.inj h)
        exact ⟨List.mem_cons_self, hreads⟩
      case isFalse =>
        obtain ⟨hmem, hreads⟩ := Members.mem_of_find rest h
        exact ⟨List.mem_append_right _ hmem, hreads⟩

mutual

/-- What is in a value lies within it. -/
def Json.nested : Json → Bool
  | .primitive _ _ | .string _ _ => true
  | .array _ stop elements => elements.nested stop
  | .object _ stop members => members.nested stop

/-- The elements of an array lie in front of its end, one behind the other. -/
def Elements.nested (stop : Nat) : Elements → Bool
  | .nil => true
  | .cons value rest => value.token.stop ≤ stop && value.nested &&
      (rest.tokens.all fun token => value.token.stop ≤ token.start) && rest.nested stop

/-- The members of an object lie in front of its end, one behind the other. -/
def Members.nested (stop : Nat) : Members → Bool
  | .nil => true
  | .cons _ nameStop value rest => nameStop ≤ value.token.start && value.token.stop ≤ stop &&
      value.nested && (rest.tokens.all fun token => value.token.stop ≤ token.start) &&
      rest.nested stop

end

theorem Json.tokens_eq_cons (value : Json) : ∃ rest, value.tokens = value.token :: rest := by
  cases value with
  | primitive start stop => exact ⟨[], rfl⟩
  | string start stop => exact ⟨[], rfl⟩
  | array start stop elements => exact ⟨elements.tokens, rfl⟩
  | object start stop members => exact ⟨members.tokens, rfl⟩

/-! ## A name is followed by its value -/

mutual

theorem Json.members_adjacent {name : JsmnToken} {value : Json} : ∀ json : Json,
    (name, value) ∈ json.members → [name, value.token] <:+: json.tokens
  | .primitive _ _, h => by simp [Json.members] at h
  | .string _ _, h => by simp [Json.members] at h
  | .array _ _ elements, h =>
      (Elements.members_adjacent elements h).trans (List.suffix_cons _ _).isInfix
  | .object _ _ members, h =>
      (Members.members_adjacent members h).trans (List.suffix_cons _ _).isInfix

theorem Elements.members_adjacent {name : JsmnToken} {value : Json} : ∀ elements : Elements,
    (name, value) ∈ elements.members → [name, value.token] <:+: elements.tokens
  | .nil, h => by simp [Elements.members] at h
  | .cons first rest, h => by
      rcases List.mem_append.mp h with hfirst | hrest
      · exact (Json.members_adjacent first hfirst).trans (List.prefix_append _ _).isInfix
      · exact (Elements.members_adjacent rest hrest).trans (List.suffix_append _ _).isInfix

theorem Members.members_adjacent {name : JsmnToken} {value : Json} : ∀ members : Members,
    (name, value) ∈ members.members → [name, value.token] <:+: members.tokens
  | .nil, h => by simp [Members.members] at h
  | .cons start stop first rest, h => by
      rcases List.mem_append.mp h with hfirst | hrest
      · refine List.IsInfix.trans ?_ (List.prefix_append _ _).isInfix
        rcases List.mem_cons.mp hfirst with heq | hinside
        · obtain ⟨rfl, rfl⟩ := Prod.mk.inj heq
          obtain ⟨tokens, htokens⟩ := value.tokens_eq_cons
          exact ⟨[], tokens, by simp [htokens]⟩
        · exact (Json.members_adjacent first hinside).trans (List.suffix_cons _ _).isInfix
      · exact (Members.members_adjacent rest hrest).trans (List.suffix_append _ _).isInfix

end

/-! ## Literals -/

/-- The character is a digit. -/
def isDigit (c : UInt8) : Bool := 0x30 ≤ c && c ≤ 0x39

/-- The natural number that the text is in JSON: no sign, no leading zero. -/
def natLiteral (text : List UInt8) : Option Nat :=
  if text ≠ [] ∧ text.all isDigit ∧ (text.head? = some 0x30 → text.length = 1) then
    some (text.foldl (fun n c => 10 * n + (c.toNat - 0x30)) 0)
  else none

/-- The integer that the text is in JSON. -/
def intLiteral (text : List UInt8) : Option Int :=
  if text.head? = some 0x2D then (natLiteral text.tail).map fun n : Nat => -(n : Int)
  else (natLiteral text).map fun n : Nat => (n : Int)

/-- The text is the exponent of a number, or nothing. -/
def isExponent (text : List UInt8) : Bool :=
  match text with
  | [] => true
  | e :: text =>
      let digits := if text.head? = some 0x2B ∨ text.head? = some 0x2D then text.tail else text
      (e == 0x65 || e == 0x45) && !digits.isEmpty && digits.all isDigit

/-- The text is the fraction and the exponent of a number, either of which may be missing. -/
def isFraction (text : List UInt8) : Bool :=
  if text.head? = some 0x2E then
    !(text.tail.takeWhile isDigit).isEmpty && isExponent (text.tail.dropWhile isDigit)
  else isExponent text

/-- The text is a number in JSON. -/
def isNumberLiteral (text : List UInt8) : Bool :=
  (intLiteral (text.takeWhile fun c => c == 0x2D || isDigit c)).isSome &&
    isFraction (text.dropWhile fun c => c == 0x2D || isDigit c)

/-- The character ends a literal: a NUL, white space, a comma or a closing bracket. -/
def isDelimiter (c : UInt8) : Bool := c ∈ [0, 0x09, 0x0A, 0x0D, 0x20, 0x2C, 0x5D, 0x7D]

/-- The text cannot go on with a literal that ends in front of it. -/
def endsLiteral (text : List UInt8) : Bool := text.head?.all isDelimiter

variable (env : ShadowEnv)

/-- `sscanf` with the format of a type of numbers. -/
def scan : JsonPrimitiveType → List UInt8 → Option ShadowData
  | .int32, text => (env.scanInt32 text).map .int32
  | .int16, text => (env.scanInt16 text).map .int16
  | .int8, text => (env.scanInt8 text).map .int8
  | .uint32, text => (env.scanUint32 text).map .uint32
  | .uint16, text => (env.scanUint16 text).map .uint16
  | .uint8, text => (env.scanUint8 text).map .uint8
  | .float, text => (env.scanFloat text).map .float
  | .double, text => (env.scanDouble text).map .double
  | .bool, _ | .string, _ | .object, _ => none

/-- A signed number of `bits` bits. -/
def signedLiteral (bits : Nat) (text : List UInt8) : Option Int :=
  (intLiteral text).filter fun n => -2 ^ (bits - 1) ≤ n ∧ n < 2 ^ (bits - 1)

/-- An unsigned number of `bits` bits. -/
def unsignedLiteral (bits : Nat) (text : List UInt8) : Option Nat :=
  (natLiteral text).filter (· < 2 ^ bits)

/-- What a variable of the type holds that holds the value of the text: a truth value, an
integer in range, or a number, rounded as `sscanf` does. -/
def literal : JsonPrimitiveType → List UInt8 → Option ShadowData
  | .bool, text =>
      if text = ascii "true" then some (.bool true)
      else if text = ascii "false" then some (.bool false)
      else none
  | .int32, text => (signedLiteral 32 text).map fun n => .int32 (Int32.ofInt n)
  | .int16, text => (signedLiteral 16 text).map fun n => .int16 (Int16.ofInt n)
  | .int8, text => (signedLiteral 8 text).map fun n => .int8 (Int8.ofInt n)
  | .uint32, text => (unsignedLiteral 32 text).map fun n => .uint32 (UInt32.ofNat n)
  | .uint16, text => (unsignedLiteral 16 text).map fun n => .uint16 (UInt16.ofNat n)
  | .uint8, text => (unsignedLiteral 8 text).map fun n => .uint8 (UInt8.ofNat n)
  | .float, text => if isNumberLiteral text then (env.scanFloat text).map .float else none
  | .double, text => if isNumberLiteral text then (env.scanDouble text).map .double else none
  | .string, _ | .object, _ => none

/-- `sscanf` reads a literal of a type of numbers as its value, whatever follows that ends
it. -/
def Scans : Prop :=
  ∀ type text rest data, type ≠ .bool → literal env type text = some data →
    endsLiteral rest = true → scan env type (text ++ rest) = some data

/-! ### An `sscanf` -/

/-- Read what the text starts with, up to a delimiter, as a literal. -/
def scanLiteral {α : Type} (value : List UInt8 → Option α) (text : List UInt8) : Option α :=
  value (text.takeWhile fun c => !isDelimiter c)

theorem not_isDelimiter_of_isDigit {c : UInt8} (h : isDigit c = true) :
    isDelimiter c = false := by
  rw [Bool.eq_false_iff]
  intro hdelimiter
  have hmem := of_decide_eq_true hdelimiter
  simp only [List.mem_cons, List.not_mem_nil, or_false] at hmem
  rcases hmem with rfl | rfl | rfl | rfl | rfl | rfl | rfl | rfl <;> exact absurd h (by decide)

theorem natLiteral_no_delimiter {text : List UInt8} {n : Nat} (h : natLiteral text = some n) :
    ∀ c ∈ text, isDelimiter c = false := by
  unfold natLiteral at h
  split at h
  case isFalse => cases h
  case isTrue hdigits =>
    exact fun c hc => not_isDelimiter_of_isDigit (List.all_eq_true.mp hdigits.2.1 c hc)

theorem intLiteral_no_delimiter {text : List UInt8} {n : Int} (h : intLiteral text = some n) :
    ∀ c ∈ text, isDelimiter c = false := by
  unfold intLiteral at h
  split at h
  case isTrue hsign =>
    obtain ⟨k, hk, -⟩ := Option.map_eq_some_iff.mp h
    obtain ⟨rest, rfl⟩ := List.head?_eq_some_iff.mp hsign
    intro c hc
    rcases List.mem_cons.mp hc with rfl | hrest
    · decide
    · exact natLiteral_no_delimiter hk c hrest
  case isFalse =>
    obtain ⟨k, hk, -⟩ := Option.map_eq_some_iff.mp h
    exact natLiteral_no_delimiter hk

theorem scanLiteral_append {α : Type} {value : List UInt8 → Option α} {text rest : List UInt8}
    (htext : ∀ c ∈ text, isDelimiter c = false) (hrest : endsLiteral rest = true) :
    scanLiteral value (text ++ rest) = value text := by
  have hstop : rest.takeWhile (fun c => !isDelimiter c) = [] := by
    cases rest with
    | nil => rfl
    | cons c rest =>
      have hc : isDelimiter c = true := hrest
      simp [hc]
  unfold scanLiteral
  rw [List.takeWhile_append_of_pos fun c hc => by simp [htext c hc], hstop, List.append_nil]

/-- Surroundings in which nothing goes wrong and nothing arrives, with a parser. -/
def quietShadowEnv (jsmnParse : List UInt8 → JsmnResult) : ShadowEnv where
  mqtt := quietEnv
  config := {}
  jsmnParse := jsmnParse
  scanInt32 := scanLiteral fun text => (signedLiteral 32 text).map Int32.ofInt
  scanInt16 := scanLiteral fun text => (signedLiteral 16 text).map Int16.ofInt
  scanInt8 := scanLiteral fun text => (signedLiteral 8 text).map Int8.ofInt
  scanUint32 := scanLiteral fun text => (unsignedLiteral 32 text).map UInt32.ofNat
  scanUint16 := scanLiteral fun text => (unsignedLiteral 16 text).map UInt16.ofNat
  scanUint8 := scanLiteral fun text => (unsignedLiteral 8 text).map UInt8.ofNat
  scanFloat _ := none
  scanDouble _ := none
  callback _ := none
  beforeSubscriptionList _ := default
  afterThingName _ := []
  indeterminateStatus _ := .timeout

theorem quietShadowEnv_scans (jsmnParse : List UInt8 → JsmnResult) :
    Scans (quietShadowEnv jsmnParse) := by
  intro type text rest data htype hliteral hrest
  have hsigned : ∀ {bits : Nat} {n : Int}, signedLiteral bits text = some n →
      ∀ c ∈ text, isDelimiter c = false := fun h =>
    intLiteral_no_delimiter (Option.filter_eq_some_iff.mp h).1
  have hunsigned : ∀ {bits n : Nat}, unsignedLiteral bits text = some n →
      ∀ c ∈ text, isDelimiter c = false := fun h =>
    natLiteral_no_delimiter (Option.filter_eq_some_iff.mp h).1
  cases type with
  | bool => exact absurd rfl htype
  | string | object => cases hliteral
  | float | double => simp [literal, quietShadowEnv] at hliteral
  | int32 | int16 | int8 =>
    obtain ⟨n, hn, rfl⟩ := Option.map_eq_some_iff.mp hliteral
    simp [scan, quietShadowEnv, scanLiteral_append (hsigned hn) hrest, hn]
  | uint32 | uint16 | uint8 =>
    obtain ⟨n, hn, rfl⟩ := Option.map_eq_some_iff.mp hliteral
    simp [scan, quietShadowEnv, scanLiteral_append (hunsigned hn) hrest, hn]

/-! ## Documents -/

/-- A text that is a JSON object, with the tree of its tokens.  The text goes on behind the
object. -/
structure Document where
  /-- The text. -/
  text : List UInt8
  /-- Where the object starts. -/
  start : Nat
  /-- Where it ends. -/
  stop : Nat
  /-- Its members. -/
  members : Members
  /-- The tokens come in the order in which they start. -/
  ordered : (Json.object start stop members).tokens.Pairwise fun a b => a.start < b.start
  /-- No token ends before it starts. -/
  spans : ∀ token ∈ (Json.object start stop members).tokens, token.start ≤ token.stop
  /-- What is in a value lies within it. -/
  nested : (Json.object start stop members).nested = true
  /-- A primitive value is a whole literal. -/
  delimited : ∀ token ∈ (Json.object start stop members).tokens, token.type = .primitive →
    endsLiteral (text.drop token.stop) = true

namespace Document

variable (doc : Document)

/-- The object. -/
def root : Json := .object doc.start doc.stop doc.members

/-- The tokens of the document. -/
def tokens : List JsmnToken := doc.root.tokens

/-- The text of a token. -/
def textOf (token : JsmnToken) : List UInt8 :=
  (doc.text.drop token.start).take (token.stop - token.start)

/-- The first member of the object itself with the name `key`. -/
def top (key : List UInt8) : Option (JsmnToken × Json) :=
  doc.members.find fun name => jsoneq doc.text name key

/-- The value of the object's member "version", if that is a natural number. -/
def version? : Option Nat :=
  match doc.top shadowVersionString with
  | none => none
  | some (_, value) =>
      if value.token.type = .primitive then natLiteral (doc.textOf value.token) else none

/-- The array holds the tokens of the document, and anything behind them. -/
def ParsedInto (jsonTokenStruct : Nat → JsmnToken) : Prop :=
  ∀ i token, doc.tokens[i]? = some token → jsonTokenStruct i = token

/-- The parser finds the tokens of the document. -/
def Parses (env : ShadowEnv) : Prop :=
  env.jsmnParse (doc.text.takeWhile (· ≠ 0)) = ⟨some doc.tokens.length, doc.tokens⟩

instance (env : ShadowEnv) : Decidable (doc.Parses env) := inferInstanceAs (Decidable (_ = _))

variable {doc} {a b : JsmnToken} {i j : Nat}

/-- Where a token starts tells which one it is. -/
theorem index_eq (ha : doc.tokens[i]? = some a) (hb : doc.tokens[j]? = some b)
    (h : a.start = b.start) : i = j := by
  obtain ⟨hi, rfl⟩ := List.getElem?_eq_some_iff.mp ha
  obtain ⟨hj, rfl⟩ := List.getElem?_eq_some_iff.mp hb
  have hordered := List.pairwise_iff_getElem.mp doc.ordered
  rcases Nat.lt_trichotomy i j with hlt | heq | hlt
  · exact absurd h (Nat.ne_of_lt (hordered i j hi hj hlt))
  · exact heq
  · exact absurd h.symm (Nat.ne_of_lt (hordered j i hj hi hlt))

/-- The token of a member's value follows that of its name. -/
theorem member_indices {name : JsmnToken} {value : Json}
    (h : (name, value) ∈ doc.root.members) :
    ∃ i, doc.tokens[i]? = some name ∧ doc.tokens[i + 1]? = some value.token := by
  obtain ⟨before, behind, htokens⟩ := Json.members_adjacent doc.root h
  refine ⟨before.length, ?_, ?_⟩
  · rw [tokens, ← htokens]
    simp
  · rw [tokens, ← htokens]
    simp

theorem mem_of_top {key : List UInt8} {name : JsmnToken} {value : Json}
    (h : doc.top key = some (name, value)) :
    (name, value) ∈ doc.root.members ∧ jsoneq doc.text name key = true :=
  Members.mem_of_find doc.members h

/-- The text from a token on is the token's text, and what is behind it. -/
theorem drop_start {token : JsmnToken} (h : token ∈ doc.tokens) :
    doc.text.drop token.start = doc.textOf token ++ doc.text.drop token.stop := by
  have hspan := doc.spans token h
  have hdrop : doc.text.drop token.stop =
      (doc.text.drop token.start).drop (token.stop - token.start) := by
    rw [List.drop_drop, Nat.add_sub_cancel' hspan]
  rw [hdrop, textOf, List.take_append_drop]

/-- A parser of some documents. -/
def parserOf (documents : List Document) (text : List UInt8) : JsmnResult :=
  match documents.find? fun doc => doc.text.takeWhile (· ≠ 0) == text with
  | none => ⟨none, []⟩
  | some doc => ⟨some doc.tokens.length, doc.tokens⟩

end Document

/-- Parsing a document leaves its tokens in `jsonTokenStruct`. -/
theorem parseObject_document {env : ShadowEnv} {doc : Document} (hparses : doc.Parses env)
    {w : World} {H : World → Prop} :
    (parseObject env doc.text : M (Option Nat)).Ends w (fun result w' =>
      result = some doc.tokens.length ∧ doc.ParsedInto w'.shadow.jsonTokenStruct) H := by
  obtain ⟨rest, hroot⟩ := doc.root.tokens_eq_cons
  have hcons : doc.tokens = doc.root.token :: rest := hroot
  unfold parseObject
  simp only [ends_bind, ends_modifyRecords, ends_getRecords, ends_pure, World.shadow_onShadow]
  rw [hparses, hcons]
  refine ⟨?_, fun i token htoken => ?_⟩
  · rw [Option.filter_eq_some_iff]
    exact ⟨rfl, by simp [Document.root, Json.token]⟩
  · rw [hcons] at htoken
    show (doc.root.token :: rest).getD i (w.shadow.jsonTokenStruct i) = token
    rw [List.getD_eq_getElem?_getD, htoken, Option.getD_some]

end AwsIot.Shadow
