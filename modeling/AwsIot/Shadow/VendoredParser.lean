/-
  Shadow/VendoredParser.lean --- the shadow layer with the parser it is built with.

  Elsewhere the parser is a parameter, and what is asked of it is `JsmnTells`.  Here it is the
  model of `jsmn.c`: on every text whose characters up to the NUL are a JSON object it tells
  what is asked for, the tokens if `jsonTokenStruct` has room for them and an error if not.
-/
import AwsIot.Shadow.JsonSyntax

set_option autoImplicit false

namespace AwsIot.Shadow

open AwsIot.Foundation AwsIot.Mqtt Program
open Jsmn (charAt Lexes PrimitiveAt endsPrimitive jsmnParse)

/-- `jsmn_init`, and `jsmn_parse` with an array of `maxTokens` tokens. -/
def vendoredParser (maxTokens : Nat) (text : List UInt8) : JsmnResult where
  count := (jsmnParse text (some maxTokens) .init).1.toOption
  tokens := (jsmnParse text (some maxTokens) .init).2.tokens.map tokenOf

/-- The text up to its NUL is an object, with white space around it. -/
structure IsObject (text : List UInt8) (start stop : Nat) (members : Members) : Prop where
  /-- What is in front of the object. -/
  front : SpaceAt (text.takeWhile (· ≠ 0)) 0 start
  /-- The object. -/
  object : JsonAt (text.takeWhile (· ≠ 0)) start (.object start stop members) stop
  /-- What is behind it. -/
  back : SpaceAt (text.takeWhile (· ≠ 0)) stop (text.takeWhile (· ≠ 0)).length

/-! ## The document -/

section Object

variable {text : List UInt8} {start stop : Nat} {members : Members}

/-- jsmn reads the object, and nothing else. -/
theorem IsObject.lexes (h : IsObject text start stop members) :
    Lexes (text.takeWhile (· ≠ 0)) 0 [(Json.object start stop members).tree]
      (text.takeWhile (· ≠ 0)).length := by
  refine h.back.back (h.front.front ?_)
  cases h.object with
  | object hopen hmembers hclose =>
    have hkids := members.lexes hmembers (by rw [hclose]; decide)
    exact .brackets (by rw [hopen]; rfl) hkids (by rw [hclose]; rfl) (.done _)

theorem IsObject.tokens_eq (start stop : Nat) (members : Members) :
    (Json.object start stop members).tokens =
      (marksOf [(Json.object start stop members).tree]).map tokenOf := by
  rw [marksOf_singleton, Json.tokens_tree]

/-- A character in front of the NUL. -/
theorem head?_drop_of_charAt {p : Nat} (hzero : charAt (text.takeWhile (· ≠ 0)) p ≠ 0) :
    (text.drop p).head? = some (charAt (text.takeWhile (· ≠ 0)) p) := by
  have hlt := Jsmn.lt_length_of_charAt hzero
  obtain ⟨rest, hrest⟩ := List.takeWhile_prefix (l := text) (· ≠ 0)
  rw [List.head?_drop, charAt, List.getElem?_eq_getElem hlt, Option.getD_some]
  calc text[p]? = (text.takeWhile (· ≠ 0) ++ rest)[p]? := by rw [hrest]
    _ = some (text.takeWhile (· ≠ 0))[p] := by
      rw [List.getElem?_append_left hlt, List.getElem?_eq_getElem hlt]

/-- The document that the text is. -/
def IsObject.document (h : IsObject text start stop members) : Document where
  text := text
  start := start
  stop := stop
  members := members
  ordered := by
    rw [IsObject.tokens_eq, List.pairwise_map]
    refine h.lexes.laid.pairwise.imp fun hbefore => ?_
    obtain ⟨s, t, hs, ht, hlt, -⟩ := hbefore
    rw [tokenOf, tokenOf, hs, ht]
    exact hlt
  spans := by
    intro token hmem
    rw [IsObject.tokens_eq] at hmem
    obtain ⟨mark, hmark, rfl⟩ := List.mem_map.mp hmem
    obtain ⟨s, hs, -, -, hstop⟩ := h.lexes.laid.within mark hmark
    cases hend : mark.stop with
    | none =>
      have hclosed := marksOf_closed _ mark hmark
      rw [Mark.isOpen, hs, hend] at hclosed
      cases hclosed
    | some e =>
      rw [tokenOf, hs, hend]
      exact (hstop e hend).1
  nested := (Json.nested_of_laid _ h.lexes.laid).1
  delimited := by
    intro token hmem htype
    rw [IsObject.tokens_eq] at hmem
    obtain ⟨mark, hmark, rfl⟩ := List.mem_map.mp hmem
    cases h.lexes.stands mark hmark with
    | string => cases htype
    | @primitive s e hprimitive =>
      have hends := hprimitive.ends
      show ((text.drop e).head?.all isDelimiter) = true
      rw [head?_drop_of_charAt (Jsmn.ne_zero_of_endsPrimitive hends), Option.all_some]
      exact isDelimiter_of_endsPrimitive hends
    | opened hopen =>
      have hkind : Jsmn.opening _ = some JsmnType.primitive := hopen.trans (congrArg some htype)
      exact absurd hkind (Jsmn.opening_ne_primitive _)
    | closed hopen hclose =>
      have hkind : Jsmn.opening _ = some JsmnType.primitive := hopen.trans (congrArg some htype)
      exact absurd hkind (Jsmn.opening_ne_primitive _)

variable {maxTokens : Nat}

theorem IsObject.length_tokens (start stop : Nat) (members : Members) :
    (Json.object start stop members).tokens.length =
      (marksOf [(Json.object start stop members).tree]).length := by
  rw [IsObject.tokens_eq, List.length_map]

/-- The vendored parser tells what is asked for. -/
theorem IsObject.tells (h : IsObject text start stop members) {env : ShadowEnv}
    (hparser : env.jsmnParse = vendoredParser env.config.maxJsonTokenExpected) :
    JsmnTells env text (some h.document) := by
  have hend := Jsmn.charAt_of_length_le (Nat.le_refl (text.takeWhile (· ≠ 0)).length)
  have hlength := IsObject.length_tokens start stop members
  refine ⟨rfl, ?_⟩
  split
  case isTrue hroom =>
    have hroom : (Json.object start stop members).tokens.length ≤
        env.config.maxJsonTokenExpected := hroom
    have hparse := Jsmn.jsmnParse_of_lexes h.lexes hend (hlength ▸ hroom)
    show env.jsmnParse (text.takeWhile (· ≠ 0)) = _
    rw [hparser, vendoredParser, hparse, ← IsObject.tokens_eq, ← hlength]
    rfl
  case isFalse hroom =>
    have hroom : env.config.maxJsonTokenExpected <
        (Json.object start stop members).tokens.length := Nat.lt_of_not_le hroom
    rw [hparser, vendoredParser, Jsmn.jsmnParse_nomem h.lexes hend (hlength ▸ hroom)]
    rfl

end Object

/-- On the text of a JSON object the vendored parser tells what the shadow layer relies on: the
tokens of the object if it has no more than `jsonTokenStruct` has room for, and an error if it
has. -/
theorem jsmnTells_of_isObject (env : ShadowEnv) (text : List UInt8) (start stop : Nat)
    (members : Members) (hparser : env.jsmnParse = vendoredParser env.config.maxJsonTokenExpected)
    (h : IsObject text start stop members) :
    ∃ doc : Document, doc.root = .object start stop members ∧ JsmnTells env text (some doc) :=
  ⟨h.document, rfl, h.tells hparser⟩

end AwsIot.Shadow
