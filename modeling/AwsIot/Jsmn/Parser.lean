/-
  Jsmn/Parser.lean --- the JSON parser in `external_libs`.

  `jsmn.c` as `jsmn.h` configures it: `JSMN_STRICT` is defined, `JSMN_PARENT_LINKS` is not.  A
  text is the `len` bytes that the parser is given, and the byte behind them is the NUL of the
  string.  The positions of the source are an `unsigned int` and an `int`; those of a text of
  less than 2³¹ bytes fit both.  The tokens are those below `parser->toknext`: no other entry of
  the array is read, and an entry is filled as soon as it is taken.
-/
import AwsIot.Foundation.Forest
import AwsIot.Shadow.Types

set_option autoImplicit false

namespace AwsIot.Jsmn

open Foundation
open Shadow (JsmnType)

/-! ## State -/

/-- `jsmntok_t`; -1 is `none`. -/
abbrev Token := Mark JsmnType

/-- `jsmnerr_t`. -/
inductive JsmnError where
  /-- Not enough tokens were provided. -/
  | nomem
  /-- Invalid character inside JSON string. -/
  | inval
  /-- The string is not a full JSON packet, more bytes expected. -/
  | part
  deriving DecidableEq, Repr

/-- `jsmn_parser`, with the tokens it has stored and the local variable `count` of
`jsmn_parse`. -/
structure State where
  /-- `parser->pos`. -/
  pos : Nat
  /-- `parser->toksuper`. -/
  toksuper : Option Nat
  /-- The entries of `tokens` below `parser->toknext`. -/
  tokens : List Token
  /-- `count`. -/
  count : Nat
  deriving DecidableEq, Repr

/-- `jsmn_init`. -/
def State.init : State := ⟨0, none, [], 0⟩

/-- The character at an index, or the NUL behind the text. -/
def charAt (js : List UInt8) (pos : Nat) : UInt8 := js[pos]?.getD 0

/-! ## Primitives -/

/-- The characters that end a primitive in strict mode. -/
def endsPrimitive (c : UInt8) : Bool := c ∈ [0x09, 0x0D, 0x0A, 0x20, 0x2C, 0x5D, 0x7D]

/-- The character is no control character and no byte from 127 on; whether `char` is signed
does not matter. -/
def isPrintable (c : UInt8) : Bool := 32 ≤ c && c < 127

/-- The loop of `jsmn_parse_primitive`, on the text from `pos` on: where the primitive ends. -/
def scanPrimitive : List UInt8 → Nat → Except JsmnError Nat
  | [], _ => .error .part
  | c :: rest, pos =>
    if c = 0 then .error .part
    else if endsPrimitive c then .ok pos
    else if !isPrintable c then .error .inval
    else scanPrimitive rest (pos + 1)

/-! ## Strings -/

/-- The characters that may follow a backslash, apart from `u`. -/
def isEscaped (c : UInt8) : Bool := c ∈ [0x22, 0x2F, 0x5C, 0x62, 0x66, 0x72, 0x6E, 0x74]

/-- The character is a hexadecimal digit. -/
def isHex (c : UInt8) : Bool := 48 ≤ c && c ≤ 57 || 65 ≤ c && c ≤ 70 || 97 ≤ c && c ≤ 102

/-- Where `jsmn_parse_string` reads the next character. -/
inductive StringPlace where
  /-- At the start of its loop. -/
  | char
  /-- Behind a backslash. -/
  | escape
  /-- In the loop over `i`, with `left` digits behind this one. -/
  | hex (left : Nat)

/-- The place behind a hexadecimal digit. -/
def StringPlace.behindHex : Nat → StringPlace
  | 0 => .char
  | left + 1 => .hex left

/-- The loop of `jsmn_parse_string`, on the text from `pos` on: where the string ends. -/
def scanString : StringPlace → List UInt8 → Nat → Except JsmnError Nat
  | .char, [], _ => .error .part
  -- the character behind the backslash is read without a look at `len`
  | .escape, [], _ => .error .inval
  -- the loop over `i` ends at the NUL, and then the loop around it
  | .hex _, [], _ => .error .part
  | .char, c :: rest, pos =>
    if c = 0 then .error .part
    else if c = 0x22 then .ok pos
    else if c = 0x5C then scanString .escape rest (pos + 1)
    else scanString .char rest (pos + 1)
  | .escape, c :: rest, pos =>
    if isEscaped c then scanString .char rest (pos + 1)
    else if c = 0x75 then scanString (.hex 3) rest (pos + 1)
    else .error .inval
  | .hex left, c :: rest, pos =>
    if c = 0 then .error .part
    else if !isHex c then .error .inval
    else scanString (.behindHex left) rest (pos + 1)

/-! ## Tokens -/

/-- `tokens[parser->toksuper].size++`, if there is one. -/
def State.countInSuper (s : State) : State :=
  match s.toksuper with
  | none => s
  | some i =>
      { s with tokens := s.tokens.modify i fun token => { token with size := token.size + 1 } }

/-- `jsmn_alloc_token` and what the code then does to the new token and to the one around it.
`numTokens` is `none` if `tokens` is `NULL`. -/
def State.store (numTokens : Option Nat) (token : Token) (s : State) : Except JsmnError State :=
  match numTokens with
  | none => .ok s
  | some n =>
      if s.tokens.length ≥ n then .error .nomem
      else .ok { s with tokens := s.tokens ++ [token] }.countInSuper

variable (js : List UInt8) (numTokens : Option Nat)

/-- `jsmn_parse_primitive`, and `jsmn_parse` behind it. -/
def parsePrimitive (s : State) : Except JsmnError State := do
  let stop ← scanPrimitive (js.drop s.pos) s.pos
  let s' ← s.store numTokens ⟨.primitive, some s.pos, some stop, 0⟩
  return { s' with pos := stop - 1, count := s.count + 1 }

/-- `jsmn_parse_string`, and `jsmn_parse` behind it. -/
def parseString (s : State) : Except JsmnError State := do
  let stop ← scanString .char (js.drop (s.pos + 1)) (s.pos + 1)
  let s' ← s.store numTokens ⟨.string, some (s.pos + 1), some stop, 0⟩
  return { s' with pos := stop, count := s.count + 1 }

/-- An opening bracket. -/
def openToken (type : JsmnType) (s : State) : Except JsmnError State := do
  let s' ← s.store numTokens ⟨type, some s.pos, none, 0⟩
  return { s' with
    toksuper := if numTokens.isNone then s.toksuper else some s.tokens.length
    count := s.count + 1 }

/-- A closing bracket: the two loops over `i`. -/
def closeToken (type : JsmnType) (s : State) : Except JsmnError State :=
  match numTokens with
  | none => .ok s
  | some _ =>
    match lastBelow Mark.isOpen s.tokens s.tokens.length with
    | none => .error .inval
    | some i =>
      if s.tokens[i]?.any fun token => token.kind ≠ type then .error .inval
      else
        let tokens := s.tokens.modify i fun token => { token with stop := some (s.pos + 1) }
        .ok { s with tokens := tokens, toksuper := lastBelow Mark.isOpen tokens (i + 1) }

/-! ## Texts -/

/-- White space, colons and commas, which `jsmn_parse` passes over. -/
def isPassedOver (c : UInt8) : Bool := c ∈ [0x09, 0x0D, 0x0A, 0x3A, 0x2C, 0x20]

/-- The characters that a primitive starts with in strict mode. -/
def startsPrimitive (c : UInt8) : Bool := c = 0x2D || 48 ≤ c && c ≤ 57 || c ∈ [0x74, 0x66, 0x6E]

/-- The `switch` of `jsmn_parse` at the character `c`. -/
def parseChar (c : UInt8) (s : State) : Except JsmnError State :=
  if c = 0x7B ∨ c = 0x5B then
    openToken numTokens (if c = 0x7B then .object else .array) s
  else if c = 0x7D ∨ c = 0x5D then
    closeToken numTokens (if c = 0x7D then .object else .array) s
  else if c = 0x22 then parseString js numTokens s
  else if isPassedOver c then .ok s
  else if startsPrimitive c then parsePrimitive js numTokens s
  else .error .inval

/-- What `jsmn_parse` returns behind its loop. -/
def State.outcome (s : State) : Except JsmnError Nat :=
  if s.tokens.any Mark.isOpen then .error .part else .ok s.count

/-- The loop of `jsmn_parse`, for at most `fuel` passes.  A pass that fails leaves everything as
it is. -/
def parseFrom : Nat → State → Except JsmnError Nat × State
  | 0, s => (s.outcome, s)
  | fuel + 1, s =>
    if charAt js s.pos = 0 then (s.outcome, s)
    else
      match parseChar js numTokens (charAt js s.pos) s with
      | .error e => (.error e, s)
      | .ok s' => parseFrom fuel { s' with pos := s'.pos + 1 }

/-- `jsmn_parse` with a parser that has been used before, and the tokens stored then. -/
def jsmnParse (s : State) : Except JsmnError Nat × State :=
  parseFrom js numTokens js.length { s with count := 0 }

/-- The text `{"a":[1,"x"]}`. -/
example :
    jsmnParse [0x7B, 0x22, 0x61, 0x22, 0x3A, 0x5B, 0x31, 0x2C, 0x22, 0x78, 0x22, 0x5D, 0x7D]
        (some 5) .init =
      (.ok 5, ⟨13, none, [⟨.object, some 0, some 13, 2⟩, ⟨.string, some 2, some 3, 0⟩,
        ⟨.array, some 5, some 12, 2⟩, ⟨.primitive, some 6, some 7, 0⟩,
        ⟨.string, some 9, some 10, 0⟩], 5⟩) := by
  decide

end AwsIot.Jsmn
