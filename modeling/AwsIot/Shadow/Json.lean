/-
  Shadow/Json.lean --- what surrounds the shadow layer, and its use of JSON.

  The JSON parser is jsmn, which is vendored: it is a parameter, as is the `sscanf` that
  reads a number.  Callbacks of the application are, like its message handlers, lists of
  calls that the surroundings choose.  A document is given by the bytes from its address on;
  it ends with the first NUL.
-/
import AwsIot.Mqtt.Environment

set_option autoImplicit false

namespace AwsIot.Shadow

open AwsIot.Foundation AwsIot.Mqtt Program

/-- The bytes of a string literal. -/
def ascii (s : String) : List UInt8 := s.toList.map fun c => UInt8.ofNat c.toNat

/-! ## The surroundings -/

/-- What one `jsmn_parse` does. -/
structure JsmnResult where
  /-- How many tokens there are, `none` for an error. -/
  count : Option Nat
  /-- The tokens it stored. -/
  tokens : List JsmnToken
  deriving DecidableEq, Repr, Inhabited

/-- The surroundings of a program that uses the shadow layer. -/
structure ShadowEnv where
  /-- The surroundings of the client. -/
  mqtt : Env
  /-- The compile-time constants. -/
  config : ShadowConfig
  /-- `jsmn_parse` on a document. -/
  jsmnParse : List UInt8 → JsmnResult
  /-- `sscanf` of a signed 32-bit number. -/
  scanInt32 : List UInt8 → Option Int32
  /-- `sscanf` of a signed 16-bit number. -/
  scanInt16 : List UInt8 → Option Int16
  /-- `sscanf` of a signed 8-bit number. -/
  scanInt8 : List UInt8 → Option Int8
  /-- `sscanf` of an unsigned 32-bit number. -/
  scanUint32 : List UInt8 → Option UInt32
  /-- `sscanf` of an unsigned 16-bit number. -/
  scanUint16 : List UInt8 → Option UInt16
  /-- `sscanf` of an unsigned 8-bit number. -/
  scanUint8 : List UInt8 → Option UInt8
  /-- `sscanf` of a `float`: its bits. -/
  scanFloat : List UInt8 → Option UInt32
  /-- `sscanf` of a `double`: its bits. -/
  scanDouble : List UInt8 → Option UInt64
  /-- The next call that a running callback or handler makes, `none` when it returns. -/
  callback : Nat → Option ShadowCall
  /-- What the memory before `SubscriptionList` holds. -/
  beforeSubscriptionList : Nat → SubscriptionRecord
  /-- What the memory behind a `thingName` holds, up to the first NUL. -/
  afterThingName : Nat → List UInt8
  /-- What the variable `status` holds before it is assigned. -/
  indeterminateStatus : Nat → AckStatus
  /-- What `msgParams` of `publishToShadowAction` holds before its fields are assigned. -/
  msgParams : Nat → PublishParams := fun n =>
    { (default : PublishParams) with isRetained := mqtt.indeterminate n }
  /-- What `mqttInitParams` of `aws_iot_shadow_init` holds before its fields are assigned, by
  the length of the log. -/
  mqttInitParams : Nat → InitParams := fun _ => default

/-! ## Static storage -/

/-- What the code of the shadow layer can do besides what the client's code can.  It is
written once over this interface: in `M` the client is passed the topics themselves, in the
pointer model where they are. -/
class ShadowOps (m : Type → Type) where
  /-- Read the static storage. -/
  getRecords : m Records
  /-- Update the static storage, apart from the topics in it. -/
  modifyRecords (f : Records → Records) : m Unit
  /-- Write `topic` to `buffer`. -/
  storeTopic (buffer : TopicBuffer) (topic : List UInt8) : m Unit
  /-- Run a call of the client to which the topic in `buffer` is passed, `topic`; `none` is an
  array of the caller, which returns after the call. -/
  passing {α : Type} (buffer : Option TopicBuffer) (topic : List UInt8) (x : CharPtr → m α) : m α

export ShadowOps (getRecords modifyRecords storeTopic passing)

instance : ShadowOps M where
  getRecords := fun w => .done w.shadow w
  modifyRecords f := fun w => .done () (w.onShadow f)
  storeTopic buffer topic := fun w => .done () (w.onShadow fun s => s.storeTopic buffer topic)
  passing _ topic x := x ⟨topic⟩

section Effects

variable {m : Type → Type} [Monad m] [Halting m] [ClientOps m] [ShadowOps m]

/-- Append `e` to the shadow layer's log. -/
def note (e : ShadowEvent) : m Unit := modifyRecords fun s => { s with log := e :: s.log }

end Effects

section State

variable {w : World} {H : World → Prop}

@[simp] theorem ends_getRecords {Q : Records → World → Prop} :
    (getRecords : M Records).Ends w Q H ↔ Q w.shadow w := Iff.rfl

@[simp] theorem ends_modifyRecords {f : Records → Records} {Q : Unit → World → Prop} :
    (modifyRecords f : M Unit).Ends w Q H ↔ Q () (w.onShadow f) := Iff.rfl

@[simp] theorem ends_storeTopic {buffer : TopicBuffer} {topic : List UInt8}
    {Q : Unit → World → Prop} :
    (storeTopic buffer topic : M Unit).Ends w Q H ↔
      Q () (w.onShadow fun s => s.storeTopic buffer topic) := Iff.rfl

@[simp] theorem ends_passing {α : Type} {buffer : Option TopicBuffer} {topic : List UInt8}
    {x : CharPtr → M α} {Q : α → World → Prop} :
    (passing buffer topic x).Ends w Q H ↔ (x ⟨topic⟩).Ends w Q H := Iff.rfl

@[simp] theorem ends_note {e : ShadowEvent} {Q : Unit → World → Prop} :
    (note e : M Unit).Ends w Q H ↔
      Q () (w.onShadow fun s => { s with log := e :: s.log }) := Iff.rfl

end State

/-! ## Tokens -/

/-- `jsoneq`: the token is the string `s`. -/
def jsoneq (json : List UInt8) (tok : JsmnToken) (s : List UInt8) : Bool :=
  tok.type = .string && s.length == tok.stop - tok.start &&
    (json.drop tok.start).take s.length == s

/-- `SHADOW_CLIENT_TOKEN_STRING`. -/
def shadowClientTokenString : List UInt8 := ascii "clientToken"

/-- `SHADOW_VERSION_STRING`. -/
def shadowVersionString : List UInt8 := ascii "version"

variable (env : ShadowEnv)

/-- The parsers of signed numbers and of floating-point numbers, by their `sscanf`. -/
def parseNumber {α : Type} (scan : List UInt8 → Option α) (json : List UInt8)
    (tok : JsmnToken) : Option α :=
  if tok.type ≠ .primitive then none else scan (json.drop tok.start)

/-- The parsers of unsigned numbers. -/
def parseUnsigned {α : Type} (scan : List UInt8 → Option α) (json : List UInt8)
    (tok : JsmnToken) : Option α :=
  let text := json.drop tok.start
  if tok.type ≠ .primitive ∨ text.head? = some 0x2D then none else scan text

/-- `parseInteger32Value`. -/
def parseInteger32Value : List UInt8 → JsmnToken → Option Int32 := parseNumber env.scanInt32

/-- `parseInteger16Value`. -/
def parseInteger16Value : List UInt8 → JsmnToken → Option Int16 := parseNumber env.scanInt16

/-- `parseInteger8Value`. -/
def parseInteger8Value : List UInt8 → JsmnToken → Option Int8 := parseNumber env.scanInt8

/-- `parseUnsignedInteger32Value`. -/
def parseUnsignedInteger32Value : List UInt8 → JsmnToken → Option UInt32 :=
  parseUnsigned env.scanUint32

/-- `parseUnsignedInteger16Value`. -/
def parseUnsignedInteger16Value : List UInt8 → JsmnToken → Option UInt16 :=
  parseUnsigned env.scanUint16

/-- `parseUnsignedInteger8Value`. -/
def parseUnsignedInteger8Value : List UInt8 → JsmnToken → Option UInt8 :=
  parseUnsigned env.scanUint8

/-- `parseFloatValue`. -/
def parseFloatValue : List UInt8 → JsmnToken → Option UInt32 := parseNumber env.scanFloat

/-- `parseDoubleValue`. -/
def parseDoubleValue : List UInt8 → JsmnToken → Option UInt64 := parseNumber env.scanDouble

/-- `parseBooleanValue`. -/
def parseBooleanValue (json : List UInt8) (tok : JsmnToken) : Option Bool :=
  if tok.type ≠ .primitive then none
  else if (json.drop tok.start).take 4 = ascii "true" then some true
  else if (json.drop tok.start).take 5 = ascii "false" then some false
  else none

/-- `UpdateValueIfNoObject` on a variable that holds `pData`: the return code, and what the
variable holds afterwards. -/
def updateValueIfNoObject (pJsonString : List UInt8) (type : JsonPrimitiveType)
    (pData : ShadowData) (token : JsmnToken) : IoTError × ShadowData :=
  let parsed : Option ShadowData := match type with
    | .bool => (parseBooleanValue pJsonString token).map .bool
    | .int32 => (parseInteger32Value env pJsonString token).map .int32
    | .int16 => (parseInteger16Value env pJsonString token).map .int16
    | .int8 => (parseInteger8Value env pJsonString token).map .int8
    | .uint32 => (parseUnsignedInteger32Value env pJsonString token).map .uint32
    | .uint16 => (parseUnsignedInteger16Value env pJsonString token).map .uint16
    | .uint8 => (parseUnsignedInteger8Value env pJsonString token).map .uint8
    | .float => (parseFloatValue env pJsonString token).map .float
    | .double => (parseDoubleValue env pJsonString token).map .double
    | .string | .object => some pData
  match parsed with
  | some data => (.success, data)
  | none => (.jsonParseError, pData)

/-- What `isJsonKeyMatchingAndUpdateValue` tells of a key that it finds. -/
structure KeyMatch where
  /-- `*pDataPosition`. -/
  dataPosition : Nat
  /-- `*pDataLength`. -/
  dataLength : Nat
  /-- What the variable of the key holds afterwards. -/
  data : ShadowData
  deriving DecidableEq, Repr

/-- `isJsonKeyMatchingAndUpdateValue` on a variable that holds `pData`, if it returns true. -/
def isJsonKeyMatchingAndUpdateValue (pJsonDocument : List UInt8)
    (jsonTokenStruct : Nat → JsmnToken) (tokenCount : Nat) (pDataStruct : JsonStruct)
    (pData : ShadowData) : Option KeyMatch :=
  let key := (List.range' 1 (tokenCount - 1)).find? fun i =>
    jsoneq pJsonDocument (jsonTokenStruct i) pDataStruct.pKey
  key.map fun i =>
    let dataToken := jsonTokenStruct (i + 1)
    { dataPosition := dataToken.start
      dataLength := dataToken.stop - dataToken.start
      -- the return code of the conversion is dropped
      data := (updateValueIfNoObject env pJsonDocument pDataStruct.type pData dataToken).2 }

variable {m : Type → Type} [Monad m] [Halting m] [ClientOps m] [ShadowOps m]

/-- `jsmn_parse` into `jsonTokenStruct`: the number of tokens of an object. -/
def parseObject (json : List UInt8) : m (Option Nat) := do
  let result := env.jsmnParse (json.takeWhile (· ≠ 0))
  modifyRecords fun s =>
    { s with jsonTokenStruct := fun i => result.tokens.getD i (s.jsonTokenStruct i) }
  let s ← getRecords
  return result.count.filter fun tokenCount =>
    1 ≤ tokenCount ∧ (s.jsonTokenStruct 0).type = .object

/-- `isJsonValidAndParse`: `*pTokenCount`, if it returns true. -/
def isJsonValidAndParse (json : List UInt8) : m (Option Nat) := parseObject env json

/-- `extractVersionNumber`: `*pVersionNumber`, if it returns true. -/
def extractVersionNumber (json : List UInt8) (tokenCount : Nat) : m (Option UInt32) := do
  let s ← getRecords
  return (List.range' 1 (tokenCount - 1)).findSome? fun i =>
    if jsoneq json (s.jsonTokenStruct i) shadowVersionString then
      parseUnsignedInteger32Value env json (s.jsonTokenStruct (i + 1))
    else none

/-- `extractClientToken` into an array of `size` characters: the client token, if it
returns true.  A longer one is written past the end of the array, which ends the run. -/
def extractClientToken (json : List UInt8) (size : Nat) : m (Option (List UInt8)) := do
  match ← parseObject env json with
  | none => return none
  | some tokenCount => do
      let s ← getRecords
      let key := (List.range' 1 (tokenCount - 1)).find? fun i =>
        jsoneq json (s.jsonTokenStruct i) shadowClientTokenString
      match key with
      | none => return none
      | some i => do
          let clientJsonToken := s.jsonTokenStruct (i + 1)
          let length :=
            (UInt8.ofNat clientJsonToken.stop - UInt8.ofNat clientJsonToken.start).toNat
          if size ≤ length then halt
          return some ((json.drop clientJsonToken.start).take length)

/-! ## Client tokens -/

/-- What `%d` prints for a `uint32_t`. -/
def decimal (n : UInt32) : List UInt8 :=
  let digits (k : Nat) := (Nat.toDigits 10 k).map fun c => UInt8.ofNat c.toNat
  if n.toNat < 2 ^ 31 then digits n.toNat else 0x2D :: digits (2 ^ 32 - n.toNat)

/-- `FillWithClientToken`: the token it prints. -/
def fillWithClientToken : m (List UInt8) := do
  let s ← getRecords
  modifyRecords fun s => { s with clientTokenNum := s.clientTokenNum + 1 }
  return s.mqttClientID ++ 0x2D :: decimal s.clientTokenNum

/-- `emptyJsonWithClientToken`, which is all of `aws_iot_shadow_internal_get_request_json`
and `aws_iot_shadow_internal_delete_request_json`. -/
def emptyJsonWithClientToken : m (List UInt8) := do
  let token ← fillWithClientToken
  return ascii "\x7b\"clientToken\":\"" ++ token ++ ascii "\"\x7d"

end AwsIot.Shadow
