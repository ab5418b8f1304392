/-
  Shadow/Builder.lean --- the functions that build a JSON document for an update.

  A document is built in an array of the application, whose size comes with every call.
  What `snprintf` puts for a number with a fraction and for NULL is a parameter, as is the
  width of a `size_t`, on which the size that is left is computed.  A call halts where its
  behaviour is undefined: `va_arg` behind the last argument, and a store in front of an
  empty document.
-/
import AwsIot.Foundation.Program
import AwsIot.Foundation.TextBuffer
import AwsIot.Shadow.Json

set_option autoImplicit false

namespace AwsIot.Shadow

open AwsIot.Foundation AwsIot.Mqtt Program

/-! ## Data -/

/-- What surrounds the builder. -/
structure BuilderEnv where
  /-- The bits of a `size_t`. -/
  sizeBits : Nat
  /-- What `%s` prints for NULL. -/
  printNull : CString
  /-- What `%f` prints for a `float`, given by its bits. -/
  printFloat : UInt32 → CString
  /-- What `%f` prints for a `double`, given by its bits. -/
  printDouble : UInt64 → CString
  /-- The client id that client tokens start with. -/
  mqttClientID : CString

/-- What a `pData` points to, of the type that comes with it. -/
inductive MemberData where
  | int32 (value : Int32)
  | int16 (value : Int16)
  | int8 (value : Int8)
  | uint32 (value : UInt32)
  | uint16 (value : UInt16)
  | uint8 (value : UInt8)
  | float (bits : UInt32)
  | double (bits : UInt64)
  | bool (value : Bool)
  | string (value : CString)
  | object
  deriving DecidableEq

/-- The type that comes with it. -/
def MemberData.type : MemberData → JsonPrimitiveType
  | .int32 _ => .int32
  | .int16 _ => .int16
  | .int8 _ => .int8
  | .uint32 _ => .uint32
  | .uint16 _ => .uint16
  | .uint8 _ => .uint8
  | .float _ => .float
  | .double _ => .double
  | .bool _ => .bool
  | .string _ => .string
  | .object => .object

/-- `jsonStruct_t`, as far as the builder looks at it; `none` is NULL. -/
structure JsonMember where
  /-- The key. -/
  pKey : Option CString
  /-- The value. -/
  pData : Option MemberData

/-- A document that is being built. -/
structure Draft where
  /-- The array of the application. -/
  buffer : TextBuffer
  /-- The number of the next client token. -/
  clientTokenNum : UInt32
  /-- Not part of the source: how many arguments were read with `va_arg`. -/
  argumentsRead : Nat
  deriving Inhabited

/-- A string literal. -/
def cString (s : String) (h : 0 ∉ ascii s := by decide) : CString := ⟨ascii s, h⟩

/-! ## Printing -/

/-- `strlen(pJsonDocument)`. -/
def strlen : Program Draft Nat := fun d => .done d.buffer.text.length d

/-- The offset of the last character, `strlen(pJsonDocument) - 1`. -/
def lastOffset : Program Draft Nat := do
  let length ← strlen
  if length = 0 then halt
  return length - 1

/-- `snprintf(pJsonDocument + offset, size, ..)`. -/
def snprintf (offset size : Nat) (s : CString) : Program Draft Int := fun d =>
  .done (printResult s) { d with buffer := d.buffer.print offset size s }

/-- `checkReturnValueOfSnPrintf`. -/
def checkReturnValueOfSnPrintf (snPrintfReturn : Int) (maxSizeOfJsonDocument : Nat) :
    IoTError :=
  if snPrintfReturn < 0 then .shadowJsonError
  else if maxSizeOfJsonDocument ≤ snPrintfReturn.toNat then .shadowJsonBufferTruncated
  else .success

/-- `snprintf` with the check of what it returns. -/
def snprintfChecked (offset size : Nat) (s : CString) : Program Draft IoTError := do
  let snPrintfReturn ← snprintf offset size s
  return checkReturnValueOfSnPrintf snPrintfReturn size

variable (env : BuilderEnv)

/-- `maxSizeOfJsonDocument - strlen(pJsonDocument)`. -/
def remSizeOfJsonBuffer (maxSizeOfJsonDocument length : Nat) : Nat :=
  (((maxSizeOfJsonDocument : Int) - length) % 2 ^ env.sizeBits).toNat

/-! ## Members -/

/-- The value and the comma behind it, as printed; an object is not printed. -/
def MemberData.printed : MemberData → Option CString
  | .int32 value => some (.ofInt value.toInt ++ cString ",")
  | .int16 value => some (.ofInt value.toInt ++ cString ",")
  | .int8 value => some (.ofInt value.toInt ++ cString ",")
  | .uint32 value => some (.ofNat value.toNat ++ cString ",")
  | .uint16 value => some (.ofNat value.toNat ++ cString ",")
  | .uint8 value => some (.ofNat value.toNat ++ cString ",")
  | .double bits => some (env.printDouble bits ++ cString ",")
  | .float bits => some (env.printFloat bits ++ cString ",")
  | .bool value => some ((if value then cString "true" else cString "false") ++ cString ",")
  | .string value => some (cString "\"" ++ value ++ cString "\",")
  | .object => none

/-- `convertDataToString` at the end of the document. -/
def convertDataToString (maxSizoStringBuffer : Nat) (pData : MemberData) :
    Program Draft IoTError := do
  if maxSizoStringBuffer = 0 then return .shadowJsonError
  match pData.printed env with
  | some s => snprintfChecked (← strlen) maxSizoStringBuffer s
  -- no branch of the source is for the type, and `snPrintfReturn` is still 0
  | none => return checkReturnValueOfSnPrintf 0 maxSizoStringBuffer

/-- The key as printed. -/
def keyText (pKey : Option CString) : CString :=
  cString "\"" ++ pKey.getD env.printNull ++ cString "\":"

/-- One member, once its argument is read and known not to be NULL. -/
def addMember (size : Nat) (pTemporary : JsonMember) : Program Draft IoTError := do
  let ret_val ← snprintfChecked (← strlen) size (keyText env pTemporary.pKey)
  if ret_val ≠ .success then return ret_val
  match pTemporary.pKey, pTemporary.pData with
  -- the size is the one from before the key
  | some _, some pData => convertDataToString env size pData
  | _, _ => return .nullValueError

/-- `va_arg`, which reads an argument that was passed. -/
def vaArg : Program Draft Unit := fun d =>
  .done () { d with argumentsRead := d.argumentsRead + 1 }

/-- The loop over the members from the `i`-th on and what follows it.  `arguments` are the
arguments not read yet, and `size` is what `remSizeOfJsonBuffer` holds. -/
def addMembers (maxSizeOfJsonDocument : Nat) (count : UInt8) :
    List (Option JsonMember) → Int8 → Nat → Program Draft IoTError
  | arguments, i, size =>
    if i.toInt < count.toNat then do
      let tempSize := remSizeOfJsonBuffer env maxSizeOfJsonDocument (← strlen)
      if tempSize ≤ 1 then return .shadowJsonError
      match arguments with
      | [] => halt
      | pTemporary :: arguments => do
          vaArg
          match pTemporary with
          | none => return .nullValueError
          | some pTemporary => do
              let ret_val ← addMember env tempSize pTemporary
              if ret_val ≠ .success then return ret_val
              addMembers maxSizeOfJsonDocument count arguments (i + 1) tempSize
    else do
      snprintfChecked (← lastOffset) size (cString "\x7d,")

/-! ## The calls -/

/-- The sections of a document. -/
inductive Section where
  | desired
  | reported
  deriving DecidableEq

/-- What a section starts with. -/
def Section.opening : Section → CString
  | .desired => cString "\"desired\":\x7b"
  | .reported => cString "\"reported\":\x7b"

/-- What a document starts with. -/
def stateOpening : CString := cString "\x7b\"state\":\x7b"

/-- `aws_iot_shadow_init_json_document`. -/
def initJsonDocument (maxSizeOfJsonDocument : Nat) : Program Draft IoTError :=
  snprintfChecked 0 maxSizeOfJsonDocument stateOpening

/-- `aws_iot_shadow_add_desired` and `aws_iot_shadow_add_reported`, which differ in what the
section starts with. -/
def addSection (part : Section) (maxSizeOfJsonDocument : Nat) (count : UInt8)
    (arguments : List (Option JsonMember)) : Program Draft IoTError := do
  let length ← strlen
  let tempSize := remSizeOfJsonBuffer env maxSizeOfJsonDocument length
  if tempSize ≤ 1 then return .shadowJsonError
  let ret_val ← snprintfChecked length tempSize part.opening
  if ret_val ≠ .success then return ret_val
  addMembers env maxSizeOfJsonDocument count arguments 0 tempSize

/-- `aws_iot_shadow_add_desired`. -/
def addDesired : Nat → UInt8 → List (Option JsonMember) → Program Draft IoTError :=
  addSection env .desired

/-- `aws_iot_shadow_add_reported`. -/
def addReported : Nat → UInt8 → List (Option JsonMember) → Program Draft IoTError :=
  addSection env .reported

/-- No NUL is in what `%d` prints for a `uint32_t`. -/
theorem zero_notMem_decimal (n : UInt32) : 0 ∉ decimal n := by
  unfold decimal
  split
  · exact CString.zero_notMem_digits _
  · simp only [List.mem_cons, not_or]
    exact ⟨by decide, CString.zero_notMem_digits _⟩

/-- The client token of a number. -/
def clientToken (clientTokenNum : UInt32) : CString :=
  env.mqttClientID ++ cString "-" ++ ⟨decimal clientTokenNum, zero_notMem_decimal _⟩

/-- `FillWithClientTokenSize`, and the check of what it returns. -/
def fillWithClientTokenSize (offset size : Nat) : Program Draft IoTError := do
  let clientTokenNum : UInt32 ← fun d => .done d.clientTokenNum
    { d with clientTokenNum := d.clientTokenNum + 1 }
  snprintfChecked offset size (clientToken env clientTokenNum)

/-- What stands in front of the client token. -/
def tokenOpening : CString :=
  cString "\x7d, \"" ++ ⟨shadowClientTokenString, by decide⟩ ++ cString "\":\""

/-- What `aws_iot_finalize_json_document` does behind the client token. -/
def closeDocument (maxSizeOfJsonDocument : Nat) : Program Draft IoTError := do
  let tempSize := remSizeOfJsonBuffer env maxSizeOfJsonDocument (← strlen)
  if tempSize ≤ 1 then return .shadowJsonError
  snprintfChecked (← strlen) tempSize (cString "\"\x7d")

/-- What it does from the client token on. -/
def finalizeToken (maxSizeOfJsonDocument : Nat) : Program Draft IoTError := do
  let tempSize := remSizeOfJsonBuffer env maxSizeOfJsonDocument (← strlen)
  if tempSize ≤ 1 then return .shadowJsonError
  let ret_val ← fillWithClientTokenSize env (← strlen) tempSize
  if ret_val ≠ .success then return ret_val
  closeDocument env maxSizeOfJsonDocument

/-- `aws_iot_finalize_json_document`. -/
def finalizeJsonDocument (maxSizeOfJsonDocument : Nat) : Program Draft IoTError := do
  let tempSize := remSizeOfJsonBuffer env maxSizeOfJsonDocument (← strlen)
  if tempSize ≤ 1 then return .shadowJsonError
  let ret_val ← snprintfChecked (← lastOffset) tempSize tokenOpening
  if ret_val ≠ .success then return ret_val
  finalizeToken env maxSizeOfJsonDocument

end AwsIot.Shadow
