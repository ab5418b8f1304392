/-
  Shadow/IntegerParsers.lean --- the integer parsers of `aws_iot_json_utils.c`.

  Each of the six hands `sscanf` the text from the start of a primitive token on.  `sscanf`
  is not told where the token ends or how wide the variable is: it stops at the first
  character that is no digit, and what it has read is cut down to the type.
-/
import AwsIot.Foundation.Scanf
import AwsIot.Shadow.Document
import Mathlib.Data.List.TakeWhile

set_option autoImplicit false

namespace AwsIot.Shadow

open AwsIot.Foundation AwsIot.Mqtt

/-- The text of a token. -/
def tokenText (json : List UInt8) (tok : JsmnToken) : List UInt8 :=
  (json.drop tok.start).take (tok.stop - tok.start)

/-! ## The parsers -/

/-- `sscanf` is that of glibc: it reads a `long` of `longBits` bits, and stores as many of its
low bits as the length modifier says. -/
structure GlibcScans (env : ShadowEnv) (longBits : Nat) : Prop where
  /-- A `long` has no fewer bits than the variables. -/
  wide : 32 ≤ longBits
  /-- `SCNi32` is `%i`. -/
  int32 : ∀ text, env.scanInt32 text = (sscanfSigned longBits text).map Int32.ofInt
  /-- `SCNi16` is `%hi`. -/
  int16 : ∀ text, env.scanInt16 text = (sscanfSigned longBits text).map Int16.ofInt
  /-- `SCNi8` is `%hhi`. -/
  int8 : ∀ text, env.scanInt8 text = (sscanfSigned longBits text).map Int8.ofInt
  /-- `SCNu32` is `%u`. -/
  uint32 : ∀ text, env.scanUint32 text = (sscanfUnsigned longBits text).map UInt32.ofNat
  /-- `SCNu16` is `%hu`. -/
  uint16 : ∀ text, env.scanUint16 text = (sscanfUnsigned longBits text).map UInt16.ofNat
  /-- `SCNu8` is `%hhu`. -/
  uint8 : ∀ text, env.scanUint8 text = (sscanfUnsigned longBits text).map UInt8.ofNat

/-- The parsers of integers. -/
inductive IntegerParser where
  /-- `parseInteger32Value`. -/
  | int32
  /-- `parseInteger16Value`. -/
  | int16
  /-- `parseInteger8Value`. -/
  | int8
  /-- `parseUnsignedInteger32Value`. -/
  | uint32
  /-- `parseUnsignedInteger16Value`. -/
  | uint16
  /-- `parseUnsignedInteger8Value`. -/
  | uint8
  deriving DecidableEq

namespace IntegerParser

/-- The variables of the parser are signed. -/
def signed : IntegerParser → Bool
  | .int32 | .int16 | .int8 => true
  | .uint32 | .uint16 | .uint8 => false

/-- The bits of its variables. -/
def bits : IntegerParser → Nat
  | .int32 | .uint32 => 32
  | .int16 | .uint16 => 16
  | .int8 | .uint8 => 8

/-- The least value of the type. -/
def least (parser : IntegerParser) : Int := if parser.signed then -2 ^ (parser.bits - 1) else 0

/-- The greatest value of the type. -/
def greatest (parser : IntegerParser) : Int :=
  if parser.signed then 2 ^ (parser.bits - 1) - 1 else 2 ^ parser.bits - 1

/-- The type of a key whose variable it reads. -/
def type : IntegerParser → JsonPrimitiveType
  | .int32 => .int32
  | .int16 => .int16
  | .int8 => .int8
  | .uint32 => .uint32
  | .uint16 => .uint16
  | .uint8 => .uint8

/-- The number it reads, if it finds one. -/
def parse (env : ShadowEnv) : IntegerParser → List UInt8 → JsmnToken → Option Int
  | .int32, json, tok => (parseInteger32Value env json tok).map Int32.toInt
  | .int16, json, tok => (parseInteger16Value env json tok).map Int16.toInt
  | .int8, json, tok => (parseInteger8Value env json tok).map Int8.toInt
  | .uint32, json, tok => (parseUnsignedInteger32Value env json tok).map fun n => (n.toNat : Int)
  | .uint16, json, tok => (parseUnsignedInteger16Value env json tok).map fun n => (n.toNat : Int)
  | .uint8, json, tok => (parseUnsignedInteger8Value env json tok).map fun n => (n.toNat : Int)

/-- A call of the parser on a variable that holds `i`: what it returns, and what the variable
holds afterwards. -/
def call (env : ShadowEnv) (parser : IntegerParser) (json : List UInt8) (tok : JsmnToken)
    (i : Int) : IoTError × Int :=
  match parser.parse env json tok with
  | some n => (.success, n)
  | none => (.jsonParseError, i)

/-! ## What they should do -/

/-- The integer that the text is in JSON, if it is one of the type. -/
def value (parser : IntegerParser) (text : List UInt8) : Option Int :=
  (intLiteral text).filter fun n => parser.least ≤ n ∧ n ≤ parser.greatest

/-- The call succeeds if and only if the text of the token is an integer of the type, and then
stores it; otherwise it leaves the variable as it was. -/
structure Exact (env : ShadowEnv) (parser : IntegerParser) (json : List UInt8) (tok : JsmnToken)
    (i : Int) : Prop where
  /-- It succeeds on integers of the type. -/
  success_iff : (parser.call env json tok i).1 = .success ↔
    ∃ n, parser.value (tokenText json tok) = some n
  /-- It stores the value. -/
  stored : ∀ n, parser.value (tokenText json tok) = some n →
    (parser.call env json tok i).2 = n
  /-- It stores nothing else. -/
  kept : (parser.call env json tok i).1 ≠ .success → (parser.call env json tok i).2 = i

end IntegerParser

/-- The text is a number or one of the words of JSON. -/
def isPrimitiveLiteral (text : List UInt8) : Bool :=
  isNumberLiteral text || text == ascii "true" || text == ascii "false" || text == ascii "null"

/-- The token is a primitive of a JSON text. -/
structure IsPrimitive (json : List UInt8) (tok : JsmnToken) : Prop where
  /-- It is marked as one. -/
  type : tok.type = .primitive
  /-- It ends behind its start. -/
  span : tok.start ≤ tok.stop
  /-- Its text is one. -/
  literal : isPrimitiveLiteral (tokenText json tok) = true
  /-- It ends where the literal ends. -/
  delimited : endsLiteral (json.drop tok.stop) = true

/-- The text from the token on is the token's text, and what is behind it. -/
theorem IsPrimitive.drop_start {json : List UInt8} {tok : JsmnToken} (htok : IsPrimitive json tok) :
    json.drop tok.start = tokenText json tok ++ json.drop tok.stop := by
  have hdrop : json.drop tok.stop = (json.drop tok.start).drop (tok.stop - tok.start) := by
    rw [List.drop_drop, Nat.add_sub_cancel' htok.span]
  rw [hdrop, tokenText, List.take_append_drop]

/-! ## Literals -/

/-- A number: perhaps a minus sign, a decimal numeral, and perhaps a fraction or an exponent. -/
structure Number where
  /-- There is a minus sign. -/
  negative : Bool
  /-- The numeral. -/
  digits : List UInt8
  /-- What follows it. -/
  fraction : List UInt8
  /-- The numeral is one. -/
  numeral : Numeral digits
  /-- What follows starts with a point or an exponent. -/
  starts : ∀ c, fraction.head? = some c → c = 0x2E ∨ c = 0x65 ∨ c = 0x45

theorem starts_of_isFraction {fraction : List UInt8} (h : isFraction fraction = true) :
    ∀ c, fraction.head? = some c → c = 0x2E ∨ c = 0x65 ∨ c = 0x45 := by
  intro c hc
  obtain ⟨rest, rfl⟩ := List.head?_eq_some_iff.mp hc
  unfold isFraction at h
  split at h
  case isTrue hpoint => exact Or.inl (Option.some.inj hpoint)
  case isFalse =>
    have hexponent := (Bool.and_eq_true_iff.mp (Bool.and_eq_true_iff.mp h).1).1
    rcases Bool.or_eq_true_iff.mp hexponent with he | hE
    · exact Or.inr (Or.inl (beq_iff_eq.mp he))
    · exact Or.inr (Or.inr (beq_iff_eq.mp hE))

namespace Number

variable (number : Number)

/-- Its text. -/
def text : List UInt8 :=
  (if number.negative then [0x2D] else []) ++ (number.digits ++ number.fraction)

/-- What the numeral is worth with its sign. -/
def value : Int :=
  if number.negative then -(digitsValue 10 number.digits : Int) else digitsValue 10 number.digits

/-- In front of a delimiter the numeral ends where the number says. -/
theorem endsNumeral {rest : List UInt8} (hrest : endsLiteral rest = true) :
    EndsNumeral (number.fraction ++ rest) := by
  intro c hc
  cases hfraction : number.fraction with
  | nil =>
    rw [hfraction, List.nil_append] at hc
    obtain ⟨rest, rfl⟩ := List.head?_eq_some_iff.mp hc
    have hmem := of_decide_eq_true (show isDelimiter c = true from hrest)
    simp only [List.mem_cons, List.not_mem_nil, or_false] at hmem
    rcases hmem with rfl | rfl | rfl | rfl | rfl | rfl | rfl | rfl <;> decide
  | cons d fraction =>
    rw [hfraction] at hc
    obtain rfl := Option.some.inj hc
    rcases number.starts d (by rw [hfraction]; rfl) with rfl | rfl | rfl <;> decide

/-- `sscanf` takes the numeral with its sign. -/
theorem takeInteger_append {anyBase : Bool} {rest : List UInt8}
    (hrest : endsLiteral rest = true) :
    takeInteger anyBase (number.text ++ rest) =
      some (number.negative, digitsValue 10 number.digits) := by
  have hends := number.endsNumeral hrest
  unfold text
  cases number.negative with
  | false =>
    rw [if_neg Bool.false_ne_true, List.nil_append, List.append_assoc]
    exact takeInteger_numeral number.numeral hends
  | true =>
    rw [if_pos rfl, List.cons_append, List.nil_append, List.cons_append, List.append_assoc]
    exact takeInteger_minus_numeral number.numeral hends

/-- Digits and a fraction are a natural number if there is no fraction. -/
theorem natLiteral_append :
    natLiteral (number.digits ++ number.fraction) =
      if number.fraction = [] then some (digitsValue 10 number.digits) else none := by
  unfold natLiteral
  split
  case isTrue hnat =>
    have hnil : number.fraction = [] := by
      by_contra hne
      obtain ⟨c, rest, hcons⟩ := List.exists_cons_of_ne_nil hne
      have hdigit := List.all_eq_true.mp hnat.2.1 c (by simp [hcons])
      rcases number.starts c (by rw [hcons]; rfl) with rfl | rfl | rfl <;> cases hdigit
    rw [if_pos hnil, hnil, List.append_nil]
    refine congrArg some (List.foldl_ext _ _ _ fun value c hc => ?_)
    rw [digitValue_of_isDecimal (number.numeral.decimal c hc)]
    rfl
  case isFalse hnat =>
    refine (if_neg fun hnil => hnat ?_).symm
    rw [hnil, List.append_nil]
    refine ⟨number.numeral.ne_nil, List.all_eq_true.mpr number.numeral.decimal, fun hzero => ?_⟩
    rw [number.numeral.no_leading_zero hzero]
    rfl

/-- A number starts with a minus sign if it says so. -/
theorem head?_text (rest : List UInt8) :
    (number.text ++ rest).head? = some 0x2D ↔ number.negative = true := by
  unfold text
  cases number.negative with
  | true => exact iff_of_true rfl rfl
  | false =>
    obtain ⟨c, digits, hcons⟩ := List.exists_cons_of_ne_nil number.numeral.ne_nil
    have hc := number.numeral.decimal c (by rw [hcons]; exact List.mem_cons_self)
    rw [hcons]
    exact iff_of_false (fun heq => isDecimal_ne hc rfl (Option.some.inj heq)) Bool.false_ne_true

/-- A number is an integer if there is no fraction. -/
theorem intLiteral_text :
    intLiteral number.text = if number.fraction = [] then some number.value else none := by
  have hsign := number.head?_text []
  rw [List.append_nil] at hsign
  unfold intLiteral value
  cases hnegative : number.negative with
  | true =>
    have htext : number.text = 0x2D :: (number.digits ++ number.fraction) := by
      rw [text, hnegative]
      rfl
    rw [if_pos (hsign.mpr hnegative), htext, List.tail_cons, natLiteral_append, if_pos rfl]
    split
    · rfl
    · rfl
  | false =>
    have htext : number.text = number.digits ++ number.fraction := by
      rw [text, hnegative]
      rfl
    rw [if_neg (fun h => Bool.false_ne_true (hnegative.symm.trans (hsign.mp h))), htext,
      natLiteral_append, if_neg Bool.false_ne_true]
    split
    · rfl
    · rfl

end Number

theorem numeral_of_natLiteral {digits : List UInt8} {n : Nat} (h : natLiteral digits = some n) :
    Numeral digits := by
  unfold natLiteral at h
  split at h
  case isFalse => cases h
  case isTrue hnat =>
    obtain ⟨hne, hall, hzero⟩ := hnat
    refine ⟨hne, List.all_eq_true.mp hall, fun hhead => ?_⟩
    obtain ⟨rest, rfl⟩ := List.head?_eq_some_iff.mp hhead
    rw [List.length_eq_zero_iff.mp (Nat.succ.inj (hzero hhead))]

/-- Every number literal is the text of a number. -/
theorem exists_number {text : List UInt8} (h : isNumberLiteral text = true) :
    ∃ number : Number, number.text = text := by
  obtain ⟨hint, hfraction⟩ := Bool.and_eq_true_iff.mp h
  obtain ⟨n, hn⟩ := Option.isSome_iff_exists.mp hint
  have htext := List.takeWhile_append_dropWhile (p := fun c => c == 0x2D || isDigit c) (l := text)
  unfold intLiteral at hn
  split at hn
  case isTrue hsign =>
    obtain ⟨k, hk, -⟩ := Option.map_eq_some_iff.mp hn
    obtain ⟨digits, hdigits⟩ := List.head?_eq_some_iff.mp hsign
    rw [hdigits] at hk htext
    exact ⟨⟨true, digits, _, numeral_of_natLiteral hk, starts_of_isFraction hfraction⟩, htext⟩
  case isFalse =>
    obtain ⟨k, hk, -⟩ := Option.map_eq_some_iff.mp hn
    exact ⟨⟨false, _, _, numeral_of_natLiteral hk, starts_of_isFraction hfraction⟩, htext⟩

/-- An integer is a number. -/
theorem isNumberLiteral_of_intLiteral {text : List UInt8} {n : Int}
    (h : intLiteral text = some n) : isNumberLiteral text = true := by
  have hall : ∀ c ∈ text, (c == 0x2D || isDigit c) = true := by
    intro c hc
    unfold intLiteral at h
    split at h
    case isTrue hsign =>
      obtain ⟨k, hk, -⟩ := Option.map_eq_some_iff.mp h
      obtain ⟨digits, rfl⟩ := List.head?_eq_some_iff.mp hsign
      rcases List.mem_cons.mp hc with rfl | hdigit
      · rfl
      · exact Bool.or_eq_true_iff.mpr (Or.inr ((numeral_of_natLiteral hk).decimal c hdigit))
    case isFalse =>
      obtain ⟨k, hk, -⟩ := Option.map_eq_some_iff.mp h
      exact Bool.or_eq_true_iff.mpr (Or.inr ((numeral_of_natLiteral hk).decimal c hc))
  have htake : text.takeWhile (fun c => c == 0x2D || isDigit c) = text :=
    List.takeWhile_eq_self_iff.mpr hall
  have hdrop : text.dropWhile (fun c => c == 0x2D || isDigit c) = [] :=
    List.dropWhile_eq_nil_iff.mpr hall
  rw [isNumberLiteral, htake, hdrop, h]
  rfl

/-! ## What they do -/

namespace IntegerParser

/-- The variable after a `long` has been stored into it. -/
def narrow (longBits : Nat) (parser : IntegerParser) (negative : Bool) (n : Nat) : Int :=
  match parser with
  | .int32 => (Int32.ofInt (strtol longBits negative n)).toInt
  | .int16 => (Int16.ofInt (strtol longBits negative n)).toInt
  | .int8 => (Int8.ofInt (strtol longBits negative n)).toInt
  | .uint32 => (UInt32.ofNat (strtoul longBits negative n)).toNat
  | .uint16 => (UInt16.ofNat (strtoul longBits negative n)).toNat
  | .uint8 => (UInt8.ofNat (strtoul longBits negative n)).toNat

section
variable {α : Type} {scan : List UInt8 → Option α} {longBits : Nat} {json : List UInt8}
  {tok : JsmnToken}

/-- A signed parser hands on what `sscanf` stores. -/
theorem map_parseNumber {store : Int → α}
    (hscan : ∀ text, scan text = (sscanfSigned longBits text).map store)
    (htype : tok.type = .primitive) (toInt : α → Int) :
    (parseNumber scan json tok).map toInt =
      (takeInteger true (json.drop tok.start)).map fun (negative, n) =>
        toInt (store (strtol longBits negative n)) := by
  rw [parseNumber, if_neg (not_not_intro htype), hscan, sscanfSigned, Option.map_map,
    Option.map_map]
  rfl

/-- So does an unsigned one, if there is no minus sign. -/
theorem map_parseUnsigned {store : Nat → α}
    (hscan : ∀ text, scan text = (sscanfUnsigned longBits text).map store)
    (htype : tok.type = .primitive) (toNat : α → Nat) :
    (parseUnsigned scan json tok).map (fun n => (toNat n : Int)) =
      if (json.drop tok.start).head? = some 0x2D then none
      else (takeInteger false (json.drop tok.start)).map fun (negative, n) =>
        (toNat (store (strtoul longBits negative n)) : Int) := by
  simp only [parseUnsigned, htype, ne_eq, not_true, false_or]
  split
  · rfl
  · rw [hscan, sscanfUnsigned, Option.map_map, Option.map_map]
    rfl

end

/-- A parser stores what `sscanf` takes, cut down to its type. -/
theorem parse_eq {env : ShadowEnv} {longBits : Nat} (hglibc : GlibcScans env longBits)
    (parser : IntegerParser) {json : List UInt8} {tok : JsmnToken}
    (htype : tok.type = .primitive) :
    parser.parse env json tok =
      if parser.signed = false ∧ (json.drop tok.start).head? = some 0x2D then none
      else (takeInteger parser.signed (json.drop tok.start)).map fun (negative, n) =>
        parser.narrow longBits negative n := by
  cases parser with
  | int32 => exact (map_parseNumber hglibc.int32 htype _).trans (if_neg (by simp [signed])).symm
  | int16 => exact (map_parseNumber hglibc.int16 htype _).trans (if_neg (by simp [signed])).symm
  | int8 => exact (map_parseNumber hglibc.int8 htype _).trans (if_neg (by simp [signed])).symm
  | uint32 =>
    simp only [signed, true_and]
    exact map_parseUnsigned hglibc.uint32 htype _
  | uint16 =>
    simp only [signed, true_and]
    exact map_parseUnsigned hglibc.uint16 htype _
  | uint8 =>
    simp only [signed, true_and]
    exact map_parseUnsigned hglibc.uint8 htype _

/-- A value of the type is stored as it is. -/
theorem narrow_of_inRange {longBits : Nat} (hwide : 32 ≤ longBits) (parser : IntegerParser)
    {negative : Bool} {n : Nat} (hsign : parser.signed = false → negative = false)
    (hlow : parser.least ≤ if negative then -(n : Int) else n)
    (hhigh : (if negative then -(n : Int) else n) ≤ parser.greatest) :
    parser.narrow longBits negative n = if negative then -(n : Int) else n := by
  have hlong : (2 : Int) ^ 31 ≤ 2 ^ (longBits - 1) := by
    exact_mod_cast Nat.pow_le_pow_right (show 0 < 2 by decide) (show 31 ≤ longBits - 1 by omega)
  have hulong : 2 ^ 32 ≤ 2 ^ longBits := Nat.pow_le_pow_right (by decide) hwide
  cases parser with
  | int32 =>
    change -2 ^ 31 ≤ _ at hlow
    change _ ≤ 2 ^ 31 - 1 at hhigh
    rw [narrow, strtol_of_fits (by omega) (by omega)]
    exact Int32.toInt_ofInt_of_le hlow (by omega)
  | int16 =>
    change -2 ^ 15 ≤ _ at hlow
    change _ ≤ 2 ^ 15 - 1 at hhigh
    rw [narrow, strtol_of_fits (by omega) (by omega)]
    exact Int16.toInt_ofInt_of_le hlow (by omega)
  | int8 =>
    change -2 ^ 7 ≤ _ at hlow
    change _ ≤ 2 ^ 7 - 1 at hhigh
    rw [narrow, strtol_of_fits (by omega) (by omega)]
    exact Int8.toInt_ofInt_of_le hlow (by omega)
  | uint32 =>
    obtain rfl := hsign rfl
    change (n : Int) ≤ 2 ^ 32 - 1 at hhigh
    rw [narrow, strtoul_of_fits (by omega), UInt32.toNat_ofNat_of_lt' (show n < 2 ^ 32 by omega)]
    rfl
  | uint16 =>
    obtain rfl := hsign rfl
    change (n : Int) ≤ 2 ^ 16 - 1 at hhigh
    rw [narrow, strtoul_of_fits (by omega), UInt16.toNat_ofNat_of_lt' (show n < 2 ^ 16 by omega)]
    rfl
  | uint8 =>
    obtain rfl := hsign rfl
    change (n : Int) ≤ 2 ^ 8 - 1 at hhigh
    rw [narrow, strtoul_of_fits (by omega), UInt8.toNat_ofNat_of_lt' (show n < 2 ^ 8 by omega)]
    rfl

/-- The condition on the text of a primitive under which a parser does what it should: a
number that an unsigned parser is given with a minus sign is not `-0`, and any other is an
integer of the type. -/
def CanRead (parser : IntegerParser) (text : List UInt8) : Prop :=
  isNumberLiteral text = true →
    if parser.signed = false ∧ text.head? = some 0x2D then text ≠ ascii "-0"
    else ∃ n, parser.value text = some n

section
variable {env : ShadowEnv} {longBits : Nat} {json : List UInt8} {tok : JsmnToken}

/-- A word of JSON is no integer, and no parser takes it for one. -/
theorem exact_of_word (hglibc : GlibcScans env longBits) (parser : IntegerParser)
    (htok : IsPrimitive json tok) (hword : isNumberLiteral (tokenText json tok) = false) (i : Int) :
    parser.Exact env json tok i := by
  have hvalue : parser.value (tokenText json tok) = none := by
    cases hint : intLiteral (tokenText json tok) with
    | none => rw [value, hint]; rfl
    | some n =>
      rw [isNumberLiteral_of_intLiteral hint] at hword
      cases hword
  have hnone : parser.parse env json tok = none := by
    have hliteral := htok.literal
    rw [isPrimitiveLiteral, hword, Bool.false_or, Bool.or_eq_true, Bool.or_eq_true, beq_iff_eq,
      beq_iff_eq, beq_iff_eq] at hliteral
    rw [parse_eq hglibc parser htok.type, htok.drop_start]
    split
    · rfl
    rcases hliteral with (htrue | hfalse) | hnull
    · rw [htrue]
      exact congrArg (Option.map _) (takeInteger_eq_none rfl (by decide) (by decide) rfl)
    · rw [hfalse]
      exact congrArg (Option.map _) (takeInteger_eq_none rfl (by decide) (by decide) rfl)
    · rw [hnull]
      exact congrArg (Option.map _) (takeInteger_eq_none rfl (by decide) (by decide) rfl)
  have hcall : parser.call env json tok i = (.jsonParseError, i) := by rw [call, hnone]
  refine ⟨?_, ?_, ?_⟩
  · rw [hcall, hvalue]
    exact iff_of_false (by simp) (by simp)
  · rw [hvalue]
    exact fun n hn => by cases hn
  · rw [hcall]
    exact fun _ => rfl

/-- What a parser makes of a number. -/
theorem parse_number (hglibc : GlibcScans env longBits) (parser : IntegerParser)
    (htok : IsPrimitive json tok) {number : Number} (hnumber : number.text = tokenText json tok) :
    parser.parse env json tok =
      if parser.signed = false ∧ number.negative = true then none
      else some (parser.narrow longBits number.negative (digitsValue 10 number.digits)) := by
  rw [parse_eq hglibc parser htok.type, htok.drop_start, ← hnumber,
    number.takeInteger_append htok.delimited]
  simp only [number.head?_text]
  rfl

/-- An unsigned parser refuses every number with a minus sign, and so errs on `-0` only. -/
theorem exact_of_minus (hglibc : GlibcScans env longBits) (parser : IntegerParser)
    (htok : IsPrimitive json tok) {number : Number} (hnumber : number.text = tokenText json tok)
    (hunsigned : parser.signed = false) (hminus : number.negative = true) (i : Int) :
    parser.Exact env json tok i ↔ tokenText json tok ≠ ascii "-0" := by
  have hnone : parser.parse env json tok = none :=
    (parse_number hglibc parser htok hnumber).trans (if_pos ⟨hunsigned, hminus⟩)
  have hcall : parser.call env json tok i = (.jsonParseError, i) := by rw [call, hnone]
  constructor
  · intro hexact hzero
    have hvalue : parser.value (tokenText json tok) = some 0 := by
      rw [hzero]
      cases parser with
      | int32 | int16 | int8 => cases hunsigned
      | uint32 | uint16 | uint8 => decide
    have hsuccess := hexact.success_iff.mpr ⟨0, hvalue⟩
    rw [hcall] at hsuccess
    cases hsuccess
  · intro hne
    have hvalue : parser.value (tokenText json tok) = none := by
      refine Option.eq_none_iff_forall_not_mem.mpr fun n hn => hne ?_
      obtain ⟨hint, hrange⟩ := Option.filter_eq_some_iff.mp hn
      have hlow := (of_decide_eq_true hrange).1
      rw [← hnumber, number.intLiteral_text] at hint
      split at hint
      case isFalse => cases hint
      case isTrue hfraction =>
        rw [least, if_neg (by rw [hunsigned]; exact Bool.false_ne_true),
          ← Option.some.inj hint, Number.value, if_pos hminus] at hlow
        have hzero := number.numeral.eq_zero (by omega)
        rw [← hnumber, Number.text, hminus, hzero, hfraction]
        rfl
    refine ⟨?_, ?_, ?_⟩
    · rw [hcall, hvalue]
      exact iff_of_false (by simp) (by simp)
    · rw [hvalue]
      exact fun n hn => by cases hn
    · rw [hcall]
      exact fun _ => rfl

/-- Any other number is converted, and so has to be an integer of the type. -/
theorem exact_of_converted (hglibc : GlibcScans env longBits) (parser : IntegerParser)
    (htok : IsPrimitive json tok) {number : Number} (hnumber : number.text = tokenText json tok)
    (hsign : parser.signed = false → number.negative = false) (i : Int) :
    parser.Exact env json tok i ↔ ∃ n, parser.value (tokenText json tok) = some n := by
  have hsome : parser.parse env json tok =
      some (parser.narrow longBits number.negative (digitsValue 10 number.digits)) := by
    refine (parse_number hglibc parser htok hnumber).trans (if_neg ?_)
    rintro ⟨hunsigned, hminus⟩
    rw [hsign hunsigned] at hminus
    cases hminus
  have hcall : parser.call env json tok i = (.success,
      parser.narrow longBits number.negative (digitsValue 10 number.digits)) := by
    rw [call, hsome]
  constructor
  · intro hexact
    exact hexact.success_iff.mp (by rw [hcall])
  · intro hvalue
    refine ⟨?_, ?_, ?_⟩
    · rw [hcall]
      exact iff_of_true rfl hvalue
    · intro n hn
      rw [hcall]
      obtain ⟨hint, hrange⟩ := Option.filter_eq_some_iff.mp hn
      have hrange := of_decide_eq_true hrange
      rw [← hnumber, number.intLiteral_text] at hint
      split at hint
      case isFalse => cases hint
      case isTrue =>
        have hn : number.value = n := Option.some.inj hint
        rw [← hn] at hrange ⊢
        exact narrow_of_inRange hglibc.wide parser hsign hrange.1 hrange.2
    · rw [hcall]
      exact fun hfail => absurd rfl hfail

/-- A parser does what it should with a primitive of a JSON text, whatever the variable holds
before, if and only if it can read the text of the primitive. -/
theorem exact_iff_canRead (env : ShadowEnv) (longBits : Nat) (hglibc : GlibcScans env longBits)
    (parser : IntegerParser) (json : List UInt8) (tok : JsmnToken) (htok : IsPrimitive json tok)
    (i : Int) : parser.Exact env json tok i ↔ parser.CanRead (tokenText json tok) := by
  unfold CanRead
  cases hliteral : isNumberLiteral (tokenText json tok) with
  | false =>
    exact iff_of_true (exact_of_word hglibc parser htok hliteral i)
      fun h => absurd h Bool.false_ne_true
  | true =>
    obtain ⟨number, hnumber⟩ := exists_number hliteral
    have hsign := number.head?_text []
    rw [List.append_nil, hnumber] at hsign
    simp only [hsign, forall_const]
    split
    case isTrue hminus =>
      exact exact_of_minus hglibc parser htok hnumber hminus.1 hminus.2 i
    case isFalse hother =>
      refine exact_of_converted hglibc parser htok hnumber (fun hunsigned => ?_) i
      exact Bool.eq_false_iff.mpr fun hminus => hother ⟨hunsigned, hminus⟩

end

/-! ### A document -/

/-- Quiet surroundings with the `sscanf` of glibc on a machine whose `long` has 64 bits. -/
def glibcShadowEnv : ShadowEnv :=
  { quietShadowEnv fun _ => ⟨none, []⟩ with
    scanInt32 := fun text => (sscanfSigned 64 text).map Int32.ofInt
    scanInt16 := fun text => (sscanfSigned 64 text).map Int16.ofInt
    scanInt8 := fun text => (sscanfSigned 64 text).map Int8.ofInt
    scanUint32 := fun text => (sscanfUnsigned 64 text).map UInt32.ofNat
    scanUint16 := fun text => (sscanfUnsigned 64 text).map UInt16.ofNat
    scanUint8 := fun text => (sscanfUnsigned 64 text).map UInt8.ofNat }

theorem glibcShadowEnv_scans : GlibcScans glibcShadowEnv 64 :=
  ⟨by decide, fun _ => rfl, fun _ => rfl, fun _ => rfl, fun _ => rfl, fun _ => rfl, fun _ => rfl⟩

/-- A document with the member "a". -/
def memberDocument (text : String) : List UInt8 :=
  ascii "\x7b\"a\":" ++ ascii text ++ ascii "\x7d"

/-- The token of its value. -/
def memberToken (text : String) : JsmnToken := ⟨.primitive, 5, 5 + (ascii text).length⟩

/-- The 8-bit parser does what it should with the value -17. -/
theorem exact_seventeen :
    IntegerParser.int8.Exact glibcShadowEnv (memberDocument "-17") (memberToken "-17") 0 :=
  (exact_iff_canRead glibcShadowEnv 64 glibcShadowEnv_scans .int8 (memberDocument "-17")
    (memberToken "-17") ⟨rfl, by decide, by decide, by decide⟩ 0).mpr fun _ => by
      rw [if_neg (by decide)]
      exact ⟨-17, by decide⟩

/-- The 8-bit parser stores 44 for 300, the signed 32-bit parser 1 for 1.5, and the unsigned
32-bit parser fails on -0. -/
theorem not_every_integer_exact :
    (IntegerParser.uint8.call glibcShadowEnv (memberDocument "300") (memberToken "300") 0 =
        (.success, 44) ∧
      ¬ IntegerParser.uint8.Exact glibcShadowEnv (memberDocument "300") (memberToken "300") 0) ∧
    (IntegerParser.int32.call glibcShadowEnv (memberDocument "1.5") (memberToken "1.5") 0 =
        (.success, 1) ∧
      ¬ IntegerParser.int32.Exact glibcShadowEnv (memberDocument "1.5") (memberToken "1.5") 0) ∧
    (IntegerParser.uint32.call glibcShadowEnv (memberDocument "-0") (memberToken "-0") 7 =
        (.jsonParseError, 7) ∧
      ¬ IntegerParser.uint32.Exact glibcShadowEnv (memberDocument "-0") (memberToken "-0") 7) := by
  have h300 : IntegerParser.uint8.value
      (tokenText (memberDocument "300") (memberToken "300")) = none := by decide
  have h15 : IntegerParser.int32.value
      (tokenText (memberDocument "1.5") (memberToken "1.5")) = none := by decide
  have h0 : IntegerParser.uint32.value
      (tokenText (memberDocument "-0") (memberToken "-0")) = some 0 := by decide
  refine ⟨⟨by decide, fun exact300 => ?_⟩, ⟨by decide, fun exact15 => ?_⟩,
    by decide, fun exact0 => ?_⟩
  · obtain ⟨n, hn⟩ := exact300.success_iff.mp (by decide)
    rw [h300] at hn
    cases hn
  · obtain ⟨n, hn⟩ := exact15.success_iff.mp (by decide)
    rw [h15] at hn
    cases hn
  · exact absurd (exact0.success_iff.mpr ⟨0, h0⟩) (by decide)

end IntegerParser

/-! ## A delta -/

/-- The integer in a variable. -/
def ShadowData.integer? : ShadowData → Option Int
  | .int32 n => some n.toInt
  | .int16 n => some n.toInt
  | .int8 n => some n.toInt
  | .uint32 n => some n.toNat
  | .uint16 n => some n.toNat
  | .uint8 n => some n.toNat
  | _ => none

/-- What a delta does to the variable of a key is what the parser of its type does. -/
theorem updateValueIfNoObject_call (env : ShadowEnv) (parser : IntegerParser)
    (json : List UInt8) (tok : JsmnToken) {pData : ShadowData} {i : Int}
    (hdata : pData.integer? = some i) :
    (updateValueIfNoObject env json parser.type pData tok).1 = (parser.call env json tok i).1 ∧
      (updateValueIfNoObject env json parser.type pData tok).2.integer? =
        some (parser.call env json tok i).2 := by
  cases parser with
  | int32 =>
    simp only [updateValueIfNoObject, IntegerParser.call, IntegerParser.parse, IntegerParser.type]
    cases parseInteger32Value env json tok with
    | none => exact ⟨rfl, hdata⟩
    | some n => exact ⟨rfl, rfl⟩
  | int16 =>
    simp only [updateValueIfNoObject, IntegerParser.call, IntegerParser.parse, IntegerParser.type]
    cases parseInteger16Value env json tok with
    | none => exact ⟨rfl, hdata⟩
    | some n => exact ⟨rfl, rfl⟩
  | int8 =>
    simp only [updateValueIfNoObject, IntegerParser.call, IntegerParser.parse, IntegerParser.type]
    cases parseInteger8Value env json tok with
    | none => exact ⟨rfl, hdata⟩
    | some n => exact ⟨rfl, rfl⟩
  | uint32 =>
    simp only [updateValueIfNoObject, IntegerParser.call, IntegerParser.parse, IntegerParser.type]
    cases parseUnsignedInteger32Value env json tok with
    | none => exact ⟨rfl, hdata⟩
    | some n => exact ⟨rfl, rfl⟩
  | uint16 =>
    simp only [updateValueIfNoObject, IntegerParser.call, IntegerParser.parse, IntegerParser.type]
    cases parseUnsignedInteger16Value env json tok with
    | none => exact ⟨rfl, hdata⟩
    | some n => exact ⟨rfl, rfl⟩
  | uint8 =>
    simp only [updateValueIfNoObject, IntegerParser.call, IntegerParser.parse, IntegerParser.type]
    cases parseUnsignedInteger8Value env json tok with
    | none => exact ⟨rfl, hdata⟩
    | some n => exact ⟨rfl, rfl⟩

end AwsIot.Shadow
