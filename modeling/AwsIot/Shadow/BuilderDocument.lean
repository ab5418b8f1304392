/-
  Shadow/BuilderDocument.lean --- the document that the builder makes.

  Every section that is added leaves a comma behind it, which the brace of what comes next
  takes the place of.  So the invariant of a document in the making is that without its last
  character it is the start of an object with the members so far.
-/
import AwsIot.Foundation.JsonText
import AwsIot.Shadow.BuilderMembers
import AwsIot.Shadow.Document

set_option autoImplicit false

namespace AwsIot.Shadow

open AwsIot.Foundation AwsIot.Mqtt Program

/-! ## Values -/

/-- A primitive value of JSON, as far as the builder prints one that can be read back. -/
inductive JsonPrimitive where
  | number (n : Int)
  | bool (value : Bool)
  deriving DecidableEq

/-- The text of a primitive value. -/
def readsPrimitive (text : List UInt8) : JsonPrimitive → Prop
  | .number n => intLiteral text = some n
  | .bool value => text = if value then ascii "true" else ascii "false"

/-- Integers, truth values and strings without a character that needs an escape. -/
inductive PlainData where
  | int32 (value : Int32)
  | int16 (value : Int16)
  | int8 (value : Int8)
  | uint32 (value : UInt32)
  | uint16 (value : UInt16)
  | uint8 (value : UInt8)
  | bool (value : Bool)
  | string (value : CString) (plain : value.bytes.all isPlain = true)

/-- What the builder is given for it. -/
def PlainData.toMemberData : PlainData → MemberData
  | .int32 value => .int32 value
  | .int16 value => .int16 value
  | .int8 value => .int8 value
  | .uint32 value => .uint32 value
  | .uint16 value => .uint16 value
  | .uint8 value => .uint8 value
  | .bool value => .bool value
  | .string value _ => .string value

/-- What is to be read back. -/
def PlainData.value : PlainData → JsonValue JsonPrimitive
  | .int32 value => .primitive (.number value.toInt)
  | .int16 value => .primitive (.number value.toInt)
  | .int8 value => .primitive (.number value.toInt)
  | .uint32 value => .primitive (.number value.toNat)
  | .uint16 value => .primitive (.number value.toNat)
  | .uint8 value => .primitive (.number value.toNat)
  | .bool value => .primitive (.bool value)
  | .string value _ => .string value.bytes

/-- A member whose key needs no escape. -/
structure PlainMember where
  /-- The key. -/
  key : CString
  /-- It stands for itself. -/
  plain : key.bytes.all isPlain = true
  /-- The value. -/
  data : PlainData

/-- What the builder is given for it. -/
def PlainMember.member (m : PlainMember) : CString × MemberData := (m.key, m.data.toMemberData)

/-- What is to be read back. -/
def PlainMember.value (m : PlainMember) : List UInt8 × JsonValue JsonPrimitive :=
  (m.key.bytes, m.data.value)

/-! ## Numbers -/

theorem natLiteral_digits (n : Nat) : natLiteral (CString.digits n) = some n := by
  have hdigits : (CString.digits n).all isDigit = true := by
    rw [List.all_eq_true]
    intro c hc
    obtain ⟨hlow, hhigh⟩ := CString.mem_digits hc
    rw [isDigit, Bool.and_eq_true, decide_eq_true_eq, decide_eq_true_eq, UInt8.le_iff_toNat_le,
      UInt8.le_iff_toNat_le]
    exact ⟨hlow, hhigh⟩
  have hzero : (CString.digits n).head? = some 0x30 → (CString.digits n).length = 1 := by
    intro h
    rw [CString.head?_digits h]
    decide
  rw [natLiteral, if_pos ⟨CString.digits_ne_nil n, hdigits, hzero⟩, CString.foldl_digits]

theorem head?_digits_ne_minus (n : Nat) : (CString.digits n).head? ≠ some 0x2D := by
  intro h
  have hmem := CString.mem_digits (List.mem_of_mem_head? h)
  exact absurd hmem.1 (by decide)

/-- What `%d` prints is read back. -/
theorem intLiteral_ofInt (n : Int) : intLiteral (CString.ofInt n).bytes = some n := by
  unfold intLiteral
  rcases Int.lt_or_le n 0 with hneg | hnonneg
  · rw [CString.bytes_ofInt_of_neg hneg, if_pos List.head?_cons, List.tail_cons, natLiteral_digits,
      Option.map_some, Option.some_inj]
    omega
  · rw [CString.bytes_ofInt_of_nonneg hnonneg, if_neg (head?_digits_ne_minus _),
      natLiteral_digits, Option.map_some, Option.some_inj]
    omega

/-- What `%u` prints is read back. -/
theorem intLiteral_ofNat (n : Nat) : intLiteral (CString.ofNat n).bytes = some (n : Int) :=
  intLiteral_ofInt n

variable (env : BuilderEnv)

/-- A value is printed with a comma behind it, and is read back. -/
theorem PlainData.printed_reads (data : PlainData) : ∃ text s,
    data.toMemberData.printed env = some s ∧ s.bytes = text ++ [0x2C] ∧
      Reads readsPrimitive text data.value := by
  cases data with
  | int32 value => exact ⟨_, _, rfl, rfl, .primitive (intLiteral_ofInt _)⟩
  | int16 value => exact ⟨_, _, rfl, rfl, .primitive (intLiteral_ofInt _)⟩
  | int8 value => exact ⟨_, _, rfl, rfl, .primitive (intLiteral_ofInt _)⟩
  | uint32 value => exact ⟨_, _, rfl, rfl, .primitive (intLiteral_ofNat _)⟩
  | uint16 value => exact ⟨_, _, rfl, rfl, .primitive (intLiteral_ofNat _)⟩
  | uint8 value => exact ⟨_, _, rfl, rfl, .primitive (intLiteral_ofNat _)⟩
  | bool value => cases value <;> exact ⟨_, _, rfl, rfl, .primitive rfl⟩
  | string value plain =>
    refine ⟨quoted value.bytes, _, rfl, ?_, .string plain⟩
    show 0x22 :: value.bytes ++ [0x22, 0x2C] = quoted value.bytes ++ [0x2C]
    simp [quoted]

/-! ## Members -/

/-- A member is printed with a comma behind it. -/
theorem PlainMember.printed_reads (m : PlainMember) : ∃ text,
    (memberText env (given m.member)).bytes = text ++ [0x2C] ∧
      ReadsMember readsPrimitive text m.value := by
  obtain ⟨text, s, hprinted, hbytes, hreads⟩ := m.data.printed_reads env
  have hmember : memberText env (given m.member) = keyText env (some m.key) ++ s := by
    rw [memberText, given, Option.bind_some, PlainMember.member, hprinted]
  refine ⟨quoted m.key.bytes ++ 0x3A :: text, ?_, .of_value m.plain hreads⟩
  rw [hmember, CString.bytes_append, hbytes]
  show 0x22 :: m.key.bytes ++ [0x22, 0x3A] ++ (text ++ [0x2C]) = _
  simp [quoted]

/-- The members of a section are the members of an object, with a comma behind them. -/
theorem membersText_reads : ∀ members : List PlainMember, members ≠ [] → ∃ text,
    (membersText env (members.map fun m => given m.member)).bytes = text ++ [0x2C] ∧
      ReadsMembers readsPrimitive text (members.map PlainMember.value) := by
  intro members
  induction members with
  | nil => exact fun h => absurd rfl h
  | cons m members ih =>
    intro _
    obtain ⟨first, hfirst, hreads⟩ := m.printed_reads env
    have htext : membersText env ((m :: members).map fun m => given m.member) =
        memberText env (given m.member) ++
          membersText env (members.map fun m => given m.member) := rfl
    rw [htext, CString.bytes_append, hfirst]
    cases members with
    | nil => exact ⟨first, List.append_nil _, .one hreads⟩
    | cons second members =>
      obtain ⟨rest, hrest, hreads'⟩ := ih (List.cons_ne_nil _ _)
      refine ⟨first ++ 0x2C :: rest, ?_, .cons hreads hreads'⟩
      rw [hrest]
      simp

/-! ## Sections -/

/-- What is to be added with one call. -/
structure PlainSection where
  /-- Which section it is. -/
  part : Section
  /-- The members. -/
  members : List PlainMember
  /-- There is one, and the counter of the loop can count them. -/
  count : 1 ≤ members.length ∧ members.length ≤ 127

/-- The name of a section. -/
def Section.name : Section → List UInt8
  | .desired => ascii "desired"
  | .reported => ascii "reported"

/-- What the builder is given. -/
def PlainSection.given (s : PlainSection) : List (CString × MemberData) :=
  s.members.map PlainMember.member

/-- What is to be read back. -/
def PlainSection.value (s : PlainSection) : List UInt8 × JsonValue JsonPrimitive :=
  (s.part.name, .object (s.members.map PlainMember.value))

/-- The document with a section more, the comma behind it included. -/
def withSection (env : BuilderEnv) (t : CString) (s : PlainSection) : CString :=
  closeText (t ++ sectionText env s.part s.given)

/-- Closing a section puts a brace in the place of the last character. -/
theorem bytes_closeText {t : CString} {text : List UInt8} {c : UInt8}
    (h : t.bytes = text ++ [c]) : (closeText t).bytes = text ++ [0x7D, 0x2C] := by
  have hlength : t.length - 1 = text.length := by
    rw [CString.length, h, List.length_append]
    rfl
  rw [closeText, CString.bytes_append, CString.bytes_take, hlength, h, List.take_left]
  rfl

/-- A section is a member of an object, with a comma behind it. -/
theorem withSection_reads (t : CString) (s : PlainSection) : ∃ text,
    (withSection env t s).bytes = t.bytes ++ text ++ [0x2C] ∧
      ReadsMember readsPrimitive text s.value := by
  obtain ⟨text, htext, hreads⟩ := membersText_reads env s.members
    (List.ne_nil_of_length_pos s.count.1)
  have hgiven : s.given.map AwsIot.Shadow.given = s.members.map fun m =>
      AwsIot.Shadow.given m.member := List.map_map
  have hname : s.part.name.all isPlain = true := by cases s.part <;> decide
  have hopening : s.part.opening.bytes = quoted s.part.name ++ [0x3A, 0x7B] := by
    cases s.part <;> decide
  refine ⟨quoted s.part.name ++ 0x3A :: (0x7B :: (text ++ [0x7D])), ?_,
    .of_value hname (.object hreads)⟩
  have hbytes : (t ++ sectionText env s.part s.given).bytes =
      (t.bytes ++ (s.part.opening.bytes ++ text)) ++ [0x2C] := by
    rw [CString.bytes_append, sectionText, CString.bytes_append, hgiven, htext]
    simp
  rw [withSection, bytes_closeText hbytes, hopening]
  simp

/-! ## The document -/

/-- The document that is asked for, with the client token of a number. -/
def documentText (env : BuilderEnv) (clientTokenNum : UInt32) (sections : List PlainSection) :
    CString :=
  let t := sections.foldl (withSection env) stateOpening
  t.take (t.length - 1) ++ tokenOpening ++ clientToken env clientTokenNum ++ cString "\"\x7d" noNul_ending

/-- What is to be read back. -/
def documentValue (env : BuilderEnv) (clientTokenNum : UInt32) (sections : List PlainSection) :
    JsonValue JsonPrimitive :=
  .object [(ascii "state", .object (sections.map PlainSection.value)),
    (shadowClientTokenString, .string (clientToken env clientTokenNum).bytes)]

/-- The sections so far are members of an object, with a comma behind them. -/
def Carries (t : CString) (values : List (List UInt8 × JsonValue JsonPrimitive)) : Prop :=
  ∃ text, t.bytes = stateOpening.bytes ++ text ++ [0x2C] ∧
    ReadsMembers readsPrimitive text values ∧ values ≠ []

theorem carries_first (s : PlainSection) : Carries (withSection env stateOpening s) [s.value] := by
  obtain ⟨text, htext, hreads⟩ := withSection_reads env stateOpening s
  exact ⟨text, htext, .one hreads, List.cons_ne_nil _ _⟩

theorem Carries.withSection {t : CString} {values : List (List UInt8 × JsonValue JsonPrimitive)}
    (h : Carries t values) (s : PlainSection) :
    Carries (withSection env t s) (values ++ [s.value]) := by
  obtain ⟨text, htext, hreads, hne⟩ := h
  obtain ⟨last, hlast, hread⟩ := withSection_reads env t s
  refine ⟨text ++ 0x2C :: last, ?_, hreads.snoc hread hne, by simp⟩
  rw [hlast, htext]
  simp

theorem Carries.foldl {t : CString} {values : List (List UInt8 × JsonValue JsonPrimitive)}
    (h : Carries t values) (sections : List PlainSection) :
    Carries (sections.foldl (AwsIot.Shadow.withSection env) t)
      (values ++ sections.map PlainSection.value) := by
  induction sections generalizing t values with
  | nil => rwa [List.map_nil, List.append_nil]
  | cons s sections ih =>
    have hrest := ih (h.withSection env s)
    rwa [List.append_assoc] at hrest

/-- What `%d` prints needs no escape. -/
theorem isPlain_of_mem_decimal {n : UInt32} {c : UInt8} (h : c ∈ decimal n) :
    isPlain c = true := by
  have hdigit {k : Nat} (hc : c ∈ CString.digits k) : isPlain c = true := by
    obtain ⟨hlow, hhigh⟩ := CString.mem_digits hc
    have hquote : c ≠ 0x22 := by
      rintro rfl
      exact absurd hlow (by decide)
    have hescape : c ≠ 0x5C := by
      rintro rfl
      exact absurd hhigh (by decide)
    have hspace : 0x20 ≤ c.toNat := Nat.le_trans (by decide) hlow
    simp [isPlain, hquote, hescape, hspace]
  unfold decimal at h
  split at h
  · exact hdigit h
  · rcases List.mem_cons.mp h with rfl | h
    · decide
    · exact hdigit h

variable {env}

/-- A client token needs no escape if the client id does not. -/
theorem all_isPlain_clientToken (hid : env.mqttClientID.bytes.all isPlain = true)
    (n : UInt32) : (clientToken env n).bytes.all isPlain = true := by
  rw [List.all_eq_true]
  intro c hc
  rw [clientToken, CString.bytes_append, CString.bytes_append] at hc
  rcases List.mem_append.mp hc with hc | hc
  · rcases List.mem_append.mp hc with hc | hc
    · exact List.all_eq_true.mp hid c hc
    · obtain rfl := List.mem_singleton.mp hc
      decide
  · exact isPlain_of_mem_decimal hc

/-- The document is read back. -/
theorem documentText_reads (hid : env.mqttClientID.bytes.all isPlain = true) (n : UInt32)
    {sections : List PlainSection} (hne : sections ≠ []) :
    Reads readsPrimitive (documentText env n sections).bytes (documentValue env n sections) := by
  obtain ⟨s, sections, rfl⟩ := List.exists_cons_of_ne_nil hne
  obtain ⟨text, htext, hreads, -⟩ := (carries_first env s).foldl env sections
  have hlength : ((s :: sections).foldl (withSection env) stateOpening).length - 1 =
      (stateOpening.bytes ++ text).length := by
    rw [List.foldl_cons, CString.length, htext, List.length_append]
    rfl
  have hbytes : (documentText env n (s :: sections)).bytes =
      0x7B :: ((quoted (ascii "state") ++ 0x3A :: (0x7B :: (text ++ [0x7D]))) ++
        0x2C :: ([0x20] ++ quoted shadowClientTokenString ++
          0x3A :: quoted (clientToken env n).bytes) ++ [0x7D]) := by
    have htaken : (((s :: sections).foldl (withSection env) stateOpening).take
        (stateOpening.bytes ++ text).length).bytes = stateOpening.bytes ++ text := by
      rw [CString.bytes_take, List.foldl_cons, htext, List.take_left]
    rw [documentText, hlength]
    simp only [CString.bytes_append, htaken]
    have hopening : stateOpening.bytes = 0x7B :: (quoted (ascii "state") ++ [0x3A, 0x7B]) := by
      decide
    have htoken : tokenOpening.bytes =
        [0x7D, 0x2C, 0x20] ++ quoted shadowClientTokenString ++ [0x3A, 0x22] := by decide
    have hclose : (cString "\"\x7d").bytes = [0x22, 0x7D] := by decide
    rw [hopening, htoken, hclose]
    simp [quoted]
  rw [hbytes]
  exact .object (.cons (.of_value (by decide) (.object hreads))
    (.one (.mk (by decide) (by decide) (.string (all_isPlain_clientToken hid n)))))

/-! ## The calls -/

/-- Calls of `aws_iot_shadow_add_desired` and `aws_iot_shadow_add_reported`, and what they
return. -/
def addSections (env : BuilderEnv) (max : Nat) : List PlainSection → Program Draft (List IoTError)
  | [] => return []
  | s :: sections => do
      let rc ← addSection env s.part max (UInt8.ofNat s.members.length)
        (s.given.map fun m => some (given m))
      let rcs ← addSections env max sections
      return rc :: rcs

/-- A document is begun, sections are added and it is finalized; what the calls return. -/
def buildDocument (env : BuilderEnv) (max : Nat) (sections : List PlainSection) :
    Program Draft (List IoTError) := do
  let first ← initJsonDocument max
  let rcs ← addSections env max sections
  let last ← finalizeJsonDocument env max
  return first :: (rcs ++ [last])

theorem length_withSection (env : BuilderEnv) (t : CString) (s : PlainSection) :
    (withSection env t s).length = t.length + (sectionText env s.part s.given).length + 1 := by
  have hopening := s.part.length_opening_bounds.1
  have hclose : (cString "\x7d,").length = 2 := by decide
  rw [withSection, closeText, CString.length_append, CString.length_take, CString.length_append,
    sectionText, CString.length_append]
  omega

theorem length_le_foldl (env : BuilderEnv) (sections : List PlainSection) : ∀ t : CString,
    t.length ≤ (sections.foldl (withSection env) t).length := by
  induction sections with
  | nil => exact fun t => Nat.le_refl _
  | cons s sections ih =>
    intro t
    refine Nat.le_trans ?_ (ih (withSection env t s))
    rw [length_withSection]
    omega

/-- Sections that fit are added. -/
theorem addSections_ends {max : Nat} (hmax : max < 2 ^ env.sizeBits) :
    ∀ (sections : List PlainSection) (d : Draft),
      (sections.foldl (withSection env) d.buffer.text).length + 1 ≤ max →
      (∀ s ∈ sections, ∀ m ∈ s.given, (given m).Printable env) →
      (addSections env max sections).Ends d (fun rcs d' =>
        rcs = List.replicate sections.length .success ∧
        d'.buffer.text = sections.foldl (withSection env) d.buffer.text ∧
        d'.clientTokenNum = d.clientTokenNum) (fun _ => False) := by
  intro sections
  induction sections with
  | nil => exact fun d _ _ => ⟨rfl, rfl, rfl⟩
  | cons s sections ih =>
    intro d hroom hprintable
    have hlength := length_withSection env d.buffer.text s
    have hfit := length_le_foldl env sections (withSection env d.buffer.text s)
    rw [List.foldl_cons] at hroom
    have hsmall : (UInt8.ofNat s.members.length).toNat = s.members.length :=
      UInt8.toNat_ofNat_of_lt (Nat.lt_of_le_of_lt s.count.2 (by decide))
    have hcount : s.given.length = (UInt8.ofNat s.members.length).toNat := by
      rw [hsmall]
      exact List.length_map _
    have hlarge : LargeEnough env s.part max s.given d :=
      ⟨by omega, hmax, hprintable s List.mem_cons_self⟩
    rw [addSections, ends_bind, ends_addSection hcount hlarge, hsmall, if_pos s.count.2, ends_bind]
    refine (ih ((d.append (sectionText env s.part s.given)).read s.given.length).close hroom
      fun s' hs' => hprintable s' (List.mem_cons_of_mem _ hs')).mono ?_ fun _ h => h
    rintro rcs d' ⟨rfl, htext, hnum⟩
    exact ⟨rfl, htext, hnum⟩

theorem closeDocument_ends {max : Nat} {d : Draft} (hmax : max < 2 ^ env.sizeBits)
    (hroom : d.buffer.text.length + 2 < max) :
    (closeDocument env max).Ends d (fun rc d' => rc = .success ∧
      d'.buffer.text = d.buffer.text ++ cString "\"\x7d") (fun _ => False) := by
  have hclose : (cString "\"\x7d").length = 2 := by decide
  rw [closeDocument, ends_bind, ends_strlen, remSizeOfJsonBuffer_of_le (by omega) hmax,
    if_neg (by omega), ends_bind, ends_strlen,
    ends_of_run_eq (run_snprintfChecked (by omega) (by omega))]
  exact ⟨rfl, rfl⟩

theorem finalizeToken_ends {max : Nat} {d : Draft} (hmax : max < 2 ^ env.sizeBits)
    (hroom : d.buffer.text.length + (clientToken env d.clientTokenNum).length + 2 < max)
    (hint : (clientToken env d.clientTokenNum).length < 2 ^ 31) :
    (finalizeToken env max).Ends d (fun rc d' => rc = .success ∧
      d'.buffer.text = d.buffer.text ++ clientToken env d.clientTokenNum ++ cString "\"\x7d")
      (fun _ => False) := by
  have hcheck : checkReturnValueOfSnPrintf (printResult (clientToken env d.clientTokenNum))
      (max - d.buffer.text.length) = .success :=
    check_printResult_iff.mpr ⟨by omega, hint⟩
  have htext : (d.buffer.print d.buffer.text.length (max - d.buffer.text.length)
      (clientToken env d.clientTokenNum)).text =
        d.buffer.text ++ clientToken env d.clientTokenNum :=
    TextBuffer.text_print_length (check_printResult_iff.mp hcheck).1
  rw [finalizeToken, ends_bind, ends_strlen, remSizeOfJsonBuffer_of_le (by omega) hmax,
    if_neg (by omega), ends_bind, ends_strlen, ends_bind, ends_fillWithClientTokenSize, hcheck,
    if_neg (by simp), ← htext]
  exact closeDocument_ends hmax (by rw [htext, CString.length_append]; exact hroom)

/-- A document that has room for the client token is finalized. -/
theorem finalizeJsonDocument_ends {max : Nat} {d : Draft} (hmax : max < 2 ^ env.sizeBits)
    (hlength : 0 < d.buffer.text.length)
    (hroom : d.buffer.text.length + 19 + (clientToken env d.clientTokenNum).length < max)
    (hint : (clientToken env d.clientTokenNum).length < 2 ^ 31) :
    (finalizeJsonDocument env max).Ends d (fun rc d' => rc = .success ∧
      d'.buffer.text = d.buffer.text.take (d.buffer.text.length - 1) ++ tokenOpening ++
        clientToken env d.clientTokenNum ++ cString "\"\x7d") (fun _ => False) := by
  have hopening : tokenOpening.length = 18 := by decide
  have hcheck : checkReturnValueOfSnPrintf (printResult tokenOpening)
      (max - d.buffer.text.length) = .success :=
    check_printResult_iff.mpr ⟨by omega, by omega⟩
  have htext : (d.buffer.print (d.buffer.text.length - 1) (max - d.buffer.text.length)
      tokenOpening).text = d.buffer.text.take (d.buffer.text.length - 1) ++ tokenOpening :=
    TextBuffer.text_print (check_printResult_iff.mp hcheck).1
  rw [finalizeJsonDocument, ends_bind, ends_strlen, remSizeOfJsonBuffer_of_le (by omega) hmax,
    if_neg (by omega), ends_bind, ends_lastOffset, if_neg (Nat.ne_of_gt hlength), ends_bind,
    ends_snprintfChecked, hcheck, if_neg (by simp), ← htext]
  refine finalizeToken_ends hmax ?_ hint
  rw [htext, CString.length_append, CString.length_take]
  show _ + (clientToken env d.clientTokenNum).length + 2 < max
  omega

/-- The builder makes the document that is asked for of every list of sections, in an array
that has room for it, and it is read back. -/
theorem buildDocument_reads_back (env : BuilderEnv) (max : Nat) (sections : List PlainSection)
    (d : Draft) (hsections : sections ≠ [])
    (hid : env.mqttClientID.bytes.all isPlain = true) (hmax : max < 2 ^ env.sizeBits)
    (hlarge : (documentText env d.clientTokenNum sections).length < max)
    (hint : (clientToken env d.clientTokenNum).length < 2 ^ 31)
    (hprintable : ∀ s ∈ sections, ∀ m ∈ s.given, (given m).Printable env) :
    ∃ d', (buildDocument env max sections).run d =
        .done (List.replicate (sections.length + 2) .success) d' ∧
      Reads readsPrimitive d'.buffer.text.bytes
        (documentValue env d.clientTokenNum sections) := by
  let t := sections.foldl (withSection env) stateOpening
  have hstate : stateOpening.length = 10 := by decide
  have hfirst : stateOpening.length ≤ t.length := length_le_foldl env sections stateOpening
  have hlength : (documentText env d.clientTokenNum sections).length =
      t.length + 19 + (clientToken env d.clientTokenNum).length := by
    have hopening : tokenOpening.length = 18 := by decide
    have hclose : (cString "\"\x7d").length = 2 := by decide
    show (t.take (t.length - 1) ++ tokenOpening ++ clientToken env d.clientTokenNum ++
      cString "\"\x7d").length = _
    simp only [CString.length_append, CString.length_take]
    omega
  rw [hlength] at hlarge
  have hends : (buildDocument env max sections).Ends d (fun rcs d' =>
      rcs = List.replicate (sections.length + 2) .success ∧
      d'.buffer.text = documentText env d.clientTokenNum sections) (fun _ => False) := by
    have hcheck : checkReturnValueOfSnPrintf (printResult stateOpening) max = .success :=
      check_printResult_iff.mpr ⟨by omega, by omega⟩
    have htext : (d.buffer.print 0 max stateOpening).text = stateOpening := by
      rw [TextBuffer.text_print (by omega)]
      rfl
    rw [buildDocument, ends_bind, initJsonDocument, ends_snprintfChecked, ends_bind]
    have hroom : (sections.foldl (withSection env)
        (d.buffer.print 0 max stateOpening).text).length + 1 ≤ max := by
      rw [htext]
      show t.length + 1 ≤ max
      omega
    refine (addSections_ends hmax sections _ hroom hprintable).mono ?_ fun _ h => h
    rintro rcs d' ⟨rfl, hadded, hnum⟩
    have hadded : d'.buffer.text = t :=
      hadded.trans (congrArg (fun t => sections.foldl (withSection env) t) htext)
    have hnum : d'.clientTokenNum = d.clientTokenNum := hnum
    rw [ends_bind]
    refine (finalizeJsonDocument_ends hmax ?_ ?_ ?_).mono ?_ fun _ h => h
    · rw [hadded]
      omega
    · rw [hadded, hnum]
      exact hlarge
    · rw [hnum]
      exact hint
    · rintro rc d'' ⟨rfl, hfinal⟩
      refine ⟨?_, ?_⟩
      · show checkReturnValueOfSnPrintf (printResult stateOpening) max :: _ = _
        rw [hcheck, List.replicate_succ, List.replicate_succ']
      · rw [hfinal, hadded, hnum]
        rfl
  obtain ⟨rcs, d', hrun, rfl, htext⟩ := exists_run_of_ends hends
  refine ⟨d', hrun, ?_⟩
  rw [htext]
  exact documentText_reads hid _ hsections

/-! ### Runs -/

theorem noNul_a : 0 ∉ ascii "a" := by decide

/-- The section with the member `a`, which is 5. -/
def smallSection : PlainSection where
  part := .desired
  members := [⟨cString "a" noNul_a, by decide, .int32 5⟩]
  count := by decide

theorem smallSection_printable (env : BuilderEnv) :
    ∀ s ∈ [smallSection], ∀ m ∈ s.given, (given m).Printable env := by
  intro s hs m hm
  obtain rfl := List.mem_singleton.mp hs
  obtain rfl := List.mem_singleton.mp hm
  refine ⟨by decide, ?_, .int32 5, rfl, ?_⟩
  · show (cString "\"" ++ cString "a" ++ cString "\":").length < 2 ^ 31
    decide
  · intro s hs
    obtain rfl := Option.some.inj hs
    decide

/-- A client id without a character that needs an escape. -/
theorem smallDocument_reads_back : ∃ d',
    (buildDocument deviceBuilderEnv 100 [smallSection]).run begunDraft =
      .done [.success, .success, .success] d' ∧
    Reads readsPrimitive d'.buffer.text.bytes (.object
      [(ascii "state", .object [(ascii "desired", .object [(ascii "a", .primitive (.number 5))])]),
        (ascii "clientToken", .string (ascii "device-0"))]) :=
  buildDocument_reads_back deviceBuilderEnv 100 [smallSection] begunDraft (by decide) (by decide)
    (by decide) (by decide) (by decide) (smallSection_printable _)

theorem noNul_quote : 0 ∉ ascii "\"" := by decide

/-- The same surroundings with a client id that is a quote. -/
def quoteBuilderEnv : BuilderEnv := { deviceBuilderEnv with mqttClientID := cString "\"" noNul_quote }

/-- A quote in the client id ends the client token of the document. -/
theorem not_every_document_reads_back :
    ¬ ∀ (env : BuilderEnv) (max : Nat) (sections : List PlainSection) (d : Draft),
      sections ≠ [] → max < 2 ^ env.sizeBits →
      (documentText env d.clientTokenNum sections).length < max →
      (clientToken env d.clientTokenNum).length < 2 ^ 31 →
      (∀ s ∈ sections, ∀ m ∈ s.given, (given m).Printable env) →
      ∃ d', (buildDocument env max sections).run d =
          .done (List.replicate (sections.length + 2) .success) d' ∧
        Reads readsPrimitive d'.buffer.text.bytes
          (documentValue env d.clientTokenNum sections) := by
  intro h
  obtain ⟨d', -, hreads⟩ := h quoteBuilderEnv 100 [smallSection] begunDraft (by decide)
    (by decide) (by decide) (by decide) (smallSection_printable _)
  generalize d'.buffer.text.bytes = text at hreads
  -- a string is read back from plain characters only
  cases hreads with
  | object hmembers =>
    cases hmembers with
    | cons _ hrest =>
      cases hrest with
      | one hmember =>
        cases hmember with
        | mk _ _ hvalue =>
          cases hvalue with
          | string hplain => exact absurd hplain (by decide)

end AwsIot.Shadow
