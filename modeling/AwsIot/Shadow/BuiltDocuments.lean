/-
  Shadow/BuiltDocuments.lean --- what the builder writes, the parser reads.

  A text of the builder's grammar (`Reads`) is a text of JSON (`JsonAt`), and the tokens of
  its strings read what the builder was given.  So the vendored parser accepts every document
  of the builder, if it has tokens enough, and the client token that is taken out of the
  document before it is sent is the one that was put in.
-/
import AwsIot.Shadow.BuilderDocument
import AwsIot.Shadow.IntegerParsers
import AwsIot.Shadow.TokenRoundTrip
import AwsIot.Shadow.VendoredParser
import Mathlib.Data.List.Forall2

set_option autoImplicit false

namespace AwsIot.Shadow

open AwsIot.Foundation AwsIot.Mqtt Program
open Jsmn (charAt StringChars)

/-! ## Texts in a text -/

/-- `text` stands at `p`. -/
def HoldsAt (js : List UInt8) (p : Nat) (text : List UInt8) : Prop := text <+: js.drop p

section Holding

variable {js full text : List UInt8} {p : Nat}

theorem HoldsAt.cons {c : UInt8} (h : HoldsAt js p (c :: text)) :
    charAt js p = c ∧ HoldsAt js (p + 1) text := by
  obtain ⟨back, hback⟩ := h
  constructor
  · rw [charAt, ← List.head?_drop, ← hback]
    rfl
  · refine ⟨back, ?_⟩
    rw [← List.tail_drop, ← hback]
    rfl

theorem HoldsAt.append {front : List UInt8} (h : HoldsAt js p (front ++ text)) :
    HoldsAt js p front ∧ HoldsAt js (p + front.length) text := by
  obtain ⟨back, hback⟩ := h
  rw [List.append_assoc] at hback
  constructor
  · exact ⟨text ++ back, hback⟩
  · refine ⟨back, ?_⟩
    rw [← List.drop_drop, ← hback, List.drop_left]

theorem HoldsAt.textAt (h : HoldsAt js p text) : textAt js p (p + text.length) = text := by
  obtain ⟨back, hback⟩ := h
  rw [Shadow.textAt, ← hback, Nat.add_sub_cancel_left, List.take_left]

theorem HoldsAt.le (h : HoldsAt js p text) (hne : text ≠ []) : p + text.length ≤ js.length := by
  have hlength := h.length_le
  have hpositive := List.length_pos_of_ne_nil hne
  rw [List.length_drop] at hlength
  omega

theorem HoldsAt.of_prefix (h : HoldsAt js p text) (hfull : js <+: full) : HoldsAt full p text :=
  h.trans (hfull.drop p)

/-- Plain characters may stand in a string. -/
theorem HoldsAt.stringChars {s : List UInt8} (h : HoldsAt js p s) (hplain : s.all isPlain = true) :
    StringChars js p (p + s.length) := by
  induction s generalizing p with
  | nil => exact .nil p
  | cons c s ih =>
    obtain ⟨hc, hrest⟩ := h.cons
    rw [List.all_cons, Bool.and_eq_true] at hplain
    obtain ⟨hfirst, hplain⟩ := hplain
    simp only [isPlain, Bool.and_eq_true, decide_eq_true_eq, bne_iff_ne] at hfirst
    obtain ⟨⟨hlow, hquote⟩, hslash⟩ := hfirst
    have hzero : c ≠ 0 := by
      rintro rfl
      exact absurd hlow (by decide)
    have hlength : p + (c :: s).length = p + 1 + s.length := by
      rw [List.length_cons]
      omega
    rw [hlength]
    rw [← hc] at hzero hquote hslash
    exact .plain hzero hquote hslash (ih hrest hplain)

/-- A string of plain characters, with its quotes. -/
theorem HoldsAt.stringAt {s : List UInt8} (h : HoldsAt js p (quoted s))
    (hplain : s.all isPlain = true) : StringAt js (p + 1) (p + 1 + s.length) := by
  obtain ⟨hopen, hrest⟩ := h.cons
  obtain ⟨hinside, hbehind⟩ := hrest.append
  obtain ⟨hclose, -⟩ := hbehind.cons
  refine ⟨hopen, hinside.stringChars hplain, hclose, fun i hle hlt => ?_⟩
  have hend : p + 1 + s.length ≤ js.length := by
    have hquoted := h.le (List.cons_ne_nil _ _)
    rw [quoted, List.length_cons, List.length_append] at hquoted
    omega
  have hmem := charAt_mem_textAt hend hle hlt
  rw [hinside.textAt] at hmem
  have hchar := List.all_eq_true.mp hplain _ hmem
  simp only [isPlain, Bool.and_eq_true, decide_eq_true_eq] at hchar
  exact UInt8.le_iff_toNat_le.mpr hchar.1.1

/-- The token of the string reads the string. -/
theorem HoldsAt.jsoneq {s : List UInt8} (h : HoldsAt js p (quoted s)) :
    jsoneq js ⟨.string, p + 1, p + 1 + s.length⟩ s = true := by
  obtain ⟨-, hrest⟩ := h.cons
  have htext := hrest.append.1.textAt
  rw [Shadow.textAt, Nat.add_sub_cancel_left] at htext
  simp [Shadow.jsoneq, htext]

/-- White space stands where it is. -/
theorem HoldsAt.spaceAt {space : List UInt8} (h : HoldsAt js p space)
    (hspace : space.all isSpace = true) : SpaceAt js p (p + space.length) := by
  refine ⟨Nat.le_add_right _ _, fun i hle hlt => ?_⟩
  have hne : space ≠ [] := by
    rintro rfl
    rw [List.length_nil] at hlt
    omega
  have hmem := charAt_mem_textAt (h.le hne) hle hlt
  rw [h.textAt] at hmem
  exact List.all_eq_true.mp hspace _ hmem

theorem SpaceAt.refl (js : List UInt8) (p : Nat) : SpaceAt js p p :=
  ⟨Nat.le_refl p, fun _ hle hlt => absurd hlt (Nat.not_lt_of_le hle)⟩

end Holding

/-! ## The builder's grammar is a part of JSON -/

theorem isLiteralText_of_readsPrimitive {text : List UInt8} {value : JsonPrimitive}
    (h : readsPrimitive text value) : isLiteralText text = true ∧ text ≠ [] := by
  have hliteral : isLiteralText text = true := by
    cases value with
    | number n =>
      rw [isLiteralText, isNumberLiteral_of_intLiteral h]
      rfl
    | bool value =>
      obtain rfl : text = if value then ascii "true" else ascii "false" := h
      cases value <;> decide
  refine ⟨hliteral, ?_⟩
  rintro rfl
  exact absurd hliteral (by decide)

/-- The token is that of a string that reads the label, or of no string. -/
def Labelled (text : List UInt8) (token : JsmnToken) : Option (List UInt8) → Prop
  | some label => jsoneq text token label = true
  | none => token.type ≠ .string

section Embedding

variable {js full : List UInt8}

/-- Braces around the members of an object. -/
theorem MembersAt.objectAt {p : Nat} {text : List UInt8} {members : Members}
    (h : MembersAt js (p + 1) members (p + 1 + text.length))
    (hholds : HoldsAt js p (0x7B :: (text ++ [0x7D]))) :
    JsonAt js p (.object p (p + (0x7B :: (text ++ [0x7D])).length) members)
      (p + (0x7B :: (text ++ [0x7D])).length) := by
  obtain ⟨hopen, hrest⟩ := hholds.cons
  obtain ⟨hclose, -⟩ := hrest.append.2.cons
  have hlength : p + (0x7B :: (text ++ [0x7D])).length = p + 1 + text.length + 1 := by
    rw [List.length_cons, List.length_append, List.length_singleton]
    omega
  rw [hlength]
  exact .object hopen h hclose

mutual

/-- A value that the builder's grammar reads is a value of JSON. -/
theorem Reads.jsonAt (hfull : js <+: full) :
    ∀ {text : List UInt8} {value : JsonValue JsonPrimitive} {p : Nat},
      Reads readsPrimitive text value → HoldsAt js p text →
      ∃ json, JsonAt js p json (p + text.length) ∧
        List.Forall₂ (Labelled full) json.tokens value.labels
  | text, _, p, .primitive h, hholds => by
      obtain ⟨hliteral, hne⟩ := isLiteralText_of_readsPrimitive h
      have hpositive := List.length_pos_of_ne_nil hne
      refine ⟨_, .literal (by omega) (hholds.le hne) ?_, .cons ?_ .nil⟩
      · rw [hholds.textAt]
        exact hliteral
      · simp [Labelled]
  | _, _, p, @AwsIot.Foundation.Reads.string _ _ s hplain, hholds => by
      have hlength : p + (quoted s).length = p + 1 + s.length + 1 := by
        rw [quoted, List.length_cons, List.length_append, List.length_singleton]
        omega
      rw [hlength]
      exact ⟨_, .string (hholds.stringAt hplain), .cons (hholds.of_prefix hfull).jsoneq .nil⟩
  | _, _, p, @AwsIot.Foundation.Reads.object _ _ text members h, hholds => by
      have hinside := hholds.cons.2.append.1
      obtain ⟨members, hmembers, hlabels⟩ := ReadsMembers.membersAt hfull h hinside
      exact ⟨_, hmembers.objectAt hholds, .cons (by simp [Labelled]) hlabels⟩

/-- The members of an object. -/
theorem ReadsMembers.membersAt (hfull : js <+: full) :
    ∀ {text : List UInt8} {values : List (List UInt8 × JsonValue JsonPrimitive)} {p : Nat},
      ReadsMembers readsPrimitive text values → HoldsAt js p text →
      ∃ members, MembersAt js p members (p + text.length) ∧
        List.Forall₂ (Labelled full) members.tokens (labelsOf values)
  | _, _, p, .nil, _ => ⟨_, .nil (SpaceAt.refl js p), .nil⟩
  | text, _, p, .one h, hholds => by
      obtain ⟨start, stop, value, hmember, hlabels⟩ := ReadsMember.memberAt hfull h hholds
      refine ⟨_, .one hmember (SpaceAt.refl js _), ?_⟩
      rw [labelsOf, labelsOf, List.append_nil, Members.tokens, Members.tokens, List.append_nil]
      exact hlabels
  | _, _, p, @AwsIot.Foundation.ReadsMembers.cons _ _ text rest first second values h hrest,
      hholds => by
      obtain ⟨hinside, hbehind⟩ := hholds.append
      obtain ⟨hcomma, hbehind⟩ := hbehind.cons
      obtain ⟨start, stop, value, hmember, hlabels⟩ := ReadsMember.memberAt hfull h hinside
      obtain ⟨members, hmembers, hothers⟩ := ReadsMembers.membersAt hfull hrest hbehind
      have hlength : p + (text ++ 0x2C :: rest).length = p + text.length + 1 + rest.length := by
        rw [List.length_append, List.length_cons]
        omega
      rw [hlength]
      cases members with
      | nil =>
        obtain ⟨name, value⟩ := second
        cases hothers
      | cons start' stop' value' members =>
        exact ⟨_, .cons hmember (SpaceAt.refl js _) hcomma hmembers,
          List.rel_append hlabels hothers⟩

/-- A member, with white space in front. -/
theorem ReadsMember.memberAt (hfull : js <+: full) :
    ∀ {text : List UInt8} {member : List UInt8 × JsonValue JsonPrimitive} {p : Nat},
      ReadsMember readsPrimitive text member → HoldsAt js p text →
      ∃ start stop value, MemberAt js p start stop value (p + text.length) ∧
        List.Forall₂ (Labelled full) (⟨.string, start, stop⟩ :: value.tokens)
          (labelsOfMember member)
  | _, _, p, @AwsIot.Foundation.ReadsMember.mk _ _ space name text value hspace hname h,
      hholds => by
      rw [List.append_assoc] at hholds
      obtain ⟨hfront, hbehind⟩ := hholds.append
      obtain ⟨hquoted, hbehind⟩ := hbehind.append
      obtain ⟨hcolon, hbehind⟩ := hbehind.cons
      obtain ⟨json, hjson, hlabels⟩ := Reads.jsonAt hfull h hbehind
      have hend : p + space.length + (quoted name).length =
          p + space.length + 1 + name.length + 1 := by
        rw [quoted, List.length_cons, List.length_append, List.length_singleton]
        omega
      have hlength : p + (space ++ quoted name ++ 0x3A :: text).length =
          p + space.length + (quoted name).length + 1 + text.length := by
        rw [List.length_append, List.length_append, List.length_cons]
        omega
      rw [hlength]
      rw [hend] at hcolon hjson ⊢
      exact ⟨_, _, json, .mk (hfront.spaceAt hspace) (hquoted.stringAt hname) (SpaceAt.refl js _)
        hcolon (SpaceAt.refl js _) hjson, .cons (hquoted.of_prefix hfull).jsoneq hlabels⟩

end

/-- A text that the builder's grammar reads as an object, and a NUL behind it. -/
theorem isObject_of_reads {text : List UInt8}
    {values : List (List UInt8 × JsonValue JsonPrimitive)}
    (h : Reads readsPrimitive text (.object values)) (hnul : 0 ∉ text) (rest : List UInt8) :
    ∃ members, IsObject (text ++ 0 :: rest) 0 text.length members ∧
      List.Forall₂ (Labelled (text ++ 0 :: rest)) members.tokens (labelsOf values) := by
  have htake : (text ++ 0 :: rest).takeWhile (· ≠ 0) = text := by
    rw [List.takeWhile_append_of_pos]
    · simp
    · intro c hc
      rw [decide_eq_true_eq]
      rintro rfl
      exact hnul hc
  have hholds : HoldsAt text 0 text := List.prefix_refl _
  cases h with
  | @object inside _ h =>
    have hinside : HoldsAt (0x7B :: (inside ++ [0x7D])) (0 + 1) inside := hholds.cons.2.append.1
    obtain ⟨members, hmembers, hlabels⟩ :=
      ReadsMembers.membersAt (List.prefix_append _ (0 :: rest)) h hinside
    have hobject := hmembers.objectAt hholds
    rw [Nat.zero_add] at hobject
    refine ⟨members, ?_, hlabels⟩
    constructor
    · rw [htake]
      exact SpaceAt.refl _ 0
    · rw [htake]
      exact hobject
    · rw [htake]
      exact SpaceAt.refl _ _

end Embedding

/-! ## Looking for a key -/

/-- A token reads one string at most. -/
theorem eq_of_jsoneq {text s t : List UInt8} {token : JsmnToken} (hs : jsoneq text token s = true)
    (ht : jsoneq text token t = true) : s = t := by
  simp only [jsoneq, Bool.and_eq_true, beq_iff_eq] at hs ht
  obtain ⟨⟨-, hslength⟩, hstext⟩ := hs
  obtain ⟨⟨-, htlength⟩, httext⟩ := ht
  calc s = (text.drop token.start).take s.length := hstext.symm
    _ = (text.drop token.start).take t.length := by rw [hslength, htlength]
    _ = t := httext

/-- Tokens that are not labelled with the key do not read it. -/
theorem find?_eq_none_of_labels {text key : List UInt8} {tokens : List JsmnToken}
    {labels : List (Option (List UInt8))} (h : List.Forall₂ (Labelled text) tokens labels)
    (hkey : some key ∉ labels) : tokens.find? (jsoneq text · key) = none := by
  induction h with
  | nil => rfl
  | @cons token label tokens labels hlabel _ ih =>
    obtain ⟨hfirst, hrest⟩ := not_or.mp (mt List.mem_cons.mpr hkey)
    have hnot : jsoneq text token key = false := by
      rw [Bool.eq_false_iff]
      intro hreads
      cases label with
      | none =>
        simp only [jsoneq, Bool.and_eq_true, decide_eq_true_eq] at hreads
        exact hlabel hreads.1.1
      | some label => exact hfirst (congrArg some (eq_of_jsoneq hreads hlabel))
    rw [List.find?_cons, hnot]
    exact ih hrest

/-- The first token that is labelled with the key is found, and the token behind it is that of
the value. -/
theorem exists_keyIndex_of_labels {doc : Document} {jsonTokenStruct : Nat → JsmnToken}
    {key value : List UInt8} {front back : List (Option (List UInt8))}
    (hlabels : List.Forall₂ (Labelled doc.text) doc.members.tokens
      (front ++ some key :: some value :: back))
    (hfront : some key ∉ front) (hparsed : doc.ParsedInto jsonTokenStruct) :
    ∃ i, keyIndex doc.text jsonTokenStruct doc.tokens.length key = some i ∧
      jsonTokenStruct (i + 1) ∈ doc.tokens ∧
      jsoneq doc.text (jsonTokenStruct (i + 1)) value = true := by
  have htake := List.forall₂_take_append _ _ _ hlabels
  have hdrop := List.forall₂_drop_append _ _ _ hlabels
  have htail : doc.tokens.tail = doc.members.tokens := rfl
  have hsplit := List.take_append_drop front.length doc.members.tokens
  generalize doc.members.tokens.take front.length = before at htake hsplit
  generalize doc.members.tokens.drop front.length = behind at hdrop hsplit
  cases hdrop with
  | @cons name _ behind _ hname hdrop =>
    cases hdrop with
    | @cons token _ behind _ htoken _ =>
      have hfind : doc.tokens.tail.find? (jsoneq doc.text · key) = some name := by
        rw [htail, ← hsplit, List.find?_append, find?_eq_none_of_labels htake hfront,
          Option.none_or]
        exact List.find?_cons_of_pos hname
      have hsearch := keyIndex_document hparsed key
      cases hindex : keyIndex doc.text jsonTokenStruct doc.tokens.length key with
      | none =>
        rw [hindex, hfind] at hsearch
        cases hsearch
      | some i =>
        rw [hindex] at hsearch
        obtain ⟨found, hfound, hfind'⟩ := hsearch
        obtain rfl := Option.some.inj (hfind.symm.trans hfind')
        have hplace : doc.tokens[before.length + 1]? = some name := by
          rw [← List.getElem?_tail, htail, ← hsplit]
          simp
        have hnext : doc.tokens[before.length + 1 + 1]? = some token := by
          rw [← List.getElem?_tail, htail, ← hsplit]
          simp
        obtain rfl := Document.index_eq hfound hplace rfl
        have hstored := hparsed _ _ hnext
        refine ⟨_, rfl, ?_, ?_⟩
        · rw [hstored]
          exact List.mem_of_getElem? hnext
        · rw [hstored]
          exact htoken

/-! ## The client token of a built document -/

/-- What is extracted from a document, by its labels. -/
theorem extractClientToken_of_labels {env : ShadowEnv} {doc : Document} {token : List UInt8}
    {front back : List (Option (List UInt8))} {size : Nat} (hparses : doc.Parses env)
    (hlabels : List.Forall₂ (Labelled doc.text) doc.members.tokens
      (front ++ some shadowClientTokenString :: some token :: back))
    (hfront : some shadowClientTokenString ∉ front) (hsize : token.length < size)
    (hshort : token.length < 256) (w : World) :
    (extractClientToken env doc.text size : M (Option (List UInt8))).run w =
      .done (some token) (w.onShadow doc.parse) := by
  rw [run_eq_done_iff, ends_extractClientToken hparses]
  obtain ⟨i, hindex, hmem, hreads⟩ :=
    exists_keyIndex_of_labels hlabels hfront (doc.parsedInto_parse w.shadow)
  rw [hindex]
  dsimp only
  generalize (doc.parse w.shadow).jsonTokenStruct (i + 1) = value at hmem hreads ⊢
  simp only [jsoneq, Bool.and_eq_true, beq_iff_eq] at hreads
  obtain ⟨⟨-, hlength⟩, htext⟩ := hreads
  have hcut : cutLength value = token.length := by
    rw [cutLength_of_le (doc.spans value hmem), ← hlength, Nat.mod_eq_of_lt hshort]
  rw [hcut, if_neg (Nat.not_le_of_lt hsize), htext]
  exact ⟨rfl, rfl⟩

/-- What stands in the document that is asked for. -/
theorem labels_documentValue (env : BuilderEnv) (n : UInt32) (sections : List PlainSection) :
    (documentValue env n sections).labels =
      none :: ((some (ascii "state") :: none :: labelsOf (sections.map PlainSection.value)) ++
        [some shadowClientTokenString, some (clientToken env n).bytes]) := by
  simp [documentValue, JsonValue.labels, labelsOf, labelsOfMember]

/-- Surroundings with the vendored parser. -/
def vendoredShadowEnv : ShadowEnv := quietShadowEnv (vendoredParser 120)

theorem smallDocument_jsmnTells : ∃ members, ∃ doc : Document,
    doc.root = .object 0 (documentText deviceBuilderEnv 0 [smallSection]).length members ∧
    JsmnTells vendoredShadowEnv
      ((documentText deviceBuilderEnv 0 [smallSection]).bytes ++ 0 :: ascii "\x7d") (some doc) := by
  have hid : deviceBuilderEnv.mqttClientID.bytes.all isPlain = true := by decide
  obtain ⟨members, hobject, -⟩ := isObject_of_reads
    (documentText_reads hid 0 (List.cons_ne_nil smallSection [])) (CString.noNul _) (ascii "\x7d")
  exact ⟨members, jsmnTells_of_isObject vendoredShadowEnv _ 0 _ members rfl hobject⟩

end AwsIot.Shadow
