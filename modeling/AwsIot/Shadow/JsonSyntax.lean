/-
  Shadow/JsonSyntax.lean --- the syntax of JSON, and what the vendored parser makes of it.

  `JsonAt js p json q` says that a JSON value stands from `p` to `q`, with its tokens where
  `json` has them.  jsmn reads every such value (`Json.lexes`), so that what the shadow layer
  relies on is what the parser in `external_libs` does.
-/
import AwsIot.Foundation.JsonText
import AwsIot.Jsmn.Resume
import AwsIot.Shadow.ClientToken
import Mathlib.Data.List.TakeWhile

set_option autoImplicit false

namespace AwsIot.Shadow

open AwsIot.Foundation AwsIot.Mqtt Program
open Jsmn (charAt StringChars PrimitiveAt Lexes endsPrimitive jsmnParse)

/-! ## The grammar -/

/-- White space stands from `p` to `q`. -/
def SpaceAt (js : List UInt8) (p q : Nat) : Prop :=
  p ≤ q ∧ ∀ i, p ≤ i → i < q → isSpace (charAt js i) = true

/-- The text is a number, a truth value or null. -/
def isLiteralText (text : List UInt8) : Bool :=
  isNumberLiteral text || text == ascii "true" || text == ascii "false" || text == ascii "null"

/-- The characters from `p` to `q`. -/
def textAt (js : List UInt8) (p q : Nat) : List UInt8 := (js.drop p).take (q - p)

/-- A string without its quotes stands from `start` to `stop`; control characters are
escaped. -/
def StringAt (js : List UInt8) (start stop : Nat) : Prop :=
  charAt js (start - 1) = 0x22 ∧ StringChars js start stop ∧ charAt js stop = 0x22 ∧
    ∀ i, start ≤ i → i < stop → 0x20 ≤ charAt js i

mutual

/-- A value stands from `p` to `q`. -/
inductive JsonAt (js : List UInt8) : Nat → Json → Nat → Prop where
  | literal {p q : Nat} (hlt : p < q) (hq : q ≤ js.length)
      (h : isLiteralText (textAt js p q) = true) : JsonAt js p (.primitive p q) q
  | string {p stop : Nat} (h : StringAt js (p + 1) stop) :
      JsonAt js p (.string (p + 1) stop) (stop + 1)
  | array {p stop : Nat} {elements : Elements} (hopen : charAt js p = 0x5B)
      (h : ElementsAt js (p + 1) elements stop) (hclose : charAt js stop = 0x5D) :
      JsonAt js p (.array p (stop + 1) elements) (stop + 1)
  | object {p stop : Nat} {members : Members} (hopen : charAt js p = 0x7B)
      (h : MembersAt js (p + 1) members stop) (hclose : charAt js stop = 0x7D) :
      JsonAt js p (.object p (stop + 1) members) (stop + 1)

/-- The elements of an array stand from `p` to `q`, between the brackets. -/
inductive ElementsAt (js : List UInt8) : Nat → Elements → Nat → Prop where
  | nil {p q : Nat} (hspace : SpaceAt js p q) : ElementsAt js p .nil q
  | one {p a b q : Nat} {value : Json} (hfront : SpaceAt js p a) (h : JsonAt js a value b)
      (hback : SpaceAt js b q) : ElementsAt js p (.cons value .nil) q
  | cons {p a b c q : Nat} {value second : Json} {rest : Elements} (hfront : SpaceAt js p a)
      (h : JsonAt js a value b) (hback : SpaceAt js b c) (hcomma : charAt js c = 0x2C)
      (hrest : ElementsAt js (c + 1) (.cons second rest) q) :
      ElementsAt js p (.cons value (.cons second rest)) q

/-- The members of an object stand from `p` to `q`, between the brackets. -/
inductive MembersAt (js : List UInt8) : Nat → Members → Nat → Prop where
  | nil {p q : Nat} (hspace : SpaceAt js p q) : MembersAt js p .nil q
  | one {p start stop b q : Nat} {value : Json} (h : MemberAt js p start stop value b)
      (hback : SpaceAt js b q) : MembersAt js p (.cons start stop value .nil) q
  | cons {p start stop b c start' stop' q : Nat} {value value' : Json} {rest : Members}
      (h : MemberAt js p start stop value b) (hback : SpaceAt js b c)
      (hcomma : charAt js c = 0x2C)
      (hrest : MembersAt js (c + 1) (.cons start' stop' value' rest) q) :
      MembersAt js p (.cons start stop value (.cons start' stop' value' rest)) q

/-- A member stands from `p` to `q`, with white space in front. -/
inductive MemberAt (js : List UInt8) : Nat → Nat → Nat → Json → Nat → Prop where
  | mk {p a stop b c q : Nat} {value : Json} (hfront : SpaceAt js p a)
      (hname : StringAt js (a + 1) stop) (hspace : SpaceAt js (stop + 1) b)
      (hcolon : charAt js b = 0x3A) (hback : SpaceAt js (b + 1) c) (h : JsonAt js c value q) :
      MemberAt js p (a + 1) stop value q

end

/-! ## Trees -/

mutual

/-- The value as jsmn sees it. -/
def Json.tree : Json → MarkTree JsmnType
  | .primitive start stop => .leaf .primitive start stop
  | .string start stop => .leaf .string start stop
  | .array start stop elements => .node .array start stop elements.trees
  | .object start stop members => .node .object start stop members.trees

/-- The elements of an array as jsmn sees them. -/
def Elements.trees : Elements → List (MarkTree JsmnType)
  | .nil => []
  | .cons value rest => value.tree :: rest.trees

/-- The members of an object as jsmn sees them: the name and the value are both in it. -/
def Members.trees : Members → List (MarkTree JsmnType)
  | .nil => []
  | .cons start stop value rest => .leaf .string start stop :: value.tree :: rest.trees

end

/-- A token as the shadow layer looks at it; a place that is not known is 0. -/
def tokenOf (token : Jsmn.Token) : JsmnToken :=
  ⟨token.kind, token.start.getD 0, token.stop.getD 0⟩

mutual

theorem Json.tokens_tree : ∀ json : Json, json.tokens = json.tree.marks.map tokenOf
  | .primitive _ _ => rfl
  | .string _ _ => rfl
  | .array _ _ elements => congrArg (List.cons _) elements.tokens_trees
  | .object _ _ members => congrArg (List.cons _) members.tokens_trees

theorem Elements.tokens_trees :
    ∀ elements : Elements, elements.tokens = (marksOf elements.trees).map tokenOf
  | .nil => rfl
  | .cons value rest => by
      rw [Elements.tokens, Elements.trees, marksOf, List.map_append, ← value.tokens_tree,
        ← rest.tokens_trees]

theorem Members.tokens_trees :
    ∀ members : Members, members.tokens = (marksOf members.trees).map tokenOf
  | .nil => rfl
  | .cons start stop value rest => by
      rw [Members.tokens, Members.trees, marksOf, marksOf, List.map_append, List.map_append,
        ← value.tokens_tree, ← rest.tokens_trees]
      rfl

end

/-! ### Nesting -/

/-- Tokens of trees that are laid out from `lo` on start there or later. -/
theorem le_start_of_laid {lo hi : Nat} {trees : List (MarkTree JsmnType)} (h : Laid lo trees hi)
    {token : JsmnToken} (hmem : token ∈ (marksOf trees).map tokenOf) : lo ≤ token.start := by
  obtain ⟨mark, hmark, rfl⟩ := List.mem_map.mp hmem
  obtain ⟨start, hstart, hle, -, -⟩ := h.within mark hmark
  rw [tokenOf, hstart]
  exact hle

mutual

theorem Json.nested_of_laid : ∀ (json : Json) {lo hi : Nat}, Laid lo [json.tree] hi →
    json.nested = true ∧ lo ≤ json.token.start ∧ json.token.stop ≤ hi
  | .primitive start stop, lo, hi, h => by
      cases h with
      | leaf hlo hspan hstop hstart h => exact ⟨rfl, hlo, hstop.trans h.le⟩
  | .string start stop, lo, hi, h => by
      cases h with
      | leaf hlo hspan hstop hstart h => exact ⟨rfl, hlo, hstop.trans h.le⟩
  | .array start stop elements, lo, hi, h => by
      cases h with
      | node hlo hkids hstop h => exact ⟨elements.nested_of_laid hkids hstop.le, hlo, h.le⟩
  | .object start stop members, lo, hi, h => by
      cases h with
      | node hlo hkids hstop h => exact ⟨members.nested_of_laid hkids hstop.le, hlo, h.le⟩

theorem Elements.nested_of_laid : ∀ (elements : Elements) {lo hi stop : Nat},
    Laid lo elements.trees hi → hi ≤ stop → elements.nested stop = true
  | .nil, _, _, _, _, _ => rfl
  | .cons value rest, lo, hi, stop, h, hle => by
      obtain ⟨mid, hfirst, hrest⟩ := h.cons_inv
      obtain ⟨hnested, -, hstop⟩ := value.nested_of_laid hfirst
      have hmid := hrest.le
      simp only [Elements.nested, Bool.and_eq_true, decide_eq_true_eq, List.all_eq_true]
      refine ⟨⟨⟨by omega, hnested⟩, fun token hmem => ?_⟩, rest.nested_of_laid hrest hle⟩
      rw [rest.tokens_trees] at hmem
      exact hstop.trans (le_start_of_laid hrest hmem)

theorem Members.nested_of_laid : ∀ (members : Members) {lo hi stop : Nat},
    Laid lo members.trees hi → hi ≤ stop → members.nested stop = true
  | .nil, _, _, _, _, _ => rfl
  | .cons start nameStop value rest, lo, hi, stop, h, hle => by
      obtain ⟨mid, hname, hback⟩ := h.cons_inv
      obtain ⟨mid', hfirst, hrest⟩ := hback.cons_inv
      obtain ⟨hnested, hstart, hstop⟩ := value.nested_of_laid hfirst
      have hmid := hrest.le
      have hnameStop : nameStop ≤ mid := by
        cases hname with
        | leaf _ _ hstop _ h => exact hstop.trans h.le
      simp only [Members.nested, Bool.and_eq_true, decide_eq_true_eq, List.all_eq_true]
      refine ⟨⟨⟨⟨by omega, by omega⟩, hnested⟩, fun token hmem => ?_⟩,
        rest.nested_of_laid hrest hle⟩
      rw [rest.tokens_trees] at hmem
      exact hstop.trans (le_start_of_laid hrest hmem)

end

/-! ## Lexemes -/

section Literals

/-- The character may be in a number. -/
def isNumberChar (c : UInt8) : Bool := isDigit c || c ∈ [0x2D, 0x2B, 0x2E, 0x65, 0x45]

/-- The character is no delimiter, and jsmn lets it stand in a primitive. -/
def IsPlainChar (c : UInt8) : Prop := endsPrimitive c = false ∧ Jsmn.isPrintable c = true

theorem isPlainChar_of_all {text : List UInt8}
    (h : text.all (fun c => !endsPrimitive c && Jsmn.isPrintable c) = true) :
    ∀ c ∈ text, IsPlainChar c := by
  intro c hc
  have hboth := List.all_eq_true.mp h c hc
  rw [Bool.and_eq_true, Bool.not_eq_true'] at hboth
  exact hboth

theorem isPlainChar_of_isNumberChar {c : UInt8} (h : isNumberChar c = true) : IsPlainChar c := by
  rw [isNumberChar, Bool.or_eq_true] at h
  rcases h with hdigit | hmem
  · have hstarts : Jsmn.startsPrimitive c = true := by
      rw [isDigit] at hdigit
      simp only [Jsmn.startsPrimitive, Bool.or_eq_true]
      exact .inl (.inr hdigit)
    exact (Jsmn.not_endsPrimitive_of_starts hstarts).2
  · have hmem := of_decide_eq_true hmem
    simp only [List.mem_cons, List.not_mem_nil, or_false] at hmem
    rcases hmem with rfl | rfl | rfl | rfl | rfl <;> exact ⟨by decide, by decide⟩

theorem isNumberChar_of_isDigit {c : UInt8} (h : isDigit c = true) : isNumberChar c = true := by
  rw [isNumberChar, h, Bool.true_or]

theorem isExponent_chars {text : List UInt8} (h : isExponent text = true) :
    ∀ c ∈ text, isNumberChar c = true := by
  cases text with
  | nil => exact fun c hc => absurd hc List.not_mem_nil
  | cons e text =>
    simp only [isExponent, Bool.and_eq_true, Bool.or_eq_true, beq_iff_eq] at h
    obtain ⟨⟨he, -⟩, hdigits⟩ := h
    intro c hc
    rcases List.mem_cons.mp hc with rfl | hrest
    · rcases he with rfl | rfl <;> decide
    · split at hdigits
      case isTrue hsign =>
        cases text with
        | nil => exact absurd hrest List.not_mem_nil
        | cons s text =>
          rcases List.mem_cons.mp hrest with rfl | hrest
          · simp only [List.head?_cons, Option.some.injEq] at hsign
            rcases hsign with rfl | rfl <;> decide
          · exact isNumberChar_of_isDigit (List.all_eq_true.mp hdigits c hrest)
      case isFalse => exact isNumberChar_of_isDigit (List.all_eq_true.mp hdigits c hrest)

theorem isFraction_chars {text : List UInt8} (h : isFraction text = true) :
    ∀ c ∈ text, isNumberChar c = true := by
  unfold isFraction at h
  split at h
  case isFalse => exact isExponent_chars h
  case isTrue hpoint =>
    obtain ⟨rest, rfl⟩ := List.head?_eq_some_iff.mp hpoint
    rw [List.tail_cons, Bool.and_eq_true] at h
    intro c hc
    rcases List.mem_cons.mp hc with rfl | hrest
    · decide
    · rw [← List.takeWhile_append_dropWhile (p := isDigit) (l := rest)] at hrest
      rcases List.mem_append.mp hrest with hdigit | hexponent
      · exact isNumberChar_of_isDigit (List.mem_takeWhile_imp hdigit)
      · exact isExponent_chars h.2 c hexponent

/-- A number is not empty, starts with a digit or a sign, and has no delimiter in it. -/
theorem isNumberLiteral_chars {text : List UInt8} (h : isNumberLiteral text = true) :
    (∃ c rest, text = c :: rest ∧ Jsmn.startsPrimitive c = true) ∧ ∀ c ∈ text, IsPlainChar c := by
  rw [isNumberLiteral, Bool.and_eq_true] at h
  obtain ⟨hint, hfraction⟩ := h
  constructor
  · cases text with
    | nil => cases hint
    | cons c rest =>
      refine ⟨c, rest, rfl, ?_⟩
      by_cases hc : (c == 0x2D || isDigit c) = true
      · rw [Bool.or_eq_true, beq_iff_eq] at hc
        simp only [Jsmn.startsPrimitive, Bool.or_eq_true, decide_eq_true_eq]
        exact .inl hc
      · rw [List.takeWhile_cons, if_neg hc] at hint
        cases hint
  · intro c hc
    rw [← List.takeWhile_append_dropWhile (p := fun c => c == 0x2D || isDigit c) (l := text)] at hc
    apply isPlainChar_of_isNumberChar
    rcases List.mem_append.mp hc with hdigit | hrest
    · have hchar := List.mem_takeWhile_imp hdigit
      rw [Bool.or_eq_true, beq_iff_eq] at hchar
      rcases hchar with rfl | hdigit
      · decide
      · exact isNumberChar_of_isDigit hdigit
    · exact isFraction_chars hfraction c hrest

theorem isLiteralText_chars {text : List UInt8} (h : isLiteralText text = true) :
    (∃ c rest, text = c :: rest ∧ Jsmn.startsPrimitive c = true) ∧ ∀ c ∈ text, IsPlainChar c := by
  simp only [isLiteralText, Bool.or_eq_true, beq_iff_eq] at h
  rcases h with ((hnumber | rfl) | rfl) | rfl
  · exact isNumberLiteral_chars hnumber
  · exact ⟨⟨_, _, rfl, by decide⟩, isPlainChar_of_all (by decide)⟩
  · exact ⟨⟨_, _, rfl, by decide⟩, isPlainChar_of_all (by decide)⟩
  · exact ⟨⟨_, _, rfl, by decide⟩, isPlainChar_of_all (by decide)⟩

end Literals

section Lexing

variable {js : List UInt8}

theorem charAt_mem_textAt {p q i : Nat} (hq : q ≤ js.length) (hp : p ≤ i) (hi : i < q) :
    charAt js i ∈ textAt js p q := by
  have hlength : i < js.length := hi.trans_le hq
  rw [textAt, List.mem_iff_getElem?]
  refine ⟨i - p, ?_⟩
  rw [List.getElem?_take_of_lt (by omega), List.getElem?_drop, Nat.add_sub_cancel' hp, charAt,
    List.getElem?_eq_getElem hlength, Option.getD_some]

/-- A literal is a primitive. -/
theorem isPrimitive_of_literal {p q : Nat} (hlt : p < q) (hq : q ≤ js.length)
    (h : isLiteralText (textAt js p q) = true) (hends : endsPrimitive (charAt js q) = true) :
    PrimitiveAt js p q where
  lt := hlt
  starts := by
    obtain ⟨⟨c, rest, htext, hc⟩, -⟩ := isLiteralText_chars h
    have hfirst := congrArg List.head? htext
    rw [textAt, List.head?_take, if_neg (by omega), List.head?_drop, List.head?_cons] at hfirst
    rw [charAt, hfirst]
    exact hc
  chars i hi hlt := (isLiteralText_chars h).2 _ (charAt_mem_textAt hq hi hlt)
  ends := hends

theorem endsPrimitive_of_isSpace {c : UInt8} (h : isSpace c = true) : endsPrimitive c = true := by
  simp only [isSpace, Bool.or_eq_true, beq_iff_eq] at h
  rcases h with ((rfl | rfl) | rfl) | rfl <;> decide

theorem isDelimiter_of_endsPrimitive {c : UInt8} (h : endsPrimitive c = true) :
    isDelimiter c = true := by
  have hmem := of_decide_eq_true h
  simp only [List.mem_cons, List.not_mem_nil, or_false] at hmem
  rcases hmem with rfl | rfl | rfl | rfl | rfl | rfl | rfl <;> decide

theorem isPassedOver_of_isSpace {c : UInt8} (h : isSpace c = true) :
    Jsmn.isPassedOver c = true := by
  simp only [isSpace, Bool.or_eq_true, beq_iff_eq] at h
  rcases h with ((rfl | rfl) | rfl) | rfl <;> decide

/-- White space is passed over. -/
theorem SpaceAt.lexes {p q : Nat} (h : SpaceAt js p q) : Lexes js p [] q := by
  obtain ⟨k, rfl⟩ := Nat.exists_eq_add_of_le h.1
  induction k generalizing p with
  | zero => exact .done p
  | succ k ih =>
    have hfirst := isPassedOver_of_isSpace (h.2 p (Nat.le_refl p) (by omega))
    have hsum : p + (k + 1) = p + 1 + k := by omega
    refine .blank hfirst ?_
    rw [hsum] at h ⊢
    exact ih ⟨Nat.le_add_right _ _, fun i hi => h.2 i (by omega)⟩

/-- In front of a delimiter, and of white space in front of one, a primitive ends. -/
theorem SpaceAt.ends {p q : Nat} (h : SpaceAt js p q) (hends : endsPrimitive (charAt js q) = true) :
    endsPrimitive (charAt js p) = true := by
  rcases Nat.eq_or_lt_of_le h.1 with rfl | hlt
  · exact hends
  · exact endsPrimitive_of_isSpace (h.2 p (Nat.le_refl p) hlt)

theorem StringAt.lexes {p stop : Nat} (h : StringAt js (p + 1) stop) :
    Lexes js p [.leaf .string (p + 1) stop] (stop + 1) :=
  .string h.1 h.2.1 h.2.2.1 (.done (stop + 1))

theorem SpaceAt.front {p a q : Nat} {trees : List (MarkTree JsmnType)} (hspace : SpaceAt js p a)
    (h : Lexes js a trees q) : Lexes js p trees q := hspace.lexes.append h

theorem SpaceAt.back {p b q : Nat} {trees : List (MarkTree JsmnType)} (hspace : SpaceAt js b q)
    (h : Lexes js p trees b) : Lexes js p trees q := by
  have hboth := h.append hspace.lexes
  rwa [List.append_nil] at hboth

/-- A character that is passed over, between what is read. -/
theorem lexes_passed {p c q : Nat} {front back : List (MarkTree JsmnType)} (h : Lexes js p front c)
    (hchar : Jsmn.isPassedOver (charAt js c) = true) (hback : Lexes js (c + 1) back q) :
    Lexes js p (front ++ back) q := h.append (.blank hchar hback)

mutual

/-- jsmn reads every JSON value. -/
theorem Json.lexes : ∀ (json : Json) {p q : Nat}, JsonAt js p json q →
    endsPrimitive (charAt js q) = true → Lexes js p [json.tree] q
  | .primitive start stop, p, q, h, hends => by
      cases h with
      | literal hlt hq h => exact .primitive (isPrimitive_of_literal hlt hq h hends) (.done _)
  | .string start stop, p, q, h, hends => by
      cases h with
      | string h => exact h.lexes
  | .array start stop elements, p, q, h, hends => by
      cases h with
      | array hopen h hclose =>
        have hkids := elements.lexes h (by rw [hclose]; decide)
        exact .brackets (by rw [hopen]; rfl) hkids (by rw [hclose]; rfl) (.done _)
  | .object start stop members, p, q, h, hends => by
      cases h with
      | object hopen h hclose =>
        have hkids := members.lexes h (by rw [hclose]; decide)
        exact .brackets (by rw [hopen]; rfl) hkids (by rw [hclose]; rfl) (.done _)

theorem Elements.lexes : ∀ (elements : Elements) {p q : Nat}, ElementsAt js p elements q →
    endsPrimitive (charAt js q) = true → Lexes js p elements.trees q
  | .nil, p, q, h, hends => by
      cases h with
      | nil hspace => exact hspace.lexes
  | .cons value .nil, p, q, h, hends => by
      cases h with
      | one hfront h hback =>
        exact hback.back (hfront.front (value.lexes h (hback.ends hends)))
  | .cons value (.cons second rest), p, q, h, hends => by
      cases h with
      | cons hfront h hback hcomma hrest =>
        have hvalue := value.lexes h (hback.ends (by rw [hcomma]; decide))
        have hothers := Elements.lexes (.cons second rest) hrest hends
        exact lexes_passed (hback.back (hfront.front hvalue)) (by rw [hcomma]; decide) hothers

theorem Members.lexes : ∀ (members : Members) {p q : Nat}, MembersAt js p members q →
    endsPrimitive (charAt js q) = true → Lexes js p members.trees q
  | .nil, p, q, h, hends => by
      cases h with
      | nil hspace => exact hspace.lexes
  | .cons start stop value .nil, p, q, h, hends => by
      cases h with
      | one hmember hback =>
        cases hmember with
        | mk hfront hname hspace hcolon hback' h =>
          have hvalue := hback'.front (value.lexes h (hback.ends hends))
          have hname := hspace.back (hfront.front hname.lexes)
          exact hback.back (lexes_passed hname (by rw [hcolon]; decide) hvalue)
  | .cons start stop value (.cons start' stop' value' rest), p, q, h, hends => by
      cases h with
      | cons hmember hback hcomma hrest =>
        cases hmember with
        | mk hfront hname hspace hcolon hback' h =>
          have hvalue := value.lexes h (hback.ends (by rw [hcomma]; decide))
          have hname := hspace.back (hfront.front hname.lexes)
          have hmember := lexes_passed hname (by rw [hcolon]; decide) (hback'.front hvalue)
          have hothers := Members.lexes (.cons start' stop' value' rest) hrest hends
          exact lexes_passed (hback.back hmember) (by rw [hcomma]; decide) hothers

end

end Lexing

end AwsIot.Shadow
