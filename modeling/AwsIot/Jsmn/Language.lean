/-
  Jsmn/Language.lean --- the texts that the parser accepts.

  `Lexes js p trees q` is the grammar of jsmn in strict mode: what stands from `p` to `q` is a
  sequence of strings, primitives and matched brackets, with white space, colons and commas
  anywhere between them.  `jsmnParse_ok_iff` says that the parser accepts exactly these texts,
  and that the tokens it stores are the marks of the trees.
-/
import AwsIot.Jsmn.Machine

set_option autoImplicit false

namespace AwsIot.Jsmn

open Foundation
open Shadow (JsmnType)

/-! ## The grammar -/

/-- Whatever stands from `p` to `q` is inside a string: no quote, and a backslash only as part
of an escape. -/
inductive StringChars (js : List UInt8) : Nat → Nat → Prop where
  | nil (p : Nat) : StringChars js p p
  | plain {p q : Nat} (hzero : charAt js p ≠ 0) (hquote : charAt js p ≠ 0x22)
      (hslash : charAt js p ≠ 0x5C) (h : StringChars js (p + 1) q) : StringChars js p q
  | escape {p q : Nat} (hslash : charAt js p = 0x5C) (hchar : isEscaped (charAt js (p + 1)) = true)
      (h : StringChars js (p + 2) q) : StringChars js p q
  | unicode {p q : Nat} (hslash : charAt js p = 0x5C) (hu : charAt js (p + 1) = 0x75)
      (hhex : ∀ i < 4, isHex (charAt js (p + 2 + i)) = true) (h : StringChars js (p + 6) q) :
      StringChars js p q

/-- A primitive stands from `p` to `q`, and what ends it at `q`. -/
structure PrimitiveAt (js : List UInt8) (p q : Nat) : Prop where
  /-- It is not empty. -/
  lt : p < q
  /-- Its first character. -/
  starts : startsPrimitive (charAt js p) = true
  /-- Its characters. -/
  chars : ∀ i, p ≤ i → i < q →
    endsPrimitive (charAt js i) = false ∧ isPrintable (charAt js i) = true
  /-- What is behind it. -/
  ends : endsPrimitive (charAt js q) = true

/-- The text from `p` to `q`, and the trees in it. -/
inductive Lexes (js : List UInt8) : Nat → List (MarkTree JsmnType) → Nat → Prop where
  | done (p : Nat) : Lexes js p [] p
  | blank {p q : Nat} {trees : List (MarkTree JsmnType)}
      (hblank : isPassedOver (charAt js p) = true) (h : Lexes js (p + 1) trees q) :
      Lexes js p trees q
  | string {p stop q : Nat} {trees : List (MarkTree JsmnType)} (hopen : charAt js p = 0x22)
      (hchars : StringChars js (p + 1) stop) (hclose : charAt js stop = 0x22)
      (h : Lexes js (stop + 1) trees q) : Lexes js p (.leaf .string (p + 1) stop :: trees) q
  | primitive {p stop q : Nat} {trees : List (MarkTree JsmnType)}
      (hprimitive : PrimitiveAt js p stop) (h : Lexes js stop trees q) :
      Lexes js p (.leaf .primitive p stop :: trees) q
  | brackets {p stop q : Nat} {kind : JsmnType} {kids trees : List (MarkTree JsmnType)}
      (hopen : opening (charAt js p) = some kind) (hkids : Lexes js (p + 1) kids stop)
      (hclose : closing (charAt js stop) = some kind) (h : Lexes js (stop + 1) trees q) :
      Lexes js p (.node kind p (stop + 1) kids :: trees) q

/-! ## Lexemes -/

/-- Only objects and arrays have brackets. -/
theorem opening_ne_primitive (c : UInt8) : opening c ≠ some .primitive := by
  unfold opening
  split
  · simp
  split <;> simp

section Scanning

variable {js : List UInt8}

theorem ne_zero_of_isHex {c : UInt8} (h : isHex c = true) : c ≠ 0 := by
  rintro rfl
  exact absurd h (by decide)

/-- Hexadecimal digits are read one by one. -/
theorem scanString_hex {left p : Nat}
    (hhex : ∀ i < left + 1, isHex (charAt js (p + i)) = true) :
    scanString (.hex left) (js.drop p) p =
      scanString .char (js.drop (p + (left + 1))) (p + (left + 1)) := by
  induction left generalizing p with
  | zero =>
    have hfirst : isHex (charAt js p) = true := hhex 0 Nat.one_pos
    rw [drop_eq_cons (ne_zero_of_isHex hfirst), scanString, if_neg (ne_zero_of_isHex hfirst),
      hfirst, if_neg (by simp)]
    rfl
  | succ left ih =>
    have hfirst : isHex (charAt js p) = true := hhex 0 (Nat.succ_pos _)
    have hrest : ∀ i < left + 1, isHex (charAt js (p + 1 + i)) = true := by
      intro i hi
      rw [Nat.add_assoc, Nat.add_comm 1 i]
      exact hhex (i + 1) (Nat.succ_lt_succ hi)
    rw [drop_eq_cons (ne_zero_of_isHex hfirst), scanString, if_neg (ne_zero_of_isHex hfirst),
      hfirst, if_neg (by simp), StringPlace.behindHex, ih hrest]
    rw [Nat.add_assoc, Nat.add_comm 1 (left + 1)]

/-- The characters of a string are read up to the quote behind them. -/
theorem StringChars.scan {p stop : Nat} (h : StringChars js p stop)
    (hclose : charAt js stop = 0x22) : scanString .char (js.drop p) p = .ok stop := by
  induction h with
  | nil p =>
    have hzero : charAt js p ≠ 0 := by rw [hclose]; decide
    rw [drop_eq_cons hzero, scanString, if_neg hzero, if_pos hclose]
  | plain hzero hquote hslash _ ih =>
    rw [drop_eq_cons hzero, scanString, if_neg hzero, if_neg hquote, if_neg hslash]
    exact ih hclose
  | @escape p q hslash hchar _ ih =>
    have hzero : charAt js p ≠ 0 := by rw [hslash]; decide
    have hzero' : charAt js (p + 1) ≠ 0 := by
      intro hzero'
      rw [hzero'] at hchar
      exact absurd hchar (by decide)
    rw [drop_eq_cons hzero, scanString, if_neg hzero, hslash, if_neg (by decide), if_pos rfl,
      drop_eq_cons hzero', scanString, if_pos hchar]
    exact ih hclose
  | @unicode p q hslash hu hhex _ ih =>
    have hzero : charAt js p ≠ 0 := by rw [hslash]; decide
    have hzero' : charAt js (p + 1) ≠ 0 := by rw [hu]; decide
    rw [drop_eq_cons hzero, scanString, if_neg hzero, hslash, if_neg (by decide), if_pos rfl,
      drop_eq_cons hzero', scanString, hu, if_neg (by decide), if_pos rfl, scanString_hex hhex]
    exact ih hclose

/-- What remains to be read of a string at a place in it. -/
def Remains (js : List UInt8) (p stop : Nat) : StringPlace → Prop
  | .char => StringChars js p stop
  | .escape => isEscaped (charAt js p) = true ∧ StringChars js (p + 1) stop ∨
      charAt js p = 0x75 ∧ (∀ i < 4, isHex (charAt js (p + 1 + i)) = true) ∧
        StringChars js (p + 5) stop
  | .hex left => (∀ i < left + 1, isHex (charAt js (p + i)) = true) ∧
      StringChars js (p + (left + 1)) stop

/-- What the loop has read is a string. -/
theorem remains_of_scan {text : List UInt8} {place : StringPlace} {p stop : Nat}
    (htext : js.drop p = text) (h : scanString place text p = .ok stop) :
    Remains js p stop place ∧ charAt js stop = 0x22 := by
  induction text generalizing p place with
  | nil => cases place <;> cases h
  | cons c text ih =>
    obtain ⟨rfl, hrest⟩ := charAt_of_drop htext
    cases place with
    | char =>
      rw [scanString] at h
      split at h
      · cases h
      case isFalse hzero =>
      split at h
      case isTrue hquote =>
        obtain rfl := Except.ok.inj h
        exact ⟨.nil p, hquote⟩
      case isFalse hquote =>
      split at h
      case isTrue hslash =>
        obtain ⟨hescape | hunicode, hclose⟩ := ih hrest h
        · exact ⟨.escape hslash hescape.1 hescape.2, hclose⟩
        · exact ⟨.unicode hslash hunicode.1 hunicode.2.1 hunicode.2.2, hclose⟩
      case isFalse hslash =>
        obtain ⟨hchars, hclose⟩ := ih hrest h
        exact ⟨.plain hzero hquote hslash hchars, hclose⟩
    | escape =>
      rw [scanString] at h
      split at h
      case isTrue hescaped =>
        obtain ⟨hchars, hclose⟩ := ih hrest h
        exact ⟨.inl ⟨hescaped, hchars⟩, hclose⟩
      case isFalse =>
      split at h
      case isTrue hu =>
        obtain ⟨hhex, hclose⟩ := ih hrest h
        exact ⟨.inr ⟨hu, hhex.1, hhex.2⟩, hclose⟩
      case isFalse => cases h
    | hex left =>
      rw [scanString] at h
      split at h
      · cases h
      split at h
      · cases h
      case isFalse hhex =>
      have hhex : isHex (charAt js p) = true := by simpa using hhex
      obtain ⟨hremains, hclose⟩ := ih hrest h
      refine ⟨?_, hclose⟩
      cases left with
      | zero => exact ⟨fun i hi => by rw [Nat.lt_one_iff.mp hi]; exact hhex, hremains⟩
      | succ left =>
        obtain ⟨hmore, hchars⟩ := hremains
        refine ⟨fun i hi => ?_, ?_⟩
        · cases i with
          | zero => exact hhex
          | succ i =>
            rw [Nat.add_comm i 1, ← Nat.add_assoc]
            exact hmore i (Nat.lt_of_succ_lt_succ hi)
        · rw [Nat.add_comm (left + 1) 1, ← Nat.add_assoc]
          exact hchars

/-- The loop of `jsmn_parse_string` ends behind a string. -/
theorem scanString_iff {p stop : Nat} :
    scanString .char (js.drop p) p = .ok stop ↔
      StringChars js p stop ∧ charAt js stop = 0x22 :=
  ⟨fun h => remains_of_scan rfl h, fun h => h.1.scan h.2⟩

theorem ne_zero_of_endsPrimitive {c : UInt8} (h : endsPrimitive c = true) : c ≠ 0 := by
  rintro rfl
  exact absurd h (by decide)

theorem ne_zero_of_isPrintable {c : UInt8} (h : isPrintable c = true) : c ≠ 0 := by
  rintro rfl
  exact absurd h (by decide)

/-- The loop of `jsmn_parse_primitive` ends behind a primitive. -/
theorem scanPrimitive_iff {p stop : Nat} :
    scanPrimitive (js.drop p) p = .ok stop ↔
      p ≤ stop ∧ endsPrimitive (charAt js stop) = true ∧ ∀ i, p ≤ i → i < stop →
        endsPrimitive (charAt js i) = false ∧ isPrintable (charAt js i) = true := by
  generalize htext : js.drop p = text
  induction text generalizing p with
  | nil =>
    have hlength : js.length ≤ p := List.drop_eq_nil_iff.mp htext
    refine iff_of_false (by simp [scanPrimitive]) fun h => ?_
    obtain ⟨hle, hends, -⟩ := h
    exact ne_zero_of_endsPrimitive hends (charAt_of_length_le (hlength.trans hle))
  | cons c text ih =>
    obtain ⟨rfl, hrest⟩ := charAt_of_drop htext
    rw [scanPrimitive]
    by_cases hends : endsPrimitive (charAt js p) = true
    · rw [if_neg (ne_zero_of_endsPrimitive hends), if_pos hends]
      constructor
      · intro h
        obtain rfl := Except.ok.inj h
        exact ⟨Nat.le_refl p, hends, fun i hle hlt => absurd hlt (Nat.not_lt_of_le hle)⟩
      · rintro ⟨hle, -, hchars⟩
        rcases Nat.eq_or_lt_of_le hle with rfl | hlt
        · rfl
        · rw [(hchars p (Nat.le_refl p) hlt).1] at hends
          cases hends
    · rw [if_neg hends]
      by_cases hprintable : isPrintable (charAt js p) = true
      · rw [if_neg (ne_zero_of_isPrintable hprintable), hprintable, if_neg (by simp), ih hrest]
        constructor
        · rintro ⟨hle, hend, hchars⟩
          refine ⟨Nat.le_of_succ_le hle, hend, fun i hi hlt => ?_⟩
          rcases Nat.eq_or_lt_of_le hi with rfl | hbehind
          · exact ⟨by simpa using hends, hprintable⟩
          · exact hchars i hbehind hlt
        · rintro ⟨hle, hend, hchars⟩
          rcases Nat.eq_or_lt_of_le hle with rfl | hlt
          · exact absurd hend hends
          · exact ⟨hlt, hend, fun i hi => hchars i (Nat.le_of_succ_le hi)⟩
      · have hfails : ¬ (p ≤ stop ∧ endsPrimitive (charAt js stop) = true ∧ ∀ i, p ≤ i → i < stop →
            endsPrimitive (charAt js i) = false ∧ isPrintable (charAt js i) = true) := by
          rintro ⟨hle, hend, hchars⟩
          rcases Nat.eq_or_lt_of_le hle with rfl | hlt
          · exact hends hend
          · exact hprintable (hchars p (Nat.le_refl p) hlt).2
        refine iff_of_false ?_ hfails
        split <;> simp [hprintable]

/-- A lexeme that is passed over. -/
theorem lexeme_blank {p : Nat} (h : isPassedOver (charAt js p) = true) :
    charAt js p ≠ 0 ∧ lexeme js p = .ok (.blank, p + 1) := by
  have hmem := of_decide_eq_true h
  simp only [List.mem_cons, List.not_mem_nil, or_false] at hmem
  unfold lexeme
  rcases hmem with hc | hc | hc | hc | hc | hc <;> rw [hc] <;> exact ⟨by decide, rfl⟩

theorem lexeme_string {p stop : Nat} (hopen : charAt js p = 0x22)
    (hchars : StringChars js (p + 1) stop) (hclose : charAt js stop = 0x22) :
    charAt js p ≠ 0 ∧ lexeme js p = .ok (.leaf .string (p + 1) stop, stop + 1) := by
  unfold lexeme
  rw [hopen, hchars.scan hclose]
  exact ⟨by decide, rfl⟩

theorem lexeme_primitive {p stop : Nat} (h : PrimitiveAt js p stop) :
    charAt js p ≠ 0 ∧ lexeme js p = .ok (.leaf .primitive p stop, stop) := by
  have hscan := scanPrimitive_iff.mpr ⟨h.lt.le, h.ends, h.chars⟩
  have hstarts := h.starts
  have hzero := (not_endsPrimitive_of_starts hstarts).1
  refine ⟨hzero, ?_⟩
  unfold lexeme
  rw [hscan]
  generalize charAt js p = c at hstarts
  have hopen : opening c = none := by
    unfold opening
    rw [if_neg, if_neg] <;> rintro rfl <;> exact absurd hstarts (by decide)
  have hclose : closing c = none := by
    unfold closing
    rw [if_neg, if_neg] <;> rintro rfl <;> exact absurd hstarts (by decide)
  have hquote : c ≠ 0x22 := by rintro rfl; exact absurd hstarts (by decide)
  have hblank : ¬ isPassedOver c = true := by
    intro h
    have hmem := of_decide_eq_true h
    simp only [List.mem_cons, List.not_mem_nil, or_false] at hmem
    rcases hmem with rfl | rfl | rfl | rfl | rfl | rfl <;> exact absurd hstarts (by decide)
  rw [hopen, hclose]
  dsimp only
  rw [if_neg hquote, if_neg hblank, if_pos hstarts]
  rfl

theorem lexeme_opening {p : Nat} {kind : JsmnType} (h : opening (charAt js p) = some kind) :
    charAt js p ≠ 0 ∧ lexeme js p = .ok (.opening kind, p + 1) := by
  refine ⟨?_, ?_⟩
  · intro hzero
    rw [hzero] at h
    cases h
  · unfold lexeme
    rw [h]

theorem lexeme_closing {p : Nat} {kind : JsmnType} (h : closing (charAt js p) = some kind) :
    charAt js p ≠ 0 ∧ lexeme js p = .ok (.closing kind, p + 1) := by
  refine ⟨?_, ?_⟩
  · intro hzero
    rw [hzero] at h
    cases h
  · unfold lexeme
    rw [h]
    have hopen : opening (charAt js p) = none := by
      unfold closing at h
      unfold opening
      split at h
      case isTrue hc => rw [hc]; rfl
      case isFalse =>
        split at h
        case isTrue hc => rw [hc]; rfl
        case isFalse => cases h
    rw [hopen]

/-- The lexemes of a text are those of the grammar. -/
theorem lexeme_cases {p next : Nat} {l : Lexeme} (h : lexeme js p = .ok (l, next)) :
    (isPassedOver (charAt js p) = true ∧ l = .blank ∧ next = p + 1) ∨
      (∃ stop, charAt js p = 0x22 ∧ StringChars js (p + 1) stop ∧ charAt js stop = 0x22 ∧
        l = .leaf .string (p + 1) stop ∧ next = stop + 1) ∨
      (∃ stop, PrimitiveAt js p stop ∧ l = .leaf .primitive p stop ∧ next = stop) ∨
      (∃ kind, opening (charAt js p) = some kind ∧ l = .opening kind ∧ next = p + 1) ∨
      ∃ kind, closing (charAt js p) = some kind ∧ l = .closing kind ∧ next = p + 1 := by
  unfold lexeme at h
  cases hopen : opening (charAt js p) with
  | some kind =>
    rw [hopen] at h
    cases h
    exact .inr (.inr (.inr (.inl ⟨kind, rfl, rfl, rfl⟩)))
  | none =>
    cases hclose : closing (charAt js p) with
    | some kind =>
      rw [hopen, hclose] at h
      cases h
      exact .inr (.inr (.inr (.inr ⟨kind, rfl, rfl, rfl⟩)))
    | none =>
      rw [hopen, hclose] at h
      dsimp only at h
      split at h
      case isTrue hquote =>
        obtain ⟨stop, hstop, heq⟩ := map_eq_ok.mp h
        cases heq
        obtain ⟨hchars, hend⟩ := scanString_iff.mp hstop
        exact .inr (.inl ⟨stop, hquote, hchars, hend, rfl, rfl⟩)
      case isFalse =>
        split at h
        case isTrue hblank =>
          cases h
          exact .inl ⟨hblank, rfl, rfl⟩
        case isFalse =>
          split at h
          case isTrue hstarts =>
            obtain ⟨stop, hstop, heq⟩ := map_eq_ok.mp h
            obtain ⟨rfl, rfl⟩ := Prod.mk.inj heq
            obtain ⟨-, hends, hchars⟩ := scanPrimitive_iff.mp hstop
            exact .inr (.inr (.inl ⟨stop, ⟨scanPrimitive_gt hstarts hstop, hstarts, hchars, hends⟩,
              rfl, rfl⟩))
          case isFalse => cases h

end Scanning

/-! ## Places -/

section Places

variable {js : List UInt8} {p q : Nat}

theorem StringChars.le (h : StringChars js p q) : p ≤ q := by
  induction h with
  | nil p => exact Nat.le_refl p
  | plain _ _ _ _ ih => omega
  | escape _ _ _ ih => omega
  | unicode _ _ _ _ ih => omega

/-- What is read behind what was read. -/
theorem Lexes.append {r : Nat} {front back : List (MarkTree JsmnType)} (h : Lexes js p front q)
    (hback : Lexes js q back r) : Lexes js p (front ++ back) r := by
  induction h with
  | done p => exact hback
  | blank hblank _ ih => exact .blank hblank (ih hback)
  | string hopen hchars hclose _ ih => exact .string hopen hchars hclose (ih hback)
  | primitive hprimitive _ ih => exact .primitive hprimitive (ih hback)
  | brackets hopen hkids hclose _ _ ih => exact .brackets hopen hkids hclose (ih hback)

/-- The trees lie where they were read. -/
theorem Lexes.laid {trees : List (MarkTree JsmnType)} (h : Lexes js p trees q) :
    Laid p trees q := by
  have hblank : ∀ {p q : Nat} {trees : List (MarkTree JsmnType)}, Laid (p + 1) trees q →
      Laid p trees q := by
    intro p q trees h
    have hfront : Laid p ([] : List (MarkTree JsmnType)) (p + 1) := .nil (Nat.le_succ p)
    exact hfront.append h
  induction h with
  | done p => exact .nil (Nat.le_refl p)
  | blank _ _ ih => exact hblank ih
  | string _ hchars _ _ ih =>
    have hle := hchars.le
    exact .leaf (Nat.le_succ _) hle (Nat.le_succ _) (Nat.lt_succ_of_le hle) ih
  | primitive hprimitive _ ih =>
    exact .leaf (Nat.le_refl _) hprimitive.lt.le (Nat.le_refl _) hprimitive.lt ih
  | brackets _ _ _ _ ihkids ih => exact .node (Nat.le_refl _) ihkids (Nat.lt_succ_self _) ih

end Places

/-! ## What has been read -/

section Reading

variable {js : List UInt8} {n : Nat}

/-- The open brackets are in the text, and so is what is between them. -/
def ReadFrames (js : List UInt8) (trees : List (MarkTree JsmnType)) :
    List (Frame JsmnType) → Nat → Prop
  | [], pos => Lexes js 0 trees pos
  | frame :: outer, pos => ReadFrames js trees outer frame.start ∧
      opening (charAt js frame.start) = some frame.kind ∧
      Lexes js (frame.start + 1) frame.kids pos

/-- The stack is what the text up to `pos` leaves. -/
def ReadTo (js : List UInt8) (stack : Stack JsmnType) (pos : Nat) : Prop :=
  ReadFrames js stack.trees stack.frames pos

variable {stack stack' : Stack JsmnType} {pos next count : Nat}

theorem ReadFrames.laid {trees : List (MarkTree JsmnType)} {frames : List (Frame JsmnType)}
    {pos : Nat} (h : ReadFrames js trees frames pos) : Stack.LaidFrames trees frames pos := by
  induction frames generalizing pos with
  | nil => exact Lexes.laid h
  | cons frame outer ih => exact ⟨ih h.1, h.2.2.laid⟩

theorem ReadTo.laidTo (h : ReadTo js stack pos) : stack.LaidTo pos := ReadFrames.laid h

/-- More trees behind what has been read. -/
theorem ReadTo.addAll {trees : List (MarkTree JsmnType)} (h : ReadTo js stack pos)
    (htrees : Lexes js pos trees next) : ReadTo js (stack.addAll trees) next := by
  unfold ReadTo Stack.addAll at *
  cases hframes : stack.frames with
  | nil =>
    rw [hframes] at h
    exact Lexes.append h htrees
  | cons frame outer =>
    rw [hframes] at h
    exact ⟨h.1, h.2.1, h.2.2.append htrees⟩

theorem add_eq_addAll (tree : MarkTree JsmnType) : stack.add tree = stack.addAll [tree] := by
  rw [Stack.addAll_cons, Stack.addAll_nil]

/-- One lexeme more. -/
theorem ReadTo.read {l : Lexeme} (h : ReadTo js stack pos) (hl : lexeme js pos = .ok (l, next))
    (hread : Jsmn.read stack pos l = .ok stack') :
    ReadTo js stack' next ∧ stack'.marks.length = stack.marks.length + l.tokens := by
  rcases lexeme_cases hl with ⟨hblank, rfl, rfl⟩ | ⟨stop, hopen, hchars, hclose, rfl, rfl⟩ |
    ⟨stop, hprimitive, rfl, rfl⟩ | ⟨kind, hopen, rfl, rfl⟩ | ⟨kind, hclose, rfl, rfl⟩
  · obtain rfl := Except.ok.inj hread
    refine ⟨?_, rfl⟩
    have hstep := h.addAll (.blank hblank (.done (pos + 1)))
    rwa [Stack.addAll_nil] at hstep
  · obtain rfl := Except.ok.inj hread
    rw [add_eq_addAll, Stack.length_marks_addAll]
    exact ⟨h.addAll (.string hopen hchars hclose (.done (stop + 1))), rfl⟩
  · obtain rfl := Except.ok.inj hread
    rw [add_eq_addAll, Stack.length_marks_addAll]
    exact ⟨h.addAll (.primitive hprimitive (.done _)), rfl⟩
  · obtain rfl := Except.ok.inj hread
    exact ⟨⟨h, hopen, .done (pos + 1)⟩, stack.length_marks_push kind pos⟩
  · unfold Jsmn.read at hread
    cases hframes : stack.frames with
    | nil =>
      rw [hframes] at hread
      cases hread
    | cons frame outer =>
      rw [hframes] at hread
      dsimp only at hread
      split at hread
      case isFalse => cases hread
      case isTrue hkind =>
        obtain rfl := Except.ok.inj hread
        refine ⟨?_, by rw [Stack.marks_pop hframes, List.length_modify]; rfl⟩
        unfold ReadTo at h
        rw [hframes] at h
        obtain ⟨houter, hopen, hkids⟩ := h
        have houter : ReadTo js ⟨outer, stack.trees⟩ frame.start := houter
        rw [Stack.pop_eq hframes, add_eq_addAll]
        exact houter.addAll (.brackets hopen hkids (hkind ▸ hclose) (.done (pos + 1)))

/-- Whatever the passes lead to is a stack that the text leaves, with a token for each mark. -/
theorem passes_readTo {s : State} (h : Passes js (some n) .init s) :
    ∃ stack, s = State.of stack s.pos stack.marks.length ∧ ReadTo js stack s.pos ∧
      stack.marks.length ≤ n := by
  induction h with
  | refl => exact ⟨.empty, rfl, .done 0, Nat.zero_le n⟩
  | tail _ hpass ih =>
    obtain ⟨stack, hs, hreads, hroom⟩ := ih
    rw [hs] at hpass
    obtain ⟨-, l, next, stack', hl, hneeds, hread, rfl⟩ := (pass_of_iff stack _ _).mp hpass
    obtain ⟨hreads', hlength⟩ := hreads.read hl hread
    refine ⟨stack', by rw [hlength]; rfl, hreads', ?_⟩
    cases hl' : l.tokens with
    | zero => omega
    | succ k =>
      have hlt := hneeds (by omega)
      have hone : l.tokens ≤ 1 := by cases l <;> simp [Lexeme.tokens]
      omega

theorem pass_of_lexeme {l : Lexeme} (hl : charAt js pos ≠ 0 ∧ lexeme js pos = .ok (l, next))
    (hread : Jsmn.read stack pos l = .ok stack') (hneeds : 0 < l.tokens → stack.marks.length < n) :
    Pass js (some n) (State.of stack pos count) (State.of stack' next (count + l.tokens)) :=
  (pass_of_iff _ _ _).mpr ⟨hl.1, l, next, stack', hl.2, hneeds, hread, rfl⟩

/-- The trees from `pos` to `next` are read, if there is a token for each of their marks. -/
def ReadsTrees (js : List UInt8) (n pos next : Nat) (trees : List (MarkTree JsmnType)) : Prop :=
  ∀ (stack : Stack JsmnType) (count : Nat), stack.marks.length + (marksOf trees).length ≤ n →
    Passes js (some n) (State.of stack pos count)
      (State.of (stack.addAll trees) next (count + (marksOf trees).length))

/-- A leaf in front of trees. -/
theorem ReadsTrees.leaf {kind : JsmnType} {start stop mid : Nat} {trees : List (MarkTree JsmnType)}
    (hl : charAt js pos ≠ 0 ∧ lexeme js pos = .ok (.leaf kind start stop, mid))
    (h : ReadsTrees js n mid next trees) :
    ReadsTrees js n pos next (.leaf kind start stop :: trees) := by
  intro stack count hroom
  have hmarks : (marksOf (.leaf kind start stop :: trees)).length = 1 + (marksOf trees).length := by
    rw [marksOf, MarkTree.marks, List.length_append, List.length_singleton]
  have hadd : (stack.add (.leaf kind start stop)).marks.length = stack.marks.length + 1 := by
    rw [add_eq_addAll, Stack.length_marks_addAll]
    rfl
  rw [hmarks] at hroom ⊢
  rw [Stack.addAll_cons, ← Nat.add_assoc]
  exact .head (pass_of_lexeme hl rfl fun _ => by omega) (h _ _ (by omega))

/-- What the grammar gives is read. -/
theorem Lexes.readsTrees {trees : List (MarkTree JsmnType)} (h : Lexes js pos trees next) :
    ReadsTrees js n pos next trees := by
  induction h with
  | done p =>
    intro stack count _
    rw [Stack.addAll_nil]
    exact .refl
  | blank hblank _ ih =>
    intro stack count hroom
    exact .head (pass_of_lexeme (lexeme_blank hblank) rfl fun h => absurd h (by decide))
      (ih stack count hroom)
  | string hopen hchars hclose _ ih => exact ih.leaf (lexeme_string hopen hchars hclose)
  | primitive hprimitive _ ih => exact ih.leaf (lexeme_primitive hprimitive)
  | @brackets p stop q kind kids trees hopen _ hclose _ ihkids ih =>
    intro stack count hroom
    have hmarks : (marksOf (.node kind p (stop + 1) kids :: trees)).length =
        1 + (marksOf kids).length + (marksOf trees).length := by
      rw [marksOf, MarkTree.marks, List.length_append, List.length_cons]
      omega
    have hadd : (stack.add (.node kind p (stop + 1) kids)).marks.length =
        stack.marks.length + 1 + (marksOf kids).length := by
      rw [add_eq_addAll, Stack.length_marks_addAll, marksOf_singleton, MarkTree.marks,
        List.length_cons]
      omega
    rw [hmarks] at hroom ⊢
    -- the bracket opens, what is in it is read, and it closes
    have hpush : Pass js (some n) (State.of stack p count)
        (State.of (stack.push kind p) (p + 1) (count + 1)) :=
      pass_of_lexeme (lexeme_opening hopen) rfl fun _ => by omega
    have hkids := ihkids (stack.push kind p) (count + 1)
      (by rw [Stack.length_marks_push]; omega)
    have hpop : Pass js (some n)
        (State.of ((stack.push kind p).addAll kids) stop (count + 1 + (marksOf kids).length))
        (State.of (stack.add (.node kind p (stop + 1) kids)) (stop + 1)
          (count + 1 + (marksOf kids).length)) := by
      refine pass_of_lexeme (lexeme_closing hclose) ?_ fun h => absurd h (Nat.lt_irrefl 0)
      rw [← Stack.pop_addAll_push]
      simp [Jsmn.read, Stack.push, Stack.addAll]
    have hrest := ih (stack.add (.node kind p (stop + 1) kids))
      (count + 1 + (marksOf kids).length) (by omega)
    rw [Stack.addAll_cons, ← Nat.add_assoc, ← Nat.add_assoc]
    exact .head hpush (hkids.trans (.head hpop hrest))

end Reading

/-! ## Accepted texts -/

section Accepting

variable {js : List UInt8} {n count : Nat}

/-- A text of the grammar is accepted. -/
theorem jsmnParse_of_lexes {trees : List (MarkTree JsmnType)} {pos : Nat} (h : Lexes js 0 trees pos)
    (hend : charAt js pos = 0) (hroom : (marksOf trees).length ≤ n) :
    jsmnParse js (some n) .init =
      (.ok (marksOf trees).length, ⟨pos, none, marksOf trees, (marksOf trees).length⟩) := by
  have hpasses := h.readsTrees (n := n) .empty 0 (by simpa using hroom)
  rw [Nat.zero_add, of_empty] at hpasses
  have hframes : (Stack.empty.addAll trees).frames = [] := rfl
  have hout := outcome_of (Stack.empty.addAll trees) pos (marksOf trees).length
  rw [if_pos hframes] at hout
  exact jsmnParse_eq_iff.mpr ⟨hpasses, .inl ⟨hend, hout.symm⟩⟩

/-- A text that is accepted is one of the grammar. -/
theorem lexes_of_jsmnParse {s : State} (h : jsmnParse js (some n) .init = (.ok count, s)) :
    ∃ trees, Lexes js 0 trees s.pos ∧ charAt js s.pos = 0 ∧ (marksOf trees).length ≤ n ∧
      count = (marksOf trees).length ∧ s = ⟨s.pos, none, marksOf trees, count⟩ := by
  obtain ⟨hpasses, hstops⟩ := jsmnParse_eq_iff.mp h
  obtain ⟨stack, hs, hreads, hroom⟩ := passes_readTo hpasses
  rcases hstops with ⟨hend, hout⟩ | ⟨-, e, -, he⟩
  case inr => cases he
  rw [hs, outcome_of] at hout
  split at hout
  case isFalse => cases hout
  case isTrue hframes =>
    have hcount := Except.ok.inj hout
    have hmarks : stack.marks = marksOf stack.trees := by
      rw [Stack.marks, hframes, Stack.marksFrom]
    have hsuper : stack.super = none := by rw [Stack.super, hframes]
    unfold ReadTo at hreads
    rw [hframes] at hreads
    refine ⟨stack.trees, hreads, hend, hmarks ▸ hroom, hmarks ▸ hcount, ?_⟩
    rw [← hmarks, hcount, ← hsuper]
    exact hs

end Accepting

/-- The parser accepts exactly the texts of the grammar that need no more tokens than there are,
and the tokens it stores are the marks of their trees: no bracket is left open, the count is the
number of tokens, and the size of a token is the number of tokens directly in it. -/
theorem jsmnParse_ok_iff (js : List UInt8) (n count : Nat) (s : State) :
    jsmnParse js (some n) .init = (.ok count, s) ↔
      ∃ trees, Lexes js 0 trees s.pos ∧ charAt js s.pos = 0 ∧ (marksOf trees).length ≤ n ∧
        count = (marksOf trees).length ∧ s = ⟨s.pos, none, marksOf trees, count⟩ := by
  constructor
  · exact lexes_of_jsmnParse
  · rintro ⟨trees, hlexes, hend, hroom, rfl, hs⟩
    rw [jsmnParse_of_lexes hlexes hend hroom, ← hs]

end AwsIot.Jsmn
