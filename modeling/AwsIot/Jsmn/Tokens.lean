/-
  Jsmn/Tokens.lean --- what the stored tokens mark, however the parse ends.

  `jsmnParse_wellFormed` is the invariant of the parser: after any call, one that failed
  included, the tokens fit the array, come in the order of the text, overlap only where one
  lies in the other, and each has the brackets, quotes or delimiters that its type asks for at
  its ends.
-/
import AwsIot.Jsmn.Language

set_option autoImplicit false

namespace AwsIot.Jsmn

open Foundation
open Shadow (JsmnType)

/-- What a token marks: a string without its quotes, a primitive, or what a bracket opens, up to
the bracket that closes it if that has been read. -/
inductive Stands (js : List UInt8) : Token → Prop where
  | string {start stop : Nat} (hopen : charAt js start = 0x22)
      (hchars : StringChars js (start + 1) stop) (hclose : charAt js stop = 0x22) :
      Stands js ⟨.string, some (start + 1), some stop, 0⟩
  | primitive {start stop : Nat} (h : PrimitiveAt js start stop) :
      Stands js ⟨.primitive, some start, some stop, 0⟩
  | opened {kind : JsmnType} {start size : Nat} (hopen : opening (charAt js start) = some kind) :
      Stands js ⟨kind, some start, none, size⟩
  | closed {kind : JsmnType} {start stop size : Nat}
      (hopen : opening (charAt js start) = some kind)
      (hclose : closing (charAt js stop) = some kind) :
      Stands js ⟨kind, some start, some (stop + 1), size⟩

/-- What holds of the parser and its tokens after every call. -/
structure WellFormed (js : List UInt8) (n : Nat) (s : State) : Prop where
  /-- The tokens are entries of the array. -/
  fits : s.tokens.length ≤ n
  /-- The parser is in the text, or at its end. -/
  inText : s.pos ≤ js.length
  /-- The tokens have been counted. -/
  counted : s.count = s.tokens.length
  /-- A token lies in what has been read. -/
  within : ∀ token ∈ s.tokens, token.Within 0 s.pos
  /-- Tokens start one behind the other, and none reaches over the end of another. -/
  ordered : s.tokens.Pairwise Mark.Before
  /-- The superior token is the last that is open. -/
  super : s.toksuper = lastBelow Mark.isOpen s.tokens s.tokens.length
  /-- A token marks what its type says. -/
  stands : ∀ token ∈ s.tokens, Stands js token

section Runs

variable {js : List UInt8} {n pos next : Nat} {l : Lexeme}

/-- A lexeme ends in the text. -/
theorem lexeme_le_length (hzero : charAt js pos ≠ 0) (hl : lexeme js pos = .ok (l, next)) :
    next ≤ js.length := by
  have hpos : pos + 1 ≤ js.length := lt_length_of_charAt hzero
  rcases lexeme_cases hl with ⟨-, -, rfl⟩ | ⟨stop, -, -, hclose, -, rfl⟩ |
    ⟨stop, hprimitive, -, rfl⟩ | ⟨-, -, -, rfl⟩ | ⟨-, -, -, rfl⟩
  · exact hpos
  · exact lt_length_of_charAt (by rw [hclose]; decide)
  · exact (lt_length_of_charAt (ne_zero_of_endsPrimitive hprimitive.ends)).le
  · exact hpos
  · exact hpos

theorem passes_inText {s : State} (h : Passes js (some n) .init s) : s.pos ≤ js.length := by
  induction h with
  | refl => exact Nat.zero_le _
  | tail hpasses hpass _ =>
    obtain ⟨stack, hs, -, -⟩ := passes_readTo hpasses
    rw [hs] at hpass
    obtain ⟨hzero, l, next, stack', hl, -, -, rfl⟩ := (pass_of_iff stack _ _).mp hpass
    exact lexeme_le_length hzero hl

/-- The marks of what the grammar gives. -/
theorem Lexes.stands {trees : List (MarkTree JsmnType)} (h : Lexes js pos trees next) :
    ∀ token ∈ marksOf trees, Stands js token := by
  induction h with
  | done p => exact fun _ hmem => absurd hmem List.not_mem_nil
  | blank _ _ ih => exact ih
  | string hopen hchars hclose _ ih =>
    intro token hmem
    rcases List.mem_cons.mp hmem with rfl | hrest
    · exact .string hopen hchars hclose
    · exact ih token hrest
  | primitive hprimitive _ ih =>
    intro token hmem
    rcases List.mem_cons.mp hmem with rfl | hrest
    · exact .primitive hprimitive
    · exact ih token hrest
  | brackets hopen _ hclose _ ihkids ih =>
    intro token hmem
    rcases List.mem_append.mp hmem with hfirst | hrest
    · rcases List.mem_cons.mp hfirst with rfl | hinside
      · exact .closed hopen hclose
      · exact ihkids token hinside
    · exact ih token hrest

theorem ReadFrames.stands {trees : List (MarkTree JsmnType)} {frames : List (Frame JsmnType)}
    (inside : Nat) (h : ReadFrames js trees frames pos) :
    ∀ token ∈ Stack.marksFrom trees frames inside, Stands js token := by
  induction frames generalizing pos inside with
  | nil => exact Lexes.stands h
  | cons frame outer ih =>
    obtain ⟨houter, hopen, hkids⟩ := h
    intro token hmem
    rcases List.mem_append.mp hmem with hfront | hback
    · exact ih 1 houter token hfront
    · rcases List.mem_cons.mp hback with rfl | hinside
      · exact .opened hopen
      · exact hkids.stands token hinside

end Runs

/-- Whatever the text is, however many tokens there are, and whether the parse succeeds or not,
the parser ends with tokens that are in order. -/
theorem jsmnParse_wellFormed (js : List UInt8) (n : Nat) :
    WellFormed js n (jsmnParse js (some n) .init).2 := by
  generalize hresult : jsmnParse js (some n) .init = result
  have hpasses : Passes js (some n) .init result.2 := (jsmnParse_eq_iff.mp hresult).1
  obtain ⟨stack, hs, hreads, hroom⟩ := passes_readTo hpasses
  have hinText := passes_inText hpasses
  have hlaid := hreads.laidTo
  generalize result.2.pos = pos at hs hreads hinText hlaid
  rw [hs]
  exact {
    fits := hroom
    inText := hinText
    counted := rfl
    within := hlaid.within
    ordered := hlaid.pairwise
    super := stack.lastBelow_marks.symm
    stands := ReadFrames.stands 0 hreads }

end AwsIot.Jsmn
