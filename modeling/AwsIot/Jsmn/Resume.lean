/-
  Jsmn/Resume.lean --- several calls for one text.

  A caller may count the tokens first, with `tokens` set to `NULL`, or call again with more
  tokens after `JSMN_ERROR_NOMEM` and with more text after `JSMN_ERROR_PART`.
  `jsmnParse_numTokens` compares calls with different numbers of tokens, `jsmnParse_counts` a
  call that counts with one that stores, and `jsmnParse_resumes` says that a call that goes on
  where another stopped ends where one call would have ended.
-/
import AwsIot.Jsmn.Tokens

set_option autoImplicit false

namespace AwsIot.Jsmn

open Foundation
open Shadow (JsmnType)

/-! ## Fewer tokens -/

section Capacity

variable {js : List UInt8} {m n : Nat} {s s' : State} {r : Except JsmnError Nat}

theorem Pass.tokens_le (h : Pass js (some m) s s') (hs : Passes js (some m) .init s) :
    s.tokens.length ≤ s'.tokens.length ∧ s'.tokens.length ≤ s.tokens.length + 1 := by
  obtain ⟨stack, heq, hreads, -⟩ := passes_readTo hs
  rw [heq] at h ⊢
  obtain ⟨-, l, next, stack', hl, -, hread, rfl⟩ := (pass_of_iff stack _ _).mp h
  have hlength : (State.of stack' next (stack.marks.length + l.tokens)).tokens.length =
      stack.marks.length + l.tokens := (hreads.read hl hread).2
  have hone : l.tokens ≤ 1 := by cases l <;> simp [Lexeme.tokens]
  rw [hlength]
  exact ⟨Nat.le_add_right _ _, Nat.add_le_add_left hone _⟩

/-- A pass that ends with no more tokens than there are can be made with them. -/
theorem Pass.with (h : Pass js (some m) s s') (hs : Passes js (some m) .init s)
    (hn : s'.tokens.length ≤ n) : Pass js (some n) s s' := by
  obtain ⟨stack, heq, hreads, -⟩ := passes_readTo hs
  rw [heq] at h ⊢
  obtain ⟨hzero, l, next, stack', hl, -, hread, rfl⟩ := (pass_of_iff stack _ _).mp h
  have hlength : stack'.marks.length = stack.marks.length + l.tokens := (hreads.read hl hread).2
  have hn : stack'.marks.length ≤ n := hn
  exact (pass_of_iff stack _ _).mpr ⟨hzero, l, next, stack', hl, fun hneeds => by omega, hread, rfl⟩

theorem passes_with (h : Passes js (some m) .init s) (hn : s.tokens.length ≤ n) :
    Passes js (some n) .init s := by
  induction h with
  | refl => exact .refl
  | tail hpasses hpass ih =>
    have hle := (hpass.tokens_le hpasses).1
    exact (ih (hle.trans hn)).tail (hpass.with hpasses hn)

/-- On the way to more than `n` tokens there is a pass that needs the next one. -/
theorem exists_pass_of_lt (h : Passes js (some m) .init s) (hn : n < s.tokens.length) :
    ∃ t t', Passes js (some m) .init t ∧ Pass js (some m) t t' ∧ t.tokens.length = n ∧
      t'.tokens.length = n + 1 := by
  induction h with
  | refl => exact absurd hn (Nat.not_lt_zero n)
  | @tail b c hpasses hpass ih =>
    obtain ⟨hle, hle'⟩ := hpass.tokens_le hpasses
    rcases Nat.lt_or_ge n b.tokens.length with hlt | hge
    · exact ih hlt
    · exact ⟨b, c, hpasses, hpass, by omega, by omega⟩

/-- Where a call with more tokens stops, so does one with fewer that has come there. -/
theorem Stops.with (h : Stops js (some m) r s) (hs : Passes js (some m) .init s) (hnm : n ≤ m) :
    Stops js (some n) r s := by
  rcases h with hend | ⟨hzero, e, he, hr⟩
  · exact .inl hend
  refine .inr ⟨hzero, e, ?_, hr⟩
  obtain ⟨stack, heq, -, -⟩ := passes_readTo hs
  generalize s.pos = pos at heq he
  rw [heq] at he ⊢
  rw [parseChar_of] at he ⊢
  cases hl : lexeme js pos with
  | error e' =>
    rw [hl] at he
    exact he
  | ok lexed =>
    rw [hl] at he
    change (if _ then _ else _) = _ at he
    show (if _ then _ else _) = _
    split at he
    case isTrue hfull => rw [if_pos ⟨hfull.1, hnm.trans hfull.2⟩, ← he]
    case isFalse =>
      -- only a closing bracket fails, which needs no token
      cases hread : read stack pos lexed.1 with
      | ok stack' =>
        rw [hread] at he
        cases he
      | error e' =>
        have hnone : ¬ 0 < lexed.1.tokens := by
          intro hneeds
          cases hlexeme : lexed.1 with
          | closing kind => rw [hlexeme] at hneeds; exact Nat.lt_irrefl 0 hneeds
          | blank => rw [hlexeme] at hread; cases hread
          | opening kind => rw [hlexeme] at hread; cases hread
          | leaf kind start stop => rw [hlexeme] at hread; cases hread
        rw [if_neg (fun h => hnone h.1), ← he, hread]

/-- A pass that needs the `n+1`-st token fails if there are `n`. -/
theorem stops_nomem {t' : State} (h : Pass js (some m) s t') (hs : Passes js (some m) .init s)
    (hn : s.tokens.length = n) (hn' : t'.tokens.length = n + 1) :
    Stops js (some n) (.error .nomem) s := by
  obtain ⟨stack, heq, hreads, -⟩ := passes_readTo hs
  generalize s.pos = pos at heq hreads
  subst heq
  obtain ⟨hzero, l, next, stack', hl, -, hread, rfl⟩ := (pass_of_iff stack _ _).mp h
  have hlength := (hreads.read hl hread).2
  have hn : stack.marks.length = n := hn
  have hn' : stack'.marks.length = n + 1 := hn'
  refine .inr ⟨hzero, .nomem, ?_, rfl⟩
  rw [pos_of, parseChar_of, hl]
  show (if 0 < l.tokens ∧ stack.marks.length ≥ n then _ else _) = _
  rw [if_pos ⟨by omega, by omega⟩]

end Capacity

/-- Tokens that are enough do as well as more. -/
theorem jsmnParse_enough {js : List UInt8} {n k : Nat}
    (hfits : (jsmnParse js (some (n + k)) .init).2.tokens.length ≤ n) :
    jsmnParse js (some n) .init = jsmnParse js (some (n + k)) .init := by
  obtain ⟨hpasses, hstops⟩ := jsmnParse_eq_iff.mp
    (Prod.eta (jsmnParse js (some (n + k)) .init)).symm
  exact jsmnParse_eq_iff.mpr
    ⟨passes_with hpasses hfits, hstops.with hpasses (Nat.le_add_right n k)⟩

/-- Tokens that are too few are used up. -/
theorem jsmnParse_usedUp {js : List UInt8} {n k : Nat}
    (hlt : n < (jsmnParse js (some (n + k)) .init).2.tokens.length) :
    (jsmnParse js (some n) .init).1 = .error .nomem ∧
      (jsmnParse js (some n) .init).2.tokens.length = n := by
  obtain ⟨hpasses, -⟩ := jsmnParse_eq_iff.mp
    (Prod.eta (jsmnParse js (some (n + k)) .init)).symm
  obtain ⟨t, t', ht, hpass, hn, hn'⟩ := exists_pass_of_lt hpasses hlt
  have hresult : jsmnParse js (some n) .init = (.error .nomem, t) :=
    jsmnParse_eq_iff.mpr ⟨passes_with ht hn.le, stops_nomem hpass ht hn hn'⟩
  rw [hresult]
  exact ⟨rfl, hn⟩

/-- With fewer tokens a call does what it does with more of them if they are enough for it, and
otherwise it fails when they are used up. -/
theorem jsmnParse_numTokens (js : List UInt8) (n k : Nat) :
    ((jsmnParse js (some (n + k)) .init).2.tokens.length ≤ n →
      jsmnParse js (some n) .init = jsmnParse js (some (n + k)) .init) ∧
    (n < (jsmnParse js (some (n + k)) .init).2.tokens.length →
      (jsmnParse js (some n) .init).1 = .error .nomem ∧
        (jsmnParse js (some n) .init).2.tokens.length = n) :=
  ⟨jsmnParse_enough, jsmnParse_usedUp⟩

/-- A text of the grammar is not accepted with too few tokens. -/
theorem jsmnParse_nomem {js : List UInt8} {n pos : Nat} {trees : List (MarkTree JsmnType)}
    (h : Lexes js 0 trees pos) (hend : charAt js pos = 0) (hn : n < (marksOf trees).length) :
    (jsmnParse js (some n) .init).1 = .error .nomem := by
  obtain ⟨k, hk⟩ := Nat.exists_eq_add_of_lt hn
  have hsum : n + (k + 1) = (marksOf trees).length := hk.symm
  refine (jsmnParse_usedUp (k := k + 1) ?_).1
  rw [jsmnParse_of_lexes h hend hsum.ge]
  exact hn

/-! ## No tokens at all -/

section Counting

variable {js : List UInt8} {n pos count : Nat}

/-- A parser that only counts. -/
def State.counting (pos count : Nat) : State := ⟨pos, none, [], count⟩

/-- Without tokens a lexeme is counted, and nothing is asked of the brackets. -/
theorem parseChar_counting :
    parseChar js none (charAt js pos) (.counting pos count) =
      (lexeme js pos).map fun r => .counting (r.2 - 1) (count + r.1.tokens) := by
  unfold parseChar lexeme opening closing
  generalize charAt js pos = c
  by_cases hcurly : c = 0x7B
  · subst hcurly
    rfl
  by_cases hsquare : c = 0x5B
  · subst hsquare
    rfl
  by_cases hcurly' : c = 0x7D
  · subst hcurly'
    rfl
  by_cases hsquare' : c = 0x5D
  · subst hsquare'
    rfl
  rw [if_neg (by simp [hcurly, hsquare]), if_neg (by simp [hcurly', hsquare']), if_neg hcurly,
    if_neg hsquare, if_neg hcurly', if_neg hsquare']
  dsimp only
  by_cases hquote : c = 0x22
  · rw [if_pos hquote, if_pos hquote]
    unfold parseString
    show (scanString .char (js.drop (pos + 1)) (pos + 1)).bind _ = _
    cases scanString .char (js.drop (pos + 1)) (pos + 1) with
    | error e => rfl
    | ok stop => rfl
  rw [if_neg hquote, if_neg hquote]
  by_cases hblank : isPassedOver c
  · rw [if_pos hblank, if_pos hblank]
    rfl
  rw [if_neg hblank, if_neg hblank]
  by_cases hstarts : startsPrimitive c
  · rw [if_pos hstarts, if_pos hstarts]
    unfold parsePrimitive
    show (scanPrimitive (js.drop pos) pos).bind _ = _
    cases scanPrimitive (js.drop pos) pos with
    | error e => rfl
    | ok stop => rfl
  · rw [if_neg hstarts, if_neg hstarts]
    rfl

/-- A call that counts goes where one that stores goes. -/
theorem passes_counting {s : State} (h : Passes js (some n) .init s) :
    Passes js none .init (.counting s.pos s.count) := by
  induction h with
  | refl => exact .refl
  | @tail b c hpasses hpass ih =>
    obtain ⟨stack, hs, -, -⟩ := passes_readTo hpasses
    generalize b.pos = pos at hs ih
    subst hs
    obtain ⟨hzero, l, next, stack', hl, -, -, rfl⟩ := (pass_of_iff stack _ _).mp hpass
    have hnext := lexeme_lt hl
    refine ih.tail ⟨hzero, .counting (next - 1) (stack.marks.length + l.tokens), ?_, ?_⟩
    · show parseChar js none (charAt js pos) (.counting pos stack.marks.length) = _
      rw [parseChar_counting, hl]
      rfl
    · show _ = State.counting (next - 1 + 1) (stack.marks.length + l.tokens)
      rw [Nat.sub_add_cancel (by omega)]
      rfl

end Counting

/-- For a text that is accepted with some number of tokens, the call without tokens returns how
many are needed: with that many or more the text is accepted, with fewer they run out. -/
theorem jsmnParse_counts {js : List UInt8} {n count : Nat} {s : State}
    (h : jsmnParse js (some n) .init = (.ok count, s)) :
    (jsmnParse js none .init).1 = .ok count ∧ ∀ k, (jsmnParse js (some k) .init).1 =
      if count ≤ k then .ok count else .error .nomem := by
  obtain ⟨trees, hlexes, hend, hroom, rfl, hs⟩ := lexes_of_jsmnParse h
  constructor
  · have hpasses : Passes js (some n) .init s := (jsmnParse_eq_iff.mp h).1
    have hcounting := passes_counting hpasses
    have hcount : s.count = (marksOf trees).length := by rw [hs]
    rw [hcount] at hcounting
    have hresult : jsmnParse js none .init =
        (.ok (marksOf trees).length, .counting s.pos (marksOf trees).length) :=
      jsmnParse_eq_iff.mpr ⟨hcounting, .inl ⟨hend, rfl⟩⟩
    rw [hresult]
  · intro k
    split
    case isTrue hk => rw [jsmnParse_of_lexes hlexes hend hk]
    case isFalse hk => exact jsmnParse_nomem hlexes hend (Nat.lt_of_not_le hk)

/-- An object with one member has three tokens. -/
theorem jsmnParse_counts_object :
    (jsmnParse [0x7B, 0x22, 0x61, 0x22, 0x3A, 0x31, 0x7D] none .init).1 = .ok 3 ∧
      ∀ k, (jsmnParse [0x7B, 0x22, 0x61, 0x22, 0x3A, 0x31, 0x7D] (some k) .init).1 =
        if 3 ≤ k then .ok 3 else .error .nomem := by
  have hparse : jsmnParse [0x7B, 0x22, 0x61, 0x22, 0x3A, 0x31, 0x7D] (some 8) .init =
      (.ok 3, ⟨7, none, [⟨.object, some 0, some 7, 2⟩, ⟨.string, some 2, some 3, 0⟩,
        ⟨.primitive, some 5, some 6, 0⟩], 3⟩) := by decide
  exact jsmnParse_counts hparse

/-! ## One call after another -/

section Resuming

variable {js more : List UInt8} {n m pos next : Nat}

theorem charAt_append (hzero : charAt js pos ≠ 0) : charAt (js ++ more) pos = charAt js pos := by
  unfold charAt
  rw [List.getElem?_append_left (lt_length_of_charAt hzero)]

theorem StringChars.append {p q : Nat} (h : StringChars js p q) : StringChars (js ++ more) p q := by
  induction h with
  | nil p => exact .nil p
  | @plain p q hzero hquote hslash _ ih =>
    have hchar : charAt (js ++ more) p = charAt js p := charAt_append hzero
    exact .plain (by rw [hchar]; exact hzero) (by rw [hchar]; exact hquote)
      (by rw [hchar]; exact hslash) ih
  | @escape p q hslash hchar _ ih =>
    have hzero : charAt js p ≠ 0 := by rw [hslash]; decide
    have hzero' : charAt js (p + 1) ≠ 0 := by
      intro hzero'
      rw [hzero'] at hchar
      exact absurd hchar (by decide)
    exact .escape (by rw [charAt_append hzero]; exact hslash)
      (by rw [charAt_append hzero']; exact hchar) ih
  | @unicode p q hslash hu hhex _ ih =>
    have hzero : charAt js p ≠ 0 := by rw [hslash]; decide
    have hzero' : charAt js (p + 1) ≠ 0 := by rw [hu]; decide
    refine .unicode (by rw [charAt_append hzero]; exact hslash)
      (by rw [charAt_append hzero']; exact hu) (fun i hi => ?_) ih
    rw [charAt_append (ne_zero_of_isHex (hhex i hi))]
    exact hhex i hi

theorem PrimitiveAt.append {p q : Nat} (h : PrimitiveAt js p q) : PrimitiveAt (js ++ more) p q where
  lt := h.lt
  starts := by
    rw [charAt_append (not_endsPrimitive_of_starts h.starts).1]
    exact h.starts
  chars i hi hlt := by
    rw [charAt_append (ne_zero_of_isPrintable (h.chars i hi hlt).2)]
    exact h.chars i hi hlt
  ends := by
    rw [charAt_append (ne_zero_of_endsPrimitive h.ends)]
    exact h.ends

/-- A lexeme stays what it is when the text goes on. -/
theorem lexeme_append {l : Lexeme} (hzero : charAt js pos ≠ 0)
    (hl : lexeme js pos = .ok (l, next)) : lexeme (js ++ more) pos = .ok (l, next) := by
  have hchar : charAt (js ++ more) pos = charAt js pos := charAt_append hzero
  rcases lexeme_cases hl with ⟨hblank, rfl, rfl⟩ | ⟨stop, hopen, hchars, hclose, rfl, rfl⟩ |
    ⟨stop, hprimitive, rfl, rfl⟩ | ⟨kind, hopen, rfl, rfl⟩ | ⟨kind, hclose, rfl, rfl⟩
  · exact (lexeme_blank (by rw [hchar]; exact hblank)).2
  · have hzero' : charAt js stop ≠ 0 := by rw [hclose]; decide
    exact (lexeme_string (by rw [hchar]; exact hopen) hchars.append
      (by rw [charAt_append hzero']; exact hclose)).2
  · exact (lexeme_primitive hprimitive.append).2
  · exact (lexeme_opening (by rw [hchar]; exact hopen)).2
  · exact (lexeme_closing (by rw [hchar]; exact hclose)).2

/-- The passes of a call are made by one with a longer text and more tokens as well. -/
theorem passes_append {s : State} (h : Passes js (some n) .init s) (hnm : n ≤ m) :
    Passes (js ++ more) (some m) .init s := by
  induction h with
  | refl => exact .refl
  | @tail b c hpasses hpass ih =>
    refine ih.tail ?_
    obtain ⟨stack, hs, -, -⟩ := passes_readTo hpasses
    rw [hs] at hpass ⊢
    obtain ⟨hzero, l, next, stack', hl, hneeds, hread, rfl⟩ := (pass_of_iff stack _ _).mp hpass
    refine (pass_of_iff stack _ _).mpr ⟨?_, l, next, stack', lexeme_append hzero hl,
      fun h => (hneeds h).trans_le hnm, hread, rfl⟩
    rw [charAt_append hzero]
    exact hzero

/-- What the counter starts with does not matter for the passes. -/
theorem passes_shift {s s' : State} {stack : Stack JsmnType} {count : Nat}
    (h : Passes js (some m) s s') (hs : s = State.of stack pos count) (other : Nat) :
    ∃ stack' pos' k, s' = State.of stack' pos' (count + k) ∧
      Passes js (some m) (State.of stack pos other) (State.of stack' pos' (other + k)) := by
  induction h with
  | refl => exact ⟨stack, pos, 0, hs, .refl⟩
  | tail _ hpass ih =>
    obtain ⟨stack₁, pos₁, k, rfl, hpasses⟩ := ih
    obtain ⟨hzero, l, next, stack₂, hl, hneeds, hread, rfl⟩ := (pass_of_iff stack₁ _ _).mp hpass
    refine ⟨stack₂, next, k + l.tokens, by rw [Nat.add_assoc], hpasses.tail ?_⟩
    exact (pass_of_iff stack₁ _ _).mpr ⟨hzero, l, next, stack₂, hl, hneeds, hread,
      by rw [Nat.add_assoc]⟩

/-- Nor does it matter for where the call stops, apart from the count that is returned. -/
theorem stops_shift {r : Except JsmnError Nat} {stack : Stack JsmnType} {k : Nat}
    (h : Stops js (some m) r (State.of stack pos k)) (other : Nat) :
    Stops js (some m) (r.map (other + ·)) (State.of stack pos (other + k)) := by
  rcases h with ⟨hend, hr⟩ | ⟨hzero, e, he, rfl⟩
  · refine .inl ⟨hend, ?_⟩
    rw [hr, outcome_of, outcome_of]
    split <;> rfl
  · refine .inr ⟨hzero, e, ?_, rfl⟩
    rw [pos_of, parseChar_of] at he ⊢
    cases hl : lexeme js pos with
    | error e' =>
      rw [hl] at he
      exact he
    | ok lexed =>
      rw [hl] at he
      change (if _ then _ else _) = _ at he
      show (if _ then _ else _) = _
      split at he
      case isTrue hfull =>
        rw [if_pos hfull]
        exact he
      case isFalse hfull =>
        rw [if_neg hfull]
        cases hread : read stack pos lexed.1 with
        | error e' =>
          rw [hread] at he
          exact he
        | ok stack' =>
          rw [hread] at he
          cases he

end Resuming

/-- A call that goes on with a longer text and more tokens where another call stopped leaves the
parser and the tokens as one call would, and returns what that would, except that it counts
only the tokens that it adds. -/
theorem jsmnParse_resumes (js more : List UInt8) (n k : Nat) :
    ∃ r pos toksuper tokens count,
      jsmnParse (js ++ more) (some (n + k)) (jsmnParse js (some n) .init).2 =
        (r, ⟨pos, toksuper, tokens, count⟩) ∧
      jsmnParse (js ++ more) (some (n + k)) .init =
        (r.map ((jsmnParse js (some n) .init).2.tokens.length + ·),
          ⟨pos, toksuper, tokens, (jsmnParse js (some n) .init).2.tokens.length + count⟩) := by
  obtain ⟨hfirst, -⟩ := jsmnParse_eq_iff.mp (Prod.eta (jsmnParse js (some n) .init)).symm
  have hfirst : Passes js (some n) .init (jsmnParse js (some n) .init).2 := hfirst
  obtain ⟨stack, hs, -, -⟩ := passes_readTo hfirst
  generalize (jsmnParse js (some n) .init).2 = s at hfirst hs
  have hlength : s.tokens.length = stack.marks.length := by rw [hs]; rfl
  obtain ⟨hpasses, hstops⟩ := jsmnParse_eq_iff.mp
    (Prod.eta (jsmnParse (js ++ more) (some (n + k)) s)).symm
  have hzero : { s with count := 0 } = State.of stack s.pos 0 := by
    rw [hs]
    rfl
  obtain ⟨stack', pos', c, hend, hshifted⟩ := passes_shift hpasses hzero stack.marks.length
  rw [Nat.zero_add] at hend
  rw [hend] at hstops
  -- the passes of the first call, and those of the second behind them
  have hwhole : Passes (js ++ more) (some (n + k)) .init s :=
    passes_append hfirst (Nat.le_add_right n k)
  rw [hs] at hwhole
  rw [hlength]
  refine ⟨(jsmnParse (js ++ more) (some (n + k)) s).1, pos', stack'.super, stack'.marks, c, ?_, ?_⟩
  · exact Prod.ext rfl hend
  · exact jsmnParse_eq_iff.mpr ⟨hwhole.trans hshifted, stops_shift hstops _⟩

end AwsIot.Jsmn
