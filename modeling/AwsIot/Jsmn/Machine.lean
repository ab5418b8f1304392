/-
  Jsmn/Machine.lean --- the parser as a stack machine.

  The list of tokens that `jsmn_parse` stores, and the index `parser->toksuper` into it, stand
  for a stack of open brackets: the loops that look for the last open token find the innermost
  of them.  `parseChar_of` says what one pass of the loop does to the stack, in terms of the
  lexeme that starts at the character; what holds of a whole run is proved from it.
-/
import AwsIot.Jsmn.Parser
import Mathlib.Logic.Relation

set_option autoImplicit false

namespace AwsIot.Jsmn

open Foundation
open Shadow (JsmnType)

/-! ## Passes -/

theorem charAt_of_length_le {js : List UInt8} {pos : Nat} (h : js.length ≤ pos) :
    charAt js pos = 0 := by
  rw [charAt, List.getElem?_eq_none h, Option.getD_none]

theorem lt_length_of_charAt {js : List UInt8} {pos : Nat} (h : charAt js pos ≠ 0) :
    pos < js.length :=
  Nat.lt_of_not_le fun hle => h (charAt_of_length_le hle)

/-- The text from a character on. -/
theorem drop_eq_cons {js : List UInt8} {pos : Nat} (h : charAt js pos ≠ 0) :
    js.drop pos = charAt js pos :: js.drop (pos + 1) := by
  have hlt := lt_length_of_charAt h
  rw [List.drop_eq_getElem_cons hlt, charAt, List.getElem?_eq_getElem hlt, Option.getD_some]

/-- What stands at the place where the rest of the text starts. -/
theorem charAt_of_drop {js rest : List UInt8} {pos : Nat} {c : UInt8}
    (h : js.drop pos = c :: rest) : charAt js pos = c ∧ js.drop (pos + 1) = rest := by
  have hlt : pos < js.length := by
    have hlength := congrArg List.length h
    rw [List.length_drop, List.length_cons] at hlength
    omega
  rw [List.drop_eq_getElem_cons hlt] at h
  obtain ⟨hc, hrest⟩ := List.cons.inj h
  refine ⟨?_, hrest⟩
  rw [charAt, List.getElem?_eq_getElem hlt, Option.getD_some, hc]

theorem scanPrimitive_ge {text : List UInt8} {pos stop : Nat}
    (h : scanPrimitive text pos = .ok stop) : pos ≤ stop := by
  induction text generalizing pos with
  | nil => cases h
  | cons c text ih =>
    rw [scanPrimitive] at h
    split at h
    · cases h
    split at h
    · cases h
      exact Nat.le_refl _
    split at h
    · cases h
    exact Nat.le_of_succ_le (ih h)

theorem scanString_ge {text : List UInt8} {place : StringPlace} {pos stop : Nat}
    (h : scanString place text pos = .ok stop) : pos ≤ stop := by
  induction text generalizing pos place with
  | nil => cases place <;> cases h
  | cons c text ih =>
    cases place with
    | char =>
      rw [scanString] at h
      split at h
      · cases h
      split at h
      · cases h
        exact Nat.le_refl _
      split at h <;> exact Nat.le_of_succ_le (ih h)
    | escape =>
      rw [scanString] at h
      split at h
      · exact Nat.le_of_succ_le (ih h)
      split at h
      · exact Nat.le_of_succ_le (ih h)
      · cases h
    | hex left =>
      rw [scanString] at h
      split at h
      · cases h
      split at h
      · cases h
      exact Nat.le_of_succ_le (ih h)

theorem not_endsPrimitive_of_starts {c : UInt8} (h : startsPrimitive c = true) :
    c ≠ 0 ∧ endsPrimitive c = false ∧ isPrintable c = true := by
  refine ⟨?_, ?_, ?_⟩
  · rintro rfl
    exact absurd h (by decide)
  · rw [Bool.eq_false_iff]
    intro hends
    have hmem := of_decide_eq_true hends
    simp only [List.mem_cons, List.not_mem_nil, or_false] at hmem
    rcases hmem with rfl | rfl | rfl | rfl | rfl | rfl | rfl <;> exact absurd h (by decide)
  · simp only [startsPrimitive, Bool.or_eq_true, Bool.and_eq_true, decide_eq_true_eq,
      List.mem_cons, List.not_mem_nil, or_false] at h
    rcases h with (rfl | ⟨hlow, hhigh⟩) | rfl | rfl | rfl
    · decide
    · rw [UInt8.le_iff_toNat_le] at hlow hhigh
      simp only [isPrintable, Bool.and_eq_true, decide_eq_true_eq, UInt8.le_iff_toNat_le,
        UInt8.lt_iff_toNat_lt]
      exact ⟨Nat.le_trans (by decide) hlow, Nat.lt_of_le_of_lt hhigh (by decide)⟩
    · decide
    · decide
    · decide

/-- A primitive is not empty. -/
theorem scanPrimitive_gt {js : List UInt8} {pos stop : Nat}
    (hstarts : startsPrimitive (charAt js pos) = true)
    (h : scanPrimitive (js.drop pos) pos = .ok stop) : pos < stop := by
  obtain ⟨hc, hends, hprintable⟩ := not_endsPrimitive_of_starts hstarts
  rw [drop_eq_cons hc, scanPrimitive, if_neg hc, hends, if_neg (by simp), hprintable,
    if_neg (by simp)] at h
  exact scanPrimitive_ge h

section Passes

variable {js : List UInt8} {numTokens : Option Nat} {s s' t : State} {r : Except JsmnError Nat}

@[simp] theorem pos_countInSuper : s.countInSuper.pos = s.pos := by
  unfold State.countInSuper
  cases s.toksuper with
  | none => rfl
  | some i => rfl

theorem pos_store {token : Token} (h : s.store numTokens token = .ok t) : t.pos = s.pos := by
  unfold State.store at h
  cases numTokens with
  | none =>
    cases h
    rfl
  | some n =>
    dsimp only at h
    split at h
    · cases h
    · cases h
      exact pos_countInSuper

theorem pos_closeToken {type : JsmnType} (h : closeToken numTokens type s = .ok t) :
    t.pos = s.pos := by
  unfold closeToken at h
  cases numTokens with
  | none =>
    cases h
    rfl
  | some n =>
    dsimp only at h
    cases hlast : lastBelow Mark.isOpen s.tokens s.tokens.length with
    | none =>
      rw [hlast] at h
      cases h
    | some i =>
      rw [hlast] at h
      dsimp only at h
      split at h
      · cases h
      · cases h
        rfl

/-- What a bind of `Except` returns. -/
theorem bind_eq_ok {ε α β : Type} {x : Except ε α} {f : α → Except ε β} {b : β} :
    (x >>= f) = .ok b ↔ ∃ a, x = .ok a ∧ f a = .ok b := by
  cases x with
  | error e => simp [bind, Except.bind]
  | ok a => simp [bind, Except.bind]

theorem map_eq_ok {ε α β : Type} {x : Except ε α} {f : α → β} {b : β} :
    x.map f = .ok b ↔ ∃ a, x = .ok a ∧ f a = b := by
  cases x with
  | error e => simp [Except.map]
  | ok a => simp [Except.map]

/-- The parser never goes back. -/
theorem pos_parseChar (h : parseChar js numTokens (charAt js s.pos) s = .ok t) :
    s.pos ≤ t.pos := by
  unfold parseChar at h
  split at h
  · obtain ⟨s₁, hstore, ht⟩ := bind_eq_ok.mp h
    cases ht
    exact (pos_store hstore).ge
  split at h
  · exact (pos_closeToken h).ge
  split at h
  · obtain ⟨stop, hstop, hrest⟩ := bind_eq_ok.mp h
    obtain ⟨s₁, hstore, ht⟩ := bind_eq_ok.mp hrest
    cases ht
    exact Nat.le_of_succ_le (scanString_ge hstop)
  split at h
  · cases h
    exact Nat.le_refl _
  split at h
  case isFalse => cases h
  case isTrue hstarts =>
    obtain ⟨stop, hstop, hrest⟩ := bind_eq_ok.mp h
    obtain ⟨s₁, hstore, ht⟩ := bind_eq_ok.mp hrest
    cases ht
    exact Nat.le_sub_one_of_lt (scanPrimitive_gt hstarts hstop)

/-- One pass of the loop that succeeds. -/
def Pass (js : List UInt8) (numTokens : Option Nat) (s s' : State) : Prop :=
  charAt js s.pos ≠ 0 ∧ ∃ t, parseChar js numTokens (charAt js s.pos) s = .ok t ∧
    s' = { t with pos := t.pos + 1 }

/-- The loop ends with `r`: at the end of the text, or with a pass that fails. -/
def Stops (js : List UInt8) (numTokens : Option Nat) (r : Except JsmnError Nat) (s : State) :
    Prop :=
  charAt js s.pos = 0 ∧ r = s.outcome ∨
    charAt js s.pos ≠ 0 ∧ ∃ e, parseChar js numTokens (charAt js s.pos) s = .error e ∧ r = .error e

/-- The passes from one state to another. -/
abbrev Passes (js : List UInt8) (numTokens : Option Nat) : State → State → Prop :=
  Relation.ReflTransGen (Pass js numTokens)

theorem Pass.pos_lt (h : Pass js numTokens s s') : s.pos < s'.pos := by
  obtain ⟨-, t, ht, rfl⟩ := h
  exact Nat.lt_succ_of_le (pos_parseChar ht)

theorem Pass.unique (h : Pass js numTokens s s') (ht : Pass js numTokens s t) : s' = t := by
  obtain ⟨-, s₁, hs₁, rfl⟩ := h
  obtain ⟨-, t₁, ht₁, rfl⟩ := ht
  rw [hs₁] at ht₁
  cases ht₁
  rfl

theorem Stops.not_pass (h : Stops js numTokens r s) : ¬ Pass js numTokens s s' := by
  rintro ⟨hc, t, ht, -⟩
  rcases h with ⟨hend, -⟩ | ⟨-, e, he, -⟩
  · exact hc hend
  · rw [he] at ht
    cases ht

theorem Stops.unique {r' : Except JsmnError Nat} (h : Stops js numTokens r s)
    (h' : Stops js numTokens r' s) : r = r' := by
  rcases h with ⟨hend, rfl⟩ | ⟨hc, e, he, rfl⟩
  · rcases h' with ⟨-, rfl⟩ | ⟨hc, -⟩
    · rfl
    · exact absurd hend hc
  · rcases h' with ⟨hend, -⟩ | ⟨-, e', he', rfl⟩
    · exact absurd hend hc
    · rw [he] at he'
      cases he'
      rfl

/-- The loop makes passes until it stops, if it is given one for each character that is left. -/
theorem parseFrom_runs {fuel : Nat} (hfuel : js.length ≤ fuel + s.pos) :
    Passes js numTokens s (parseFrom js numTokens fuel s).2 ∧
      Stops js numTokens (parseFrom js numTokens fuel s).1 (parseFrom js numTokens fuel s).2 := by
  induction fuel generalizing s with
  | zero =>
    have hend : charAt js s.pos = 0 := charAt_of_length_le (by omega)
    exact ⟨.refl, .inl ⟨hend, rfl⟩⟩
  | succ fuel ih =>
    rw [parseFrom]
    by_cases hend : charAt js s.pos = 0
    · rw [if_pos hend]
      exact ⟨.refl, .inl ⟨hend, rfl⟩⟩
    · rw [if_neg hend]
      cases hparse : parseChar js numTokens (charAt js s.pos) s with
      | error e => exact ⟨.refl, .inr ⟨hend, e, hparse, rfl⟩⟩
      | ok t =>
        have hpass : Pass js numTokens s { t with pos := t.pos + 1 } := ⟨hend, t, hparse, rfl⟩
        have hlt := hpass.pos_lt
        obtain ⟨hpasses, hstops⟩ := ih (s := { t with pos := t.pos + 1 }) (by dsimp at hlt ⊢; omega)
        exact ⟨.head hpass hpasses, hstops⟩

/-- Passes and a stop are the run of the loop. -/
theorem parseFrom_eq_iff {fuel : Nat} (hfuel : js.length ≤ fuel + s.pos) :
    parseFrom js numTokens fuel s = (r, s') ↔
      Passes js numTokens s s' ∧ Stops js numTokens r s' := by
  have hruns : Passes js numTokens s (parseFrom js numTokens fuel s).2 ∧
      Stops js numTokens (parseFrom js numTokens fuel s).1 (parseFrom js numTokens fuel s).2 :=
    parseFrom_runs hfuel
  obtain ⟨hpasses, hstops⟩ := hruns
  constructor
  · intro h
    rw [h] at hpasses hstops
    exact ⟨hpasses, hstops⟩
  · intro h
    obtain ⟨hpasses', hstops'⟩ := h
    have hunique : Relator.RightUnique (Pass js numTokens) := fun _ _ _ h h' => h.unique h'
    have hstate : (parseFrom js numTokens fuel s).2 = s' := by
      rcases Relation.ReflTransGen.total_of_right_unique hunique hpasses hpasses' with hon | hon
      · rcases Relation.ReflTransGen.cases_head hon with heq | ⟨_, hpass, -⟩
        · exact heq
        · exact absurd hpass hstops.not_pass
      · rcases Relation.ReflTransGen.cases_head hon with heq | ⟨_, hpass, -⟩
        · exact heq.symm
        · exact absurd hpass hstops'.not_pass
    rw [hstate] at hstops
    exact Prod.ext (hstops.unique hstops') hstate

/-- A run of `jsmn_parse`. -/
theorem jsmnParse_eq_iff :
    jsmnParse js numTokens s = (r, s') ↔
      Passes js numTokens { s with count := 0 } s' ∧ Stops js numTokens r s' :=
  parseFrom_eq_iff (Nat.le_add_right _ _)

end Passes

/-! ## Lexemes -/

/-- What starts at a character. -/
inductive Lexeme where
  /-- A character that is passed over. -/
  | blank
  /-- An opening bracket. -/
  | opening (kind : JsmnType)
  /-- A closing bracket. -/
  | closing (kind : JsmnType)
  /-- A string or a primitive. -/
  | leaf (kind : JsmnType) (start stop : Nat)

/-- How many tokens are stored for it. -/
def Lexeme.tokens : Lexeme → Nat
  | .opening _ | .leaf .. => 1
  | .blank | .closing _ => 0

/-- What an opening bracket opens. -/
def opening (c : UInt8) : Option JsmnType :=
  if c = 0x7B then some .object else if c = 0x5B then some .array else none

/-- What a closing bracket closes. -/
def closing (c : UInt8) : Option JsmnType :=
  if c = 0x7D then some .object else if c = 0x5D then some .array else none

/-- The lexeme at a place, and the place behind it. -/
def lexeme (js : List UInt8) (pos : Nat) : Except JsmnError (Lexeme × Nat) :=
  match opening (charAt js pos), closing (charAt js pos) with
  | some kind, _ => .ok (.opening kind, pos + 1)
  | none, some kind => .ok (.closing kind, pos + 1)
  | none, none =>
    if charAt js pos = 0x22 then
      (scanString .char (js.drop (pos + 1)) (pos + 1)).map fun stop =>
        (.leaf .string (pos + 1) stop, stop + 1)
    else if isPassedOver (charAt js pos) then .ok (.blank, pos + 1)
    else if startsPrimitive (charAt js pos) then
      (scanPrimitive (js.drop pos) pos).map fun stop => (.leaf .primitive pos stop, stop)
    else .error .inval

/-- What a lexeme does to the stack of open brackets. -/
def read (stack : Stack JsmnType) (pos : Nat) : Lexeme → Except JsmnError (Stack JsmnType)
  | .blank => .ok stack
  | .opening kind => .ok (stack.push kind pos)
  | .closing kind =>
    match stack.frames with
    | [] => .error .inval
    | frame :: _ => if frame.kind = kind then .ok (stack.pop (pos + 1)) else .error .inval
  | .leaf kind start stop => .ok (stack.add (.leaf kind start stop))

/-- The state that belongs to a stack. -/
def State.of (stack : Stack JsmnType) (pos count : Nat) : State :=
  ⟨pos, stack.super, stack.marks, count⟩

/-- A lexeme takes at least one character. -/
theorem lexeme_lt {js : List UInt8} {pos next : Nat} {l : Lexeme}
    (h : lexeme js pos = .ok (l, next)) : pos < next := by
  unfold lexeme at h
  cases hopen : opening (charAt js pos) with
  | some kind =>
    rw [hopen] at h
    cases h
    exact Nat.lt_succ_self pos
  | none =>
    cases hclose : closing (charAt js pos) with
    | some kind =>
      rw [hopen, hclose] at h
      cases h
      exact Nat.lt_succ_self pos
    | none =>
      rw [hopen, hclose] at h
      dsimp only at h
      split at h
      · obtain ⟨stop, hstop, heq⟩ := map_eq_ok.mp h
        cases heq
        have hge := scanString_ge hstop
        omega
      split at h
      · cases h
        exact Nat.lt_succ_self pos
      split at h
      case isFalse => cases h
      case isTrue hstarts =>
        obtain ⟨stop, hstop, heq⟩ := map_eq_ok.mp h
        cases heq
        exact scanPrimitive_gt hstarts hstop

@[simp] theorem pos_of (stack : Stack JsmnType) (pos count : Nat) :
    (State.of stack pos count).pos = pos := rfl

@[simp] theorem count_of (stack : Stack JsmnType) (pos count : Nat) :
    (State.of stack pos count).count = count := rfl

@[simp] theorem of_empty : State.of .empty 0 0 = .init := rfl

section Simulation

variable {js : List UInt8} {n : Nat} (stack : Stack JsmnType) (pos count : Nat)

/-- A token is stored for a string or a primitive. -/
theorem store_leaf (kind : JsmnType) (start stop next : Nat) :
    (do let s' ← (State.of stack pos count).store (some n) ⟨kind, some start, some stop, 0⟩
        return { s' with pos := next, count := count + 1 } : Except JsmnError State) =
      if stack.marks.length ≥ n then .error .nomem
      else .ok (State.of (stack.add (.leaf kind start stop)) next (count + 1)) := by
  unfold State.store State.countInSuper State.of
  rw [stack.marks_add_leaf, stack.super_add]
  by_cases hfull : stack.marks.length ≥ n
  · simp [hfull, bind, Except.bind]
  · cases hsuper : stack.super with
    | none => simp [hfull, bind, Except.bind, pure, Except.pure]
    | some i => simp [hfull, bind, Except.bind, pure, Except.pure]

/-- A token is stored for an opening bracket, and is the innermost one from then on. -/
theorem openToken_of (kind : JsmnType) :
    openToken (some n) kind (State.of stack pos count) =
      if stack.marks.length ≥ n then .error .nomem
      else .ok (State.of (stack.push kind pos) pos (count + 1)) := by
  unfold openToken State.store State.countInSuper State.of
  rw [stack.marks_push, stack.super_push]
  by_cases hfull : stack.marks.length ≥ n
  · simp [hfull, bind, Except.bind]
  · cases hsuper : stack.super with
    | none => simp [hfull, bind, Except.bind, pure, Except.pure]
    | some i => simp [hfull, bind, Except.bind, pure, Except.pure]

/-- A closing bracket closes the innermost open one, if it is of its kind. -/
theorem closeToken_of (kind : JsmnType) :
    closeToken (some n) kind (State.of stack pos count) =
      (read stack pos (.closing kind)).map fun stack' => State.of stack' pos count := by
  unfold closeToken State.of read
  dsimp only
  rw [stack.lastBelow_marks]
  cases hframes : stack.frames with
  | nil =>
    have hsuper : stack.super = none := by rw [Stack.super, hframes]
    rw [hsuper]
    rfl
  | cons frame outer =>
    have hsuper : stack.super = some (Stack.marksFrom stack.trees outer 1).length := by
      rw [Stack.super, hframes]
    have hmark : stack.marks[(Stack.marksFrom stack.trees outer 1).length]? =
        some (Stack.openMark frame 0) := by
      rw [Stack.marks, hframes, Stack.marksFrom, List.getElem?_append_right (Nat.le_refl _),
        Nat.sub_self, List.getElem?_cons_zero]
    rw [hsuper]
    dsimp only
    rw [hmark, Option.any_some, ← Stack.marks_pop hframes, Stack.lastBelow_marks_pop hframes]
    by_cases hkind : frame.kind = kind
    · simp [Stack.openMark, hkind, Except.map]
    · simp [Stack.openMark, hkind, Except.map]

/-- What one `switch` does, in terms of the lexeme that starts there. -/
theorem parseChar_of :
    parseChar js (some n) (charAt js pos) (State.of stack pos count) =
      (lexeme js pos).bind fun r =>
        if 0 < r.1.tokens ∧ stack.marks.length ≥ n then .error .nomem
        else (read stack pos r.1).map fun stack' =>
          State.of stack' (r.2 - 1) (count + r.1.tokens) := by
  unfold parseChar lexeme opening closing
  generalize charAt js pos = c
  by_cases hcurly : c = 0x7B
  · simp [hcurly, openToken_of, Lexeme.tokens, read, Except.map, Except.bind]
  by_cases hsquare : c = 0x5B
  · simp [hsquare, openToken_of, Lexeme.tokens, read, Except.map, Except.bind]
  by_cases hcurly' : c = 0x7D
  · simp [hcurly', closeToken_of, Lexeme.tokens, Except.bind]
  by_cases hsquare' : c = 0x5D
  · simp [hsquare', closeToken_of, Lexeme.tokens, Except.bind]
  rw [if_neg (by simp [hcurly, hsquare]), if_neg (by simp [hcurly', hsquare']), if_neg hcurly,
    if_neg hsquare, if_neg hcurly', if_neg hsquare']
  dsimp only
  by_cases hquote : c = 0x22
  · rw [if_pos hquote, if_pos hquote]
    unfold parseString
    show (scanString .char (js.drop (pos + 1)) (pos + 1)).bind _ = _
    cases scanString .char (js.drop (pos + 1)) (pos + 1) with
    | error e => rfl
    | ok stop =>
      have hstore := store_leaf (n := n) stack pos count .string (pos + 1) stop stop
      simpa [Except.bind, Except.map, Lexeme.tokens, read] using hstore
  rw [if_neg hquote, if_neg hquote]
  by_cases hblank : isPassedOver c
  · simp [hblank, Except.bind, Except.map, Lexeme.tokens, read, State.of]
  rw [if_neg hblank, if_neg hblank]
  by_cases hstarts : startsPrimitive c
  · rw [if_pos hstarts, if_pos hstarts]
    unfold parsePrimitive
    show (scanPrimitive (js.drop pos) pos).bind _ = _
    cases scanPrimitive (js.drop pos) pos with
    | error e => rfl
    | ok stop =>
      have hstore := store_leaf (n := n) stack pos count .primitive pos stop (stop - 1)
      simpa [Except.bind, Except.map, Lexeme.tokens, read] using hstore
  · rw [if_neg hstarts, if_neg hstarts]
    rfl

/-- What `jsmn_parse` returns at the end of a text: an error if a bracket is open. -/
theorem outcome_of :
    (State.of stack pos count).outcome =
      if stack.frames = [] then .ok count else .error .part := by
  unfold State.outcome
  by_cases hframes : stack.frames = []
  · rw [if_pos hframes, if_neg]
    · rfl
    · rw [List.any_eq_true]
      rintro ⟨mark, hmem, hopen⟩
      rw [stack.all_closed_iff.mpr hframes mark hmem] at hopen
      cases hopen
  · rw [if_neg hframes, if_pos]
    rw [List.any_eq_true]
    have hsome := mt stack.all_closed_iff.mp hframes
    push Not at hsome
    obtain ⟨mark, hmem, hopen⟩ := hsome
    exact ⟨mark, hmem, by simpa using hopen⟩

/-- A pass that succeeds reads a lexeme, for which there is a token left if it needs one. -/
theorem pass_of_iff {s' : State} :
    Pass js (some n) (State.of stack pos count) s' ↔
      charAt js pos ≠ 0 ∧ ∃ l next stack', lexeme js pos = .ok (l, next) ∧
        (0 < l.tokens → stack.marks.length < n) ∧ read stack pos l = .ok stack' ∧
        s' = State.of stack' next (count + l.tokens) := by
  unfold Pass
  rw [pos_of, parseChar_of]
  refine and_congr_right fun _ => ⟨?_, ?_⟩
  · rintro ⟨t, ht, rfl⟩
    obtain ⟨r, hl, ht⟩ := bind_eq_ok.mp ht
    split at ht
    · cases ht
    case isFalse hroom =>
      obtain ⟨stack', hread, ht⟩ := map_eq_ok.mp ht
      subst ht
      have hnext := lexeme_lt hl
      refine ⟨r.1, r.2, stack', hl, fun hneeds => Nat.lt_of_not_le fun hfull =>
        hroom ⟨hneeds, hfull⟩, hread, ?_⟩
      show State.of stack' (r.2 - 1 + 1) (count + r.1.tokens) = _
      rw [Nat.sub_add_cancel (by omega)]
  · rintro ⟨l, next, stack', hl, hroom, hread, rfl⟩
    have hnext := lexeme_lt hl
    refine ⟨State.of stack' (next - 1) (count + l.tokens), ?_, ?_⟩
    case refine_2 =>
      show _ = State.of stack' (next - 1 + 1) (count + l.tokens)
      rw [Nat.sub_add_cancel (by omega)]
    rw [hl]
    show (if 0 < l.tokens ∧ stack.marks.length ≥ n then _ else _) = _
    rw [if_neg (fun h => Nat.not_le_of_lt (hroom h.1) h.2), hread]
    rfl

end Simulation

end AwsIot.Jsmn
