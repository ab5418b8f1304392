/-
  Foundation/Levels.lean --- matching of hierarchical names.

  A name is a list of levels, separated by one symbol; a pattern is a list of levels too,
  of which `single` stands for any one level and a final `multi` for any number of
  further levels.  The relation is over lists of levels; an induction over the separators
  connects it with the text.
-/
import Mathlib.Algebra.Group.Int.Defs
import Mathlib.Algebra.Group.Nat.Defs
import Mathlib.Data.List.Basic

set_option autoImplicit false

namespace AwsIot.Foundation

variable {α : Type}

/-! ## Levels of a text -/

/-- Induction over the separators of a text. -/
theorem separator_induction [DecidableEq α] (sep : α) {P : List α → Prop}
    (last : ∀ level, sep ∉ level → P level)
    (more : ∀ level rest, sep ∉ level → P rest → P (level ++ sep :: rest)) : ∀ text, P text := by
  intro text
  induction hlen : text.length using Nat.strongRecOn generalizing text with
  | ind n ih =>
    by_cases hmem : sep ∈ text
    · obtain ⟨level, rest, htext, hlevel⟩ := List.eq_append_cons_of_mem hmem
      rw [htext]
      refine more level rest hlevel (ih rest.length ?_ rest rfl)
      rw [← hlen, htext, List.length_append, List.length_cons]
      omega
    · exact last text hmem

/-! ## Patterns -/

/-- The pattern's levels match the name's. -/
inductive LevelsMatch (single multi : List α) : List (List α) → List (List α) → Prop
  /-- Both end. -/
  | nil : LevelsMatch single multi [] []
  /-- A final `multi` takes what is left, also nothing. -/
  | multi (name : List (List α)) : LevelsMatch single multi [multi] name
  /-- `single` takes one level, also an empty one. -/
  | single (level : List α) {pattern name : List (List α)}
      (h : LevelsMatch single multi pattern name) :
      LevelsMatch single multi (single :: pattern) (level :: name)
  /-- Any other level takes itself. -/
  | same (level : List α) {pattern name : List (List α)}
      (h : LevelsMatch single multi pattern name) :
      LevelsMatch single multi (level :: pattern) (level :: name)

/-- Every wildcard of the pattern stands against a level of the name that exists and is not
empty. -/
def WildcardsFilled (single multi : List α) (pattern name : List (List α)) : Prop :=
  ∀ i : Nat, pattern[i]? = some single ∨ pattern[i]? = some multi →
    ∃ level : List α, name[i]? = some level ∧ level ≠ []

variable {single multi p l : List α} {pattern name : List (List α)}

theorem levelsMatch_nil : LevelsMatch single multi [] name ↔ name = [] := by
  constructor
  · rintro ⟨⟩
    rfl
  · rintro rfl
    exact .nil

theorem levelsMatch_cons_nil :
    LevelsMatch single multi (p :: pattern) [] ↔ p = multi ∧ pattern = [] := by
  constructor
  · rintro ⟨⟩
    exact ⟨rfl, rfl⟩
  · rintro ⟨rfl, rfl⟩
    exact .multi []

theorem levelsMatch_cons_cons : LevelsMatch single multi (p :: pattern) (l :: name) ↔
    p = multi ∧ pattern = [] ∨ (p = single ∨ p = l) ∧ LevelsMatch single multi pattern name := by
  constructor
  · intro h
    cases h with
    | multi => exact .inl ⟨rfl, rfl⟩
    | single _ h => exact .inr ⟨.inl rfl, h⟩
    | same _ h => exact .inr ⟨.inr rfl, h⟩
  · rintro (⟨rfl, rfl⟩ | ⟨rfl | rfl, h⟩)
    · exact .multi _
    · exact .single l h
    · exact .same p h

theorem wildcardsFilled_nil : WildcardsFilled single multi [] name := by
  intro i h
  rcases h with h | h <;> cases h

theorem wildcardsFilled_cons_cons : WildcardsFilled single multi (p :: pattern) (l :: name) ↔
    (p = single ∨ p = multi → l ≠ []) ∧ WildcardsFilled single multi pattern name := by
  constructor
  · intro h
    constructor
    · intro hp
      obtain ⟨level, hlevel, hne⟩ := h 0 (hp.imp (congrArg some) (congrArg some))
      obtain rfl := Option.some.inj hlevel
      exact hne
    · intro i hi
      exact h (i + 1) hi
  · rintro ⟨hhead, htail⟩ i hi
    cases i with
    | zero => exact ⟨l, rfl, hhead (hi.imp Option.some.inj Option.some.inj)⟩
    | succ i => exact htail i hi

theorem wildcardsFilled_cons_nil : WildcardsFilled single multi (p :: pattern) [] ↔
    ¬ (p = single ∨ p = multi) ∧ WildcardsFilled single multi pattern [] := by
  constructor
  · intro h
    constructor
    · intro hp
      obtain ⟨level, hlevel, -⟩ := h 0 (hp.imp (congrArg some) (congrArg some))
      cases hlevel
    · intro i hi
      obtain ⟨level, hlevel, -⟩ := h (i + 1) hi
      cases hlevel
  · rintro ⟨hhead, htail⟩ i hi
    cases i with
    | zero => exact absurd (hi.imp Option.some.inj Option.some.inj) hhead
    | succ i =>
      obtain ⟨level, hlevel, -⟩ := htail i hi
      cases hlevel

/-- A wildcard has nothing to stand against in a name that has ended. -/
theorem not_wildcardsFilled_multi : ¬ WildcardsFilled single multi [multi] [] :=
  fun h => (wildcardsFilled_cons_nil.mp h).1 (.inr rfl)

section Decide

variable [DecidableEq α] (single multi)

instance decidableLevelsMatch :
    ∀ pattern name : List (List α), Decidable (LevelsMatch single multi pattern name)
  | [], _ => decidable_of_iff _ levelsMatch_nil.symm
  | _ :: _, [] => decidable_of_iff _ levelsMatch_cons_nil.symm
  | _ :: pattern, _ :: name =>
      have := decidableLevelsMatch pattern name
      decidable_of_iff _ levelsMatch_cons_cons.symm

instance decidableWildcardsFilled :
    ∀ pattern name : List (List α), Decidable (WildcardsFilled single multi pattern name)
  | [], _ => .isTrue wildcardsFilled_nil
  | _ :: pattern, [] =>
      have := decidableWildcardsFilled pattern []
      decidable_of_iff _ wildcardsFilled_cons_nil.symm
  | _ :: pattern, _ :: name =>
      have := decidableWildcardsFilled pattern name
      decidable_of_iff _ wildcardsFilled_cons_cons.symm

end Decide

end AwsIot.Foundation
