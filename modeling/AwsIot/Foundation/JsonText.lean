/-
  Foundation/JsonText.lean --- texts of JSON objects.

  `Reads primitive text value` is the part of the grammar of JSON without arrays and without
  escapes in strings, as a relation.  How numbers and the other primitive values are written
  is the parameter `primitive`.  A text is built from the left, so that the lemmas add a
  member behind those that are there.
-/
import Mathlib.Algebra.Group.Int.Defs
import Mathlib.Algebra.Group.Nat.Defs
import Mathlib.Data.List.Basic

set_option autoImplicit false

namespace AwsIot.Foundation

/-! ## The grammar -/

/-- A value of JSON; the members of an object are in order. -/
inductive JsonValue (α : Type) where
  | primitive (value : α)
  | string (text : List UInt8)
  | object (members : List (List UInt8 × JsonValue α))

mutual

/-- What stands in a value, in order: the text of every string and name, and `none` for every
other value. -/
def JsonValue.labels {α : Type} : JsonValue α → List (Option (List UInt8))
  | .primitive _ => [none]
  | .string text => [some text]
  | .object members => none :: labelsOf members

/-- What stands in the members of an object. -/
def labelsOf {α : Type} : List (List UInt8 × JsonValue α) → List (Option (List UInt8))
  | [] => []
  | member :: rest => labelsOfMember member ++ labelsOf rest

/-- What stands in a member. -/
def labelsOfMember {α : Type} : List UInt8 × JsonValue α → List (Option (List UInt8))
  | (name, value) => some name :: value.labels

end

/-- The character stands for itself in a string. -/
def isPlain (c : UInt8) : Bool := 0x20 ≤ c.toNat && c != 0x22 && c != 0x5C

/-- The character is white space. -/
def isSpace (c : UInt8) : Bool := c == 0x20 || c == 0x09 || c == 0x0A || c == 0x0D

/-- A string with its quotes. -/
def quoted (s : List UInt8) : List UInt8 := 0x22 :: (s ++ [0x22])

section Grammar

variable {α : Type} (primitive : List UInt8 → α → Prop)

mutual

/-- The text is a value. -/
inductive Reads : List UInt8 → JsonValue α → Prop where
  | primitive {text : List UInt8} {a : α} (h : primitive text a) : Reads text (.primitive a)
  | string {s : List UInt8} (h : s.all isPlain = true) : Reads (quoted s) (.string s)
  | object {text : List UInt8} {members : List (List UInt8 × JsonValue α)}
      (h : ReadsMembers text members) : Reads (0x7B :: (text ++ [0x7D])) (.object members)

/-- The text is the members of an object. -/
inductive ReadsMembers : List UInt8 → List (List UInt8 × JsonValue α) → Prop where
  | nil : ReadsMembers [] []
  | one {text : List UInt8} {name : List UInt8 × JsonValue α} (h : ReadsMember text name) :
      ReadsMembers text [name]
  | cons {text rest : List UInt8} {first second : List UInt8 × JsonValue α}
      {members : List (List UInt8 × JsonValue α)} (h : ReadsMember text first)
      (hrest : ReadsMembers rest (second :: members)) :
      ReadsMembers (text ++ 0x2C :: rest) (first :: second :: members)

/-- The text is a member of an object, with white space in front. -/
inductive ReadsMember : List UInt8 → List UInt8 × JsonValue α → Prop where
  | mk {space name text : List UInt8} {value : JsonValue α} (hspace : space.all isSpace = true)
      (hname : name.all isPlain = true) (h : Reads text value) :
      ReadsMember (space ++ quoted name ++ 0x3A :: text) (name, value)

end

variable {primitive}

/-- A member without white space in front. -/
theorem ReadsMember.of_value {name text : List UInt8} {value : JsonValue α}
    (hname : name.all isPlain = true) (h : Reads primitive text value) :
    ReadsMember primitive (quoted name ++ 0x3A :: text) (name, value) := by
  have hnone : ([] : List UInt8).all isSpace = true := rfl
  exact .mk hnone hname h

/-- One more member behind others. -/
theorem ReadsMembers.snoc {last : List UInt8} {member : List UInt8 × JsonValue α}
    (hlast : ReadsMember primitive last member) :
    ∀ {members : List (List UInt8 × JsonValue α)} {text : List UInt8},
      ReadsMembers primitive text members → members ≠ [] →
      ReadsMembers primitive (text ++ 0x2C :: last) (members ++ [member])
  | [], _, _, hne => absurd rfl hne
  | [_], _, .one h, _ => .cons h (.one hlast)
  | _ :: _ :: _, _, .cons h hrest, _ => by
      rw [List.append_assoc, List.cons_append]
      exact .cons h (hrest.snoc hlast (by simp))

end Grammar

end AwsIot.Foundation
