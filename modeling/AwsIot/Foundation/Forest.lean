/-
  Foundation/Forest.lean --- trees of spans, and the flat lists they are kept in.

  A parser that does not recurse keeps the tree it reads as one list of marks, in the order in
  which the spans start.  A mark whose end has not been seen is open, and what the parser has to
  know of the tree, the innermost span that is open, is the last open mark of the list.
  `Stack` is the tree with the path to that span, and `marks` the list that belongs to it.
-/
import Mathlib.Algebra.Group.Int.Defs
import Mathlib.Algebra.Group.Nat.Defs
import Mathlib.Data.List.Induction
import Mathlib.Data.Nat.Basic
import Mathlib.Order.Basic

set_option autoImplicit false

namespace AwsIot.Foundation

/-! ## Marks -/

/-- An entry of the list.  A place is `none` as long as it is not known. -/
structure Mark (κ : Type) where
  /-- What is marked. -/
  kind : κ
  /-- Where the span starts. -/
  start : Option Nat
  /-- Where it ends. -/
  stop : Option Nat
  /-- How many spans lie directly in it. -/
  size : Nat
  deriving DecidableEq, Repr

/-- The span has started and has not ended. -/
def Mark.isOpen {κ : Type} (mark : Mark κ) : Bool := mark.start.isSome && mark.stop.isNone

/-- The last index below `n` at which the list satisfies `p`. -/
def lastBelow {α : Type} (p : α → Bool) (l : List α) : Nat → Option Nat
  | 0 => none
  | n + 1 => if l[n]?.any p then some n else lastBelow p l n

section Search

variable {α : Type} {p : α → Bool} {l front : List α} {n : Nat}

/-- Only the entries below the bound are looked at. -/
theorem lastBelow_congr {l' : List α} (h : ∀ i < n, l[i]? = l'[i]?) :
    lastBelow p l n = lastBelow p l' n := by
  induction n with
  | zero => rfl
  | succ n ih =>
    rw [lastBelow, lastBelow, h n (Nat.lt_succ_self n), ih fun i hi => h i (Nat.lt_succ_of_lt hi)]

theorem lastBelow_append_left (back : List α) :
    lastBelow p (front ++ back) front.length = lastBelow p front front.length :=
  lastBelow_congr fun _ hi => List.getElem?_append_left hi

/-- A run of entries that fail `p` is passed over. -/
theorem lastBelow_append_of_none {back : List α} (h : ∀ a ∈ back, p a = false) :
    lastBelow p (front ++ back) (front ++ back).length = lastBelow p front front.length := by
  induction back using List.reverseRecOn with
  | nil => rw [List.append_nil]
  | append_singleton back a ih =>
    have hlast : (front ++ (back ++ [a]))[(front ++ back).length]? = some a := by
      rw [← List.append_assoc, List.getElem?_concat_length]
    have hlength : (front ++ (back ++ [a])).length = (front ++ back).length + 1 := by
      rw [← List.append_assoc, List.length_append, List.length_singleton]
    rw [hlength, lastBelow, hlast, Option.any_some, h a (by simp), if_neg (by simp),
      ← List.append_assoc, lastBelow_append_left]
    exact ih fun b hb => h b (by simp [hb])

/-- The last entry that satisfies `p`. -/
theorem lastBelow_append_cons {a : α} {back : List α} (ha : p a = true)
    (h : ∀ b ∈ back, p b = false) :
    lastBelow p (front ++ a :: back) (front ++ a :: back).length = some front.length := by
  have hsplit : front ++ a :: back = (front ++ [a]) ++ back := by simp
  rw [hsplit, lastBelow_append_of_none h, List.length_append, List.length_singleton, lastBelow,
    List.getElem?_concat_length, Option.any_some, if_pos ha]

theorem lastBelow_eq_none (h : ∀ a ∈ l, p a = false) : lastBelow p l l.length = none := by
  have hnone : lastBelow p ([] ++ l) ([] ++ l).length = lastBelow p [] 0 :=
    lastBelow_append_of_none h
  rwa [List.nil_append] at hnone

/-- The entry behind `front` is the one at the index `front.length`. -/
theorem modify_append_cons (front back : List α) (a : α) (f : α → α) :
    (front ++ a :: back).modify front.length f = front ++ f a :: back := by
  induction front with
  | nil => rfl
  | cons b front ih => rw [List.cons_append, List.length_cons, List.modify_succ_cons, ih]; rfl

end Search

/-! ## Trees -/

/-- A span, with the spans in it. -/
inductive MarkTree (κ : Type) where
  | leaf (kind : κ) (start stop : Nat)
  | node (kind : κ) (start stop : Nat) (kids : List (MarkTree κ))

section Trees

variable {κ : Type}

mutual

/-- The marks of a tree. -/
def MarkTree.marks : MarkTree κ → List (Mark κ)
  | .leaf kind start stop => [⟨kind, some start, some stop, 0⟩]
  | .node kind start stop kids => ⟨kind, some start, some stop, kids.length⟩ :: marksOf kids

/-- The marks of trees that follow each other. -/
def marksOf : List (MarkTree κ) → List (Mark κ)
  | [] => []
  | tree :: trees => tree.marks ++ marksOf trees

end

@[simp] theorem marksOf_append (front back : List (MarkTree κ)) :
    marksOf (front ++ back) = marksOf front ++ marksOf back := by
  induction front with
  | nil => rfl
  | cons tree front ih => rw [List.cons_append, marksOf, marksOf, ih, List.append_assoc]

@[simp] theorem marksOf_singleton (tree : MarkTree κ) : marksOf [tree] = tree.marks := by
  rw [marksOf, marksOf, List.append_nil]

mutual

/-- No mark of a tree is open. -/
theorem MarkTree.closed : ∀ (tree : MarkTree κ), ∀ mark ∈ tree.marks, mark.isOpen = false
  | .leaf kind start stop, mark, h => by
      obtain rfl := List.mem_singleton.mp h
      rfl
  | .node kind start stop kids, mark, h => by
      rcases List.mem_cons.mp h with rfl | hkids
      · rfl
      · exact marksOf_closed kids mark hkids

theorem marksOf_closed : ∀ (trees : List (MarkTree κ)), ∀ mark ∈ marksOf trees, mark.isOpen = false
  | [], mark, h => absurd h List.not_mem_nil
  | tree :: trees, mark, h => by
      rcases List.mem_append.mp h with hfirst | hrest
      · exact tree.closed mark hfirst
      · exact marksOf_closed trees mark hrest

end

end Trees

/-! ## Stacks -/

/-- A span that is open, with the spans in it that are closed. -/
structure Frame (κ : Type) where
  /-- What is open. -/
  kind : κ
  /-- Where it starts. -/
  start : Nat
  /-- The spans in it. -/
  kids : List (MarkTree κ)

/-- What has been read: the spans that are open, the innermost one first, and the spans in
front of them. -/
structure Stack (κ : Type) where
  /-- The open spans. -/
  frames : List (Frame κ)
  /-- The spans that are in no open one. -/
  trees : List (MarkTree κ)

namespace Stack

variable {κ : Type}

/-- Nothing has been read. -/
def empty : Stack κ := ⟨[], []⟩

/-- One more span in the innermost open one. -/
def add (stack : Stack κ) (tree : MarkTree κ) : Stack κ :=
  match stack.frames with
  | [] => ⟨[], stack.trees ++ [tree]⟩
  | frame :: outer => ⟨{ frame with kids := frame.kids ++ [tree] } :: outer, stack.trees⟩

/-- More spans in the innermost open one. -/
def addAll (stack : Stack κ) (trees : List (MarkTree κ)) : Stack κ :=
  match stack.frames with
  | [] => ⟨[], stack.trees ++ trees⟩
  | frame :: outer => ⟨{ frame with kids := frame.kids ++ trees } :: outer, stack.trees⟩

/-- A span opens. -/
def push (stack : Stack κ) (kind : κ) (start : Nat) : Stack κ :=
  ⟨⟨kind, start, []⟩ :: stack.frames, stack.trees⟩

/-- The innermost open span ends. -/
def pop (stack : Stack κ) (stop : Nat) : Stack κ :=
  match stack.frames with
  | [] => stack
  | frame :: outer =>
      (Stack.mk outer stack.trees).add (.node frame.kind frame.start stop frame.kids)

/-- The mark of an open span; `inside` spans in it are open as well. -/
def openMark (frame : Frame κ) (inside : Nat) : Mark κ :=
  ⟨frame.kind, some frame.start, none, frame.kids.length + inside⟩

/-- The marks of open spans, behind those of `trees`. -/
def marksFrom (trees : List (MarkTree κ)) : List (Frame κ) → Nat → List (Mark κ)
  | [], _ => marksOf trees
  | frame :: outer, inside =>
      marksFrom trees outer 1 ++ openMark frame inside :: marksOf frame.kids

/-- The list that belongs to a stack. -/
def marks (stack : Stack κ) : List (Mark κ) := marksFrom stack.trees stack.frames 0

/-- The index of the innermost open span. -/
def super (stack : Stack κ) : Option Nat :=
  match stack.frames with
  | [] => none
  | _ :: outer => some (marksFrom stack.trees outer 1).length

variable (stack : Stack κ)

@[simp] theorem marks_empty : (empty : Stack κ).marks = [] := rfl

/-- The sizes of the entries do not change where they stand. -/
theorem length_marksFrom (trees : List (MarkTree κ)) (frames : List (Frame κ)) (m n : Nat) :
    (marksFrom trees frames m).length = (marksFrom trees frames n).length := by
  cases frames with
  | nil => rfl
  | cons frame outer => simp only [marksFrom, List.length_append, List.length_cons]

theorem addAll_nil : stack.addAll [] = stack := by
  cases stack with
  | mk frames trees =>
    cases frames with
    | nil => simp [addAll]
    | cons frame outer => simp [addAll]

theorem addAll_cons (tree : MarkTree κ) (trees : List (MarkTree κ)) :
    stack.addAll (tree :: trees) = (stack.add tree).addAll trees := by
  cases stack with
  | mk frames trees =>
    cases frames with
    | nil => simp [addAll, add]
    | cons frame outer => simp [addAll, add]

/-- A span that opens, fills and ends is one more span. -/
theorem pop_addAll_push (kind : κ) (start stop : Nat) (kids : List (MarkTree κ)) :
    ((stack.push kind start).addAll kids).pop stop = stack.add (.node kind start stop kids) := by
  simp [push, addAll, pop]

theorem length_marks_addAll (trees : List (MarkTree κ)) :
    (stack.addAll trees).marks.length = stack.marks.length + (marksOf trees).length := by
  cases stack with
  | mk frames front =>
    cases frames with
    | nil => simp [addAll, marks, marksFrom]
    | cons frame outer =>
      simp only [addAll, marks, marksFrom, marksOf_append, List.length_append, List.length_cons]
      omega

/-- One more span in the innermost open one is one more in its size. -/
theorem modify_marksFrom (trees : List (MarkTree κ)) (frame : Frame κ) (outer : List (Frame κ))
    (inside : Nat) (back : List (Mark κ)) :
    (marksFrom trees (frame :: outer) inside ++ back).modify (marksFrom trees outer 1).length
        (fun mark => { mark with size := mark.size + 1 }) =
      marksFrom trees (frame :: outer) (inside + 1) ++ back := by
  simp only [marksFrom, List.append_assoc, List.cons_append]
  exact modify_append_cons _ _ _ _

/-- A stack without open spans has no open mark, and one with an open span has. -/
theorem all_closed_iff : (∀ mark ∈ stack.marks, mark.isOpen = false) ↔ stack.frames = [] := by
  constructor
  · intro h
    cases hframes : stack.frames with
    | nil => rfl
    | cons frame outer =>
      have hopen := h (openMark frame 0) (by rw [marks, hframes]; simp [marksFrom])
      cases hopen
  · intro hframes mark hmem
    rw [marks, hframes] at hmem
    exact marksOf_closed stack.trees mark hmem

theorem lastBelow_marksFrom (trees : List (MarkTree κ)) (frames : List (Frame κ)) (inside : Nat) :
    lastBelow Mark.isOpen (marksFrom trees frames inside) (marksFrom trees frames inside).length =
      (Stack.mk frames trees).super := by
  cases frames with
  | nil => exact lastBelow_eq_none (marksOf_closed trees)
  | cons frame outer => exact lastBelow_append_cons rfl (marksOf_closed frame.kids)

/-- The last open mark is that of the innermost open span. -/
theorem lastBelow_marks : lastBelow Mark.isOpen stack.marks stack.marks.length = stack.super :=
  lastBelow_marksFrom stack.trees stack.frames 0

/-- A leaf is appended to the list, and counted in the innermost open span. -/
theorem marks_add_leaf (kind : κ) (start stop : Nat) :
    (stack.add (.leaf kind start stop)).marks =
      match stack.super with
      | none => stack.marks ++ [Mark.mk kind (some start) (some stop) 0]
      | some i => (stack.marks ++ [Mark.mk kind (some start) (some stop) 0]).modify i
          fun mark => { mark with size := mark.size + 1 } := by
  unfold add marks super
  cases stack.frames with
  | nil => simp [marksFrom, MarkTree.marks]
  | cons frame outer =>
    dsimp only
    rw [modify_marksFrom]
    simp [marksFrom, openMark, MarkTree.marks]

/-- A span that opens is appended to the list, and counted in the one around it. -/
theorem marks_push (kind : κ) (start : Nat) :
    (stack.push kind start).marks =
      match stack.super with
      | none => stack.marks ++ [Mark.mk kind (some start) none 0]
      | some i => (stack.marks ++ [Mark.mk kind (some start) none 0]).modify i
          fun mark => { mark with size := mark.size + 1 } := by
  unfold push marks super
  cases stack.frames with
  | nil => rfl
  | cons frame outer =>
    dsimp only
    rw [modify_marksFrom]
    rfl

@[simp] theorem super_add (tree : MarkTree κ) : (stack.add tree).super = stack.super := by
  unfold add super
  cases stack.frames with
  | nil => rfl
  | cons frame outer => rfl

theorem super_push (kind : κ) (start : Nat) :
    (stack.push kind start).super = some stack.marks.length := by
  unfold push super marks
  exact congrArg some (length_marksFrom _ _ _ _)

theorem length_marks_push (kind : κ) (start : Nat) :
    (stack.push kind start).marks.length = stack.marks.length + 1 := by
  unfold push marks
  rw [marksFrom, List.length_append, length_marksFrom stack.trees stack.frames 1 0]
  rfl

variable {stack}

theorem pop_eq {frame : Frame κ} {outer : List (Frame κ)} (hframes : stack.frames = frame :: outer)
    (stop : Nat) :
    stack.pop stop =
      (Stack.mk outer stack.trees).add (.node frame.kind frame.start stop frame.kids) := by
  rw [pop, hframes]

/-- The end of a span is entered in its mark. -/
theorem marks_pop {frame : Frame κ} {outer : List (Frame κ)}
    (hframes : stack.frames = frame :: outer)
    (stop : Nat) :
    (stack.pop stop).marks =
      stack.marks.modify (marksFrom stack.trees outer 1).length
        fun mark => { mark with stop := some stop } := by
  rw [pop_eq hframes]
  unfold marks
  rw [hframes]
  simp only [marksFrom]
  rw [modify_append_cons]
  cases outer with
  | nil => simp [add, marksFrom, openMark, MarkTree.marks]
  | cons around outer => simp [add, marksFrom, openMark, MarkTree.marks]

/-- The search for the span around one that has ended starts at its mark. -/
theorem lastBelow_marks_pop {frame : Frame κ} {outer : List (Frame κ)}
    (hframes : stack.frames = frame :: outer) (stop : Nat) :
    lastBelow Mark.isOpen (stack.pop stop).marks ((marksFrom stack.trees outer 1).length + 1) =
      (stack.pop stop).super := by
  have hsuper : (stack.pop stop).super = (Stack.mk outer stack.trees).super := by
    rw [pop_eq hframes, super_add]
  rw [marks_pop hframes, hsuper, ← lastBelow_marksFrom _ _ 1]
  unfold marks
  rw [hframes, marksFrom, modify_append_cons, lastBelow, List.getElem?_append_right (Nat.le_refl _),
    Nat.sub_self, List.getElem?_cons_zero, Option.any_some]
  rw [if_neg (by simp [Mark.isOpen]), lastBelow_append_left]

end Stack

/-! ## Places -/

section Places

variable {κ : Type}

/-- The trees lie between the two places, one behind the other, and what is in a node lies
inside its two ends. -/
inductive Laid : Nat → List (MarkTree κ) → Nat → Prop where
  | nil {lo hi : Nat} (h : lo ≤ hi) : Laid lo [] hi
  | leaf {lo start stop next hi : Nat} {kind : κ} {trees : List (MarkTree κ)} (hlo : lo ≤ start)
      (hspan : start ≤ stop) (hstop : stop ≤ next) (hstart : start < next)
      (h : Laid next trees hi) : Laid lo (.leaf kind start stop :: trees) hi
  | node {lo start inner stop hi : Nat} {kind : κ} {kids trees : List (MarkTree κ)}
      (hlo : lo ≤ start) (hkids : Laid (start + 1) kids inner) (hstop : inner < stop)
      (h : Laid stop trees hi) : Laid lo (.node kind start stop kids :: trees) hi

/-- The mark starts at `lo` or later, and has ended by `hi` if it has ended. -/
def Mark.Within (lo hi : Nat) (mark : Mark κ) : Prop :=
  ∃ start, mark.start = some start ∧ lo ≤ start ∧ start < hi ∧
    ∀ stop, mark.stop = some stop → start ≤ stop ∧ stop ≤ hi

/-- The first mark starts in front of the second, which does not reach over its end. -/
def Mark.Before (a b : Mark κ) : Prop :=
  ∃ s t, a.start = some s ∧ b.start = some t ∧ s < t ∧
    ∀ e, a.stop = some e → e ≤ t ∨ ∃ e', b.stop = some e' ∧ e' ≤ e

theorem Mark.Within.mono {lo lo' hi hi' : Nat} {mark : Mark κ} (h : mark.Within lo hi)
    (hlo : lo' ≤ lo) (hhi : hi ≤ hi') : mark.Within lo' hi' := by
  obtain ⟨start, hstart, hle, hlt, hstop⟩ := h
  exact ⟨start, hstart, hlo.trans hle, hlt.trans_le hhi,
    fun stop h => ⟨(hstop stop h).1, (hstop stop h).2.trans hhi⟩⟩

/-- What has ended by `mid` is in front of what starts there. -/
theorem Mark.before_of_within {lo mid hi : Nat} {a b : Mark κ} (ha : a.Within lo mid)
    (hb : b.Within mid hi) : a.Before b := by
  obtain ⟨s, hs, -, hlt, hstop⟩ := ha
  obtain ⟨t, ht, hle, -, -⟩ := hb
  exact ⟨s, t, hs, ht, hlt.trans_le hle, fun e he => .inl ((hstop e he).2.trans hle)⟩

namespace Laid

variable {lo mid hi : Nat} {trees : List (MarkTree κ)}

theorem le (h : Laid lo trees hi) : lo ≤ hi := by
  induction h with
  | nil h => exact h
  | leaf hlo _ _ hstart _ ih => omega
  | node hlo _ hstop _ ihkids ih => omega

theorem mono {hi' : Nat} (h : Laid lo trees hi) (hhi : hi ≤ hi') : Laid lo trees hi' := by
  induction h with
  | nil h => exact .nil (h.trans hhi)
  | leaf hlo hspan hstop hstart _ ih => exact .leaf hlo hspan hstop hstart (ih hhi)
  | node hlo hkids hstop _ _ ih => exact .node hlo hkids hstop (ih hhi)

/-- Trees behind trees. -/
theorem append {back : List (MarkTree κ)} (h : Laid lo trees mid) (hback : Laid mid back hi) :
    Laid lo (trees ++ back) hi := by
  induction h with
  | nil h =>
    cases hback with
    | nil h' => exact .nil (h.trans h')
    | leaf hlo hspan hstop hstart h' => exact .leaf (h.trans hlo) hspan hstop hstart h'
    | node hlo hkids hstop h' => exact .node (h.trans hlo) hkids hstop h'
  | leaf hlo hspan hstop hstart _ ih => exact .leaf hlo hspan hstop hstart (ih hback)
  | node hlo hkids hstop _ _ ih => exact .node hlo hkids hstop (ih hback)

/-- The first tree, and the others behind it. -/
theorem cons_inv {tree : MarkTree κ} (h : Laid lo (tree :: trees) hi) :
    ∃ mid, Laid lo [tree] mid ∧ Laid mid trees hi := by
  cases h with
  | leaf hlo hspan hstop hstart h =>
    exact ⟨_, .leaf hlo hspan hstop hstart (.nil (Nat.le_refl _)), h⟩
  | node hlo hkids hstop h => exact ⟨_, .node hlo hkids hstop (.nil (Nat.le_refl _)), h⟩

/-- The marks lie between the two places. -/
theorem within (h : Laid lo trees hi) : ∀ mark ∈ marksOf trees, mark.Within lo hi := by
  induction h with
  | nil => exact fun _ hmem => absurd hmem List.not_mem_nil
  | @leaf lo start stop next hi kind trees hlo hspan hstop hstart h ih =>
    intro mark hmem
    have hnext := h.le
    rcases List.mem_cons.mp hmem with rfl | hrest
    · refine ⟨start, rfl, hlo, by omega, fun e he => ?_⟩
      obtain rfl := Option.some.inj he
      omega
    · exact (ih mark hrest).mono (by omega) (Nat.le_refl hi)
  | @node lo start inner stop hi kind kids trees hlo hkids hstop h ihkids ih =>
    intro mark hmem
    have hnext := h.le
    have hinner := hkids.le
    rcases List.mem_append.mp hmem with hfirst | hrest
    · rcases List.mem_cons.mp hfirst with rfl | hinside
      · refine ⟨start, rfl, hlo, by omega, fun e he => ?_⟩
        obtain rfl := Option.some.inj he
        omega
      · exact (ihkids mark hinside).mono (by omega) (by omega)
    · exact (ih mark hrest).mono (by omega) (Nat.le_refl hi)

/-- The marks come in the order in which they start, and no two of them overlap without one
lying in the other. -/
theorem pairwise (h : Laid lo trees hi) : (marksOf trees).Pairwise Mark.Before := by
  induction h with
  | nil => exact List.Pairwise.nil
  | @leaf lo start stop next hi kind trees hlo hspan hstop hstart h ih =>
    refine List.pairwise_cons.mpr ⟨fun mark hmem => ?_, ih⟩
    have hleaf : (⟨kind, some start, some stop, 0⟩ : Mark κ).Within lo next := by
      refine ⟨start, rfl, hlo, hstart, fun e he => ?_⟩
      obtain rfl := Option.some.inj he
      exact ⟨hspan, hstop⟩
    exact Mark.before_of_within hleaf (h.within mark hmem)
  | @node lo start inner stop hi kind kids trees hlo hkids hstop h ihkids ih =>
    have hinner := hkids.le
    refine List.pairwise_append.mpr ⟨List.pairwise_cons.mpr ⟨fun mark hmem => ?_, ihkids⟩, ih,
      fun a ha b hb => ?_⟩
    · -- what is in the node ends in front of it
      obtain ⟨t, ht, hle, hlt, hend⟩ := hkids.within mark hmem
      refine ⟨start, t, rfl, ht, by omega, fun e he => ?_⟩
      obtain rfl := Option.some.inj he
      cases hmark : mark.stop with
      | none =>
        have hclosed := marksOf_closed kids mark hmem
        rw [Mark.isOpen, ht, hmark] at hclosed
        cases hclosed
      | some e' => exact .inr ⟨e', rfl, ((hend e' hmark).2.trans hstop.le)⟩
    · have hnode : a.Within lo stop := by
        rcases List.mem_cons.mp ha with rfl | hinside
        · refine ⟨start, rfl, hlo, by omega, fun e he => ?_⟩
          obtain rfl := Option.some.inj he
          omega
        · exact (hkids.within a hinside).mono (by omega) hstop.le
      exact Mark.before_of_within hnode (h.within b hb)

end Laid

namespace Stack

/-- What is in an open span lies behind its start, and the spans around it start earlier. -/
def LaidFrames (trees : List (MarkTree κ)) : List (Frame κ) → Nat → Prop
  | [], hi => Laid 0 trees hi
  | frame :: outer, hi => LaidFrames trees outer frame.start ∧ Laid (frame.start + 1) frame.kids hi

/-- All that has been read lies in front of `hi`. -/
def LaidTo (stack : Stack κ) (hi : Nat) : Prop := LaidFrames stack.trees stack.frames hi

variable {stack : Stack κ} {hi : Nat}

theorem LaidTo.mono {hi' : Nat} (h : stack.LaidTo hi) (hhi : hi ≤ hi') : stack.LaidTo hi' := by
  unfold LaidTo at h ⊢
  cases hframes : stack.frames with
  | nil =>
    rw [hframes] at h
    exact Laid.mono h hhi
  | cons frame outer =>
    rw [hframes] at h
    exact ⟨h.1, h.2.mono hhi⟩

theorem LaidTo.add {tree : MarkTree κ} {hi' : Nat} (h : stack.LaidTo hi)
    (htree : Laid hi [tree] hi') :
    (stack.add tree).LaidTo hi' := by
  unfold LaidTo Stack.add at *
  cases hframes : stack.frames with
  | nil =>
    rw [hframes] at h
    exact Laid.append h htree
  | cons frame outer =>
    rw [hframes] at h
    exact ⟨h.1, h.2.append htree⟩

theorem LaidTo.push (h : stack.LaidTo hi) (kind : κ) : (stack.push kind hi).LaidTo (hi + 1) :=
  ⟨h, Laid.nil (Nat.le_refl _)⟩

theorem LaidTo.pop {stop : Nat} (h : stack.LaidTo hi) (hstop : hi < stop) :
    (stack.pop stop).LaidTo stop := by
  cases hframes : stack.frames with
  | nil =>
    rw [Stack.pop, hframes]
    exact h.mono hstop.le
  | cons frame outer =>
    unfold LaidTo at h
    rw [hframes] at h
    obtain ⟨houter, hkids⟩ := h
    have houter : (Stack.mk outer stack.trees).LaidTo frame.start := houter
    rw [pop_eq hframes]
    exact houter.add (.node (Nat.le_refl _) hkids hstop (.nil (Nat.le_refl _)))

theorem within_marksFrom {trees : List (MarkTree κ)} {frames : List (Frame κ)} {hi : Nat}
    (inside : Nat) (h : LaidFrames trees frames hi) :
    ∀ mark ∈ marksFrom trees frames inside, mark.Within 0 hi := by
  induction frames generalizing hi inside with
  | nil => exact Laid.within h
  | cons frame outer ih =>
    intro mark hmem
    obtain ⟨houter, hkids⟩ := h
    have hle := hkids.le
    rcases List.mem_append.mp hmem with hfront | hback
    · exact (ih 1 houter mark hfront).mono (Nat.le_refl 0) (by omega)
    · rcases List.mem_cons.mp hback with rfl | hinside
      · exact ⟨frame.start, rfl, Nat.zero_le _, by omega, fun e he => by cases he⟩
      · exact (hkids.within mark hinside).mono (Nat.zero_le _) (Nat.le_refl hi)

theorem pairwise_marksFrom {trees : List (MarkTree κ)} {frames : List (Frame κ)} {hi : Nat}
    (inside : Nat) (h : LaidFrames trees frames hi) :
    (marksFrom trees frames inside).Pairwise Mark.Before := by
  induction frames generalizing hi inside with
  | nil => exact Laid.pairwise h
  | cons frame outer ih =>
    obtain ⟨houter, hkids⟩ := h
    have hle := hkids.le
    refine List.pairwise_append.mpr ⟨ih 1 houter,
      List.pairwise_cons.mpr ⟨fun mark hmem => ?_, hkids.pairwise⟩, fun a ha b hb => ?_⟩
    · obtain ⟨t, ht, hlt, -, -⟩ := hkids.within mark hmem
      exact ⟨frame.start, t, rfl, ht, hlt, fun e he => by cases he⟩
    · -- what is around the frame has ended by its start, or has not ended
      have hbehind : b.Within frame.start hi := by
        rcases List.mem_cons.mp hb with rfl | hinside
        · exact ⟨frame.start, rfl, Nat.le_refl _, by omega, fun e he => by cases he⟩
        · exact (hkids.within b hinside).mono (by omega) (Nat.le_refl hi)
      exact Mark.before_of_within (within_marksFrom 1 houter a ha) hbehind

/-- The marks of a stack lie in front of what has been read. -/
theorem LaidTo.within (h : stack.LaidTo hi) : ∀ mark ∈ stack.marks, mark.Within 0 hi :=
  within_marksFrom 0 h

/-- The marks of a stack come in order, and none reaches over the end of another. -/
theorem LaidTo.pairwise (h : stack.LaidTo hi) : stack.marks.Pairwise Mark.Before :=
  pairwise_marksFrom 0 h

end Stack

end Places

end AwsIot.Foundation
