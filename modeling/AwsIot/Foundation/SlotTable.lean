/-
  Foundation/SlotTable.lean --- a table with holes as a bag.

  A fixed array whose slots are taken and freed one by one stands for the bag of the
  values in its used slots: where they stand does not matter, and equal values count.
  Filling a free slot adds to the bag, freeing slots takes from it, and a walk over
  the slots is a walk over the bag.
-/
import Mathlib.Data.Multiset.Filter
import Mathlib.Data.Multiset.Range

set_option autoImplicit false

namespace AwsIot.Foundation

variable {α β : Type} {n : Nat} {table table' : Nat → Option α}

/-- The bag of what the first `n` slots hold. -/
def contents (n : Nat) (table : Nat → Option α) : Multiset α := (Multiset.range n).filterMap table

theorem filterMap_congr {f g : β → Option α} {s : Multiset β} (h : ∀ b ∈ s, f b = g b) :
    s.filterMap f = s.filterMap g := by
  induction s using Quotient.inductionOn with
  | h l => exact congrArg _ (List.filterMap_congr h)

theorem contents_congr (h : ∀ slot < n, table slot = table' slot) :
    contents n table = contents n table' :=
  filterMap_congr fun slot hslot => h slot (Multiset.mem_range.mp hslot)

theorem contents_eq_zero (h : ∀ slot < n, table slot = none) : contents n table = 0 := by
  refine Multiset.eq_zero_of_forall_notMem fun a hmem => ?_
  obtain ⟨slot, hslot, hsome⟩ := (Multiset.mem_filterMap _ _).mp hmem
  rw [h slot (Multiset.mem_range.mp hslot)] at hsome
  cases hsome

/-- Filling a free slot adds its value to the bag. -/
theorem contents_update {slot : Nat} (hslot : slot < n) (hfree : table slot = none) (a : α) :
    contents n (Function.update table slot (some a)) = a ::ₘ contents n table := by
  have hmem : slot ∈ Multiset.range n := Multiset.mem_range.mpr hslot
  have hrest : ∀ k ∈ (Multiset.range n).erase slot,
      Function.update table slot (some a) k = table k := by
    intro k hk
    exact Function.update_of_ne ((Multiset.nodup_range n).mem_erase_iff.mp hk).1 _ _
  unfold contents
  rw [← Multiset.cons_erase hmem, Multiset.filterMap_cons_some _ _ _ (Function.update_self _ _ _),
    Multiset.filterMap_cons_none _ _ hfree, filterMap_congr hrest]

/-- Freeing the slots whose values fail `p` keeps the part of the bag that satisfies it. -/
theorem contents_filter (p : α → Prop) [DecidablePred p] :
    contents n (fun slot => (table slot).filter fun a => decide (p a)) =
      (contents n table).filter p := by
  unfold contents
  rw [Multiset.filter_filterMap]

/-- A walk over the slots is a walk over the bag. -/
theorem contents_bind (g : α → Option β) :
    contents n (fun slot => (table slot).bind g) = (contents n table).filterMap g :=
  (Multiset.filterMap_filterMap table g (Multiset.range n)).symm

/-- The bag is full exactly if no slot is free. -/
theorem card_contents_eq_iff :
    Multiset.card (contents n table) = n ↔ ∀ slot < n, table slot ≠ none := by
  have hcard : Multiset.card (contents n table) =
      ((List.range n).filter fun slot => (table slot).isSome).length := by
    show ((List.range n).filterMap table).length = _
    rw [List.length_filterMap_eq_countP, List.countP_eq_length_filter]
  have hfull : ((List.range n).filter fun slot => (table slot).isSome).length = n ↔
      ∀ slot ∈ List.range n, (table slot).isSome = true := by
    rw [← List.length_filter_eq_length_iff, List.length_range]
  rw [hcard, hfull]
  simp [Option.isSome_iff_ne_none]

end AwsIot.Foundation
