import Mathlib.Order.Basic
import Mathlib.Data.List.Sort
import Mathlib.Tactic

/-!
# Ordered sets

A tree set is a strictly increasing list.  Iteration is in order, insertion of
a present element changes nothing, and the sortedness proof is carried by the
structure.
-/

namespace KdfProtocol

structure SortedSet (α : Type) [LinearOrder α] where
  elems : List α
  sorted : elems.Pairwise (· < ·)

namespace SortedSet

variable {α : Type} [LinearOrder α]

def insertElem (a : α) : List α → List α
  | [] => [a]
  | b :: rest =>
    if a < b then a :: b :: rest
    else if a = b then b :: rest
    else b :: insertElem a rest

theorem mem_insertElem (a x : α) (l : List α) : x ∈ insertElem a l ↔ x = a ∨ x ∈ l := by
  induction l with
  | nil => simp [insertElem]
  | cons b rest ih =>
    unfold insertElem
    split
    · simp
    next hnotlt =>
      split
      next heq =>
        subst heq
        simp
      next hne =>
        simp only [List.mem_cons, ih]
        tauto

theorem pairwise_insertElem (a : α) {l : List α} (hsorted : l.Pairwise (· < ·)) :
    (insertElem a l).Pairwise (· < ·) := by
  induction l with
  | nil => simp [insertElem]
  | cons b rest ih =>
    rw [List.pairwise_cons] at hsorted
    unfold insertElem
    split
    next hlt =>
      rw [List.pairwise_cons, List.pairwise_cons]
      refine ⟨?_, hsorted⟩
      intro x hx
      rcases List.mem_cons.mp hx with rfl | hrest
      · exact hlt
      · exact hlt.trans (hsorted.1 x hrest)
    next hnotlt =>
      split
      · exact List.pairwise_cons.mpr hsorted
      next hne =>
        rw [List.pairwise_cons]
        refine ⟨?_, ih hsorted.2⟩
        intro x hx
        rcases (mem_insertElem a x rest).mp hx with rfl | hrest
        · exact lt_of_le_of_ne (le_of_not_gt hnotlt) (Ne.symm hne)
        · exact hsorted.1 x hrest

instance : EmptyCollection (SortedSet α) where
  emptyCollection := ⟨[], List.Pairwise.nil⟩

instance : Membership α (SortedSet α) where
  mem s a := a ∈ s.elems

instance (a : α) (s : SortedSet α) : Decidable (a ∈ s) :=
  inferInstanceAs (Decidable (a ∈ s.elems))

def insert (a : α) (s : SortedSet α) : SortedSet α :=
  ⟨insertElem a s.elems, pairwise_insertElem a s.sorted⟩

def erase (a : α) (s : SortedSet α) : SortedSet α :=
  ⟨s.elems.erase a, s.sorted.sublist List.erase_sublist⟩

def find (p : α → Bool) (s : SortedSet α) : Option α :=
  s.elems.find? p

def isEmpty (s : SortedSet α) : Bool := s.elems.isEmpty

@[simp] theorem notMem_empty (a : α) : a ∉ (∅ : SortedSet α) :=
  List.not_mem_nil

@[simp] theorem mem_insert (a x : α) (s : SortedSet α) : x ∈ s.insert a ↔ x = a ∨ x ∈ s :=
  mem_insertElem a x s.elems

@[simp] theorem mem_erase (a x : α) (s : SortedSet α) : x ∈ s.erase a ↔ x ≠ a ∧ x ∈ s := by
  have hnodup : s.elems.Nodup := s.sorted.imp fun hlt => ne_of_lt hlt
  exact hnodup.mem_erase_iff

theorem eq_empty_of_isEmpty {s : SortedSet α} (hempty : s.isEmpty = true) : s = ∅ := by
  obtain ⟨elems, hsorted⟩ := s
  have hnil : elems = [] := List.isEmpty_iff.mp hempty
  subst hnil
  rfl

theorem find_some {p : α → Bool} {s : SortedSet α} {a : α}
    (hfind : s.find p = some a) : p a = true ∧ a ∈ s :=
  ⟨List.find?_some hfind, List.mem_of_find?_eq_some hfind⟩

theorem find_none {p : α → Bool} {s : SortedSet α}
    (hfind : s.find p = none) : ∀ a ∈ s, p a = false := by
  intro a ha
  simpa using List.find?_eq_none.mp hfind a ha

end SortedSet

end KdfProtocol
