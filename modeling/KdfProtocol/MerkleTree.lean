import Mathlib.Data.List.Basic
import Mathlib.Tactic

/-!
# Binary hash trees over a list of leaves

A level is paired from the left; the last node of an odd level is paired with
itself.  A proof for a position is the list of the siblings on the way up, and
`foldPath` combines them with the leaf according to the bits of the position.
-/

namespace KdfProtocol

namespace MerkleTree

variable {α : Type} (node : α → α → α)

def nextLevel : List α → List α
  | [] => []
  | [a] => [node a a]
  | a :: b :: rest => node a b :: nextLevel rest

theorem length_nextLevel (level : List α) :
    (nextLevel node level).length = (level.length + 1) / 2 := by
  induction level using nextLevel.induct with
  | case1 | case2 a => simp [nextLevel]
  | case3 a b rest ih =>
    simp only [nextLevel, List.length_cons, ih]
    omega

def root : List α → Option α
  | [] => none
  | [a] => some a
  | a :: b :: rest => root (node a b :: nextLevel node rest)
termination_by level => level.length
decreasing_by
  have hlength := length_nextLevel node rest
  simp only [List.length_cons]
  omega

def sibling (level : List α) (i : ℕ) : Option α :=
  if i % 2 = 1 then level[i - 1]? else level[i + 1]?.or level[i]?

def siblingPath : List α → ℕ → List α
  | [], _ | [_], _ => []
  | a :: b :: rest, i =>
    (sibling (a :: b :: rest) i).toList ++ siblingPath (node a b :: nextLevel node rest) (i / 2)
termination_by level => level.length
decreasing_by
  have hlength := length_nextLevel node rest
  simp only [List.length_cons]
  omega

def combine (i : ℕ) (current next : α) : α :=
  if i % 2 = 1 then node next current else node current next

def foldPath (current : α) (i : ℕ) : List α → α
  | [] => current
  | next :: rest => foldPath (combine node i current next) (i / 2) rest

theorem sibling_add_two (a b : α) (rest : List α) (i : ℕ) :
    sibling (a :: b :: rest) (i + 2) = sibling rest i := by
  unfold sibling
  have hparity : (i + 2) % 2 = i % 2 := by omega
  rw [hparity]
  by_cases hodd : i % 2 = 1
  · have hindex : i + 2 - 1 = i - 1 + 1 + 1 := by omega
    rw [if_pos hodd, if_pos hodd, hindex]
    simp
  · rw [if_neg hodd, if_neg hodd]
    simp

theorem getElem?_nextLevel (level : List α) {i : ℕ} {x : α} (hx : level[i]? = some x) :
    ∃ next, sibling level i = some next ∧
      (nextLevel node level)[i / 2]? = some (combine node i x next) := by
  induction level using nextLevel.induct generalizing i with
  | case1 => simp at hx
  | case2 a =>
    have hi : i = 0 := by
      by_contra hne
      simp [hne] at hx
    subst hi
    simp only [List.getElem?_cons_zero, Option.some.injEq] at hx
    subst hx
    exact ⟨a, by simp [sibling], by simp [nextLevel, combine]⟩
  | case3 a b rest ih =>
    match i with
    | 0 =>
      simp only [List.getElem?_cons_zero, Option.some.injEq] at hx
      subst hx
      exact ⟨b, by simp [sibling], by simp [nextLevel, combine]⟩
    | 1 =>
      simp only [List.getElem?_cons_succ, List.getElem?_cons_zero, Option.some.injEq] at hx
      subst hx
      exact ⟨a, by simp [sibling], by simp [nextLevel, combine]⟩
    | j + 2 =>
      simp only [List.getElem?_cons_succ] at hx
      obtain ⟨next, hsibling, hparent⟩ := ih hx
      refine ⟨next, by rw [sibling_add_two, hsibling], ?_⟩
      have hhalf : (j + 2) / 2 = j / 2 + 1 := by omega
      have hparity : (j + 2) % 2 = j % 2 := by omega
      rw [hhalf, nextLevel, List.getElem?_cons_succ, hparent]
      simp [combine, hparity]

theorem root_eq_foldPath (level : List α) {i : ℕ} {x : α} (hx : level[i]? = some x) :
    root node level = some (foldPath node x i (siblingPath node level i)) := by
  induction level using root.induct node generalizing i x with
  | case1 => simp at hx
  | case2 a =>
    have hi : i = 0 := by
      by_contra hne
      simp [hne] at hx
    subst hi
    simp only [List.getElem?_cons_zero, Option.some.injEq] at hx
    subst hx
    simp [root, siblingPath, foldPath]
  | case3 a b rest ih =>
    obtain ⟨next, hsibling, hparent⟩ := getElem?_nextLevel node _ hx
    rw [nextLevel] at hparent
    rw [root, ih hparent, siblingPath, hsibling]
    rfl

end MerkleTree

end KdfProtocol
