import Mathlib.Tactic

/-!
# Walks along stored edges

A partial table assigns to a node the edge that leaves it, and every edge has
a target.  A walk goes from edge to edge and collects something on the way.
It ends from every node as long as edges are only dropped, or added to a
target that no edge leaves.
-/

namespace KdfProtocol

section EdgeWalk

variable {Node Edge Acc : Type} (target : Edge → Node)

inductive Ends (next : Node → Option Edge) : Node → Prop
  | stop {node : Node} (hnone : next node = none) : Ends next node
  | step {node : Node} {edge : Edge} (hedge : next node = some edge)
      (hrest : Ends next (target edge)) : Ends next node

variable {target} in
theorem Ends.of_subtable {next next' : Node → Option Edge}
    (hsub : ∀ node edge, next' node = some edge → next node = some edge)
    {node : Node} (hends : Ends target next node) : Ends target next' node := by
  induction hends with
  | @stop node hnone =>
    cases hnext : next' node with
    | none => exact .stop hnext
    | some edge =>
      have hold := hsub node edge hnext
      rw [hnone] at hold
      cases hold
  | @step node edge hedge _ ih =>
    cases hnext : next' node with
    | none => exact .stop hnext
    | some edge' =>
      have hold := hsub node edge' hnext
      have hsame : edge = edge' := Option.some.inj (hedge.symm.trans hold)
      rw [hsame] at ih
      exact .step hnext ih

theorem ends_of_link {next next' : Node → Option Edge} (source : Node)
    (link : Edge) (hends : ∀ node, Ends target next node)
    (hnew : ∀ node edge, next' node = some edge →
      next node = some edge ∨ node = source ∧ edge = link)
    (hopen : next' (target link) = none) (node : Node) : Ends target next' node := by
  induction hends node with
  | @stop node hnone =>
    cases hnext : next' node with
    | none => exact .stop hnext
    | some edge =>
      rcases hnew node edge hnext with hold | ⟨-, rfl⟩
      · rw [hnone] at hold
        cases hold
      · exact .step hnext (.stop hopen)
  | @step node edge hedge _ ih =>
    cases hnext : next' node with
    | none => exact .stop hnext
    | some edge' =>
      rcases hnew node edge' hnext with hold | ⟨-, rfl⟩
      · have hsame : edge = edge' := Option.some.inj (hedge.symm.trans hold)
        rw [hsame] at ih
        exact .step hnext ih
      · exact .step hnext (.stop hopen)

/-- Walk on from an edge; `none` is a walk that is not over within the
fuel. -/
def walk (next : Node → Option Edge) (visit : Acc → Edge → Acc) :
    ℕ → Edge → Acc → Option (Edge × Acc)
  | 0, _, _ => none
  | fuel + 1, current, acc =>
    match next (target current) with
    | none => some (current, acc)
    | some edge => walk next visit fuel edge (visit acc edge)

variable {target} in
theorem Ends.walk_isSome {next : Node → Option Edge} {node : Node}
    (hends : Ends target next node) (visit : Acc → Edge → Acc) :
    ∃ enough, ∀ fuel, enough ≤ fuel → ∀ (current : Edge) (acc : Acc),
      target current = node → (walk target next visit fuel current acc).isSome := by
  induction hends with
  | stop hnone =>
    refine ⟨1, ?_⟩
    intro fuel hfuel current acc htarget
    obtain ⟨fuel, rfl⟩ : ∃ n, fuel = n + 1 := ⟨fuel - 1, by omega⟩
    simp [walk, htarget, hnone]
  | @step node edge hedge _ ih =>
    obtain ⟨enough, hwalk⟩ := ih
    refine ⟨enough + 1, ?_⟩
    intro fuel hfuel current acc htarget
    obtain ⟨fuel, rfl⟩ : ∃ n, fuel = n + 1 := ⟨fuel - 1, by omega⟩
    have hrest := hwalk fuel (by omega) edge (visit acc edge) rfl
    simpa [walk, htarget, hedge] using hrest

theorem walk_invariant {next : Node → Option Edge}
    {visit : Acc → Edge → Acc} (inv : Edge → Acc → Prop)
    (hvisit : ∀ current acc edge, inv current acc →
      next (target current) = some edge → inv edge (visit acc edge))
    {fuel : ℕ} {current : Edge} {acc : Acc} {result : Edge × Acc}
    (hwalk : walk target next visit fuel current acc = some result)
    (hstart : inv current acc) : inv result.1 result.2 := by
  induction fuel generalizing current acc with
  | zero => cases hwalk
  | succ fuel ih =>
    unfold walk at hwalk
    split at hwalk
    · cases hwalk
      exact hstart
    next edge hedge =>
      exact ih hwalk (hvisit current acc edge hstart hedge)

end EdgeWalk

end KdfProtocol
