import Mathlib.Data.Finmap
import Mathlib.Data.Finset.Sort
import Mathlib.Tactic

/-!
# Content-addressed tries in a counted node store

The interface of a Merkle trie library: a node store, roots of tries in it,
and operations that return a new root and a new store, or fail.  `Lawful`
states what the operations do in terms of the contents of a family of tries
that share the store.  A node that several tries of the family use is counted
once for each, so an operation on one trie leaves the others as they are.

`contentsTrie` is a library that satisfies the laws: its roots are the
contents themselves and its store is the multiset of the tries it holds.
-/

namespace KdfProtocol

abbrev Contents (Key Value : Type) := Finmap (fun _ : Key => Value)

namespace Contents

variable {Key Value : Type} [DecidableEq Key]

variable (c : Contents Key Value)

theorem lookup_insert_if (k : Key) (v : Value) (key : Key) :
    (c.insert k v).lookup key = if key = k then some v else c.lookup key := by
  by_cases heq : key = k
  · subst heq
    simp
  · rw [if_neg heq, Finmap.lookup_insert_of_ne c heq]

theorem lookup_erase_if (k key : Key) :
    (c.erase k).lookup key = if key = k then none else c.lookup key := by
  by_cases heq : key = k
  · subst heq
    simp
  · rw [if_neg heq, Finmap.lookup_erase_ne heq]

def applyEntry (entry : Key × Option Value) : Contents Key Value :=
  match entry.2 with
  | some v => c.insert entry.1 v
  | none => c.erase entry.1

def applyDelta (delta : List (Key × Option Value)) : Contents Key Value :=
  delta.foldl applyEntry c

theorem lookup_applyEntry (entry : Key × Option Value) (key : Key) :
    (c.applyEntry entry).lookup key = if key = entry.1 then entry.2 else c.lookup key := by
  unfold applyEntry
  cases hvalue : entry.2 with
  | none => exact lookup_erase_if c entry.1 key
  | some v => exact lookup_insert_if c entry.1 v key

theorem lookup_applyDelta_removals (keys : List Key) (key : Key) :
    (c.applyDelta (keys.map fun k => (k, none))).lookup key =
      if key ∈ keys then none else c.lookup key := by
  induction keys generalizing c with
  | nil => simp [applyDelta]
  | cons k rest ih =>
    have hstep := ih (c.applyEntry (k, none))
    simp only [applyDelta, List.map_cons, List.foldl_cons] at hstep ⊢
    rw [hstep, lookup_applyEntry]
    by_cases hrest : key ∈ rest
    · simp [hrest]
    · by_cases heq : key = k
      · simp [heq]
      · simp [hrest, heq]

theorem applyDelta_all_keys {keys : List Key} (hkeys : ∀ k, k ∈ keys ↔ k ∈ c) :
    c.applyDelta (keys.map fun k => (k, none)) = ∅ := by
  apply Finmap.ext_lookup
  intro key
  rw [lookup_applyDelta_removals, Finmap.lookup_empty]
  by_cases hmem : key ∈ keys
  · rw [if_pos hmem]
  · rw [if_neg hmem]
    exact Finmap.lookup_eq_none.mpr fun h => hmem ((hkeys key).mpr h)

end Contents

structure TrieLib (Root Db Key Value : Type) where
  /-- The root of a trie that was never written. -/
  zeroRoot : Root
  /-- The root of the empty trie. -/
  hashedNullNode : Root
  /-- Insert into a new trie, or into the trie with the given root. -/
  insert : Db → Option Root → Key → Value → Option (Root × Db)
  deltaTrieRoot : Db → Root → List (Key × Option Value) → Option (Root × Db)
  keys : Db → Root → Option (List Key)
  /-- Drop the nodes that no trie refers to. -/
  purge : Db → Db

variable {Root Db Key Value ι : Type} [DecidableEq Key] [DecidableEq ι]

/-- The laws for stores that hold the tries of a family indexed by `ι`, where
an empty trie takes no node. -/
structure TrieLib.Lawful (lib : TrieLib Root Db Key Value) (rootOf : Contents Key Value → Root)
    (Holds : Db → (ι → Contents Key Value) → Prop) : Prop where
  rootOf_ne_zero : ∀ c, rootOf c ≠ lib.zeroRoot
  insert_new : ∀ db f i k v, Holds db f → f i = ∅ →
    ∃ db', lib.insert db none k v = some (rootOf (Finmap.insert k v ∅), db') ∧
      Holds db' (Function.update f i (Finmap.insert k v ∅))
  insert_existing : ∀ db f i k v, Holds db f →
    ∃ db', lib.insert db (some (rootOf (f i))) k v =
        some (rootOf ((f i).insert k v), db') ∧
      Holds db' (Function.update f i ((f i).insert k v))
  delta_existing : ∀ db f i delta, Holds db f →
    ∃ db', lib.deltaTrieRoot db (rootOf (f i)) delta =
        some (rootOf ((f i).applyDelta delta), db') ∧
      Holds db' (Function.update f i ((f i).applyDelta delta))
  delta_zero : ∀ db f delta, Holds db f → lib.deltaTrieRoot db lib.zeroRoot delta = none
  keys_existing : ∀ db f i, Holds db f →
    ∃ keys, lib.keys db (rootOf (f i)) = some keys ∧ ∀ k, k ∈ keys ↔ k ∈ f i
  /-- Nodes that are never released do no harm to the other tries. -/
  forget : ∀ db f i, Holds db f → Holds db (Function.update f i ∅)
  purge : ∀ db f, Holds db f → Holds (lib.purge db) f

/-! ## A library that satisfies the laws -/

section ContentsTrie

variable [DecidableEq Value]

/-- The store without one copy of a trie; the empty trie needs no copy. -/
def takeTrie (db : Multiset (Contents Key Value)) (c : Contents Key Value) :
    Option (Multiset (Contents Key Value)) :=
  if c = ∅ then some db
  else if c ∈ db then some (db.erase c)
  else none

def contentsTrie (listOf : Finset Key → List Key) :
    TrieLib (Option (Contents Key Value)) (Multiset (Contents Key Value)) Key Value where
  zeroRoot := none
  hashedNullNode := some ∅
  insert db root k v :=
    match root with
    | none => some (some (Finmap.insert k v ∅), Finmap.insert k v ∅ ::ₘ db)
    | some root => do
        let c ← root
        let rest ← takeTrie db c
        pure (some (c.insert k v), c.insert k v ::ₘ rest)
  deltaTrieRoot db root delta := do
    let c ← root
    let rest ← takeTrie db c
    pure (some (c.applyDelta delta), c.applyDelta delta ::ₘ rest)
  keys db root := do
    let c ← root
    let _ ← takeTrie db c
    pure (listOf c.keys)
  purge db := db.filter (· ≠ ∅)

def contentsTrieHolds (db : Multiset (Contents Key Value)) (f : ι → Contents Key Value) : Prop :=
  ∃ support : Finset ι, (∀ i, i ∉ support → f i = ∅) ∧ (support.val.map f).filter (· ≠ ∅) ≤ db

theorem contentsTrieHolds_update {db rest : Multiset (Contents Key Value)}
    {f : ι → Contents Key Value} (i : ι) (c : Contents Key Value)
    (hholds : contentsTrieHolds db f) (htake : takeTrie db (f i) = some rest) :
    contentsTrieHolds (c ::ₘ rest) (Function.update f i c) := by
  obtain ⟨support, hempty, hle⟩ := hholds
  refine ⟨insert i support, ?_, ?_⟩
  · intro j hj
    rw [Finset.mem_insert, not_or] at hj
    rw [Function.update_of_ne hj.1, hempty j hj.2]
  · have hothers :
        ((support.erase i).val.map (Function.update f i c)) = (support.erase i).val.map f := by
      apply Multiset.map_congr rfl
      intro j hj
      rw [Function.update_of_ne (Finset.ne_of_mem_erase hj)]
    have hins : (insert i support).val = i ::ₘ (support.erase i).val := by
      rw [← Finset.insert_erase (Finset.mem_insert_self i support),
        Finset.insert_val_of_notMem (Finset.notMem_erase i _)]
      congr 2
      ext j
      simp only [Finset.mem_erase, Finset.mem_insert]
      tauto
    have hrest : ((support.erase i).val.map f).filter (· ≠ ∅) ≤ rest := by
      by_cases hfi : f i = ∅
      · rw [takeTrie, if_pos hfi] at htake
        cases htake
        refine le_trans (Multiset.filter_le_filter _ ?_) hle
        exact Multiset.map_le_map (Finset.val_le_iff.mpr (Finset.erase_subset i support))
      · rw [takeTrie, if_neg hfi] at htake
        split at htake
        next hmem =>
          cases htake
          have hi : i ∈ support := by
            by_contra hnot
            exact hfi (hempty i hnot)
          rw [← Finset.insert_erase hi, Finset.insert_val_of_notMem (Finset.notMem_erase i support),
            Multiset.map_cons, Multiset.filter_cons_of_pos (p := fun c => c ≠ ∅) _ hfi] at hle
          rw [← Multiset.cons_le_cons_iff (f i), Multiset.cons_erase hmem]
          exact hle
        · cases htake
    rw [hins, Multiset.map_cons, Function.update_self, hothers]
    by_cases hc : c = ∅
    · rw [Multiset.filter_cons_of_neg _ (by simpa using hc)]
      exact hrest.trans (Multiset.le_cons_self rest c)
    · rw [Multiset.filter_cons_of_pos (p := fun c => c ≠ ∅) _ hc]
      exact (Multiset.cons_le_cons_iff c).mpr hrest

theorem takeTrie_of_holds {db : Multiset (Contents Key Value)} {f : ι → Contents Key Value} (i : ι)
    (hholds : contentsTrieHolds db f) : ∃ rest, takeTrie db (f i) = some rest := by
  unfold takeTrie
  by_cases hfi : f i = ∅
  · exact ⟨db, if_pos hfi⟩
  · obtain ⟨support, hempty, hle⟩ := hholds
    have hi : i ∈ support := by
      by_contra hnot
      exact hfi (hempty i hnot)
    have hmem : f i ∈ db := by
      apply Multiset.mem_of_le hle
      rw [Multiset.mem_filter]
      exact ⟨Multiset.mem_map_of_mem f hi, hfi⟩
    exact ⟨db.erase (f i), by rw [if_neg hfi, if_pos hmem]⟩

omit [DecidableEq ι] in
theorem contentsTrieHolds_mono {db db' : Multiset (Contents Key Value)}
    {f : ι → Contents Key Value} (hle : db.filter (· ≠ ∅) ≤ db')
    (hholds : contentsTrieHolds db f) : contentsTrieHolds db' f := by
  obtain ⟨support, hempty, hheld⟩ := hholds
  refine ⟨support, hempty, ?_⟩
  calc
    (support.val.map f).filter (· ≠ ∅) = ((support.val.map f).filter (· ≠ ∅)).filter (· ≠ ∅) := by
          simp
    _ ≤ db.filter (· ≠ ∅) := Multiset.filter_le_filter _ hheld
    _ ≤ db' := hle

theorem contentsTrie_lawful {listOf : Finset Key → List Key}
    (hlistOf : ∀ s k, k ∈ listOf s ↔ k ∈ s) :
    (contentsTrie listOf : TrieLib _ _ Key Value).Lawful (ι := ι) some contentsTrieHolds where
  rootOf_ne_zero := by
    intro c
    simp [contentsTrie]
  insert_new := by
    intro db f i k v hholds hfi
    refine ⟨_, rfl, contentsTrieHolds_update i _ hholds ?_⟩
    rw [takeTrie, if_pos hfi]
  insert_existing := by
    intro db f i k v hholds
    obtain ⟨rest, htake⟩ := takeTrie_of_holds i hholds
    refine ⟨(f i).insert k v ::ₘ rest, ?_, contentsTrieHolds_update i _ hholds htake⟩
    simp [contentsTrie, htake]
  delta_existing := by
    intro db f i delta hholds
    obtain ⟨rest, htake⟩ := takeTrie_of_holds i hholds
    refine ⟨(f i).applyDelta delta ::ₘ rest, ?_, contentsTrieHolds_update i _ hholds htake⟩
    simp [contentsTrie, htake]
  delta_zero := by
    intro db f delta hholds
    rfl
  keys_existing := by
    intro db f i hholds
    obtain ⟨rest, htake⟩ := takeTrie_of_holds i hholds
    refine ⟨listOf (f i).keys, ?_, ?_⟩
    · simp [contentsTrie, htake]
    · intro k
      rw [hlistOf, Finmap.mem_keys]
  forget := by
    intro db f i hholds
    obtain ⟨rest, htake⟩ := takeTrie_of_holds i hholds
    have hupd := contentsTrieHolds_update i ∅ hholds htake
    refine contentsTrieHolds_mono ?_ hupd
    rw [Multiset.filter_cons_of_neg _ (by simp)]
    refine (Multiset.filter_le _ rest).trans ?_
    unfold takeTrie at htake
    split at htake
    · cases htake
      exact le_rfl
    · split at htake
      · cases htake
        exact Multiset.erase_le _ db
      · cases htake
  purge := by
    intro db f hholds
    exact contentsTrieHolds_mono le_rfl hholds

end ContentsTrie

end KdfProtocol
