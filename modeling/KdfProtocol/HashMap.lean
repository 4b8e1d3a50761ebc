import Mathlib.Data.List.AList
import Mathlib.Tactic

/-!
# Finite maps and sets

Hash maps are association lists without duplicate keys.  The entry list plays
the part of the unspecified iteration order of a hash table.  A hash set is a
hash map to the unit type.
-/

namespace KdfProtocol

abbrev HashMap (K V : Type) := AList (fun _ : K => V)

abbrev HashSet (K : Type) := HashMap K Unit

namespace HashMap

variable {K V W : Type}

instance decidableEq [DecidableEq K] [DecidableEq V] : DecidableEq (HashMap K V) :=
  fun _ _ => decidable_of_iff _ AList.ext_iff.symm

theorem lookup_insert_if [DecidableEq K] (m : HashMap K V) (k : K) (v : V) (key : K) :
    (m.insert k v).lookup key = if key = k then some v else m.lookup key := by
  by_cases heq : key = k
  · subst key
    simp
  · rw [if_neg heq, AList.lookup_insert_ne heq]

theorem lookup_erase_if [DecidableEq K] (m : HashMap K V) (k key : K) :
    (m.erase k).lookup key = if key = k then none else m.lookup key := by
  by_cases heq : key = k
  · subst key
    simp
  · rw [if_neg heq, AList.lookup_erase_ne heq]

theorem mem_iff_lookup [DecidableEq K] (m : HashMap K V) (k : K) :
    k ∈ m ↔ ∃ v, m.lookup k = some v := by
  rw [← AList.lookup_isSome, Option.isSome_iff_exists]

def values (m : HashMap K V) : List V :=
  m.entries.map fun entry => entry.2

def toList (m : HashMap K V) : List (K × V) :=
  m.entries.map fun entry => (entry.1, entry.2)

def extend [DecidableEq K] (m : HashMap K V) (entries : List (K × V)) : HashMap K V :=
  entries.foldl (fun m entry => m.insert entry.1 entry.2) m

def retain (keep : K → V → Bool) (m : HashMap K V) : HashMap K V where
  entries := m.entries.filter fun entry => keep entry.1 entry.2
  nodupKeys := m.nodupKeys.sublist List.filter_sublist

def mapValues (f : K → V → W) (m : HashMap K V) : HashMap K W where
  entries := m.entries.map fun entry => ⟨entry.1, f entry.1 entry.2⟩
  nodupKeys := by
    have hkeys :
        (m.entries.map fun entry =>
          (⟨entry.1, f entry.1 entry.2⟩ : Sigma fun _ : K => W)).keys =
          m.entries.keys := by
      simp [List.keys, Function.comp_def]
    unfold List.NodupKeys
    rw [hkeys]
    exact m.nodupKeys

theorem mem_entries_iff [DecidableEq K] (m : HashMap K V) (k : K) (v : V) :
    (⟨k, v⟩ : Sigma fun _ : K => V) ∈ m.entries ↔ m.lookup k = some v := by
  rw [← Option.mem_def, AList.mem_lookup_iff]

variable {m : HashMap K V} {k : K} {v : V}

theorem mem_toList [DecidableEq K] : (k, v) ∈ m.toList ↔ m.lookup k = some v := by
  rw [← mem_entries_iff]
  unfold toList
  constructor
  · intro hmem
    obtain ⟨⟨key, value⟩, hentry, heq⟩ := List.mem_map.mp hmem
    cases heq
    exact hentry
  · intro hentry
    exact List.mem_map.mpr ⟨⟨k, v⟩, hentry, rfl⟩

theorem flatMap_toList_of_key [DecidableEq K] {A : Type} (m : HashMap K V)
    (k : K) (f : K × V → List A) (hother : ∀ entry, entry.1 ≠ k → f entry = []) :
    m.toList.flatMap f =
      match m.lookup k with
      | some v => f (k, v)
      | none => [] := by
  have hentries : ∀ entries : List (Sigma fun _ : K => V), entries.NodupKeys →
      (entries.map fun entry => (entry.1, entry.2)).flatMap f =
        match entries.dlookup k with
        | some v => f (k, v)
        | none => [] := by
    intro entries hnodup
    induction entries with
    | nil => rfl
    | cons entry rest ih =>
      obtain ⟨key, v⟩ := entry
      obtain ⟨hfresh, hrest⟩ := List.nodupKeys_cons.mp hnodup
      rw [List.map_cons, List.flatMap_cons, ih hrest]
      by_cases heq : key = k
      · subst heq
        rw [List.dlookup_cons_eq, List.dlookup_eq_none.mpr hfresh]
        simp
      · rw [List.dlookup_cons_ne rest _ (Ne.symm heq), hother (key, v) heq, List.nil_append]
  exact hentries m.entries m.nodupKeys

theorem lookup_retain [DecidableEq K] (keep : K → V → Bool) (m : HashMap K V) (k : K) :
    (retain keep m).lookup k = (m.lookup k).filter (keep k) := by
  apply Option.ext
  intro v
  have hleft := mem_entries_iff (retain keep m) k v
  have hright := mem_entries_iff m k v
  rw [← hleft]
  simp [retain, Option.filter_eq_some_iff, ← hright]

theorem lookup_mapValues [DecidableEq K] (f : K → V → W) (m : HashMap K V) (k : K) :
    (mapValues f m).lookup k = (m.lookup k).map (f k) := by
  apply Option.ext
  intro w
  rw [← mem_entries_iff]
  simp only [mapValues, List.mem_map, Option.map_eq_some_iff]
  constructor
  · rintro ⟨⟨key, v⟩, hmem, heq⟩
    obtain ⟨rfl, hvalue⟩ := Sigma.mk.inj heq
    exact ⟨v, (mem_entries_iff m key v).mp hmem, eq_of_heq hvalue⟩
  · rintro ⟨v, hlook, rfl⟩
    exact ⟨⟨k, v⟩, (mem_entries_iff m k v).mpr hlook, rfl⟩

/-- Update the value of a present key, and drop the key if the updated value
is empty. -/
def updateOrDrop [DecidableEq K] (k : K) (f : V → V) (empty : V → Bool)
    (m : HashMap K V) : HashMap K V :=
  match m.lookup k with
  | none => m
  | some v => if empty (f v) then m.erase k else m.insert k (f v)

theorem lookup_updateOrDrop [DecidableEq K] (k : K) (f : V → V)
    (empty : V → Bool) (m : HashMap K V) (key : K) :
    (m.updateOrDrop k f empty).lookup key =
      if key = k then ((m.lookup k).map f).filter (fun v => !empty v)
      else m.lookup key := by
  unfold updateOrDrop
  cases hlook : m.lookup k with
  | none =>
    by_cases heq : key = k
    · subst key
      simp [hlook]
    · simp [heq]
  | some v =>
    by_cases hempty : empty (f v) = true
    · simp [hempty, lookup_erase_if, Option.filter]
    · simp [hempty, lookup_insert_if, Option.filter]

theorem getD_updateOrDrop [DecidableEq K] (k : K) {f : V → V} {empty : V → Bool} {default : V}
    (hempty : ∀ v, empty v = true → v = default) (hf : f default = default)
    (m : HashMap K V) (key : K) :
    ((m.updateOrDrop k f empty).lookup key).getD default =
      if key = k then f ((m.lookup k).getD default)
      else (m.lookup key).getD default := by
  rw [lookup_updateOrDrop]
  by_cases heq : key = k
  · rw [if_pos heq, if_pos heq]
    cases m.lookup k with
    | none => exact hf.symm
    | some v =>
      by_cases hv : empty (f v) = true
      · have hdefault : f v = default := hempty (f v) hv
        simp [Option.filter, hv, hdefault.symm]
      · simp [Option.filter, hv]
  · rw [if_neg heq, if_neg heq]

theorem mem_values_insert [DecidableEq K]
    {v w : V} (hw : w ∈ values (m.insert k v)) : w = v ∨ w ∈ values m := by
  obtain ⟨entry, hentry, rfl⟩ := List.mem_map.mp hw
  rw [AList.entries_insert, List.mem_cons] at hentry
  cases hentry with
  | inl hnew => simp [hnew]
  | inr hold =>
    exact .inr (List.mem_map.mpr ⟨entry, (List.kerase_sublist k m.entries).mem hold, rfl⟩)

theorem mem_values_of_lookup [DecidableEq K] (hlook : m.lookup k = some v) : v ∈ values m :=
  List.mem_map.mpr ⟨⟨k, v⟩, (mem_entries_iff m k v).mpr hlook, rfl⟩

/-! ### Sums over the values -/

def total {A : Type} [AddCommMonoid A] (f : V → A) (m : HashMap K V) : A :=
  ((values m).map f).sum

section Total

variable {A : Type} [AddCommMonoid A] (f : V → A)

theorem total_of_perm {m m' : HashMap K V} (hperm : m.entries.Perm m'.entries) :
    total f m = total f m' :=
  ((hperm.map _).map f).sum_eq

variable {m : HashMap K V} {k : K}

theorem total_insert_of_notMem [DecidableEq K]
    (hk : k ∉ m) (v : V) : total f (m.insert k v) = f v + total f m := by
  unfold total values
  rw [AList.entries_insert_of_notMem hk]
  simp

theorem total_insert_of_lookup [DecidableEq K] {v v' : V} (hlook : m.lookup k = some v)
    (hf : f v' = f v) : total f (m.insert k v') = total f m := by
  have hmem : k ∈ m.entries.keys := (mem_iff_lookup m k).mpr ⟨v, hlook⟩
  obtain ⟨old, first, second, -, hentries, herase⟩ := List.exists_of_kerase hmem
  have hold : old = v := by
    have hentry : ⟨k, old⟩ ∈ m.entries := by simp [hentries]
    rw [mem_entries_iff, hlook] at hentry
    exact (Option.some.inj hentry).symm
  unfold total values
  rw [AList.entries_insert, herase, hentries, hold]
  simp only [List.map_cons, List.map_append, List.sum_cons, List.sum_append, hf]
  rw [add_left_comm]

theorem total_retain_le [PartialOrder A] [IsOrderedAddMonoid A] (keep : K → V → Bool)
    (hnonneg : ∀ v ∈ values m, 0 ≤ f v) : total f (m.retain keep) ≤ total f m := by
  have hsublist : (values (m.retain keep)).Sublist (values m) := List.filter_sublist.map _
  apply (hsublist.map f).sum_le_sum
  intro a ha
  obtain ⟨v, hv, rfl⟩ := List.mem_map.mp ha
  exact hnonneg v hv

end Total

end HashMap

namespace HashSet

variable {K : Type}

def isEmpty (s : HashSet K) : Bool := s.entries.isEmpty

theorem eq_empty_of_isEmpty {s : HashSet K} (hempty : isEmpty s = true) : s = ∅ :=
  AList.ext (List.isEmpty_iff.mp hempty)

end HashSet

end KdfProtocol
