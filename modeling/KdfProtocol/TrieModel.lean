import KdfProtocol.TrieStore
import Mathlib.Data.Set.Basic

/-!
# What a trie store stands for

The abstract store keeps, for every pubkey and pair, whether a root is there,
the contents of the trie and the uuids on record.  Events act on it one at a
time.  Grouping a batch gives the same abstract store: the effect of a group
on its slot depends only on the last insertion and removal of each uuid.
-/

namespace KdfProtocol

open TrieStore HashMap

abbrev PairContents := Contents Uuid OrderbookP2PItem

/-- No root, the zero root of a pair that holds no trie, or the root of the
contents. -/
inductive RootPhase where
  | absent
  | placeholder
  | trie
  deriving DecidableEq

def RootPhase.afterRemove : RootPhase → RootPhase
  | .absent | .placeholder => .placeholder
  | .trie => .trie

theorem mem_setInsert {α : Type} {a b : α} {s : Set α} : a ∈ Set.insert b s ↔ a = b ∨ a ∈ s :=
  Iff.rfl

@[ext]
structure SlotView where
  phase : RootPhase
  contents : PairContents
  uuids : Set Uuid

open SlotView

namespace SlotView

def empty : SlotView where
  phase := .absent
  contents := ∅
  uuids := ∅

def insert (uuid : Uuid) (leaf : OrderbookP2PItem) (view : SlotView) : SlotView where
  phase := .trie
  contents := view.contents.insert uuid leaf
  uuids := Set.insert uuid view.uuids

def remove (uuid : Uuid) (view : SlotView) : SlotView where
  phase := view.phase.afterRemove
  contents := view.contents.erase uuid
  uuids := view.uuids \ {uuid}

end SlotView

@[ext]
structure TrieModel where
  known : Set String
  view : GroupKey → SlotView

def TrieModel.apply (m : TrieModel) : TrieOp → TrieModel
  | .clearPair pubkey albPair =>
    { m with view := Function.update m.view (pubkey, albPair) .empty }
  | .insert pubkey albPair uuid order =>
    { known := Set.insert pubkey m.known
      view := Function.update m.view (pubkey, albPair)
        ((m.view (pubkey, albPair)).insert uuid order.trieState) }
  | .remove pubkey albPair uuid =>
    { known := Set.insert pubkey m.known
      view := Function.update m.view (pubkey, albPair) ((m.view (pubkey, albPair)).remove uuid) }
  | .removePubkey pubkey =>
    { known := m.known \ {pubkey}
      view := fun key =>
        if key.1 = pubkey then .empty else m.view key }

/-! ## The effect of a group -/

namespace TrieStore.Group

def inserted (g : Group) (uuid : Uuid) : Option OrderbookItem :=
  (g.pending.lookup uuid).bind fun pending =>
    pending.insert.map fun entry => entry.2

def removed (g : Group) (uuid : Uuid) : Bool :=
  (g.pending.lookup uuid).any fun pending => pending.remove.isSome

def start (g : Group) (view : SlotView) : SlotView :=
  if g.clear then .empty else view

def insertAll (inserts : List (ℕ × Uuid × OrderbookItem)) (view : SlotView) : SlotView :=
  inserts.foldl (fun view entry => view.insert entry.2.1 entry.2.2.trieState) view

def removeAll (removes : List (ℕ × Uuid)) (view : SlotView) : SlotView :=
  removes.foldl (fun view entry => view.remove entry.2) view

def effect (g : Group) (view : SlotView) : SlotView :=
  removeAll g.removes (insertAll g.inserts (g.start view))

variable (g : Group) (view : SlotView) (removes : List (ℕ × Uuid))

theorem exists_mem_inserts_iff (uuid : Uuid) (order : OrderbookItem) :
    (∃ seq, (seq, uuid, order) ∈ g.inserts) ↔ g.inserted uuid = some order := by
  simp only [inserts, List.mem_insertionSort, List.mem_filterMap, inserted,
    Option.bind_eq_some_iff, Option.map_eq_some_iff]
  constructor
  · rintro ⟨seq, ⟨key, pending⟩, hmem, entry, hins, heq⟩
    cases heq
    exact ⟨pending, (mem_entries_iff _ _ _).mp hmem, entry, hins, rfl⟩
  · rintro ⟨pending, hlook, ⟨seq, found⟩, hins, rfl⟩
    exact ⟨seq, ⟨uuid, pending⟩, (mem_entries_iff _ _ _).mpr hlook, (seq, found), hins, rfl⟩

theorem exists_mem_removes_iff (uuid : Uuid) :
    (∃ seq, (seq, uuid) ∈ g.removes) ↔ g.removed uuid = true := by
  simp only [removes, List.mem_insertionSort, List.mem_filterMap, Option.map_eq_some_iff,
    removed, Option.any_eq_true, Option.isSome_iff_exists]
  constructor
  · rintro ⟨seq, ⟨key, pending⟩, hmem, found, hrem, heq⟩
    cases heq
    exact ⟨pending, (mem_entries_iff _ _ _).mp hmem, _, hrem⟩
  · rintro ⟨pending, hlook, seq, hrem⟩
    exact ⟨seq, ⟨uuid, pending⟩, (mem_entries_iff _ _ _).mpr hlook, seq, hrem, rfl⟩

/-! ### Closed form -/

variable {inserts : List (ℕ × Uuid × OrderbookItem)} {uuid : Uuid}

theorem insertAll_cons (entry : ℕ × Uuid × OrderbookItem) : insertAll (entry :: inserts) view =
      insertAll inserts (view.insert entry.2.1 entry.2.2.trieState) :=
  rfl

theorem removeAll_cons (entry : ℕ × Uuid) :
    removeAll (entry :: removes) view = removeAll removes (view.remove entry.2) :=
  rfl

theorem lookup_insertAll_of_absent (habs : ∀ entry ∈ inserts, entry.2.1 ≠ uuid) (view : SlotView) :
    (insertAll inserts view).contents.lookup uuid = view.contents.lookup uuid := by
  induction inserts generalizing view with
  | nil => rfl
  | cons entry rest ih =>
    have hhead : uuid ≠ entry.2.1 := (habs entry List.mem_cons_self).symm
    have hrest := ih (fun other hmem =>
      habs other (List.mem_cons_of_mem entry hmem))
      (view.insert entry.2.1 entry.2.2.trieState)
    refine hrest.trans ?_
    simp only [SlotView.insert, Contents.lookup_insert_if, if_neg hhead]

theorem lookup_insertAll_of_present {order : OrderbookItem}
    (hsame : ∀ entry ∈ inserts, entry.2.1 = uuid → entry.2.2 = order)
    (hpresent : ∃ entry ∈ inserts, entry.2.1 = uuid) (view : SlotView) :
    (insertAll inserts view).contents.lookup uuid = some order.trieState := by
  induction inserts generalizing view with
  | nil => simp at hpresent
  | cons entry rest ih =>
    have hsameRest : ∀ other ∈ rest, other.2.1 = uuid → other.2.2 = order :=
      fun other hmem => hsame other (List.mem_cons_of_mem entry hmem)
    by_cases hlater : ∃ other ∈ rest, other.2.1 = uuid
    · exact ih hsameRest hlater _
    · have habs : ∀ other ∈ rest, other.2.1 ≠ uuid :=
        fun other hmem heq => hlater ⟨other, hmem, heq⟩
      have hhead : entry.2.1 = uuid := by
        obtain ⟨other, hmem, heq⟩ := hpresent
        rcases List.mem_cons.mp hmem with rfl | hrest
        · exact heq
        · exact absurd heq (habs other hrest)
      have horder : entry.2.2 = order := hsame entry List.mem_cons_self hhead
      refine (lookup_insertAll_of_absent habs _).trans ?_
      simp only [SlotView.insert, Contents.lookup_insert_if, if_pos hhead.symm, horder]

theorem mem_uuids_insertAll (inserts : List (ℕ × Uuid × OrderbookItem))
    (view : SlotView) (uuid : Uuid) :
    uuid ∈ (insertAll inserts view).uuids ↔
      (∃ entry ∈ inserts, entry.2.1 = uuid) ∨ uuid ∈ view.uuids := by
  induction inserts generalizing view with
  | nil => simp [insertAll]
  | cons entry rest ih =>
    rw [insertAll_cons, ih, SlotView.insert, mem_setInsert, List.exists_mem_cons_iff, eq_comm,
      or_left_comm, ← or_assoc]

theorem phase_insertAll (inserts : List (ℕ × Uuid × OrderbookItem)) (view : SlotView) :
    (insertAll inserts view).phase = if inserts = [] then view.phase else .trie := by
  induction inserts generalizing view with
  | nil => rfl
  | cons entry rest ih =>
    rw [insertAll_cons, ih]
    simp [SlotView.insert]

theorem lookup_removeAll (view : SlotView) (uuid : Uuid) :
    (removeAll removes view).contents.lookup uuid =
      if uuid ∈ removes.map Prod.snd then none
      else view.contents.lookup uuid := by
  induction removes generalizing view with
  | nil => simp [removeAll]
  | cons entry rest ih =>
    rw [removeAll_cons, ih]
    simp only [remove, Contents.lookup_erase_if, List.map_cons, List.mem_cons]
    by_cases hlater : uuid ∈ rest.map Prod.snd
    · simp [hlater]
    · by_cases heq : uuid = entry.2
      · simp [heq]
      · simp only [hlater, heq, or_self, if_false]

theorem mem_uuids_removeAll (view : SlotView) (uuid : Uuid) :
    uuid ∈ (removeAll removes view).uuids ↔ uuid ∉ removes.map Prod.snd ∧ uuid ∈ view.uuids := by
  induction removes generalizing view with
  | nil => simp [removeAll]
  | cons entry rest ih =>
    rw [removeAll_cons, ih]
    simp only [remove, List.map_cons, List.mem_cons, Set.mem_sdiff, Set.mem_singleton_iff]
    tauto

theorem phase_removeAll (view : SlotView) : (removeAll removes view).phase =
      if removes = [] then view.phase else view.phase.afterRemove := by
  induction removes generalizing view with
  | nil => rfl
  | cons entry rest ih =>
    rw [removeAll_cons, ih]
    cases hphase : view.phase <;> simp [remove, hphase, RootPhase.afterRemove]

theorem mem_map_removes_iff (uuid : Uuid) :
    uuid ∈ g.removes.map Prod.snd ↔ g.removed uuid = true := by
  rw [← exists_mem_removes_iff]
  simp

theorem lookup_effect (uuid : Uuid) : (g.effect view).contents.lookup uuid =
      if g.removed uuid then none
      else match g.inserted uuid with
        | some order => some order.trieState
        | none => (g.start view).contents.lookup uuid := by
  unfold effect
  rw [lookup_removeAll]
  simp only [mem_map_removes_iff]
  by_cases hrem : g.removed uuid = true
  · simp [hrem]
  · simp only [hrem]
    cases hins : g.inserted uuid with
    | none =>
      apply lookup_insertAll_of_absent
      rintro ⟨seq, other, order⟩ hmem rfl
      have hsome := (exists_mem_inserts_iff g other order).mp ⟨seq, hmem⟩
      rw [hins] at hsome
      cases hsome
    | some order =>
      apply lookup_insertAll_of_present
      · rintro ⟨seq, other, found⟩ hmem rfl
        have hsome := (exists_mem_inserts_iff g other found).mp ⟨seq, hmem⟩
        rw [hins] at hsome
        cases hsome
        rfl
      · obtain ⟨seq, hmem⟩ := (exists_mem_inserts_iff g uuid order).mpr hins
        exact ⟨(seq, uuid, order), hmem, rfl⟩

theorem mem_uuids_effect (uuid : Uuid) : uuid ∈ (g.effect view).uuids ↔
      g.removed uuid = false ∧ ((g.inserted uuid).isSome ∨ uuid ∈ (g.start view).uuids) := by
  unfold effect
  rw [mem_uuids_removeAll, mem_uuids_insertAll, mem_map_removes_iff, Bool.not_eq_true]
  have hins : (∃ entry ∈ g.inserts, entry.2.1 = uuid) ↔ (g.inserted uuid).isSome := by
    rw [Option.isSome_iff_exists]
    constructor
    · rintro ⟨⟨seq, other, order⟩, hmem, rfl⟩
      exact ⟨order, (exists_mem_inserts_iff g other order).mp ⟨seq, hmem⟩⟩
    · rintro ⟨order, hsome⟩
      obtain ⟨seq, hmem⟩ := (exists_mem_inserts_iff g uuid order).mpr hsome
      exact ⟨(seq, uuid, order), hmem, rfl⟩
  rw [hins]

open Classical in
theorem phase_effect : (g.effect view).phase =
      if ∃ uuid order, g.inserted uuid = some order then .trie
      else if ∃ uuid, g.removed uuid = true then
        (g.start view).phase.afterRemove
      else (g.start view).phase := by
  have hinserts : g.inserts = [] ↔ ¬∃ uuid order, g.inserted uuid = some order := by
    rw [List.eq_nil_iff_forall_not_mem]
    constructor
    · rintro hnone ⟨uuid, order, hsome⟩
      obtain ⟨seq, hmem⟩ := (exists_mem_inserts_iff g uuid order).mpr hsome
      exact hnone _ hmem
    · rintro hnone ⟨seq, uuid, order⟩ hmem
      exact hnone ⟨uuid, order, (exists_mem_inserts_iff g uuid order).mp ⟨seq, hmem⟩⟩
  have hremoves : g.removes = [] ↔ ¬∃ uuid, g.removed uuid = true := by
    rw [List.eq_nil_iff_forall_not_mem]
    constructor
    · rintro hnone ⟨uuid, hrem⟩
      obtain ⟨seq, hmem⟩ := (exists_mem_removes_iff g uuid).mpr hrem
      exact hnone _ hmem
    · rintro hnone ⟨seq, uuid⟩ hmem
      exact hnone ⟨uuid, (exists_mem_removes_iff g uuid).mp ⟨seq, hmem⟩⟩
  unfold effect
  rw [phase_removeAll, phase_insertAll]
  simp only [hinserts, hremoves, ite_not]
  by_cases hins : ∃ uuid order, g.inserted uuid = some order
  · simp only [hins, if_true]
    split <;> rfl
  · simp only [hins, if_false]

/-! ### Adding one event to a group -/

def withPending (g : Group) (uuid : Uuid) (pending : UuidPending) : Group :=
  { g with touched := true, pending := g.pending.insert uuid pending }

theorem inserted_withPending (uuid : Uuid) (pending : UuidPending) (other : Uuid) :
    (g.withPending uuid pending).inserted other =
      if other = uuid then pending.insert.map fun entry => entry.2
      else g.inserted other := by
  simp only [inserted, withPending, lookup_insert_if]
  split <;> rfl

theorem removed_withPending (uuid : Uuid) (pending : UuidPending) (other : Uuid) :
    (g.withPending uuid pending).removed other =
      if other = uuid then pending.remove.isSome else g.removed other := by
  simp only [removed, withPending, lookup_insert_if]
  split <;> rfl

theorem effect_cleared : ({ g with clear := true, pending := ∅ } : Group).effect view = .empty :=
  rfl

theorem effect_default : ({} : Group).effect view = view :=
  rfl

theorem effect_withInsert (uuid : Uuid) (seq : ℕ) (order : OrderbookItem) (view : SlotView) :
    (g.withPending uuid { insert := some (seq, order), remove := none }).effect view =
      (g.effect view).insert uuid order.trieState := by
  ext1
  · classical
    rw [phase_effect, if_pos]
    · rfl
    · exact ⟨uuid, order, by simp [inserted_withPending]⟩
  · apply Finmap.ext_lookup
    intro other
    simp only [SlotView.insert, Contents.lookup_insert_if, lookup_effect,
      inserted_withPending, removed_withPending]
    by_cases heq : other = uuid
    · simp [heq]
    · simp only [heq, if_false]
      rfl
  · ext other
    rw [SlotView.insert, mem_setInsert, mem_uuids_effect, mem_uuids_effect, inserted_withPending,
      removed_withPending]
    by_cases heq : other = uuid
    · simp [heq]
    · simp only [heq, if_false, false_or]
      rfl

theorem inserted_withRemove (uuid : Uuid) (seq : ℕ) (other : Uuid) :
    (g.withPending uuid { (g.pending.lookup uuid).getD {} with
      remove := some seq }).inserted other = g.inserted other := by
  rw [inserted_withPending]
  by_cases heq : other = uuid
  · subst heq
    rw [if_pos rfl]
    unfold inserted
    cases g.pending.lookup other <;> rfl
  · rw [if_neg heq]

theorem removed_withRemove (uuid : Uuid) (seq : ℕ) (other : Uuid) :
    (g.withPending uuid { (g.pending.lookup uuid).getD {} with
      remove := some seq }).removed other =
      (decide (other = uuid) || g.removed other) := by
  rw [removed_withPending]
  by_cases heq : other = uuid
  · simp [heq]
  · simp [heq]

theorem effect_withRemove (uuid : Uuid) (seq : ℕ) (view : SlotView) :
    (g.withPending uuid { (g.pending.lookup uuid).getD {} with remove := some seq }).effect view =
      (g.effect view).remove uuid := by
  ext1
  · classical
    rw [phase_effect]
    simp only [inserted_withRemove, removed_withRemove, remove]
    rw [phase_effect]
    have hsome : ∃ other, (decide (other = uuid) || g.removed other) = true := ⟨uuid, by simp⟩
    rw [if_pos hsome]
    have hstart : (g.withPending uuid { (g.pending.lookup uuid).getD {} with
        remove := some seq }).start view = g.start view := rfl
    rw [hstart]
    split
    · rfl
    · split
      · cases (g.start view).phase <;> rfl
      · rfl
  · apply Finmap.ext_lookup
    intro other
    simp only [remove, Contents.lookup_erase_if, lookup_effect,
      inserted_withRemove, removed_withRemove]
    by_cases heq : other = uuid
    · simp [heq]
    · simp only [heq, if_false, decide_false, Bool.false_or]
      rfl
  · ext other
    simp only [remove, Set.mem_sdiff, Set.mem_singleton_iff,
      mem_uuids_effect, inserted_withRemove, removed_withRemove]
    by_cases heq : other = uuid
    · simp [heq]
    · simp only [heq, decide_false, Bool.false_or, not_false_eq_true, and_true]
      rfl

/-- Only events that touch the pubkey state leave pending entries. -/
def Valid (g : Group) : Prop := g.touched = false → g.pending = ∅

end TrieStore.Group

/-! ## Batches on the abstract store -/

namespace TrieModel

def applyGroup (m : TrieModel) (entry : GroupKey × Group) : TrieModel where
  known := if entry.2.touched then Set.insert entry.1.1 m.known else m.known
  view := Function.update m.view entry.1 (entry.2.effect (m.view entry.1))

variable {entries : List (GroupKey × Group)} {key : GroupKey}

theorem view_foldl_applyGroup_of_absent (habs : ∀ entry ∈ entries, entry.1 ≠ key) (m : TrieModel) :
    (entries.foldl applyGroup m).view key = m.view key := by
  induction entries generalizing m with
  | nil => rfl
  | cons entry rest ih =>
    have hhead : key ≠ entry.1 := (habs entry List.mem_cons_self).symm
    have hrest := ih (fun other hmem =>
      habs other (List.mem_cons_of_mem entry hmem)) (m.applyGroup entry)
    refine hrest.trans ?_
    exact Function.update_of_ne hhead _ _

theorem view_foldl_applyGroup_of_mem {g : Group}
    (hnodup : (entries.map Prod.fst).Nodup) (hmem : (key, g) ∈ entries) (m : TrieModel) :
    (entries.foldl applyGroup m).view key = g.effect (m.view key) := by
  induction entries generalizing m with
  | nil => simp at hmem
  | cons entry rest ih =>
    rw [List.map_cons, List.nodup_cons] at hnodup
    rcases List.mem_cons.mp hmem with rfl | hrest
    · have habs : ∀ other ∈ rest, other.1 ≠ key := by
        intro other hother heq
        exact hnodup.1 (List.mem_map.mpr ⟨other, hother, heq⟩)
      refine (view_foldl_applyGroup_of_absent habs _).trans ?_
      exact Function.update_self _ _ _
    · have hne : key ≠ entry.1 := by
        intro heq
        exact hnodup.1 (List.mem_map.mpr ⟨(key, g), hrest, heq⟩)
      refine (ih hnodup.2 hrest (m.applyGroup entry)).trans ?_
      simp only [applyGroup, Function.update_of_ne hne]

theorem mem_known_foldl_applyGroup (entries : List (GroupKey × Group))
    (m : TrieModel) (pubkey : String) :
    pubkey ∈ (entries.foldl applyGroup m).known ↔
      pubkey ∈ m.known ∨ ∃ entry ∈ entries, entry.1.1 = pubkey ∧ entry.2.touched = true := by
  induction entries generalizing m with
  | nil => simp
  | cons entry rest ih =>
    rw [List.foldl_cons, ih, List.exists_mem_cons_iff]
    have hhead : pubkey ∈ (m.applyGroup entry).known ↔
        pubkey ∈ m.known ∨ entry.1.1 = pubkey ∧ entry.2.touched = true := by
      unfold applyGroup
      by_cases htouch : entry.2.touched = true
      · simp only [htouch, if_true, and_true]
        rw [mem_setInsert, eq_comm]
        tauto
      · simp [htouch]
    rw [hhead]
    tauto

def withGroups (m : TrieModel) (groups : HashMap GroupKey Group) : TrieModel where
  known := { pubkey | pubkey ∈ m.known ∨
    ∃ key g, groups.lookup key = some g ∧ key.1 = pubkey ∧ g.touched = true }
  view := fun key => (groupAt key groups).effect (m.view key)

variable (groups : HashMap GroupKey Group)

theorem mem_groupList_iff (key : GroupKey)
    (g : Group) : (key, g) ∈ groupList groups ↔ groups.lookup key = some g := by
  rw [← mem_entries_iff]
  simp only [groupList, List.mem_map]
  constructor
  · rintro ⟨⟨found, h⟩, hmem, heq⟩
    cases heq
    exact hmem
  · intro hmem
    exact ⟨⟨key, g⟩, hmem, rfl⟩

theorem nodup_groupList : ((groupList groups).map Prod.fst).Nodup := by
  have hkeys : (groupList groups).map Prod.fst = groups.keys := by
    simp [groupList, AList.keys, List.keys, Function.comp_def]
  rw [hkeys]
  exact groups.keys_nodup

theorem foldl_applyGroup_eq_withGroups {groups : HashMap GroupKey Group}
    (hperm : entries.Perm (groupList groups)) (m : TrieModel) :
    entries.foldl applyGroup m = m.withGroups groups := by
  have hmem : ∀ key g, (key, g) ∈ entries ↔ groups.lookup key = some g := by
    intro key g
    rw [hperm.mem_iff, mem_groupList_iff]
  have hnodup : (entries.map Prod.fst).Nodup :=
    (hperm.map Prod.fst).nodup_iff.mpr (nodup_groupList groups)
  ext1
  · ext pubkey
    rw [mem_known_foldl_applyGroup]
    apply or_congr_right
    constructor
    · rintro ⟨⟨key, g⟩, hentry, hpubkey, htouch⟩
      exact ⟨key, g, (hmem key g).mp hentry, hpubkey, htouch⟩
    · rintro ⟨key, g, hlook, hpubkey, htouch⟩
      exact ⟨(key, g), (hmem key g).mpr hlook, hpubkey, htouch⟩
  · funext key
    cases hlook : groups.lookup key with
    | some g =>
      rw [view_foldl_applyGroup_of_mem hnodup ((hmem key g).mpr hlook)]
      simp [withGroups, groupAt, hlook]
    | none =>
      rw [view_foldl_applyGroup_of_absent]
      · simp [withGroups, groupAt, hlook, Group.effect_default]
      · rintro ⟨other, g⟩ hentry rfl
        rw [hmem, hlook] at hentry
        cases hentry

theorem groupAt_insert (key other : GroupKey) (g : Group) :
    groupAt other (groups.insert key g) = if other = key then g else groupAt other groups := by
  simp only [groupAt, lookup_insert_if]
  split <;> rfl

theorem mem_known_withGroups_insert (m : TrieModel)
    (groups : HashMap GroupKey Group) (key : GroupKey) (g : Group)
    (htouch : (groupAt key groups).touched = true → g.touched = true) (pubkey : String) :
    pubkey ∈ (m.withGroups (groups.insert key g)).known ↔
      pubkey ∈ (m.withGroups groups).known ∨ key.1 = pubkey ∧ g.touched = true := by
  simp only [withGroups, Set.mem_ofPred_eq, lookup_insert_if]
  constructor
  · rintro (hknown | ⟨other, found, hlook, hpubkey, hfound⟩)
    · exact Or.inl (Or.inl hknown)
    · by_cases heq : other = key
      · subst heq
        rw [if_pos rfl] at hlook
        cases hlook
        exact Or.inr ⟨hpubkey, hfound⟩
      · rw [if_neg heq] at hlook
        exact Or.inl (Or.inr ⟨other, found, hlook, hpubkey, hfound⟩)
  · rintro ((hknown | ⟨other, found, hlook, hpubkey, hfound⟩) | hnew)
    · exact Or.inl hknown
    · right
      by_cases heq : other = key
      · subst heq
        have hg : g.touched = true := by
          apply htouch
          simpa [groupAt, hlook] using hfound
        exact ⟨other, g, if_pos rfl, hpubkey, hg⟩
      · exact ⟨other, found, (if_neg heq).trans hlook, hpubkey, hfound⟩
    · exact Or.inr ⟨key, g, if_pos rfl, hnew⟩

theorem withGroups_insert (m : TrieModel) (groups : HashMap GroupKey Group) (key : GroupKey)
    (g : Group) (htouch : (groupAt key groups).touched = true → g.touched = true) :
    m.withGroups (groups.insert key g) =
      { known :=
          if g.touched then Set.insert key.1 (m.withGroups groups).known
          else (m.withGroups groups).known
        view := Function.update (m.withGroups groups).view key (g.effect (m.view key)) } := by
  ext1
  · ext pubkey
    rw [mem_known_withGroups_insert m groups key g htouch]
    by_cases hg : g.touched = true
    · simp only [hg, if_true, and_true]
      rw [mem_setInsert, eq_comm]
      tauto
    · simp [hg]
  · funext other
    by_cases heq : other = key
    · subst heq
      simp [withGroups, groupAt_insert]
    · simp [withGroups, groupAt_insert, heq]

theorem groupAt_retain_ne (pubkey : String) (key : GroupKey) :
    groupAt key (retain (fun key _ => key.1 ≠ pubkey) groups) =
      if key.1 = pubkey then {} else groupAt key groups := by
  unfold groupAt
  rw [lookup_retain]
  by_cases hkey : key.1 = pubkey
  · cases groups.lookup key <;> simp [hkey, Option.filter]
  · cases groups.lookup key <;> simp [hkey, Option.filter]

theorem withGroups_removePubkey (base : TrieModel) (groups : HashMap GroupKey Group)
    {pubkey : String} {due : List (GroupKey × Group)} (hdue : ∀ entry ∈ due, entry.1.1 = pubkey) :
    ((due.foldl applyGroup base).apply (.removePubkey pubkey)).withGroups
        (retain (fun key _ => key.1 ≠ pubkey) groups) =
      (base.withGroups groups).apply (.removePubkey pubkey) := by
  ext1
  · ext other
    simp only [withGroups, TrieModel.apply, Set.mem_ofPred_eq, Set.mem_sdiff,
      Set.mem_singleton_iff, mem_known_foldl_applyGroup,
      lookup_retain, Option.filter_eq_some_iff]
    constructor
    · rintro (⟨hknown | ⟨entry, hmem, hentry, -⟩, hother⟩ | ⟨key, g, ⟨hlook, hkept⟩, hkey, htouch⟩)
      · exact ⟨Or.inl hknown, hother⟩
      · exact absurd (hentry.symm.trans (hdue entry hmem)) hother
      · have hother : other ≠ pubkey := by
          rw [← hkey]
          simpa using hkept
        exact ⟨Or.inr ⟨key, g, hlook, hkey, htouch⟩, hother⟩
    · rintro ⟨hknown | ⟨key, g, hlook, hkey, htouch⟩, hother⟩
      · exact Or.inl ⟨Or.inl hknown, hother⟩
      · have hkept : key.1 ≠ pubkey := by
          rw [hkey]
          exact hother
        exact Or.inr ⟨key, g, ⟨hlook, by simpa using hkept⟩, hkey, htouch⟩
  · funext key
    simp only [withGroups, TrieModel.apply, groupAt_retain_ne]
    by_cases hkey : key.1 = pubkey
    · simp only [hkey, if_true, Group.effect_default]
    · have hview : (due.foldl applyGroup base).view key = base.view key := by
        apply view_foldl_applyGroup_of_absent
        intro entry hmem heq
        exact hkey (heq ▸ hdue entry hmem)
      simp only [hkey, if_false, hview]

end TrieModel

end KdfProtocol
