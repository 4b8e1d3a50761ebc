import KdfProtocol.OrderbookIndexAgreement
import KdfProtocol.TrieStoreRefinement

/-!
# Batches of trie events

A grouped batch keeps the refinement: the store together with the pending
groups stands for the abstract store after the events so far.  A batch and
its events one at a time therefore end with the same pubkeys, root entries
and uuids.
-/

namespace KdfProtocol

open TrieStore Group TrieModel

namespace TrieStore

section Batches

variable {Root Db : Type} [DecidableEq Root] {lib : TrieLib Root Db Uuid OrderbookP2PItem}
  {rootOf : PairContents → Root} {Holds : Db → (GroupKey → PairContents) → Prop}

/-! ## Groups -/

variable {store : TrieStore Root Db} {m base : TrieModel} {s : BatchState Root Db}
  {iter : GroupIter}

section

variable (hrefines : Refines lib rootOf Holds store m)

include hrefines

omit [DecidableEq Root] in
theorem Refines.touch (nowSecs : ℕ) (pubkey : String) :
    Refines lib rootOf Holds { store with
        pubkeysState := store.pubkeysState.insert pubkey
          (pubkeyStateMut nowSecs pubkey store.pubkeysState) }
      { m with known := Set.insert pubkey m.known } where
  known := by
    intro other
    rw [mem_setInsert, hrefines.known, AList.mem_insert]
  roots := by
    rintro ⟨owner, pair⟩
    rw [← hrefines.roots]
    simp only [rootAt, rootIn, HashMap.lookup_insert_if]
    by_cases heq : owner = pubkey
    · subst heq
      rw [if_pos rfl]
      exact rootIn_pubkeyStateMut nowSecs owner pair store.pubkeysState
    · rw [if_neg heq]
  uuids := by
    rintro ⟨owner, pair⟩ uuid
    rw [← hrefines.uuids]
    simp only [HasUuid, HasUuidIn, HashMap.lookup_insert_if]
    by_cases heq : owner = pubkey
    · subst heq
      simp only [if_true, Option.some.injEq, exists_eq_left']
      exact mem_ordersUuids_pubkeyStateMut nowSecs owner pair uuid store.pubkeysState
    · simp [heq]
  hollow := hrefines.hollow
  holds := hrefines.holds

omit [DecidableEq Root] in
theorem Refines.foldl_view {α : Type} {key : GroupKey}
    {applyStore : TrieStore Root Db → α → TrieStore Root Db} (applyView : SlotView → α → SlotView)
    (hstep : ∀ store m entry, Refines lib rootOf Holds store m →
      Refines lib rootOf Holds (applyStore store entry)
        { known := Set.insert key.1 m.known
          view := Function.update m.view key (applyView (m.view key) entry) })
    (entries : List α) (hknown : entries ≠ [] → key.1 ∈ m.known) :
    Refines lib rootOf Holds (entries.foldl applyStore store)
      { m with view := Function.update m.view key (entries.foldl applyView (m.view key)) } := by
  induction entries generalizing store m with
  | nil =>
    rw [List.foldl_nil, List.foldl_nil, Function.update_eq_self]
    exact hrefines
  | cons entry rest ih =>
    have hrest := ih (hstep store m entry hrefines) (fun _ => Or.inl rfl)
    have hset : Set.insert key.1 m.known = m.known := Set.insert_eq_of_mem (hknown (by simp))
    simp only [hset, Function.update_self, Function.update_idem] at hrest
    exact hrest

variable (hlib : lib.Lawful rootOf Holds)

include hlib

theorem Refines.applyGroup (clock : BatchClock) (seqNow : ℕ)
    (key : GroupKey) {g : Group} (hvalid : g.Valid) :
    Refines lib rootOf Holds (applyGroup lib clock seqNow store (key, g))
      (m.applyGroup (key, g)) := by
  let touchedStore : TrieStore Root Db :=
    if g.touched then
      { store with
        pubkeysState := store.pubkeysState.insert key.1
          (pubkeyStateMut (clock seqNow key).createdSecs key.1 store.pubkeysState) }
    else store
  let touched : TrieModel :=
    { m with known := if g.touched then Set.insert key.1 m.known else m.known }
  have htouch : Refines lib rootOf Holds touchedStore touched := by
    by_cases hg : g.touched = true
    · simpa [touchedStore, touched, hg] using hrefines.touch (clock seqNow key).createdSecs key.1
    · simpa [touchedStore, touched, hg] using hrefines
  have hcleared : Refines lib rootOf Holds (if g.clear then
        TrieStore.applyClearPair lib (clock seqNow key).pairHistory key.1 key.2 touchedStore
      else touchedStore)
      { touched with
        view := Function.update m.view key (g.start (m.view key)) } := by
    by_cases hclear : g.clear = true
    · simpa [hclear, start, apply, touched] using
        htouch.applyClearPair hlib (clock seqNow key).pairHistory key.1 key.2
    · simpa [hclear, start, touched] using htouch
  have hknown : g.pending ≠ ∅ → key.1 ∈ touched.known := by
    intro hpend
    have hg : g.touched = true := by
      by_contra hnot
      exact hpend (hvalid (by simpa using hnot))
    simp only [touched, hg, if_true]
    exact Or.inl rfl
  have hinserts := hcleared.foldl_view (fun view entry => view.insert entry.2.1 entry.2.2.trieState)
    (fun store m entry href => href.applyInsert hlib (clock entry.1 key) key.1 key.2 entry.2.1
      entry.2.2) g.inserts
    (fun hne => hknown fun hempty => hne (by simp [inserts, hempty]))
  have hremoves := hinserts.foldl_view (fun view entry => view.remove entry.2)
    (fun store m entry href => href.applyRemove hlib (clock entry.1 key) key.1 key.2 entry.2)
    g.removes (fun hne => hknown fun hempty => hne (by simp [removes, hempty]))
  simp only [Function.update_self, Function.update_idem] at hremoves
  exact hremoves

theorem Refines.foldl_applyGroup (clock : BatchClock) (seqNow : ℕ)
    {entries : List (GroupKey × Group)} (hvalid : ∀ entry ∈ entries, entry.2.Valid) :
    Refines lib rootOf Holds (entries.foldl (TrieStore.applyGroup lib clock seqNow) store)
      (entries.foldl TrieModel.applyGroup m) := by
  induction entries generalizing store m with
  | nil => exact hrefines
  | cons entry rest ih =>
    obtain ⟨key, g⟩ := entry
    have hstep := hrefines.applyGroup hlib clock seqNow key (hvalid (key, g) List.mem_cons_self)
    exact ih hstep fun other hmem => hvalid other (List.mem_cons_of_mem _ hmem)

end

/-! ## Batches -/

variable (lib rootOf Holds) in
/-- The loop over a batch: the store with the pending groups stands for the
abstract store after the events so far. -/
structure BatchRefines (s : BatchState Root Db) (base m : TrieModel) : Prop where
  store : Refines lib rootOf Holds s.store base
  valid : ∀ key g, s.groups.lookup key = some g → g.Valid
  pending : base.withGroups s.groups = m

section

variable (hbatch : BatchRefines lib rootOf Holds s base m)

include hbatch

omit [DecidableEq Root] in
theorem BatchRefines.insertGroup (key : GroupKey) (seq : ℕ) {g : Group} (hvalid : g.Valid)
    (htouch : (groupAt key s.groups).touched = true → g.touched = true) :
    BatchRefines lib rootOf Holds { s with seq, groups := s.groups.insert key g } base
      { known := if g.touched then Set.insert key.1 m.known else m.known
        view := Function.update m.view key (g.effect (base.view key)) } where
  store := hbatch.store
  valid := by
    intro other found hlook
    rw [HashMap.lookup_insert_if] at hlook
    split at hlook
    · cases hlook
      exact hvalid
    · exact hbatch.valid other found hlook
  pending := by
    rw [withGroups_insert base s.groups key g htouch, hbatch.pending]

omit [DecidableEq Root] in
theorem BatchRefines.view_eq (key : GroupKey) :
    m.view key = (groupAt key s.groups).effect (base.view key) := by
  rw [← hbatch.pending]
  rfl

omit [DecidableEq Root] in
theorem BatchRefines.known_of_touched
    {key : GroupKey} (htouch : (groupAt key s.groups).touched = true) : key.1 ∈ m.known := by
  rw [← hbatch.pending]
  right
  unfold groupAt at htouch
  cases hlook : s.groups.lookup key with
  | none =>
    rw [hlook] at htouch
    cases htouch
  | some g =>
    rw [hlook] at htouch
    exact ⟨key, g, hlook, rfl, htouch⟩

variable (hlib : lib.Lawful rootOf Holds)

include hlib

variable (hiter : ∀ entries, (iter entries).Perm entries)

include hiter

theorem BatchRefines.removePubkey (clock : BatchClock) (pubkey : String) :
    ∃ base', BatchRefines lib rootOf Holds (batchStep lib iter clock s (.removePubkey pubkey)) base'
      (m.apply (.removePubkey pubkey)) := by
  let due := (iter (groupList s.groups)).filter fun entry =>
    entry.1.1 = pubkey
  have hdue : ∀ entry ∈ due, entry.1.1 = pubkey ∧ s.groups.lookup entry.1 = some entry.2 := by
    rintro ⟨key, g⟩ hmem
    rw [List.mem_filter, (hiter _).mem_iff, mem_groupList_iff] at hmem
    exact ⟨by simpa using hmem.2, hmem.1⟩
  have hgroups := hbatch.store.foldl_applyGroup hlib clock (s.seq + 1)
    (fun entry hmem => hbatch.valid entry.1 entry.2 (hdue entry hmem).2)
  have hpend := withGroups_removePubkey base s.groups fun entry hmem => (hdue entry hmem).1
  rw [hbatch.pending] at hpend
  refine ⟨_, hgroups.applyRemovePubkey hlib pubkey, ?_, hpend⟩
  intro key g hlook
  simp only [batchStep] at hlook
  rw [HashMap.lookup_retain, Option.filter_eq_some_iff] at hlook
  exact hbatch.valid key g hlook.1

theorem BatchRefines.batchStep (clock : BatchClock) (op : TrieOp) :
    ∃ base', BatchRefines lib rootOf Holds (batchStep lib iter clock s op) base' (m.apply op) := by
  cases op with
  | clearPair pubkey pair =>
    refine ⟨base, ?_⟩
    let g := groupAt (pubkey, pair) s.groups
    have hins := hbatch.insertGroup (pubkey, pair) (s.seq + 1)
      (g := { g with clear := true, pending := ∅ }) (fun _ => rfl) id
    have hknown : (if g.touched then Set.insert pubkey m.known
        else m.known) = m.known := by
      by_cases htouch : g.touched = true
      · rw [if_pos htouch]
        exact Set.insert_eq_of_mem (hbatch.known_of_touched htouch)
      · rw [if_neg htouch]
    simp only [effect_cleared, hknown] at hins
    exact hins
  | insert pubkey pair uuid order =>
    refine ⟨base, ?_⟩
    let g := groupAt (pubkey, pair) s.groups
    have hins := hbatch.insertGroup (pubkey, pair) (s.seq + 1)
      (g := g.withPending uuid { insert := some (s.seq + 1, order), remove := none })
      (fun hnot => by cases hnot) (fun _ => rfl)
    rw [effect_withInsert, ← hbatch.view_eq] at hins
    exact hins
  | remove pubkey pair uuid =>
    refine ⟨base, ?_⟩
    let g := groupAt (pubkey, pair) s.groups
    have hins := hbatch.insertGroup (pubkey, pair) (s.seq + 1)
      (g := g.withPending uuid { (g.pending.lookup uuid).getD {} with remove := some (s.seq + 1) })
      (fun hnot => by cases hnot) (fun _ => rfl)
    rw [effect_withRemove, ← hbatch.view_eq] at hins
    exact hins
  | removePubkey pubkey => exact hbatch.removePubkey hlib hiter clock pubkey

theorem BatchRefines.foldl_batchStep (clock : BatchClock) (ops : List TrieOp) :
    ∃ base', BatchRefines lib rootOf Holds (ops.foldl (TrieStore.batchStep lib iter clock) s) base'
      (ops.foldl apply m) := by
  induction ops generalizing s base m with
  | nil => exact ⟨base, hbatch⟩
  | cons op rest ih =>
    obtain ⟨base', hstep⟩ := hbatch.batchStep hlib hiter clock op
    exact ih hstep

end

theorem Refines.applyOps (hlib : lib.Lawful rootOf Holds)
    (hiter : ∀ entries, (iter entries).Perm entries)
    (hrefines : Refines lib rootOf Holds store m) (clock : BatchClock) (ops : List TrieOp) :
    Refines lib rootOf Holds (applyOps lib iter clock ops store) (ops.foldl apply m) := by
  have hstart : BatchRefines lib rootOf Holds { store, groups := ∅, seq := 0 } m m := by
    refine ⟨hrefines, ?_, ?_⟩
    · intro key g hlook
      simp at hlook
    · ext1
      · ext pubkey
        simp [withGroups]
      · funext key
        exact effect_default (m.view key)
  obtain ⟨base, hbatch⟩ := hstart.foldl_batchStep hlib hiter clock ops
  rw [← hbatch.pending, ← foldl_applyGroup_eq_withGroups (hiter (groupList _))]
  apply hbatch.store.foldl_applyGroup hlib
  intro entry hmem
  rw [(hiter _).mem_iff] at hmem
  exact hbatch.valid entry.1 entry.2 ((mem_groupList_iff _ _ _).mp hmem)

/-! ## A batch and its events one at a time -/

omit [DecidableEq Root] in
variable (lib rootOf Holds) in
/-- The stored roots resolve: the node store holds, for every entry, the trie
with that root, and the zero root stands for no trie. -/
def RootsResolve (store : TrieStore Root Db) : Prop :=
  ∃ contents : GroupKey → PairContents,
    (∀ key root, store.rootAt key = some root → root ≠ lib.zeroRoot →
      root = rootOf (contents key)) ∧
    (∀ key, (∀ root, store.rootAt key = some root → root = lib.zeroRoot) → contents key = ∅) ∧
    Holds store.memoryDb contents

variable (lib) in
def rootPhase (root : Option Root) : RootPhase :=
  root.elim .absent fun root => if root = lib.zeroRoot then .placeholder else .trie

theorem RootsResolve.exists_refines (hresolve : RootsResolve lib rootOf Holds store) :
    ∃ m, Refines lib rootOf Holds store m := by
  obtain ⟨contents, hstore, hzero, hholds⟩ := hresolve
  refine ⟨{
    known := { pubkey | pubkey ∈ store.pubkeysState }
    view := fun key =>
      ⟨rootPhase lib (store.rootAt key), contents key, { uuid | store.HasUuid key uuid }⟩ },
    ?_, ?_, ?_, ?_, hholds⟩
  · intro pubkey
    rfl
  · intro key
    simp only [SlotView.root]
    cases hroot : store.rootAt key with
    | none => rfl
    | some root =>
      by_cases heq : root = lib.zeroRoot
      · simp [rootPhase, heq]
      · simpa [rootPhase, heq] using hstore key root hroot heq
  · intro key uuid
    rfl
  · intro key hphase
    apply hzero key
    intro root hroot
    by_contra hne
    apply hphase
    simp [rootPhase, hroot, hne]

omit [DecidableEq Root] in
structure SameRecords (first second : TrieStore Root Db) : Prop where
  pubkeys : ∀ pubkey, pubkey ∈ first.pubkeysState ↔ pubkey ∈ second.pubkeysState
  roots : ∀ key, first.rootAt key = second.rootAt key
  uuids : ∀ key uuid, first.HasUuid key uuid ↔ second.HasUuid key uuid

omit [DecidableEq Root] in
theorem Refines.of_sameRecords {next : TrieStore Root Db}
    (hrefines : Refines lib rootOf Holds store m) (hsame : SameRecords store next)
    (hholds : Holds next.memoryDb fun key => (m.view key).contents) :
    Refines lib rootOf Holds next m where
  known := by
    intro pubkey
    rw [hrefines.known, hsame.pubkeys]
  roots := by
    intro key
    rw [← hsame.roots, hrefines.roots]
  uuids := by
    intro key uuid
    rw [← hsame.uuids, hrefines.uuids]
  hollow := hrefines.hollow
  holds := hholds

omit [DecidableEq Root] in
theorem Refines.sameRecords {first second : TrieStore Root Db}
    (hfirst : Refines lib rootOf Holds first m) (hsnd : Refines lib rootOf Holds second m) :
    SameRecords first second where
  pubkeys := by
    intro pubkey
    rw [← hfirst.known, hsnd.known]
  roots := by
    intro key
    rw [hfirst.roots, hsnd.roots]
  uuids := by
    intro key uuid
    rw [hfirst.uuids, hsnd.uuids]

/-- The events of a batch, each applied as a batch of its own with its own
iteration orders and clock readings. -/
def applyOneAtATime (lib : TrieLib Root Db Uuid OrderbookP2PItem)
    (iter : GroupIter) (store : TrieStore Root Db) :
    List (BatchClock × TrieOp) → TrieStore Root Db
  | [] => store
  | (clock, op) :: rest => applyOneAtATime lib iter (applyOps lib iter clock [op] store) rest

theorem Refines.applyOneAtATime (hlib : lib.Lawful rootOf Holds)
    (hiter : ∀ entries, (iter entries).Perm entries)
    (hrefines : Refines lib rootOf Holds store m) (ops : List (BatchClock × TrieOp)) :
    Refines lib rootOf Holds (applyOneAtATime lib iter store ops)
      ((ops.map Prod.snd).foldl apply m) := by
  induction ops generalizing store m with
  | nil => exact hrefines
  | cons entry rest ih =>
    obtain ⟨clock, op⟩ := entry
    exact ih (hrefines.applyOps hlib hiter clock [op])

/-- Applying a sequence of events as one batch ends with the same records as
applying them one at a time in order, whatever the iteration orders of the
group tables and the clocks. -/
theorem applyOps_sameRecords_oneAtATime (hlib : lib.Lawful rootOf Holds) {iter iter' : GroupIter}
    (hiter : ∀ entries, (iter entries).Perm entries)
    (hiter' : ∀ entries, (iter' entries).Perm entries) (store : TrieStore Root Db)
    (hresolve : RootsResolve lib rootOf Holds store)
    (clock : BatchClock) (ops : List (BatchClock × TrieOp)) :
    SameRecords (applyOps lib iter clock (ops.map Prod.snd) store)
      (TrieStore.applyOneAtATime lib iter' store ops) := by
  obtain ⟨m, hrefines⟩ := hresolve.exists_refines
  have hbatch := hrefines.applyOps hlib hiter clock (ops.map Prod.snd)
  have hsingle := hrefines.applyOneAtATime hlib hiter' ops
  exact hbatch.sameRecords hsingle

omit [DecidableEq Root] in
theorem rootsResolve_new {db : Db} (hholds : Holds db fun _ => ∅) (livenessOn : Bool) :
    RootsResolve lib rootOf Holds (new livenessOn db) := by
  refine ⟨fun _ => ∅, ?_, fun _ _ => rfl, hholds⟩
  intro key root hroot
  simp [rootAt, rootIn, new] at hroot

end Batches

/-! ## A concrete library -/

def orderTrie : TrieLib (Option PairContents) (Multiset PairContents) Uuid
    OrderbookP2PItem :=
  contentsTrie fun keys => keys.sort (· ≤ ·)

theorem orderTrie_lawful : orderTrie.Lawful (ι := GroupKey) some contentsTrieHolds :=
  contentsTrie_lawful fun _ _ => Finset.mem_sort _

def twoInsertsOneRemove : List (BatchClock × TrieOp) :=
  let clock : BatchClock := fun _ _ => ⟨0, 0, 0, fun _ => 0⟩
  let first := Orderbook.movedOrder "BTC"
  [(clock, .insert "02aa" "BTC:KMD" 1 first),
    (clock, .insert "02aa" "BTC:KMD" 2 { first with uuid := 2 }),
    (clock, .remove "02aa" "BTC:KMD" 1),
    (clock, .clearPair "02aa" "KMD:LTC")]

theorem emptyOrderTrie_resolves : RootsResolve orderTrie some contentsTrieHolds (new true 0) :=
  rootsResolve_new ⟨∅, fun _ _ => rfl, by simp⟩ true

/-- The batch leaves the trie of the second order alone. -/
theorem applyOps_sameRecords_twoInserts :
    SameRecords
        (applyOps orderTrie id (fun _ _ => ⟨0, 0, 0, fun _ => 0⟩)
          (twoInsertsOneRemove.map Prod.snd) (TrieStore.new true 0))
        (TrieStore.applyOneAtATime orderTrie List.reverse
          (TrieStore.new true 0) twoInsertsOneRemove) ∧
      (applyOps orderTrie id (fun _ _ => ⟨0, 0, 0, fun _ => 0⟩)
          (twoInsertsOneRemove.map Prod.snd) (TrieStore.new true 0)).rootAt
        ("02aa", "BTC:KMD") =
      some (some (Finmap.singleton 2
        ({ Orderbook.movedOrder "BTC" with
          uuid := 2 } : OrderbookItem).trieState)) :=
  ⟨applyOps_sameRecords_oneAtATime orderTrie_lawful
      (fun _ => List.Perm.refl _) (fun entries => entries.reverse_perm)
      (new true 0) emptyOrderTrie_resolves _ twoInsertsOneRemove,
    by decide +kernel⟩

end TrieStore

end KdfProtocol
