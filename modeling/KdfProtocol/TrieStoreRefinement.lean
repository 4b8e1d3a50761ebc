import KdfProtocol.TrieModel

/-!
# The trie store refines the abstract store

`Refines` relates a store whose roots resolve in its node store to the
abstract store of their contents.  Every single event keeps the relation.
-/

namespace KdfProtocol

open SlotView HashMap TrieStore TrieModel

namespace TrieStore

section Refinement

variable {Root Db : Type}

/-! ## Reading a store -/

def rootIn (states : HashMap String (OrderbookPubkeyState Root)) (key : GroupKey) : Option Root :=
  (states.lookup key.1).bind fun state => state.trieRoots.lookup key.2

def HasUuidIn (states : HashMap String (OrderbookPubkeyState Root))
    (key : GroupKey) (uuid : Uuid) : Prop :=
  ∃ state, states.lookup key.1 = some state ∧ (uuid, key.2) ∈ state.ordersUuids

def rootAt (store : TrieStore Root Db) (key : GroupKey) : Option Root :=
  rootIn store.pubkeysState key

def HasUuid (store : TrieStore Root Db) (key : GroupKey) (uuid : Uuid) : Prop :=
  HasUuidIn store.pubkeysState key uuid

theorem rootIn_pubkeyStateMut (nowSecs : ℕ) (pubkey pair : String)
    (states : HashMap String (OrderbookPubkeyState Root)) :
    (pubkeyStateMut nowSecs pubkey states).trieRoots.lookup pair =
      rootIn states (pubkey, pair) := by
  unfold pubkeyStateMut rootIn
  cases states.lookup pubkey with
  | none | some state => rfl

theorem mem_ordersUuids_pubkeyStateMut (nowSecs : ℕ) (pubkey pair : String)
    (uuid : Uuid) (states : HashMap String (OrderbookPubkeyState Root)) :
    (uuid, pair) ∈ (pubkeyStateMut nowSecs pubkey states).ordersUuids ↔
      HasUuidIn states (pubkey, pair) uuid := by
  unfold pubkeyStateMut HasUuidIn
  cases hstate : states.lookup pubkey with
  | none =>
    simp [OrderbookPubkeyState.withHistoryTimeout]
  | some state => simp

end Refinement

end TrieStore

/-! ## The relation -/

namespace SlotView

variable {Root Db : Type} (lib : TrieLib Root Db Uuid OrderbookP2PItem)
  (rootOf : PairContents → Root)

def root (view : SlotView) : Option Root :=
  match view.phase with
  | .absent => none
  | .placeholder => some lib.zeroRoot
  | .trie => some (rootOf view.contents)

variable {lib rootOf}

theorem root_eq_some {view : SlotView} {root : Root} (hroot : view.root lib rootOf = some root) :
    root = lib.zeroRoot ∨ root = rootOf view.contents := by
  unfold SlotView.root at hroot
  split at hroot
  · cases hroot
  · left
    exact (Option.some.inj hroot).symm
  · right
    exact (Option.some.inj hroot).symm

theorem getD_root_of_hollow {view : SlotView} (hphase : view.phase ≠ .trie) :
    (view.root lib rootOf).getD lib.zeroRoot = lib.zeroRoot := by
  unfold root
  split
  · rfl
  · rfl
  next htrie => exact absurd htrie hphase

end SlotView

namespace TrieStore

section Refinement

variable {Root Db : Type} (lib : TrieLib Root Db Uuid OrderbookP2PItem)
  (rootOf : PairContents → Root) (Holds : Db → (GroupKey → PairContents) → Prop)

structure Refines (store : TrieStore Root Db) (m : TrieModel) : Prop where
  known : ∀ pubkey, pubkey ∈ m.known ↔ pubkey ∈ store.pubkeysState
  roots : ∀ key, store.rootAt key = (m.view key).root lib rootOf
  uuids : ∀ key uuid, store.HasUuid key uuid ↔ uuid ∈ (m.view key).uuids
  hollow : ∀ key, (m.view key).phase ≠ .trie → (m.view key).contents = ∅
  holds : Holds store.memoryDb fun key => (m.view key).contents

variable {lib rootOf Holds}

variable {store : TrieStore Root Db} {m : TrieModel} {pubkey pair : String}
  {state : OrderbookPubkeyState Root} {root : Root} {db : Db} {clock : OpClock} {uuid : Uuid}

variable {f : GroupKey → PairContents} {next : TrieStore Root Db} {oldState : Root}

theorem Refines.write (href : Refines lib rootOf Holds store m) {view : SlotView}
    (hstates : ∀ other, next.pubkeysState.lookup other =
      if other = pubkey then some state else store.pubkeysState.lookup other)
    (hroot : state.trieRoots.lookup pair = view.root lib rootOf)
    (hroots : ∀ other, other ≠ pair → state.trieRoots.lookup other = store.rootAt (pubkey, other))
    (huuids : ∀ uuid, (uuid, pair) ∈ state.ordersUuids ↔ uuid ∈ view.uuids)
    (hothers : ∀ uuid other, other ≠ pair →
      ((uuid, other) ∈ state.ordersUuids ↔ store.HasUuid (pubkey, other) uuid))
    (hhollow : view.phase ≠ .trie → view.contents = ∅) (hholds : Holds next.memoryDb
      (Function.update (fun key => (m.view key).contents) (pubkey, pair) view.contents)) :
    Refines lib rootOf Holds next
      { known := Set.insert pubkey m.known
        view := Function.update m.view (pubkey, pair) view } where
  known := by
    intro other
    rw [mem_setInsert, href.known, mem_iff_lookup, mem_iff_lookup, hstates]
    by_cases heq : other = pubkey
    · simp [heq]
    · simp [heq]
  roots := by
    rintro ⟨other, otherPair⟩
    simp only [rootAt, rootIn, hstates]
    by_cases heq : other = pubkey
    · subst heq
      rw [if_pos rfl]
      by_cases hpair : otherPair = pair
      · subst hpair
        simpa using hroot
      · have hkey : (other, otherPair) ≠ (other, pair) := by simp [hpair]
        rw [Function.update_of_ne hkey, ← href.roots]
        exact hroots otherPair hpair
    · have hkey : (other, otherPair) ≠ (pubkey, pair) := by simp [heq]
      rw [if_neg heq, Function.update_of_ne hkey, ← href.roots]
      rfl
  uuids := by
    rintro ⟨other, otherPair⟩ uuid
    simp only [HasUuid, HasUuidIn, hstates]
    by_cases heq : other = pubkey
    · subst heq
      simp only [if_true, Option.some.injEq, exists_eq_left']
      by_cases hpair : otherPair = pair
      · subst hpair
        simpa using huuids uuid
      · have hkey : (other, otherPair) ≠ (other, pair) := by simp [hpair]
        rw [Function.update_of_ne hkey, ← href.uuids]
        exact hothers uuid otherPair hpair
    · have hkey : (other, otherPair) ≠ (pubkey, pair) := by simp [heq]
      rw [Function.update_of_ne hkey, ← href.uuids]
      simp only [heq, if_false]
      rfl
  hollow := by
    intro key
    by_cases heq : key = (pubkey, pair)
    · subst heq
      simpa using hhollow
    · simpa [heq] using href.hollow key
  holds := by
    have hcontents : (fun key => (Function.update m.view (pubkey, pair) view key).contents) =
          Function.update (fun key => (m.view key).contents) (pubkey, pair) view.contents := by
      funext key
      by_cases heq : key = (pubkey, pair)
      · subst heq
        simp
      · simp [heq]
    simpa [hcontents] using hholds

theorem Refines.view_eq_empty (href : Refines lib rootOf Holds store m)
    (hunknown : store.pubkeysState.lookup pubkey = none) (pair : String) :
    m.view (pubkey, pair) = .empty := by
  have hroot := href.roots (pubkey, pair)
  simp only [rootAt, rootIn, hunknown, Option.bind_none] at hroot
  have hphase : (m.view (pubkey, pair)).phase = .absent := by
    unfold root at hroot
    split at hroot
    next habs => exact habs
    · cases hroot
    · cases hroot
  ext1
  · exact hphase
  · apply href.hollow
    rw [hphase]
    decide
  · ext uuid
    rw [← href.uuids]
    simp [HasUuid, HasUuidIn, hunknown, empty]

variable [DecidableEq Root]

omit [DecidableEq Root] in
theorem getD_root_pubkeyStateMut (clock : OpClock) (pubkey pair : String)
    (store : TrieStore Root Db) (hroot : root = (store.rootAt (pubkey, pair)).getD lib.zeroRoot) :
    ((pubkeyStateMut clock.createdSecs pubkey
      store.pubkeysState).trieRoots.lookup pair).getD lib.zeroRoot = root := by
  rw [rootIn_pubkeyStateMut, hroot]
  rfl

/-! ## Insertions -/

theorem applyInsert_spec (clock : OpClock) (pubkey pair : String) (uuid : Uuid)
    (order : OrderbookItem) (store : TrieStore Root Db) {prevRoot : Root}
    (hprev : prevRoot = (store.rootAt (pubkey, pair)).getD lib.zeroRoot)
    (hins : lib.insert store.memoryDb (getTrieMut lib prevRoot) uuid
      order.trieState = some (root, db)) :
    (applyInsert lib clock pubkey pair uuid order store).memoryDb = db ∧ ∀ other,
        (applyInsert lib clock pubkey pair uuid order store).pubkeysState.lookup other =
          if other = pubkey then
            let state :=
              pubkeyStateMut clock.createdSecs pubkey store.pubkeysState
            some { state with
                trieRoots := state.trieRoots.insert pair root
                ordersUuids := state.ordersUuids.insert (uuid, pair) ()
                orderPairsTrieStateHistory :=
                  if prevRoot ≠ lib.zeroRoot then
                    (recordDiff clock pair prevRoot ⟨[(uuid, some order)], root⟩
                      state.orderPairsTrieStateHistory).2
                  else state.orderPairsTrieStateHistory }
          else store.pubkeysState.lookup other := by
  have hroot := getD_root_pubkeyStateMut clock pubkey pair store hprev
  simp only [applyInsert, hroot, hins]
  refine ⟨trivial, ?_⟩
  intro other
  simp only [lookup_insert_if]
  by_cases heq : other = pubkey
  · simp only [heq, if_true]
    by_cases hzero : prevRoot = lib.zeroRoot
    · simp [hzero, AList.insert_insert]
    · simp [hzero, AList.insert_insert]
  · simp [heq]

theorem Refines.insert_resolves (hlib : lib.Lawful rootOf Holds)
    (href : Refines lib rootOf Holds store m) (key : GroupKey) (uuid : Uuid)
    (leaf : OrderbookP2PItem) :
    ∃ db, lib.insert store.memoryDb
        (getTrieMut lib ((store.rootAt key).getD lib.zeroRoot)) uuid leaf =
        some (rootOf ((m.view key).contents.insert uuid leaf), db) ∧
      Holds db (Function.update (fun key => (m.view key).contents) key
        ((m.view key).contents.insert uuid leaf)) := by
  rw [href.roots]
  by_cases hphase : (m.view key).phase = .trie
  · have htrie : getTrieMut lib (((m.view key).root lib rootOf).getD lib.zeroRoot) =
        some (rootOf (m.view key).contents) := by
      simp [root, hphase, getTrieMut, hlib.rootOf_ne_zero]
    rw [htrie]
    exact hlib.insert_existing _ _ key uuid leaf href.holds
  · have hzero : getTrieMut lib lib.zeroRoot = none := by simp [getTrieMut]
    have hempty := href.hollow key hphase
    rw [getD_root_of_hollow hphase, hzero, hempty]
    exact hlib.insert_new _ _ key uuid leaf href.holds hempty

theorem Refines.applyInsert (hlib : lib.Lawful rootOf Holds)
    (href : Refines lib rootOf Holds store m) (clock : OpClock)
    (pubkey pair : String) (uuid : Uuid) (order : OrderbookItem) :
    Refines lib rootOf Holds (applyInsert lib clock pubkey pair uuid order store)
      (m.apply (.insert pubkey pair uuid order)) := by
  obtain ⟨db, hins, hholds⟩ := href.insert_resolves hlib (pubkey, pair) uuid order.trieState
  obtain ⟨hdb, hstates⟩ := applyInsert_spec clock pubkey pair uuid order store rfl hins
  apply href.write hstates
  case hroot => simp [SlotView.root, SlotView.insert]
  case hroots =>
    intro other hother
    simp only [AList.lookup_insert_ne hother]
    exact rootIn_pubkeyStateMut clock.createdSecs pubkey other store.pubkeysState
  case huuids =>
    intro other
    rw [SlotView.insert, mem_setInsert, ← href.uuids, AList.mem_insert, mem_ordersUuids_pubkeyStateMut]
    simp [HasUuid]
  case hothers =>
    intro other otherPair hother
    rw [AList.mem_insert, mem_ordersUuids_pubkeyStateMut]
    simp [HasUuid, hother]
  case hhollow =>
    intro hphase
    exact absurd rfl hphase
  case hholds =>
    rw [hdb]
    exact hholds

/-! ## Removals -/

theorem applyRemove_spec (clock : OpClock) (pubkey pair : String) (uuid : Uuid)
    (store : TrieStore Root Db) (hold : oldState = (store.rootAt (pubkey, pair)).getD lib.zeroRoot)
    {delta : Option (Root × Db)}
    (hdelta : lib.deltaTrieRoot store.memoryDb oldState [(uuid, none)] = delta) :
    (applyRemove lib clock pubkey pair uuid store).memoryDb =
        (delta.map Prod.snd).getD store.memoryDb ∧
      ∀ other, (applyRemove lib clock pubkey pair uuid store).pubkeysState.lookup other =
          if other = pubkey then
            let state :=
              pubkeyStateMut clock.createdSecs pubkey store.pubkeysState
            some { state with
                trieRoots := state.trieRoots.insert pair ((delta.map Prod.fst).getD oldState)
                ordersUuids := state.ordersUuids.erase (uuid, pair)
                orderPairsTrieStateHistory :=
                  match delta with
                  | some (root, _) =>
                    if (state.orderPairsTrieStateHistory.get pair).isSome then
                      (recordDiff clock pair oldState ⟨[(uuid, none)], root⟩
                        state.orderPairsTrieStateHistory).2
                    else state.orderPairsTrieStateHistory
                  | none => state.orderPairsTrieStateHistory }
          else store.pubkeysState.lookup other := by
  have hroot := getD_root_pubkeyStateMut clock pubkey pair store hold
  cases delta with
  | none =>
    simp only [applyRemove, hroot, hdelta]
    exact ⟨rfl, fun other => lookup_insert_if _ _ _ _⟩
  | some result =>
    simp only [applyRemove, hroot, hdelta]
    refine ⟨rfl, ?_⟩
    intro other
    simp only [lookup_insert_if]
    by_cases heq : other = pubkey
    · simp only [heq, if_true]
      by_cases hhist : ((pubkeyStateMut clock.createdSecs pubkey
          store.pubkeysState).orderPairsTrieStateHistory.get pair).isSome = true
      · simp [hhist, AList.insert_insert]
      · simp [hhist, AList.insert_insert]
    · simp [heq]

section

variable (href : Refines lib rootOf Holds store m)

include href

omit [DecidableEq Root] in
theorem mem_erase_ordersUuids (other : Uuid) (otherPair : String) :
    (other, otherPair) ∈ (pubkeyStateMut clock.createdSecs pubkey
        store.pubkeysState).ordersUuids.erase (uuid, pair) ↔
      (other ≠ uuid ∨ otherPair ≠ pair) ∧ other ∈ (m.view (pubkey, otherPair)).uuids := by
  rw [AList.mem_erase, mem_ordersUuids_pubkeyStateMut, ← href.uuids]
  simp only [HasUuid, ne_eq, Prod.mk.injEq]
  tauto

variable (hlib : lib.Lawful rootOf Holds)

include hlib

omit [DecidableEq Root] in
theorem Refines.remove_resolves (key : GroupKey) (uuid : Uuid) :
    ∃ delta, lib.deltaTrieRoot store.memoryDb ((store.rootAt key).getD lib.zeroRoot)
        [(uuid, none)] = delta ∧
      some ((delta.map Prod.fst).getD ((store.rootAt key).getD lib.zeroRoot)) =
        ((m.view key).remove uuid).root lib rootOf ∧
      (((m.view key).remove uuid).phase ≠ .trie → ((m.view key).remove uuid).contents = ∅) ∧
      Holds ((delta.map Prod.snd).getD store.memoryDb) (Function.update
        (fun key => (m.view key).contents) key ((m.view key).remove uuid).contents) := by
  rw [href.roots]
  by_cases hphase : (m.view key).phase = .trie
  · obtain ⟨db, hdelta, hholds⟩ := hlib.delta_existing _ _ key [(uuid, none)] href.holds
    have hroot : ((m.view key).root lib rootOf).getD lib.zeroRoot =
        rootOf (m.view key).contents := by
      simp [root, hphase]
    have hafter : ((m.view key).remove uuid).phase = .trie := by
      simp [remove, hphase, RootPhase.afterRemove]
    rw [hroot]
    refine ⟨_, hdelta, ?_, fun hnot => absurd hafter hnot, hholds⟩
    rw [root, hafter]
    rfl
  · have hempty : ((m.view key).remove uuid).contents = ∅ := by
      simp only [remove, href.hollow key hphase]
      rfl
    have hafter : ((m.view key).remove uuid).phase = .placeholder := by
      unfold remove
      cases h : (m.view key).phase with
      | absent | placeholder => rfl
      | trie => exact absurd h hphase
    rw [getD_root_of_hollow hphase, hempty]
    refine ⟨none, hlib.delta_zero _ _ [(uuid, none)] href.holds, ?_, fun _ => rfl,
      hlib.forget _ _ key href.holds⟩
    rw [root, hafter]
    rfl

theorem Refines.applyRemove (clock : OpClock) (pubkey pair : String) (uuid : Uuid) :
    Refines lib rootOf Holds (applyRemove lib clock pubkey pair uuid store)
      (m.apply (.remove pubkey pair uuid)) := by
  obtain ⟨delta, hdelta, hroot, hhollow, hholds⟩ := href.remove_resolves hlib (pubkey, pair) uuid
  obtain ⟨hdb, hstates⟩ := applyRemove_spec clock pubkey pair uuid store rfl hdelta
  apply href.write hstates
  case hroot => rw [AList.lookup_insert, hroot]
  case hroots =>
    intro other hother
    simp only [AList.lookup_insert_ne hother]
    exact rootIn_pubkeyStateMut clock.createdSecs pubkey other store.pubkeysState
  case huuids =>
    intro other
    rw [mem_erase_ordersUuids href]
    simp only [SlotView.remove, Set.mem_sdiff, Set.mem_singleton_iff]
    tauto
  case hothers =>
    intro other otherPair hne
    rw [mem_erase_ordersUuids href, href.uuids]
    simp [hne]
  case hhollow => exact hhollow
  case hholds =>
    rw [hdb]
    exact hholds

end

/-! ## Clearing a pair and removing a pubkey -/

theorem holds_releasePairTrie (hlib : lib.Lawful rootOf Holds)
    (hholds : Holds db f) (key : GroupKey) (hroot : root = lib.zeroRoot ∨ root = rootOf (f key)) :
    Holds (releasePairTrie lib db root) (Function.update f key ∅) := by
  have hforget := hlib.forget db f key hholds
  unfold releasePairTrie
  split
  · exact hforget
  next hstore =>
    have hcontents : root = rootOf (f key) := by
      rcases hroot with hzero | hcontents
      · exact absurd (Or.inl hzero) hstore
      · exact hcontents
    obtain ⟨keys, hkeys, hmem⟩ := hlib.keys_existing db f key hholds
    obtain ⟨next, hdelta, hnext⟩ := hlib.delta_existing db f key
      (keys.map fun k => (k, none)) hholds
    rw [Contents.applyDelta_all_keys (f key) hmem] at hdelta hnext
    rw [hcontents, hkeys]
    simp only [hdelta]
    exact hnext

variable (lib) in
theorem applyClearPair_spec (now : Instant) (pubkey pair : String)
    (store : TrieStore Root Db) (hstate : store.pubkeysState.lookup pubkey = some state) :
    (applyClearPair lib now pubkey pair store).memoryDb = (match state.trieRoots.lookup pair with
          | none => store.memoryDb
          | some root => releasePairTrie lib store.memoryDb root) ∧
      ∀ other, (applyClearPair lib now pubkey pair store).pubkeysState.lookup other =
          if other = pubkey then
            some { state with
                orderPairsTrieStateHistory :=
                  (state.orderPairsTrieStateHistory.remove now pair).2
                ordersUuids := retain (fun key _ => key.2 ≠ pair) state.ordersUuids
                trieRoots := state.trieRoots.erase pair }
          else store.pubkeysState.lookup other := by
  simp only [applyClearPair]
  rw [hstate]
  refine ⟨rfl, ?_⟩
  intro other
  exact lookup_insert_if _ _ _ _

variable (lib) in
theorem applyClearPair_of_unknown (now : Instant) (pubkey pair : String) (store : TrieStore Root Db)
    (hunknown : store.pubkeysState.lookup pubkey = none) :
    (applyClearPair lib now pubkey pair store).memoryDb = store.memoryDb ∧
      (applyClearPair lib now pubkey pair store).pubkeysState = store.pubkeysState := by
  simp [applyClearPair, hunknown]

omit [DecidableEq Root] in
theorem Refines.congr (href : Refines lib rootOf Holds store m)
    (hstates : next.pubkeysState = store.pubkeysState) (hdb : next.memoryDb = store.memoryDb) :
    Refines lib rootOf Holds next m where
  known := by
    intro pubkey
    rw [hstates]
    exact href.known pubkey
  roots := by
    intro key
    rw [rootAt, hstates]
    exact href.roots key
  uuids := by
    intro key uuid
    rw [HasUuid, hstates]
    exact href.uuids key uuid
  hollow := href.hollow
  holds := by
    rw [hdb]
    exact href.holds

omit [DecidableEq Root] in
theorem mem_retain_ordersUuids (pair : String) (uuid : Uuid) (other : String) :
    (uuid, other) ∈ retain (fun key _ => key.2 ≠ pair) state.ordersUuids ↔
      other ≠ pair ∧ (uuid, other) ∈ state.ordersUuids := by
  rw [mem_iff_lookup, mem_iff_lookup, lookup_retain]
  simp [Option.filter_eq_some_iff, and_comm]

theorem Refines.applyClearPair (hlib : lib.Lawful rootOf Holds)
    (href : Refines lib rootOf Holds store m) (now : Instant) (pubkey pair : String) :
    Refines lib rootOf Holds (applyClearPair lib now pubkey pair store)
      (m.apply (.clearPair pubkey pair)) := by
  cases hstate : store.pubkeysState.lookup pubkey with
  | none =>
    obtain ⟨hdb, hstates⟩ := applyClearPair_of_unknown lib now pubkey pair store hstate
    have hsame : m.apply (.clearPair pubkey pair) = m := by
      have hview := href.view_eq_empty hstate pair
      simp only [apply, ← hview, Function.update_eq_self]
    rw [hsame]
    exact href.congr hstates hdb
  | some state =>
    obtain ⟨hdb, hstates⟩ := applyClearPair_spec lib now pubkey pair store hstate
    have hknown : Set.insert pubkey m.known = m.known := by
      apply Set.insert_eq_of_mem
      rw [href.known, mem_iff_lookup]
      exact ⟨state, hstate⟩
    have hrootAt : ∀ other, store.rootAt (pubkey, other) = state.trieRoots.lookup other := by
      intro other
      simp [rootAt, rootIn, hstate]
    suffices hwrite : Refines lib rootOf Holds (TrieStore.applyClearPair lib now pubkey pair store)
        { known := Set.insert pubkey m.known
          view := Function.update m.view (pubkey, pair) .empty } by
      rw [hknown] at hwrite
      exact hwrite
    apply href.write hstates
    case hroot => simp [root, empty]
    case hroots =>
      intro other hother
      simp only [AList.lookup_erase_ne hother]
      exact (hrootAt other).symm
    case huuids =>
      intro uuid
      rw [mem_retain_ordersUuids]
      simp [empty]
    case hothers =>
      intro uuid other hother
      rw [mem_retain_ordersUuids]
      simp [HasUuid, HasUuidIn, hstate, hother]
    case hhollow =>
      intro _
      rfl
    case hholds =>
      rw [hdb]
      have hroot := href.roots (pubkey, pair)
      rw [hrootAt] at hroot
      cases hlook : state.trieRoots.lookup pair with
      | none => exact hlib.forget _ _ (pubkey, pair) href.holds
      | some root =>
        rw [hlook] at hroot
        exact holds_releasePairTrie hlib href.holds _ (root_eq_some hroot.symm)

theorem holds_releaseAll (hlib : lib.Lawful rootOf Holds) (pubkey : String)
    {entries : List (Sigma fun _ : String => Root)} (hnodup : entries.NodupKeys)
    (hholds : Holds db f)
    (hroots : ∀ entry ∈ entries, entry.2 = lib.zeroRoot ∨ entry.2 = rootOf (f (pubkey, entry.1))) :
    Holds ((entries.map fun entry => entry.2).foldl (releasePairTrie lib) db) fun key =>
        if key.1 = pubkey ∧ key.2 ∈ entries.keys then ∅ else f key := by
  induction entries generalizing db f with
  | nil => simpa using hholds
  | cons entry rest ih =>
    rw [List.nodupKeys_cons] at hnodup
    have hhead := holds_releasePairTrie hlib hholds (pubkey, entry.1)
      (hroots entry List.mem_cons_self)
    have hrest : ∀ other ∈ rest, other.2 = lib.zeroRoot ∨
        other.2 = rootOf (Function.update f (pubkey, entry.1) ∅ (pubkey, other.1)) := by
      intro other hmem
      have hne : (pubkey, other.1) ≠ (pubkey, entry.1) := by
        intro heq
        apply hnodup.1
        rw [← (Prod.mk.inj heq).2]
        exact List.mem_keys_of_mem hmem
      rw [Function.update_of_ne hne]
      exact hroots other (List.mem_cons_of_mem entry hmem)
    have hall := ih hnodup.2 hhead hrest
    have hfamily : (fun key : GroupKey =>
        if key.1 = pubkey ∧ key.2 ∈ rest.keys then (∅ : PairContents)
        else Function.update f (pubkey, entry.1) ∅ key) =
        fun key : GroupKey =>
          if key.1 = pubkey ∧ key.2 ∈ (entry :: rest).keys then ∅
          else f key := by
      funext key
      obtain ⟨owner, pair⟩ := key
      by_cases howner : owner = pubkey
      · subst howner
        by_cases hpair : pair = entry.1
        · simp [hpair]
        · simp [hpair]
      · simp [howner]
    rw [hfamily] at hall
    exact hall

variable (href : Refines lib rootOf Holds store m)

include href

theorem Refines.applyRemovePubkey_of_unknown (hunknown : store.pubkeysState.lookup pubkey = none) :
    Refines lib rootOf Holds (applyRemovePubkey lib pubkey store)
      (m.apply (.removePubkey pubkey)) := by
  have hsame : m.apply (.removePubkey pubkey) = m := by
    ext1
    · apply Set.sdiff_singleton_eq_self
      rw [href.known, mem_iff_lookup, hunknown]
      simp
    · funext key
      obtain ⟨owner, pair⟩ := key
      by_cases howner : owner = pubkey
      · subst howner
        simp [apply, href.view_eq_empty hunknown pair]
      · simp [apply, howner]
  rw [hsame]
  apply href.congr
  · simp [applyRemovePubkey, hunknown]
  · simp [applyRemovePubkey, hunknown]

omit [DecidableEq Root] in
theorem Refines.contents_removePubkey (hstate : store.pubkeysState.lookup pubkey = some state) :
    (fun key : GroupKey =>
        if key.1 = pubkey ∧ key.2 ∈ state.trieRoots.entries.keys then
          (∅ : PairContents)
        else (m.view key).contents) =
      fun key => ((m.apply (.removePubkey pubkey)).view key).contents := by
  funext key
  obtain ⟨owner, pair⟩ := key
  by_cases howner : owner = pubkey
  · subst howner
    by_cases hpair : pair ∈ state.trieRoots.entries.keys
    · simp [apply, hpair, empty]
    · have habs : (m.view (owner, pair)).phase ≠ .trie := by
        intro htrie
        apply hpair
        have hsome := href.roots (owner, pair)
        simp only [rootAt, rootIn, hstate, Option.bind_some, root, htrie] at hsome
        exact AList.mem_keys.mp ((mem_iff_lookup _ _).mpr ⟨_, hsome⟩)
      simp [apply, hpair, empty, href.hollow _ habs]
  · simp [apply, howner]

theorem Refines.applyRemovePubkey_of_known (hlib : lib.Lawful rootOf Holds)
    (hstate : store.pubkeysState.lookup pubkey = some state) :
    Refines lib rootOf Holds (applyRemovePubkey lib pubkey store)
      (m.apply (.removePubkey pubkey)) := by
  have hstates : ∀ other, (applyRemovePubkey lib pubkey store).pubkeysState.lookup other =
      if other = pubkey then none
      else store.pubkeysState.lookup other := by
    intro other
    simp only [applyRemovePubkey, hstate]
    exact lookup_erase_if _ _ _
  constructor
  case known =>
    intro other
    simp only [apply, Set.mem_sdiff, Set.mem_singleton_iff]
    rw [href.known, mem_iff_lookup, mem_iff_lookup, hstates]
    by_cases heq : other = pubkey
    · simp [heq]
    · simp [heq]
  case roots =>
    rintro ⟨owner, pair⟩
    simp only [apply, rootAt, rootIn, hstates]
    by_cases heq : owner = pubkey
    · simp [heq, root, empty]
    · simp only [heq, if_false]
      exact href.roots (owner, pair)
  case uuids =>
    rintro ⟨owner, pair⟩ uuid
    simp only [apply, HasUuid, HasUuidIn, hstates]
    by_cases heq : owner = pubkey
    · simp [heq, empty]
    · simp only [heq, if_false]
      exact href.uuids (owner, pair) uuid
  case hollow =>
    rintro ⟨owner, pair⟩
    by_cases heq : owner = pubkey
    · simp [apply, heq, empty]
    · simpa [apply, heq] using href.hollow (owner, pair)
  case holds =>
    have hroots : ∀ entry ∈ state.trieRoots.entries,
        entry.2 = lib.zeroRoot ∨ entry.2 = rootOf (m.view (pubkey, entry.1)).contents := by
      rintro ⟨pair, root⟩ hmem
      have hroot := href.roots (pubkey, pair)
      rw [mem_entries_iff] at hmem
      simp only [rootAt, rootIn, hstate, Option.bind_some, hmem] at hroot
      exact root_eq_some hroot.symm
    have hreleased := holds_releaseAll hlib pubkey state.trieRoots.nodupKeys href.holds hroots
    rw [href.contents_removePubkey hstate] at hreleased
    simp only [applyRemovePubkey, hstate]
    exact hreleased

theorem Refines.applyRemovePubkey (hlib : lib.Lawful rootOf Holds) (pubkey : String) :
    Refines lib rootOf Holds (applyRemovePubkey lib pubkey store)
      (m.apply (.removePubkey pubkey)) := by
  cases hstate : store.pubkeysState.lookup pubkey with
  | none => exact href.applyRemovePubkey_of_unknown hstate
  | some state => exact href.applyRemovePubkey_of_known hlib hstate

end Refinement

end TrieStore

end KdfProtocol
