import KdfProtocol.TrieStoreBatch

/-!
# Deltas between trie roots

The history of a pair is a table of edges between roots.  In every store that
a run of store calls reaches, every edge carries the change between the
contents of its two roots and every walk along the edges ends, so a delta
collected on a walk is the change between the roots at its two ends.
-/

namespace KdfProtocol

open HashMap TimeCache TrieStore DeltaOrFullTrie

def leafDelta (delta : List (Uuid × Option OrderbookItem)) :
    List (Uuid × Option OrderbookP2PItem) :=
  delta.map fun (uuid, order) => (uuid, order.map OrderbookItem.trieState)

/-! ## Collected deltas -/

theorem lookup_applyDelta_toList (c : PairContents)
    (total : HashMap Uuid (Option OrderbookItem)) (uuid : Uuid) :
    (c.applyDelta (leafDelta (toList total))).lookup uuid =
      ((total.lookup uuid).map fun order =>
        order.map OrderbookItem.trieState).getD (c.lookup uuid) := by
  obtain ⟨entries, hnodup⟩ := total
  simp only [toList, leafDelta, List.map_map, AList.lookup]
  induction entries generalizing c with
  | nil => rfl
  | cons entry rest ih =>
    obtain ⟨key, order⟩ := entry
    rw [List.nodupKeys_cons] at hnodup
    have hrest := ih (c.applyEntry (key, order.map OrderbookItem.trieState)) hnodup.2
    simp only [Contents.applyDelta, List.map_cons, List.foldl_cons] at hrest ⊢
    refine hrest.trans ?_
    rw [Contents.lookup_applyEntry]
    by_cases heq : uuid = key
    · subst heq
      have habs : List.dlookup uuid rest = none := List.dlookup_eq_none.mpr hnodup.1
      simp [habs]
    · rw [List.dlookup_cons_ne _ _ heq, if_neg heq]

theorem applyDelta_toList_extend (c : PairContents) (total : HashMap Uuid (Option OrderbookItem))
    (delta : List (Uuid × Option OrderbookItem)) :
    c.applyDelta (leafDelta (toList (extend total delta))) =
      (c.applyDelta (leafDelta (toList total))).applyDelta (leafDelta delta) := by
  induction delta generalizing total with
  | nil => rfl
  | cons entry rest ih =>
    obtain ⟨key, order⟩ := entry
    have hhead : c.applyDelta (leafDelta (toList (total.insert key order))) =
        (c.applyDelta (leafDelta (toList total))).applyEntry
          (key, order.map OrderbookItem.trieState) := by
      apply Finmap.ext_lookup
      intro uuid
      rw [Contents.lookup_applyEntry, lookup_applyDelta_toList,
        lookup_applyDelta_toList, lookup_insert_if]
      by_cases heq : uuid = key
      · simp [heq]
      · simp [heq]
    have hrest := ih (total.insert key order)
    rw [hhead] at hrest
    exact hrest

/-! ## Sound histories -/

section History

variable {Root : Type} (rootOf : PairContents → Root)

def EdgeCorrect (source : Root) (diff : TrieDiff Root) : Prop :=
  ∃ c, rootOf c = source ∧ rootOf (c.applyDelta (leafDelta diff.delta)) = diff.nextRoot

variable [DecidableEq Root]

structure TrieDiffHistory.Sound (history : TrieDiffHistory Root) : Prop where
  edges : ∀ root diff, history.get root = some diff → EdgeCorrect rootOf root diff
  ends : ∀ root, Ends TrieDiff.nextRoot (fun root => history.get root) root

namespace TrieDiffHistory

variable {rootOf}

theorem sound_new (ttl : Duration) : Sound rootOf (⟨new ttl⟩ : TrieDiffHistory Root) where
  edges := by
    intro root diff hget
    simp [get, TimeCache.get, TimeCache.new] at hget
  ends := by
    intro root
    exact .stop rfl

variable {history : TrieDiffHistory Root}

theorem Sound.of_shrinks (hsound : history.Sound rootOf) {inner : TimeCache Root (TrieDiff Root)}
    (hshrinks : history.inner.Shrinks inner) : Sound rootOf ⟨inner⟩ where
  edges := fun root diff hget => hsound.edges root diff (hshrinks root diff hget)
  ends := fun root => (hsound.ends root).of_subtable hshrinks

theorem shrinks_removeChain (clock : ℕ → Instant) (fuel turn : ℕ)
    (root : Root) (inner : TimeCache Root (TrieDiff Root)) :
    inner.Shrinks (removeChain clock fuel turn root inner) := by
  induction fuel generalizing turn root inner with
  | zero => exact .refl inner
  | succ fuel ih =>
    have hrem := inner.shrinks_remove (clock turn) root
    unfold removeChain
    split
    next hfound =>
      rw [hfound] at hrem
      exact hrem
    next hfound =>
      rw [hfound] at hrem
      exact hrem.trans (ih _ _ _)

theorem shrinks_evictOldest (fuel : ℕ) (inner : TimeCache Root (TrieDiff Root)) :
    inner.Shrinks (evictOldest fuel inner).2 := by
  induction fuel generalizing inner with
  | zero => exact .refl inner
  | succ fuel ih =>
    have hpop := inner.shrinks_popOldest
    unfold evictOldest
    split
    · split
      next hfound =>
        rw [hfound] at hpop
        exact hpop
      next hfound =>
        rw [hfound] at hpop
        exact hpop.trans (ih _)
    · exact .refl inner

theorem Sound.insertNewDiff (hsound : history.Sound rootOf) (clock : ℕ → Instant) {insertAt : Root}
    {diff : TrieDiff Root} (hedge : EdgeCorrect rootOf insertAt diff) :
    Sound rootOf (history.insertNewDiff clock insertAt diff).2 := by
  have hshrinks := history.inner.shrinks_remove (clock 0) diff.nextRoot
  have hopen := history.inner.get_remove_self (clock 0) diff.nextRoot
  unfold TrieDiffHistory.insertNewDiff
  split
  · exact hsound
  next hne =>
    split
    next found inner hrem =>
      rw [hrem] at hshrinks
      exact hsound.of_shrinks (hshrinks.trans (shrinks_removeChain clock _ _ _ inner))
    next inner hrem =>
      rw [hrem] at hshrinks hopen
      have hlinked : Sound rootOf ⟨(inner.insert (clock 1) insertAt diff).2⟩ := by
        constructor
        · intro root found hget
          rcases get_insert hget with hold | ⟨rfl, rfl⟩
          · exact hsound.edges root found (hshrinks root found hold)
          · exact hedge
        · apply ends_of_link TrieDiff.nextRoot insertAt diff
            fun root => (hsound.ends root).of_subtable hshrinks
          · intro root found hget
            exact get_insert hget
          · by_contra hsome
            obtain ⟨found, hget⟩ := Option.ne_none_iff_exists'.mp hsome
            rcases get_insert hget with hold | ⟨heq, -⟩
            · have hnone : inner.get diff.nextRoot = none := hopen
              rw [hnone] at hold
              cases hold
            · exact hne heq.symm
      exact hlinked.of_shrinks (shrinks_evictOldest _ _)

end TrieDiffHistory

theorem sound_recordDiff (clock : OpClock) (pair : String) {insertAt : Root} {diff : TrieDiff Root}
    (hedge : EdgeCorrect rootOf insertAt diff) {histories : TimeCache String (TrieDiffHistory Root)}
    (hsound : ∀ pair history, histories.get pair = some history → history.Sound rootOf)
    (other : String) (history : TrieDiffHistory Root)
    (hget : (recordDiff clock pair insertAt diff histories).2.get other = some history) :
    history.Sound rootOf := by
  have hentry : ∀ other history, (pairHistoryMut clock.pairHistory pair histories).get other =
        some history → history.Sound rootOf := by
    intro other history hget
    rcases get_orInsertWithUpdateExpiration hget with
      hold | ⟨-, rfl⟩
    · exact hsound other history hold
    · exact TrieDiffHistory.sound_new _
  unfold recordDiff at hget
  simp only at hget
  split at hget
  · exact hentry other history hget
  next found hfound =>
    rw [get_modify, hfound] at hget
    split at hget
    · cases hget
      exact (hentry pair found hfound).insertNewDiff clock.diff hedge
    · exact hentry other history hget

end History

namespace TrieStore

section Store

variable {Root Db : Type} [DecidableEq Root] {lib : TrieLib Root Db Uuid OrderbookP2PItem}
  {rootOf : PairContents → Root} {Holds : Db → (GroupKey → PairContents) → Prop}

/-! ## Rule for batches -/

variable (lib) in
structure EventInvariant (property : TrieStore Root Db → Prop) : Prop where
  touch : ∀ nowSecs pubkey store, property store → property
    { store with
      pubkeysState := store.pubkeysState.insert pubkey
        (pubkeyStateMut nowSecs pubkey store.pubkeysState) }
  clearPair : ∀ now pubkey pair store, property store →
    property (applyClearPair lib now pubkey pair store)
  insert : ∀ clock pubkey pair uuid order store, property store →
    property (applyInsert lib clock pubkey pair uuid order store)
  remove : ∀ clock pubkey pair uuid store, property store →
    property (applyRemove lib clock pubkey pair uuid store)
  removePubkey : ∀ pubkey store, property store → property (applyRemovePubkey lib pubkey store)

variable {store : TrieStore Root Db}

variable {property : TrieStore Root Db → Prop} {history : TrieDiffHistory Root} {db : Db}

theorem EventInvariant.applyGroup (hevents : EventInvariant lib property) (clock : BatchClock)
    (seqNow : ℕ) (entry : GroupKey × Group) (hstore : property store) :
    property (applyGroup lib clock seqNow store entry) := by
  obtain ⟨key, g⟩ := entry
  simp only [TrieStore.applyGroup]
  apply List.foldlRecOn
  · apply List.foldlRecOn
    · split
      · apply hevents.clearPair
        split
        · exact hevents.touch _ _ _ hstore
        · exact hstore
      · split
        · exact hevents.touch _ _ _ hstore
        · exact hstore
    · intro store hstore entry _
      exact hevents.insert _ _ _ _ _ _ hstore
  · intro store hstore entry _
    exact hevents.remove _ _ _ _ _ hstore

theorem EventInvariant.applyOps (hevents : EventInvariant lib property) (iter : GroupIter)
    (clock : BatchClock) (ops : List TrieOp) (hstore : property store) :
    property (applyOps lib iter clock ops store) := by
  have hbatch : ∀ s : BatchState Root Db, property s.store → ∀ op,
      property (batchStep lib iter clock s op).store := by
    intro s hs op
    cases op with
    | clearPair | insert | remove => exact hs
    | removePubkey pubkey =>
      apply hevents.removePubkey
      apply List.foldlRecOn
      · exact hs
      · intro store hstore entry _
        exact hevents.applyGroup clock _ entry hstore
  have hloop : property (ops.foldl (batchStep lib iter clock)
      { store, groups := ∅, seq := 0 }).store := by
    apply List.foldlRecOn (motive := fun s : BatchState Root Db => property s.store)
    · exact hstore
    · intro s hs op _
      exact hbatch s hs op
  simp only [TrieStore.applyOps]
  apply List.foldlRecOn
  · exact hloop
  · intro store hstore entry _
    exact hevents.applyGroup clock _ entry hstore

/-! ## Sound stores -/

variable (rootOf) in
def SoundStates (states : HashMap String (OrderbookPubkeyState Root)) : Prop :=
  ∀ pubkey state, states.lookup pubkey = some state →
    ∀ pair history, state.orderPairsTrieStateHistory.get pair = some history → history.Sound rootOf

variable (lib rootOf Holds) in
structure HistoriesSound (store : TrieStore Root Db) : Prop where
  refined : ∃ m, Refines lib rootOf Holds store m
  states : SoundStates rootOf store.pubkeysState

theorem SoundStates.write {states next : HashMap String (OrderbookPubkeyState Root)}
    (hsound : SoundStates rootOf states) {pubkey : String} {state : OrderbookPubkeyState Root}
    (hnext : ∀ other, next.lookup other =
      if other = pubkey then some state else states.lookup other)
    (hstate : ∀ pair history, state.orderPairsTrieStateHistory.get pair =
      some history → history.Sound rootOf) : SoundStates rootOf next := by
  intro other found hfound
  rw [hnext] at hfound
  split at hfound
  · cases hfound
    exact hstate
  · exact hsound other found hfound

theorem SoundStates.pubkeyStateMut {states : HashMap String (OrderbookPubkeyState Root)}
    (hsound : SoundStates rootOf states) (nowSecs : ℕ) (pubkey : String)
    (pair : String) (history : TrieDiffHistory Root)
    (hget : (pubkeyStateMut nowSecs pubkey
      states).orderPairsTrieStateHistory.get pair = some history) : history.Sound rootOf := by
  unfold KdfProtocol.pubkeyStateMut at hget
  cases hlook : states.lookup pubkey with
  | none =>
    rw [hlook] at hget
    simp [OrderbookPubkeyState.withHistoryTimeout, TimeCache.get, TimeCache.new] at hget
  | some state =>
    rw [hlook] at hget
    exact hsound pubkey state hlook pair history hget

omit [DecidableEq Root] in
theorem Refines.rootOf_of_ne_zero {m : TrieModel} (href : Refines lib rootOf Holds store m)
    (key : GroupKey) (hne : (store.rootAt key).getD lib.zeroRoot ≠ lib.zeroRoot) :
    (store.rootAt key).getD lib.zeroRoot = rootOf (m.view key).contents := by
  rw [href.roots] at hne ⊢
  cases hphase : (m.view key).phase with
  | absent | placeholder => simp [SlotView.root, hphase] at hne
  | trie => simp [SlotView.root, hphase]

section

variable (hlib : lib.Lawful rootOf Holds) (hstore : HistoriesSound lib rootOf Holds store)

include hlib hstore

theorem HistoriesSound.applyInsert (clock : OpClock)
    (pubkey pair : String) (uuid : Uuid) (order : OrderbookItem) :
    HistoriesSound lib rootOf Holds (applyInsert lib clock pubkey pair uuid order store) := by
  obtain ⟨m, href⟩ := hstore.refined
  refine ⟨⟨_, href.applyInsert hlib clock pubkey pair uuid order⟩, ?_⟩
  obtain ⟨db, hins, -⟩ := href.insert_resolves hlib (pubkey, pair) uuid order.trieState
  obtain ⟨-, hstates⟩ := applyInsert_spec clock pubkey pair uuid order store rfl hins
  refine hstore.states.write hstates ?_
  have hold := hstore.states.pubkeyStateMut clock.createdSecs pubkey
  simp only
  split
  next hne =>
    have hprev := href.rootOf_of_ne_zero (pubkey, pair) hne
    apply sound_recordDiff rootOf clock pair _ hold
    exact ⟨_, hprev.symm, rfl⟩
  · exact hold

theorem HistoriesSound.applyRemove (clock : OpClock) (pubkey pair : String) (uuid : Uuid) :
    HistoriesSound lib rootOf Holds (applyRemove lib clock pubkey pair uuid store) := by
  obtain ⟨m, href⟩ := hstore.refined
  refine ⟨⟨_, href.applyRemove hlib clock pubkey pair uuid⟩, ?_⟩
  have hold := hstore.states.pubkeyStateMut clock.createdSecs pubkey
  by_cases hzero : (store.rootAt (pubkey, pair)).getD lib.zeroRoot = lib.zeroRoot
  · have hdelta := hlib.delta_zero _ _ [(uuid, none)] href.holds
    rw [← hzero] at hdelta
    obtain ⟨-, hstates⟩ := applyRemove_spec clock pubkey pair uuid store rfl hdelta
    exact hstore.states.write hstates hold
  · have hprev := href.rootOf_of_ne_zero (pubkey, pair) hzero
    obtain ⟨db, hdelta, -⟩ := hlib.delta_existing _ _ (pubkey, pair) [(uuid, none)] href.holds
    rw [← hprev] at hdelta
    obtain ⟨-, hstates⟩ := applyRemove_spec clock pubkey pair uuid store rfl hdelta
    refine hstore.states.write hstates ?_
    simp only
    split
    · apply sound_recordDiff rootOf clock pair _ hold
      exact ⟨_, hprev.symm, rfl⟩
    · exact hold

theorem HistoriesSound.applyClearPair (now : Instant) (pubkey pair : String) :
    HistoriesSound lib rootOf Holds (applyClearPair lib now pubkey pair store) := by
  obtain ⟨m, href⟩ := hstore.refined
  refine ⟨⟨_, href.applyClearPair hlib now pubkey pair⟩, ?_⟩
  cases hstate : store.pubkeysState.lookup pubkey with
  | none =>
    obtain ⟨-, hsame⟩ := applyClearPair_of_unknown lib now pubkey pair store hstate
    rw [hsame]
    exact hstore.states
  | some state =>
    obtain ⟨-, hstates⟩ := applyClearPair_spec lib now pubkey pair store hstate
    refine hstore.states.write hstates ?_
    intro other history hget
    have hold := shrinks_remove now pair _ other history hget
    exact hstore.states pubkey state hstate other history hold

theorem HistoriesSound.applyRemovePubkey (pubkey : String) :
    HistoriesSound lib rootOf Holds (applyRemovePubkey lib pubkey store) := by
  obtain ⟨m, href⟩ := hstore.refined
  refine ⟨⟨_, href.applyRemovePubkey hlib pubkey⟩, ?_⟩
  intro other state hlook
  apply hstore.states other state
  cases hstate : store.pubkeysState.lookup pubkey with
  | none => simpa [TrieStore.applyRemovePubkey, hstate] using hlook
  | some found =>
    simp only [TrieStore.applyRemovePubkey, hstate, HashMap.lookup_erase_if] at hlook
    split at hlook
    · cases hlook
    · exact hlook

end

theorem eventInvariant_historiesSound (hlib : lib.Lawful rootOf Holds) :
    EventInvariant lib (HistoriesSound lib rootOf Holds) where
  touch := by
    intro nowSecs pubkey store hstore
    obtain ⟨m, href⟩ := hstore.refined
    refine ⟨⟨_, href.touch nowSecs pubkey⟩, ?_⟩
    apply hstore.states.write (lookup_insert_if _ _ _)
    exact hstore.states.pubkeyStateMut nowSecs pubkey
  clearPair := fun now pubkey pair _ hstore =>
    hstore.applyClearPair hlib now pubkey pair
  insert := fun clock pubkey pair uuid order _ hstore =>
    hstore.applyInsert hlib clock pubkey pair uuid order
  remove := fun clock pubkey pair uuid _ hstore =>
    hstore.applyRemove hlib clock pubkey pair uuid
  removePubkey := fun pubkey _ hstore => hstore.applyRemovePubkey hlib pubkey

/-! ## Runs of store calls -/

section

variable (hstore : HistoriesSound lib rootOf Holds store)

include hstore

theorem HistoriesSound.purge (hlib : lib.Lawful rootOf Holds) {next : TrieStore Root Db}
    (hstates : next.pubkeysState = store.pubkeysState)
    (hdb : next.memoryDb = lib.purge store.memoryDb) : HistoriesSound lib rootOf Holds next := by
  obtain ⟨m, href⟩ := hstore.refined
  have hsame : SameRecords store next := by
    constructor
    · intro pubkey
      rw [hstates]
    · intro key
      rw [rootAt, rootAt, hstates]
    · intro key uuid
      rw [HasUuid, HasUuid, hstates]
  refine ⟨⟨m, href.of_sameRecords hsame ?_⟩, ?_⟩
  · rw [hdb]
    exact hlib.purge _ _ href.holds
  · rw [hstates]
    exact hstore.states

theorem HistoriesSound.expireHistories
    (pairsNow : String → Instant) (diffsNow : String → String → Instant) :
    HistoriesSound lib rootOf Holds (expireHistories pairsNow diffsNow store) := by
  obtain ⟨m, href⟩ := hstore.refined
  have hsame : SameRecords store (TrieStore.expireHistories pairsNow diffsNow store) := by
    constructor
    · intro pubkey
      rw [HashMap.mem_iff_lookup, HashMap.mem_iff_lookup]
      simp [TrieStore.expireHistories, HashMap.lookup_mapValues]
    · intro key
      cases hstate : store.pubkeysState.lookup key.1 with
      | none | some state =>
        simp [rootAt, rootIn, TrieStore.expireHistories, HashMap.lookup_mapValues, hstate]
    · intro key uuid
      simp [HasUuid, HasUuidIn, TrieStore.expireHistories, HashMap.lookup_mapValues]
  refine ⟨⟨m, href.of_sameRecords hsame href.holds⟩, ?_⟩
  intro pubkey state hlook pair history hget
  simp only [TrieStore.expireHistories, HashMap.lookup_mapValues] at hlook
  obtain ⟨before, hpre, rfl⟩ := Option.map_eq_some_iff.mp hlook
  rw [get_valuesMut] at hget
  obtain ⟨old, hold, rfl⟩ := Option.map_eq_some_iff.mp hget
  have hkept := shrinks_removeExpiredKeys (pairsNow pubkey) _ pair old hold
  exact (hstore.states pubkey before hpre pair old hkept).of_shrinks (shrinks_removeExpiredKeys _ _)

inductive StoreCall where
  | applyBatches (iter : GroupIter) (clock : BatchClock) (batches : List (List TrieOp))
  | purgeIfLoaded (nowMs : ℕ)
  | purgeMemoryDb (nowMs : ℕ)
  | expireHistories (pairsNow : String → Instant) (diffsNow : String → String → Instant)

variable (lib) in
def StoreCall.apply (store : TrieStore Root Db) : StoreCall → TrieStore Root Db
  | .applyBatches iter clock batches => TrieStore.applyBatches lib iter clock batches store
  | .purgeIfLoaded nowMs => (TrieStore.purgeIfLoaded lib nowMs store).2
  | .purgeMemoryDb nowMs => TrieStore.purgeMemoryDb lib nowMs store
  | .expireHistories pairsNow diffsNow => TrieStore.expireHistories pairsNow diffsNow store

theorem HistoriesSound.apply (hlib : lib.Lawful rootOf Holds) (call : StoreCall) :
    HistoriesSound lib rootOf Holds (call.apply lib store) := by
  cases call with
  | applyBatches iter clock batches =>
    have hops := (eventInvariant_historiesSound hlib).applyOps iter clock batches.flatten hstore
    obtain ⟨m, href⟩ := hops.refined
    exact ⟨⟨m, href.congr rfl rfl⟩, hops.states⟩
  | purgeIfLoaded nowMs =>
    simp only [StoreCall.apply, purgeIfLoaded]
    split
    · exact hstore
    · exact hstore.purge hlib rfl rfl
  | purgeMemoryDb nowMs => exact hstore.purge hlib rfl rfl
  | expireHistories pairsNow diffsNow =>
    exact hstore.expireHistories pairsNow diffsNow

end

theorem historiesSound_run (hlib : lib.Lawful rootOf Holds)
    (hholds : Holds db fun _ => ∅) (livenessOn : Bool) (calls : List StoreCall) :
    HistoriesSound lib rootOf Holds (run (StoreCall.apply lib) (new livenessOn db) calls) := by
  apply run_induction (StoreCall.apply lib) (HistoriesSound lib rootOf Holds)
    (fun _ call hstore => hstore.apply hlib call)
  refine ⟨(rootsResolve_new hholds livenessOn).exists_refines, ?_⟩
  intro pubkey state hlook
  simp [new] at hlook

/-! ## Answers from the history -/

theorem fromHistory_delta_sound (hinjective : Function.Injective rootOf)
    (hsound : history.Sound rootOf)
    {getter : Uuid → Option OrderbookItem} {onMissing : MissingValue}
    {fuel : ℕ} {fromRoot actualRoot : Root} {delta : List (Uuid × Option OrderbookItem)}
    (hans : fromHistory lib getter onMissing fuel history
      fromRoot actualRoot db = some (.ok (.delta delta)))
    {before : PairContents} (hpre : rootOf before = fromRoot) :
    rootOf (before.applyDelta (leafDelta delta)) = actualRoot := by
  have hfull : (getFullTrie lib getter onMissing actualRoot db).map
      fullTrie ≠ .ok (.delta delta) := by
    cases getFullTrie lib getter onMissing actualRoot db with
    | error | ok => simp [Except.map]
  -- The contents at the current root are the first ones with the deltas so far.
  have hstep : ∀ (total : HashMap Uuid (Option OrderbookItem)) root edge,
      rootOf (before.applyDelta (leafDelta (toList total))) = root →
      history.get root = some edge →
      rootOf (before.applyDelta (leafDelta (toList (extend total edge.delta)))) =
        edge.nextRoot := by
    intro total root edge hroot hedge
    obtain ⟨c, hsource, htarget⟩ := hsound.edges root edge hedge
    have hsame : before.applyDelta (leafDelta (toList total)) = c :=
      hinjective (hroot.trans hsource.symm)
    rw [applyDelta_toList_extend, hsame]
    exact htarget
  unfold fromHistory at hans
  simp only at hans
  split at hans
  · exact absurd (Option.some.inj hans) hfull
  next first hfirst =>
    obtain ⟨⟨last, total⟩, hwalk, hlast⟩ := Option.map_eq_some_iff.mp hans
    have hend := walk_invariant TrieDiff.nextRoot
      (fun edge total => rootOf (before.applyDelta (leafDelta (toList total))) = edge.nextRoot)
      (fun current total edge hcurrent hedge => hstep total current.nextRoot edge hcurrent hedge)
      hwalk (hstep ∅ fromRoot first hpre hfirst)
    simp only at hlast hend
    split at hlast
    next hactual =>
      cases hlast
      exact hend.trans hactual
    · exact absurd hlast hfull

theorem fromHistory_isSome (hsound : history.Sound rootOf) (getter : Uuid → Option OrderbookItem)
    (onMissing : MissingValue) (fromRoot actualRoot : Root) (db : Db) :
    ∃ enough, ∀ fuel, enough ≤ fuel →
      (fromHistory lib getter onMissing fuel history fromRoot actualRoot db).isSome := by
  cases hfirst : history.get fromRoot with
  | none =>
    refine ⟨0, ?_⟩
    intro fuel _
    simp [fromHistory, hfirst]
  | some first =>
    obtain ⟨enough, hwalk⟩ := (hsound.ends first.nextRoot).walk_isSome
      (fun (total : HashMap Uuid (Option OrderbookItem)) diff => extend total diff.delta)
    refine ⟨enough, ?_⟩
    intro fuel hfuel
    simp only [fromHistory, hfirst, Option.isSome_map]
    exact hwalk fuel hfuel first _ rfl

/-- In every history that a run of store calls reaches, the walk ends from
every root, and a delta that it returns turns the contents of the first root
into the contents of the actual one. -/
theorem fromHistory_ends_and_correct (hlib : lib.Lawful rootOf Holds)
    (hinjective : Function.Injective rootOf) {db : Db}
    (hholds : Holds db fun _ => ∅) (livenessOn : Bool)
    (calls : List StoreCall) {pubkey pair : String} {history : TrieDiffHistory Root}
    (hhistory : (run (StoreCall.apply lib) (TrieStore.new livenessOn db)
      calls).pairHistory pubkey pair = some history)
    (getter : Uuid → Option OrderbookItem) (onMissing : MissingValue)
    (fromRoot actualRoot : Root) (memoryDb : Db) :
    (∃ enough, ∀ fuel, enough ≤ fuel →
      (DeltaOrFullTrie.fromHistory lib getter onMissing fuel history fromRoot
        actualRoot memoryDb).isSome) ∧
    ∀ fuel delta,
      DeltaOrFullTrie.fromHistory lib getter onMissing fuel history fromRoot
          actualRoot memoryDb = some (.ok (.delta delta)) →
        ∀ before after, rootOf before = fromRoot → rootOf after = actualRoot →
          before.applyDelta (leafDelta delta) = after := by
  obtain ⟨state, hstate, hget⟩ := Option.bind_eq_some_iff.mp hhistory
  have hsound := (historiesSound_run hlib hholds livenessOn calls).states
    pubkey state hstate pair history hget
  constructor
  · exact fromHistory_isSome hsound getter onMissing fromRoot actualRoot memoryDb
  · intro fuel delta hanswer before after hbefore hafter
    have hroot := fromHistory_delta_sound hinjective hsound hanswer hbefore
    exact hinjective (hroot.trans hafter.symm)

end Store

/-! ## A concrete run -/

def secondOrder : OrderbookItem :=
  { Orderbook.movedOrder "BTC" with uuid := 2 }

def twoBatches : List StoreCall :=
  let clock : BatchClock := fun _ _ => ⟨0, 0, 0, fun _ => 0⟩
  [.applyBatches id clock [[.insert "02aa" "BTC:KMD" 1 (Orderbook.movedOrder "BTC")]],
    .applyBatches id clock [[.insert "02aa" "BTC:KMD" 2 secondOrder]]]

theorem twoBatches_pairHistory :
    ((run (StoreCall.apply orderTrie) (new true 0)
      twoBatches).pairHistory "02aa" "BTC:KMD").isSome = true := by
  decide +kernel

def firstContents : PairContents :=
  Finmap.singleton 1 (Orderbook.movedOrder "BTC").trieState

/-- From the root of the first order on, the history answers with the
insertion of the second one. -/
theorem fromHistory_secondInsert :
    ∃ history,
      (run (StoreCall.apply orderTrie) (TrieStore.new true 0)
          twoBatches).pairHistory "02aa" "BTC:KMD" = some history ∧
        DeltaOrFullTrie.fromHistory orderTrie (fun _ => none) .fail 2 history
            (some firstContents)
            (some (firstContents.insert 2 secondOrder.trieState)) 0 =
          some (.ok (.delta [(2, some secondOrder)])) ∧
        firstContents.applyDelta (leafDelta [(2, some secondOrder)]) =
          firstContents.insert 2 secondOrder.trieState := by
  have hanswer : fromHistory orderTrie (fun _ => none) .fail 2
      (((run (StoreCall.apply orderTrie) (new true 0)
        twoBatches).pairHistory "02aa" "BTC:KMD").get twoBatches_pairHistory)
      (some firstContents)
      (some (firstContents.insert 2 secondOrder.trieState)) 0 =
        some (.ok (.delta [(2, some secondOrder)])) := by
    decide +kernel
  have hhistory := (Option.some_get twoBatches_pairHistory).symm
  refine ⟨_, hhistory, hanswer, ?_⟩
  exact (fromHistory_ends_and_correct orderTrie_lawful
    (Option.some_injective _) ⟨∅, fun _ _ => rfl, by simp⟩ true twoBatches
    hhistory _ _ _ _ _).2 2 _ hanswer _ _ rfl rfl

end TrieStore

end KdfProtocol
