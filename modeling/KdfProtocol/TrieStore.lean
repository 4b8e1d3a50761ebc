import KdfProtocol.EdgeWalk
import KdfProtocol.OrderbookItem
import KdfProtocol.TimeCache
import KdfProtocol.TrieLibrary

/-!
# The trie store

Per pubkey and alphabetically ordered pair the store keeps the root of a trie
of the pubkey's orders, the uuids in it, and a history of deltas between
roots.  Events reach it in batches and are grouped by pubkey and pair before
they are applied.

The trie library is a parameter.  The leaf of an order is the record that the
source serializes for it; every clock reading is an argument.
-/

namespace KdfProtocol

/-! ## Liveness of pairs -/

structure PairLiveness where
  enabled : Bool
  seen : HashMap String (HashMap String ℕ)

namespace PairLiveness

def new (enabled : Bool) : PairLiveness where
  enabled
  seen := ∅

def isOn (liveness : PairLiveness) : Bool := liveness.enabled

variable (pubkey albPair : String)

def set (nowSecs : ℕ) (overwrite : Bool) (seen : HashMap String (HashMap String ℕ)) :
    HashMap String (HashMap String ℕ) :=
  match seen.lookup pubkey with
  | some pairs =>
    match pairs.lookup albPair with
    | some _ =>
      if overwrite then
        seen.insert pubkey (pairs.insert albPair nowSecs)
      else seen
    | none => seen.insert pubkey (pairs.insert albPair nowSecs)
  | none => seen.insert pubkey ((∅ : HashMap String ℕ).insert albPair nowSecs)

def touch (nowSecs : ℕ) (liveness : PairLiveness) : PairLiveness :=
  if liveness.enabled then
    { liveness with seen := set pubkey albPair nowSecs true liveness.seen }
  else liveness

def touchInserts (ops : List TrieOp) (nowSecs : ℕ) (liveness : PairLiveness) : PairLiveness :=
  ops.foldl
    (fun liveness op =>
      match op with
      | .insert pubkey albPair _ _ => liveness.touch pubkey albPair nowSecs
      | _ => liveness)
    liveness

def createIfAbsent (nowSecs : ℕ) (liveness : PairLiveness) : PairLiveness :=
  if liveness.enabled then
    { liveness with seen := set pubkey albPair nowSecs false liveness.seen }
  else liveness

def clearPair (liveness : PairLiveness) : PairLiveness :=
  if liveness.enabled then
    { liveness with
      seen := HashMap.updateOrDrop pubkey (fun pairs => pairs.erase albPair)
        (fun pairs => pairs.entries.isEmpty) liveness.seen }
  else liveness

def clearPubkey (pubkey : String) (liveness : PairLiveness) : PairLiveness :=
  if liveness.enabled then
    { liveness with seen := liveness.seen.erase pubkey }
  else liveness

end PairLiveness

/-! ## Delta histories -/

structure TrieDiff (Root : Type) where
  delta : List (Uuid × Option OrderbookItem)
  nextRoot : Root

structure TrieDiffHistory (Root : Type) where
  inner : TimeCache Root (TrieDiff Root)

def trieDiffHistoryCap : ℕ := 2048

def trieStateHistoryTimeout : ℕ := 14400

def trieOrderHistoryTimeout : ℕ := 300

section Store

variable {Root Db : Type} [DecidableEq Root]

namespace TrieDiffHistory

/-- The loop that removes the history from a root on.  A turn that goes on has
removed an entry, so one turn more than there are entries is enough.  Turn
number `n` reads the clock as `clock n`. -/
def removeChain (clock : ℕ → Instant) :
    ℕ → ℕ → Root → TimeCache Root (TrieDiff Root) → TimeCache Root (TrieDiff Root)
  | 0, _, _, inner => inner
  | fuel + 1, turn, root, inner =>
    match inner.remove (clock turn) root with
    | (none, inner) => inner
    | (some nextDiff, inner) => removeChain clock fuel (turn + 1) nextDiff.nextRoot inner

/-- The loop that drops the oldest deltas above the cap, with the number of
dropped ones. -/
def evictOldest : ℕ → TimeCache Root (TrieDiff Root) → ℕ × TimeCache Root (TrieDiff Root)
  | 0, inner => (0, inner)
  | fuel + 1, inner =>
    if trieDiffHistoryCap < inner.len then
      match inner.popOldest with
      | (none, inner) => (0, inner)
      | (some _, inner) =>
        let (evicted, inner) := evictOldest fuel inner
        (evicted + 1, inner)
    else (0, inner)

def insertNewDiff (clock : ℕ → Instant) (insertAt : Root)
    (diff : TrieDiff Root) (history : TrieDiffHistory Root) : ℕ × TrieDiffHistory Root :=
  if insertAt = diff.nextRoot then (0, history)
  else
    match history.inner.remove (clock 0) diff.nextRoot with
    | (some found, inner) => (0, ⟨removeChain clock (inner.len + 1) 1 found.nextRoot inner⟩)
    | (none, inner) =>
      let inner := (inner.insert (clock 1) insertAt diff).2
      let (evicted, inner) := evictOldest (inner.len + 1) inner
      (evicted, ⟨inner⟩)

def get (root : Root) (history : TrieDiffHistory Root) : Option (TrieDiff Root) :=
  history.inner.get root

end TrieDiffHistory

/-! ## Answers from a history -/

inductive DeltaOrFullTrie (Value : Type) where
  | delta (orders : List (Uuid × Option Value))
  | fullTrie (values : List (Uuid × Value))
  deriving DecidableEq

inductive TrieDiffHistoryError where
  | trieDbError
  | getterNoneForKeyFromTrie
  deriving DecidableEq

inductive MissingValue where
  | fail
  | skip
  deriving DecidableEq

section Answers

variable (lib : TrieLib Root Db Uuid OrderbookP2PItem)
  (getter : Uuid → Option OrderbookItem) (onMissing : MissingValue)

def collectValues : List Uuid → Except TrieDiffHistoryError (List (Uuid × OrderbookItem))
  | [] => .ok []
  | key :: rest =>
    match getter key, onMissing with
    | some value, _ => (collectValues rest).map fun tail => (key, value) :: tail
    | none, .skip => collectValues rest
    | none, .fail => .error .getterNoneForKeyFromTrie

def getFullTrie (trieRoot : Root) (db : Db) :
    Except TrieDiffHistoryError (List (Uuid × OrderbookItem)) :=
  match lib.keys db trieRoot with
  | none => .error .trieDbError
  | some keys => collectValues getter onMissing keys

/-- `none` is a walk along the history that is not over within the fuel. -/
def DeltaOrFullTrie.fromHistory (fuel : ℕ) (history : TrieDiffHistory Root)
    (fromHash actualTrieRoot : Root) (db : Db) :
    Option (Except TrieDiffHistoryError (DeltaOrFullTrie OrderbookItem)) :=
  let full := (getFullTrie lib getter onMissing actualTrieRoot db).map DeltaOrFullTrie.fullTrie
  match history.get fromHash with
  | none => some full
  | some first =>
    (walk TrieDiff.nextRoot (fun root => history.get root)
        (fun total diff => HashMap.extend total diff.delta) fuel first
        (HashMap.extend ∅ first.delta)).map
      fun (last, total) =>
        if last.nextRoot = actualTrieRoot then
          .ok (.delta (HashMap.toList total))
        else full

end Answers

/-! ## State of a pubkey -/

structure OrderbookPubkeyState (Root : Type) where
  lastKeepAlive : ℕ
  orderPairsTrieStateHistory : TimeCache String (TrieDiffHistory Root)
  ordersUuids : HashSet (Uuid × String)
  trieRoots : HashMap String Root

omit [DecidableEq Root] in
def OrderbookPubkeyState.withHistoryTimeout (ttl : Duration) (nowSecs : ℕ) :
    OrderbookPubkeyState Root where
  lastKeepAlive := nowSecs
  orderPairsTrieStateHistory := TimeCache.new ttl
  ordersUuids := ∅
  trieRoots := ∅

structure TrieStore (Root Db : Type) where
  pubkeysState : HashMap String (OrderbookPubkeyState Root)
  memoryDb : Db
  appliedBatches : ℕ
  leafUpdatesSincePurge : ℕ
  lastPurgeMs : ℕ
  earlyPurges : ℕ
  historyEvicted : ℕ
  pairLiveness : PairLiveness

omit [DecidableEq Root] in
def TrieStore.new (pairLivenessOn : Bool) (memoryDb : Db) : TrieStore Root Db where
  pubkeysState := ∅
  memoryDb
  appliedBatches := 0
  leafUpdatesSincePurge := 0
  lastPurgeMs := 0
  earlyPurges := 0
  historyEvicted := 0
  pairLiveness := PairLiveness.new pairLivenessOn

omit [DecidableEq Root] in
def TrieStore.pairHistory (pubkey albPair : String)
    (store : TrieStore Root Db) : Option (TrieDiffHistory Root) :=
  (store.pubkeysState.lookup pubkey).bind fun state => state.orderPairsTrieStateHistory.get albPair

structure OpClock where
  createdSecs : ℕ
  livenessSecs : ℕ
  pairHistory : Instant
  /-- The successive readings of `insertNewDiff`. -/
  diff : ℕ → Instant

def OrderbookItem.trieState (order : OrderbookItem) : OrderbookP2PItem :=
  order.toP2PItem

def pubkeyStateMut (nowSecs : ℕ) (pubkey : String)
    (state : HashMap String (OrderbookPubkeyState Root)) : OrderbookPubkeyState Root :=
  (state.lookup pubkey).getD
    (.withHistoryTimeout (durationFromSecs trieStateHistoryTimeout) nowSecs)

def pairHistoryMut (now : Instant) (pair : String)
    (histories : TimeCache String (TrieDiffHistory Root)) :
    TimeCache String (TrieDiffHistory Root) :=
  histories.orInsertWithUpdateExpiration now pair
    ⟨TimeCache.new (durationFromSecs trieOrderHistoryTimeout)⟩

def recordDiff (clock : OpClock) (pair : String) (insertAt : Root) (diff : TrieDiff Root)
    (histories : TimeCache String (TrieDiffHistory Root)) :
    ℕ × TimeCache String (TrieDiffHistory Root) :=
  let histories := pairHistoryMut clock.pairHistory pair histories
  match histories.get pair with
  | none => (0, histories)
  | some history =>
    let (evicted, history) := history.insertNewDiff clock.diff insertAt diff
    (evicted, histories.modify pair fun _ => history)

namespace TrieStore

variable (lib : TrieLib Root Db Uuid OrderbookP2PItem)

/-! ## Single events -/

def getTrieMut (root : Root) : Option Root :=
  if root = lib.zeroRoot then none else some root

def releasePairTrie (memoryDb : Db) (root : Root) : Db :=
  if root = lib.zeroRoot ∨ root = lib.hashedNullNode then memoryDb
  else
    match lib.keys memoryDb root with
    | none => memoryDb
    | some keys =>
      match lib.deltaTrieRoot memoryDb root (keys.map fun key => (key, none)) with
      | none => memoryDb
      | some (_, memoryDb) => memoryDb

def applyInsert (clock : OpClock) (pubkey albPair : String) (uuid : Uuid)
    (order : OrderbookItem) (store : TrieStore Root Db) : TrieStore Root Db :=
  let pubkeyState := pubkeyStateMut clock.createdSecs pubkey store.pubkeysState
  let prevRoot := (pubkeyState.trieRoots.lookup albPair).getD lib.zeroRoot
  let pubkeyState :=
    { pubkeyState with
      trieRoots := pubkeyState.trieRoots.insert albPair prevRoot
      ordersUuids := pubkeyState.ordersUuids.insert (uuid, albPair) () }
  let store :=
    { store with
      pubkeysState := store.pubkeysState.insert pubkey pubkeyState
      pairLiveness := store.pairLiveness.createIfAbsent pubkey albPair clock.livenessSecs }
  match lib.insert store.memoryDb (getTrieMut lib prevRoot) uuid order.trieState with
  | none => store
  | some (pairRoot, memoryDb) =>
    let pubkeyState :=
      { pubkeyState with
        trieRoots := pubkeyState.trieRoots.insert albPair pairRoot }
    let (evicted, histories) :=
      if prevRoot ≠ lib.zeroRoot then
        recordDiff clock albPair prevRoot ⟨[(uuid, some order)], pairRoot⟩
          pubkeyState.orderPairsTrieStateHistory
      else (0, pubkeyState.orderPairsTrieStateHistory)
    { store with
      memoryDb
      leafUpdatesSincePurge := store.leafUpdatesSincePurge + 1
      historyEvicted := store.historyEvicted + evicted
      pubkeysState := store.pubkeysState.insert pubkey
        { pubkeyState with orderPairsTrieStateHistory := histories } }

def applyRemove (clock : OpClock) (pubkey albPair : String) (uuid : Uuid)
    (store : TrieStore Root Db) : TrieStore Root Db :=
  let pubkeyState := pubkeyStateMut clock.createdSecs pubkey store.pubkeysState
  let oldState := (pubkeyState.trieRoots.lookup albPair).getD lib.zeroRoot
  let pubkeyState :=
    { pubkeyState with
      trieRoots := pubkeyState.trieRoots.insert albPair oldState
      ordersUuids := pubkeyState.ordersUuids.erase (uuid, albPair) }
  let store :=
    { store with
      pubkeysState := store.pubkeysState.insert pubkey pubkeyState
      pairLiveness := store.pairLiveness.createIfAbsent pubkey albPair clock.livenessSecs }
  match lib.deltaTrieRoot store.memoryDb oldState [(uuid, none)] with
  | none => store
  | some (pairState, memoryDb) =>
    let pubkeyState :=
      { pubkeyState with
        trieRoots := pubkeyState.trieRoots.insert albPair pairState }
    let (evicted, histories) :=
      if (pubkeyState.orderPairsTrieStateHistory.get albPair).isSome then
        recordDiff clock albPair oldState ⟨[(uuid, none)], pairState⟩
          pubkeyState.orderPairsTrieStateHistory
      else (0, pubkeyState.orderPairsTrieStateHistory)
    { store with
      memoryDb
      leafUpdatesSincePurge := store.leafUpdatesSincePurge + 1
      historyEvicted := store.historyEvicted + evicted
      pubkeysState := store.pubkeysState.insert pubkey
        { pubkeyState with orderPairsTrieStateHistory := histories } }

def applyClearPair (now : Instant) (pubkey albPair : String)
    (store : TrieStore Root Db) : TrieStore Root Db :=
  let store :=
    { store with
      pairLiveness := store.pairLiveness.clearPair pubkey albPair }
  match store.pubkeysState.lookup pubkey with
  | none => store
  | some pubkeyState =>
    let cleared :=
      { pubkeyState with
        orderPairsTrieStateHistory := (pubkeyState.orderPairsTrieStateHistory.remove now albPair).2
        ordersUuids := HashMap.retain (fun key _ => key.2 ≠ albPair) pubkeyState.ordersUuids
        trieRoots := pubkeyState.trieRoots.erase albPair }
    { store with
      pubkeysState := store.pubkeysState.insert pubkey cleared
      memoryDb :=
        match pubkeyState.trieRoots.lookup albPair with
        | none => store.memoryDb
        | some root => releasePairTrie lib store.memoryDb root }

def applyRemovePubkey (pubkey : String) (store : TrieStore Root Db) : TrieStore Root Db :=
  let store :=
    { store with pairLiveness := store.pairLiveness.clearPubkey pubkey }
  match store.pubkeysState.lookup pubkey with
  | none => store
  | some state =>
    { store with
      pubkeysState := store.pubkeysState.erase pubkey
      memoryDb := (HashMap.values state.trieRoots).foldl (releasePairTrie lib) store.memoryDb }

/-! ## Batches -/

structure UuidPending where
  insert : Option (ℕ × OrderbookItem) := none
  remove : Option ℕ := none

structure Group where
  /-- Some event touched the pubkey state, possibly discarded by a clear. -/
  touched : Bool := false
  clear : Bool := false
  pending : HashMap Uuid UuidPending := ∅

abbrev GroupKey := String × String

/-- The readings for the event with a sequence number, and for a group when
the event with that number makes the store apply it. -/
abbrev BatchClock := ℕ → GroupKey → OpClock

def Group.inserts (g : Group) : List (ℕ × Uuid × OrderbookItem) :=
  (g.pending.entries.filterMap fun entry =>
      entry.2.insert.map fun (seq, order) => (seq, entry.1, order)).insertionSort
    fun first second => first.1 ≤ second.1

def Group.removes (g : Group) : List (ℕ × Uuid) :=
  (g.pending.entries.filterMap fun entry =>
      entry.2.remove.map fun seq => (seq, entry.1)).insertionSort
    fun first second => first.1 ≤ second.1

def applyGroup (clock : BatchClock) (seqNow : ℕ) (store : TrieStore Root Db)
    (entry : GroupKey × Group) : TrieStore Root Db :=
  let (key, g) := entry
  let store :=
    if g.touched then
      { store with
        pubkeysState := store.pubkeysState.insert key.1
          (pubkeyStateMut (clock seqNow key).createdSecs key.1 store.pubkeysState) }
    else store
  let store :=
    if g.clear then
      applyClearPair lib (clock seqNow key).pairHistory key.1 key.2 store
    else store
  let store := g.inserts.foldl
    (fun store (seq, uuid, order) =>
      applyInsert lib (clock seq key) key.1 key.2 uuid order store) store
  g.removes.foldl
    (fun store (seq, uuid) => applyRemove lib (clock seq key) key.1 key.2 uuid store) store

abbrev GroupIter := List (GroupKey × Group) → List (GroupKey × Group)

def groupList (groups : HashMap GroupKey Group) : List (GroupKey × Group) :=
  groups.entries.map fun entry => (entry.1, entry.2)

def groupAt (key : GroupKey) (groups : HashMap GroupKey Group) : Group :=
  (groups.lookup key).getD {}

structure BatchState (Root Db : Type) where
  store : TrieStore Root Db
  groups : HashMap GroupKey Group
  seq : ℕ

def batchStep (iter : GroupIter) (clock : BatchClock)
    (s : BatchState Root Db) (op : TrieOp) : BatchState Root Db :=
  let seq := s.seq + 1
  match op with
  | .clearPair pubkey albPair =>
    let g := groupAt (pubkey, albPair) s.groups
    { s with
      seq
      groups := s.groups.insert (pubkey, albPair) { g with clear := true, pending := ∅ } }
  | .insert pubkey albPair uuid order =>
    let g := groupAt (pubkey, albPair) s.groups
    { s with
      seq
      groups := s.groups.insert (pubkey, albPair)
        { g with
          touched := true
          pending := g.pending.insert uuid { insert := some (seq, order), remove := none } } }
  | .remove pubkey albPair uuid =>
    let g := groupAt (pubkey, albPair) s.groups
    { s with
      seq
      groups := s.groups.insert (pubkey, albPair)
        { g with
          touched := true
          pending := g.pending.insert uuid
            { (g.pending.lookup uuid).getD {} with remove := some seq } } }
  | .removePubkey pubkey =>
    let due := (iter (groupList s.groups)).filter fun entry =>
      entry.1.1 = pubkey
    { seq
      groups := HashMap.retain (fun key _ => key.1 ≠ pubkey) s.groups
      store := applyRemovePubkey lib pubkey (due.foldl (applyGroup lib clock seq) s.store) }

def applyOps (iter : GroupIter) (clock : BatchClock) (ops : List TrieOp)
    (store : TrieStore Root Db) : TrieStore Root Db :=
  let s := ops.foldl (batchStep lib iter clock) { store, groups := ∅, seq := 0 }
  (iter (groupList s.groups)).foldl (applyGroup lib clock (s.seq + 1)) s.store

def applyBatches (iter : GroupIter) (clock : BatchClock)
    (batches : List (List TrieOp)) (store : TrieStore Root Db) : TrieStore Root Db :=
  let store := applyOps lib iter clock batches.flatten store
  { store with appliedBatches := store.appliedBatches + batches.length }

/-! ## Upkeep -/

def earlyPurgeLeafUpdates : ℕ := 100000

def earlyPurgeMinIntervalMs : ℕ := 5000

def purgeIfLoaded (nowMs : ℕ) (store : TrieStore Root Db) : Bool × TrieStore Root Db :=
  if store.leafUpdatesSincePurge < earlyPurgeLeafUpdates ∨
      nowMs - store.lastPurgeMs < earlyPurgeMinIntervalMs then
    (false, store)
  else
    (true,
      { store with
        memoryDb := lib.purge store.memoryDb
        leafUpdatesSincePurge := 0
        lastPurgeMs := nowMs
        earlyPurges := store.earlyPurges + 1 })

def purgeMemoryDb (nowMs : ℕ) (store : TrieStore Root Db) : TrieStore Root Db :=
  { store with
    memoryDb := lib.purge store.memoryDb
    leafUpdatesSincePurge := 0
    lastPurgeMs := nowMs }

/-- `pairsNow` and `diffsNow` are the clock readings for the histories of a
pubkey and for the history of one of its pairs. -/
def expireHistories (pairsNow : String → Instant)
    (diffsNow : String → String → Instant) (store : TrieStore Root Db) : TrieStore Root Db :=
  { store with
    pubkeysState := HashMap.mapValues
      (fun pubkey pubkeyState =>
        { pubkeyState with
          orderPairsTrieStateHistory :=
            (pubkeyState.orderPairsTrieStateHistory.removeExpired (pairsNow pubkey)).valuesMut
              fun pair history => ⟨history.inner.removeExpired (diffsNow pubkey pair)⟩ })
      store.pubkeysState }

end TrieStore

end Store

end KdfProtocol
