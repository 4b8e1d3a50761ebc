import KdfProtocol.OrderbookItem
import KdfProtocol.SortedSet
import KdfProtocol.TimeCache
import Mathlib.Data.Prod.Lex

/-!
# The order book index

The index holds every order three times: by uuid in `orderSet`, by pair and
price in `ordered`, and by pair in `unordered`.  The operations below change
the three together and return the trie events that the trie store applies
later.
-/

namespace KdfProtocol

structure OrderedByPriceOrder where
  price : MmNumber
  uuid : Uuid
  deriving DecidableEq

namespace OrderedByPriceOrder

def toLexPair (entry : OrderedByPriceOrder) : ℚ ×ₗ Uuid :=
  toLex (entry.price, entry.uuid)

theorem toLexPair_injective : Function.Injective toLexPair := by
  intro first second heq
  obtain ⟨hprice, huuid⟩ := Prod.mk.inj (toLex.injective heq)
  cases first
  cases second
  simp_all

instance : LinearOrder OrderedByPriceOrder :=
  LinearOrder.lift' toLexPair toLexPair_injective

end OrderedByPriceOrder

def recentlyCancelledTimeout : Duration := durationFromSecs 120

abbrev Pair := String × String

structure Orderbook where
  ordered : HashMap Pair (SortedSet OrderedByPriceOrder)
  pairsExistingForBase : HashMap String (HashSet String)
  pairsExistingForRel : HashMap String (HashSet String)
  unordered : HashMap Pair (HashSet Uuid)
  orderSet : HashMap Uuid OrderbookItem
  recentlyCancelled : TimeCache (Uuid × String) Unit
  cancelGuardMaxEntries : ℕ
  myP2pPubkeys : HashSet String
  trieOpsEnqueued : ℕ

def OrderbookItem.pair (order : OrderbookItem) : Pair := (order.base, order.rel)

def OrderbookItem.priceEntry (order : OrderbookItem) : OrderedByPriceOrder where
  price := order.price
  uuid := order.uuid

def OrderbookItem.Untradable (order : OrderbookItem) : Prop :=
  order.maxVolume ≤ 0 ∨ order.price ≤ 0 ∨ order.minVolume < 0

instance (order : OrderbookItem) : Decidable order.Untradable :=
  inferInstanceAs (Decidable (_ ∨ _ ∨ _))

namespace Orderbook

def new (cancelFinalWindow : Duration) (cancelGuardMaxEntries : ℕ) : Orderbook where
  ordered := ∅
  pairsExistingForBase := ∅
  pairsExistingForRel := ∅
  unordered := ∅
  orderSet := ∅
  recentlyCancelled := TimeCache.new cancelFinalWindow
  cancelGuardMaxEntries
  myP2pPubkeys := ∅
  trieOpsEnqueued := 0

/-! ## Cancellation guard -/

/-- The loop of `enforceCancelGuardCap`; turn `n` reads the clock as
`clock n`. -/
def enforceCancelGuardCapLoop (clock : ℕ → Instant) (maxEntries : ℕ) :
    ℕ → ℕ → TimeCache (Uuid × String) Unit → TimeCache (Uuid × String) Unit
  | 0, _, guarded => guarded
  | fuel + 1, turn, guarded =>
    if maxEntries < guarded.len then
      match guarded.popOldestAtLeast (clock turn) recentlyCancelledTimeout with
      | (none, guarded) => guarded
      | (some _, guarded) => enforceCancelGuardCapLoop clock maxEntries fuel (turn + 1) guarded
    else guarded

-- A turn that goes on has removed an entry, so as many turns as there are
-- entries are enough.
def enforceCancelGuardCap (clock : ℕ → Instant) (ob : Orderbook) : Orderbook :=
  { ob with
    recentlyCancelled :=
      enforceCancelGuardCapLoop clock ob.cancelGuardMaxEntries
        ob.recentlyCancelled.len 0 ob.recentlyCancelled }

def recordCancel (clock : ℕ → Instant) (uuid : Uuid) (pubkey : String)
    (ob : Orderbook) : Orderbook :=
  enforceCancelGuardCap (fun turn => clock (turn + 1))
    { ob with
      recentlyCancelled := (ob.recentlyCancelled.insert (clock 0) (uuid, pubkey) ()).2 }

def cancelGuarded (now : Instant) (order : OrderbookItem) (ob : Orderbook) : Bool :=
  (ob.recentlyCancelled.getUnexpired now (order.uuid, order.pubkey)).isSome

variable (pair : Pair) (uuid : Uuid) (pubkey albPair : String) (ob : Orderbook)

def findOrderByUuidAndPubkey (fromPubkey : String) (ob : Orderbook) : Option OrderbookItem :=
  (ob.orderSet.lookup uuid).filter fun order => order.pubkey = fromPubkey

/-! ## Index operations -/

def orderedAt : SortedSet OrderedByPriceOrder :=
  (ob.ordered.lookup pair).getD ∅

def unorderedAt : HashSet Uuid :=
  (ob.unordered.lookup pair).getD ∅

def replacePriceEntry (order : OrderbookItem) (ordered : SortedSet OrderedByPriceOrder) :
    SortedSet OrderedByPriceOrder :=
  let existing := ordered.find fun maybeExisting =>
    maybeExisting.uuid = order.uuid
  let ordered :=
    match existing with
    | some exists_ => ordered.erase exists_
    | none => ordered
  ordered.insert order.priceEntry

def indexInsertOrUpdateInner (order : OrderbookItem) (ob : Orderbook) : Orderbook :=
  { ob with
    ordered := ob.ordered.insert order.pair (replacePriceEntry order (ob.orderedAt order.pair))
    pairsExistingForBase := ob.pairsExistingForBase.insert order.base
      (((ob.pairsExistingForBase.lookup order.base).getD ∅).insert order.rel ())
    pairsExistingForRel := ob.pairsExistingForRel.insert order.rel
      (((ob.pairsExistingForRel.lookup order.rel).getD ∅).insert order.base ())
    unordered := ob.unordered.insert order.pair ((ob.unorderedAt order.pair).insert order.uuid ())
    orderSet := ob.orderSet.insert order.uuid order }

def indexRemove : Option (OrderbookItem × TrieOp) × Orderbook :=
  match ob.orderSet.lookup uuid with
  | none => (none, ob)
  | some order =>
    let orderToDelete : OrderedByPriceOrder := ⟨order.price, uuid⟩
    let op := TrieOp.remove order.pubkey (albOrderedPair order.base order.rel) uuid
    (some (order, op),
      { ob with
        orderSet := ob.orderSet.erase uuid
        ordered := ob.ordered.updateOrDrop order.pair
          (fun orders => orders.erase orderToDelete) SortedSet.isEmpty
        unordered := ob.unordered.updateOrDrop order.pair
          (fun orders => orders.erase uuid) HashSet.isEmpty })

def indexInsertOrUpdate (now : Instant) (order : OrderbookItem)
    (ob : Orderbook) : List TrieOp × Orderbook :=
  if ob.cancelGuarded now order then ([], ob)
  else if order.Untradable then
    match ob.indexRemove order.uuid with
    | (some (_, op), ob) => ([op], ob)
    | (none, ob) => ([], ob)
  else
    ([TrieOp.insert order.pubkey (albOrderedPair order.base order.rel) order.uuid order],
      ob.indexInsertOrUpdateInner order)

theorem indexInsertOrUpdate_snd (now : Instant) (order : OrderbookItem) (ob : Orderbook) :
    (ob.indexInsertOrUpdate now order).2 =
      if ob.cancelGuarded now order then ob
      else if order.Untradable then (ob.indexRemove order.uuid).2
      else ob.indexInsertOrUpdateInner order := by
  unfold indexInsertOrUpdate
  split
  · rfl
  · split
    · rcases ob.indexRemove order.uuid with ⟨removed, next⟩
      cases removed <;> rfl
    · rfl

def pubkeyPairOrderUuids : List Uuid :=
  match splitOnceColon albPair with
  | none => []
  | some (base, rel) =>
    [(base, rel), (rel, base)].flatMap fun pair =>
      (ob.unorderedAt pair).keys.filter fun uuid =>
        (ob.orderSet.lookup uuid).any fun order => order.pubkey = pubkey

def pubkeyHasOrderOnPair : Bool :=
  !(ob.pubkeyPairOrderUuids pubkey albPair).isEmpty

def indexRemoveIfOwned (pubkey : String) (ob : Orderbook) (uuid : Uuid) : Orderbook :=
  match ob.orderSet.lookup uuid with
  | none => ob
  | some order =>
    if order.pubkey = pubkey then (ob.indexRemove uuid).2 else ob

def indexRemovePubkeyDirection (pubkey : String) (ob : Orderbook) (pair : Pair) : Orderbook :=
  (ob.unorderedAt pair).keys.foldl (indexRemoveIfOwned pubkey) ob

-- The second direction reads the index that the first one leaves.
def indexRemovePubkeyPairOrders : Orderbook :=
  match splitOnceColon albPair with
  | none => ob
  | some (base, rel) => [(base, rel), (rel, base)].foldl (indexRemovePubkeyDirection pubkey) ob

/-! ## Reading the orders of a pair -/

structure GetPubkeysOrdersRes where
  totalNumberOfOrders : ℕ
  uuidsByPubkey : HashMap String (List (Uuid × OrderbookP2PItem))
  protocolInfos : HashMap Uuid BaseRelProtocolInfo
  confInfos : HashMap Uuid OrderConfirmationsSettings

/-- One turn of the reading loop; `none` is the panic of its `expect`. -/
def collectPubkeyOrder (res : GetPubkeysOrdersRes) (uuid : Uuid) : Option GetPubkeysOrdersRes := do
  let order ← ob.orderSet.lookup uuid
  let uuids := (res.uuidsByPubkey.lookup order.pubkey).getD []
  pure
    { res with
      uuidsByPubkey := res.uuidsByPubkey.insert order.pubkey (uuids ++ [(uuid, order.toP2PItem)])
      protocolInfos := res.protocolInfos.insert order.uuid order.baseRelProtoInfo
      confInfos :=
        match order.confSettings with
        | some info => res.confInfos.insert order.uuid info
        | none => res.confInfos }

def getPubkeysOrders (base rel : String) (ob : Orderbook) : Option GetPubkeysOrdersRes :=
  let asks := (ob.unorderedAt (base, rel)).keys
  let bids := (ob.unorderedAt (rel, base)).keys
  (asks ++ bids).foldlM ob.collectPubkeyOrder
    { totalNumberOfOrders := asks.length + bids.length
      uuidsByPubkey := ∅
      protocolInfos := ∅
      confInfos := ∅ }

end Orderbook

end KdfProtocol
