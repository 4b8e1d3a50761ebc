import KdfProtocol.OrderbookIndexAgreement
import KdfProtocol.TrieStore

/-!
# Order messages and synchronization answers

A message is processed under the pubkey its signature verified for.  A
synchronization answer is applied for the pubkey it was asked for, but its
orders carry the pubkeys and uuids that the answering peer chose.
-/

namespace KdfProtocol

structure OrdermatchContext (Root Db : Type) where
  orderbook : Orderbook
  /-- The store holds the liveness instants that it shares with the context. -/
  trieStore : TrieStore Root Db
  /-- The queue to the trie worker, and whether the worker still reads it. -/
  trieOps : List (List TrieOp)
  trieOpsOpen : Bool
  orderMessagesRefreshLiveness : Bool

/-- The answer to a synchronization request, in the order in which the node
iterates over its tables. -/
structure SyncPubkeyOrderbookStateRes where
  pairOrdersDiff : List (String × DeltaOrFullTrie OrderbookP2PItem)
  protocolInfos : HashMap Uuid BaseRelProtocolInfo
  confInfos : HashMap Uuid OrderConfirmationsSettings

structure MakerOrderCreated where
  uuid : Uuid
  base : String
  rel : String
  price : ℚ
  maxVolume : ℚ
  minVolume : ℚ
  createdAt : ℕ
  confSettings : OrderConfirmationsSettings
  baseProtocolInfo : Bytes
  relProtocolInfo : Bytes

def MakerOrderCreated.toOrderbookItem (order : MakerOrderCreated)
    (pubkey : String) : OrderbookItem where
  pubkey
  base := order.base
  rel := order.rel
  price := order.price
  maxVolume := order.maxVolume
  minVolume := order.minVolume
  uuid := order.uuid
  createdAt := order.createdAt
  baseProtocolInfo := order.baseProtocolInfo
  relProtocolInfo := order.relProtocolInfo
  confSettings := some order.confSettings

inductive OrderMessage where
  | makerOrderCreated (msg : MakerOrderCreated)
  | makerOrderUpdated (msg : MakerOrderUpdated)
  | makerOrderCancelled (uuid : Uuid)

/-! ## Answers -/

structure ProcessTrieParams where
  pubkey : String
  albPair : String
  protocolInfos : HashMap Uuid BaseRelProtocolInfo
  confInfos : HashMap Uuid OrderConfirmationsSettings

/-- The item of an answer's entry; the key of the entry only selects the
additional information. -/
def ProcessTrieParams.item (params : ProcessTrieParams) (uuid : Uuid)
    (order : OrderbookP2PItem) : OrderbookItem :=
  .fromP2pAndInfo order ((params.protocolInfos.lookup uuid).getD {}) (params.confInfos.lookup uuid)

def insertAnswerOrders (params : ProcessTrieParams) :
    (ℕ → Instant) → List (Uuid × OrderbookP2PItem) → Orderbook → List TrieOp × Orderbook
  | _, [], ob => ([], ob)
  | clock, (uuid, order) :: rest, ob =>
    let (insertOps, ob) :=
      ob.indexInsertOrUpdate (clock 0) (params.item uuid order)
    let (ops, ob) :=
      insertAnswerOrders params (fun n => clock (n + 1)) rest ob
    (insertOps ++ ops, ob)

def processPubkeyFullTrie (params : ProcessTrieParams) (clock : ℕ → Instant)
    (newTrieOrders : List (Uuid × OrderbookP2PItem)) (ob : Orderbook) : List TrieOp × Orderbook :=
  let ob := ob.indexRemovePubkeyPairOrders params.pubkey params.albPair
  let (ops, ob) := insertAnswerOrders params clock newTrieOrders ob
  (.clearPair params.pubkey params.albPair :: ops, ob)

def processTrieDelta (params : ProcessTrieParams) :
    (ℕ → Instant) → List (Uuid × Option OrderbookP2PItem) → Orderbook → List TrieOp × Orderbook
  | _, [], ob => ([], ob)
  | clock, (uuid, maybeOrder) :: rest, ob =>
    let (entryOps, ob) :=
      match maybeOrder with
      | some order => ob.indexInsertOrUpdate (clock 0) (params.item uuid order)
      | none =>
        match ob.indexRemove uuid with
        | (some (_, op), ob) => ([op], ob)
        | (none, ob) => ([], ob)
    let (ops, ob) := processTrieDelta params (fun n => clock (n + 1)) rest ob
    (entryOps ++ ops, ob)

def processDiff (params : ProcessTrieParams) (clock : ℕ → Instant)
    (diff : DeltaOrFullTrie OrderbookP2PItem) (ob : Orderbook) : List TrieOp × Orderbook :=
  match diff with
  | .delta orders => processTrieDelta params clock orders ob
  | .fullTrie values => processPubkeyFullTrie params clock values ob

def DeltaOrFullTrie.isDelta {Value : Type} : DeltaOrFullTrie Value → Bool
  | .delta _ => true
  | .fullTrie _ => false

def SyncPubkeyOrderbookStateRes.params (response : SyncPubkeyOrderbookStateRes)
    (pubkey albPair : String) : ProcessTrieParams where
  pubkey
  albPair
  protocolInfos := response.protocolInfos
  confInfos := response.confInfos

structure SyncAnswerOps where
  ops : List TrieOp := []
  pairsLeftWithOrders : List String := []

def syncAnswerLoop (livenessOn : Bool) (pubkey : String) (response : SyncPubkeyOrderbookStateRes) :
    (ℕ → ℕ → Instant) → List (String × DeltaOrFullTrie OrderbookP2PItem) →
      Orderbook → SyncAnswerOps × Orderbook
  | _, [], ob => ({}, ob)
  | clock, (pair, diff) :: rest, ob =>
    let (pairOps, ob) :=
      processDiff (response.params pubkey pair) (clock 0) diff ob
    let left := livenessOn && diff.isDelta &&
      !pairOps.any TrieOp.isInsert && ob.pubkeyHasOrderOnPair pubkey pair
    let (tail, ob) := syncAnswerLoop livenessOn pubkey response (fun n => clock (n + 1)) rest ob
    ({ ops := pairOps ++ tail.ops
       pairsLeftWithOrders :=
        if left then pair :: tail.pairsLeftWithOrders
        else tail.pairsLeftWithOrders }, ob)

namespace OrdermatchContext

variable {Root Db : Type}

def new (cancelFinalWindow : Duration) (cancelGuardMaxEntries : ℕ)
    (pairLivenessOn orderMessagesRefreshLiveness : Bool) (memoryDb : Db) :
    OrdermatchContext Root Db where
  orderbook := Orderbook.new cancelFinalWindow cancelGuardMaxEntries
  trieStore := TrieStore.new pairLivenessOn memoryDb
  trieOps := []
  trieOpsOpen := true
  orderMessagesRefreshLiveness

def queueTrieOps (ops : List TrieOp) (ctx : OrdermatchContext Root Db) :
    OrdermatchContext Root Db :=
  if ops.isEmpty then ctx
  else if ctx.trieOpsOpen then
    { ctx with
      trieOps := ctx.trieOps ++ [ops]
      orderbook :=
        { ctx.orderbook with
          trieOpsEnqueued := ctx.orderbook.trieOpsEnqueued + 1 } }
  else ctx

def updateLiveness (f : PairLiveness → PairLiveness)
    (ctx : OrdermatchContext Root Db) : OrdermatchContext Root Db :=
  { ctx with
    trieStore := { ctx.trieStore with pairLiveness := f ctx.trieStore.pairLiveness } }

def applySyncAnswer (clock : ℕ → ℕ → Instant) (nowSecs : ℕ) (pubkey : String)
    (response : SyncPubkeyOrderbookStateRes)
    (ctx : OrdermatchContext Root Db) : ℕ × OrdermatchContext Root Db :=
  let (collected, orderbook) :=
    syncAnswerLoop ctx.trieStore.pairLiveness.isOn pubkey response clock
      response.pairOrdersDiff ctx.orderbook
  let ctx := { ctx with orderbook }
  let ctx := ctx.updateLiveness fun liveness =>
    collected.pairsLeftWithOrders.foldl (fun liveness pair => liveness.touch pubkey pair nowSecs)
      (liveness.touchInserts collected.ops nowSecs)
  let ctx := ctx.queueTrieOps collected.ops
  (ctx.orderbook.trieOpsEnqueued, ctx)

/-! ## Messages -/

structure MsgClock where
  /-- The readings of the index and of the cancellation guard. -/
  index : ℕ → Instant
  livenessSecs : ℕ
  refreshSecs : ℕ

def insertOrUpdateOrder (clock : MsgClock) (item : OrderbookItem)
    (ctx : OrdermatchContext Root Db) : OrdermatchContext Root Db :=
  let (ops, orderbook) :=
    ctx.orderbook.indexInsertOrUpdate (clock.index 0) item
  let ctx := { ctx with orderbook }
  let ctx := ctx.updateLiveness (·.touchInserts ops clock.livenessSecs)
  ctx.queueTrieOps ops

def processMakerOrderUpdated (clock : MsgClock) (fromPubkey : String)
    (updatedMsg : MakerOrderUpdated) (ctx : OrdermatchContext Root Db) :
    Bool × OrdermatchContext Root Db :=
  match ctx.orderbook.findOrderByUuidAndPubkey updatedMsg.uuid fromPubkey with
  | some order => (true, ctx.insertOrUpdateOrder clock (order.applyUpdated updatedMsg))
  | none => (false, ctx)

def deleteOrder (clock : MsgClock) (pubkey : String) (uuid : Uuid)
    (ctx : OrdermatchContext Root Db) : OrdermatchContext Root Db :=
  let ctx :=
    { ctx with orderbook := ctx.orderbook.recordCancel clock.index uuid pubkey }
  match ctx.orderbook.orderSet.lookup uuid with
  | none => ctx
  | some order =>
    if order.pubkey = pubkey then
      match ctx.orderbook.indexRemove uuid with
      | (some (_, op), orderbook) => ({ ctx with orderbook }).queueTrieOps [op]
      | (none, orderbook) => { ctx with orderbook }
    else ctx

def refreshLivenessFromOrderMessage (nowSecs : ℕ) (pubkey : String)
    (ctx : OrdermatchContext Root Db) : OrdermatchContext Root Db :=
  if !ctx.orderMessagesRefreshLiveness then ctx
  else
    match ctx.trieStore.pubkeysState.lookup pubkey with
    | none => ctx
    | some state =>
      { ctx with
        trieStore :=
          { ctx.trieStore with
            pubkeysState := ctx.trieStore.pubkeysState.insert pubkey
              { state with lastKeepAlive := nowSecs } } }

/-- A decoded order message; `banned` is what the ban list says of the
pubkey.  The flag of the result tells whether to propagate the message. -/
def processMsg (clock : MsgClock) (banned : Bool) (pubkey : String)
    (msg : OrderMessage) (ctx : OrdermatchContext Root Db) : Bool × OrdermatchContext Root Db :=
  if banned then (false, ctx)
  else
    match msg with
    | .makerOrderCreated createdMsg =>
      let ctx := ctx.insertOrUpdateOrder clock (createdMsg.toOrderbookItem pubkey)
      (true, ctx.refreshLivenessFromOrderMessage clock.refreshSecs pubkey)
    | .makerOrderCancelled uuid =>
      let ctx := ctx.deleteOrder clock pubkey uuid
      (true, ctx.refreshLivenessFromOrderMessage clock.refreshSecs pubkey)
    | .makerOrderUpdated updatedMsg =>
      match ctx.processMakerOrderUpdated clock pubkey updatedMsg with
      | (true, ctx) => (true, ctx.refreshLivenessFromOrderMessage clock.refreshSecs pubkey)
      | (false, ctx) => (false, ctx)

end OrdermatchContext

end KdfProtocol
