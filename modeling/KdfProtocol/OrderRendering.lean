import KdfProtocol.OrderOwnership
import KdfProtocol.TakerNode

/-!
# Orders in the answers of the RPC methods

`orderbook` shows the orders of the index, `best_orders` the orders of a
relay's answer as they came.  An ask is shown with its own price, a bid with
the inverse, which a price of zero does not have.
-/

namespace KdfProtocol

/-! ## Entries -/

inductive OrderbookAddress where
  | transparent (address : String)
  | shielded
  deriving DecidableEq

def OrderbookAddress.intoLegacyString : OrderbookAddress → String
  | .transparent address => address
  | .shielded => "Shielded"

/-- The numbers of an entry; the source shows each as a decimal, as a ratio and
as a fraction. -/
structure EntryNumbers where
  price : ℚ
  baseMaxVolume : ℚ
  baseMinVolume : ℚ
  relMaxVolume : ℚ
  relMinVolume : ℚ
  deriving DecidableEq

def askNumbers (price maxVolume minVolume : ℚ) : EntryNumbers where
  price
  baseMaxVolume := maxVolume
  baseMinVolume := minVolume
  relMaxVolume := maxVolume * price
  relMinVolume := minVolume * price

def bidNumbers {E : Type} (price maxVolume minVolume : ℚ) : Fallible E EntryNumbers := do
  let priceMm ← divide 1 price
  let baseMaxVolume ← divide maxVolume priceMm
  let baseMinVolume ← divide minVolume priceMm
  pure
    { price := priceMm
      baseMaxVolume
      baseMinVolume
      relMaxVolume := maxVolume
      relMinVolume := minVolume }

theorem bidNumbers_isOk {E : Type} (price maxVolume minVolume : ℚ) :
    (∃ numbers, (bidNumbers price maxVolume minVolume :
        Fallible E EntryNumbers) = .ok numbers) ↔ price ≠ 0 := by
  by_cases hprice : price = 0
  · simp [bidNumbers, divide, hprice, bind, Except.bind]
  · simp [bidNumbers, divide, hprice, bind, Except.bind, pure, Except.pure]

structure RpcOrderbookEntry where
  coin : String
  address : String
  numbers : EntryNumbers
  maxVolume : ℚ
  minVolume : ℚ
  pubkey : String
  age : ℕ
  zcredits : ℕ
  uuid : Uuid
  isMine : Bool
  confSettings : Option OrderConfirmationsSettings
  deriving DecidableEq

structure RpcOrderbookEntryV2 where
  coin : String
  address : OrderbookAddress
  numbers : EntryNumbers
  pubkey : String
  uuid : Uuid
  isMine : Bool
  confSettings : Option OrderConfirmationsSettings
  deriving DecidableEq

namespace OrderbookP2PItem

variable (order : OrderbookP2PItem)
  (confSettings : Option OrderConfirmationsSettings) (isMine : Bool)

/-- The legacy entry of the order; `nowMs` is the clock reading for the age. -/
def rpcEntry (nowMs : ℕ) (coin address : String) (numbers : EntryNumbers) : RpcOrderbookEntry :=
  { coin
    address
    numbers
    maxVolume := order.maxVolume
    minVolume := order.minVolume
    pubkey := order.pubkey
    age := nowMs / 1000
    zcredits := 0
    uuid := order.uuid
    isMine
    confSettings }

def rpcEntryV2 (coin : String) (address : OrderbookAddress)
    (numbers : EntryNumbers) : RpcOrderbookEntryV2 :=
  { coin
    address
    numbers
    pubkey := order.pubkey
    uuid := order.uuid
    isMine
    confSettings }

def asRpcBestOrdersBuy (nowMs : ℕ) (address : String) : RpcOrderbookEntry :=
  order.rpcEntry confSettings isMine nowMs order.rel address
    (askNumbers order.price order.maxVolume order.minVolume)

def asRpcBestOrdersBuyV2 (address : OrderbookAddress) : RpcOrderbookEntryV2 :=
  order.rpcEntryV2 confSettings isMine order.rel address
    (askNumbers order.price order.maxVolume order.minVolume)

def asRpcBestOrdersSell (nowMs : ℕ) (address : String) : Fallible Empty RpcOrderbookEntry := do
  let numbers ← bidNumbers order.price order.maxVolume order.minVolume
  pure (order.rpcEntry (confSettings.map .reversed) isMine nowMs order.base address numbers)

def asRpcBestOrdersSellV2 (address : OrderbookAddress) : Fallible Empty RpcOrderbookEntryV2 := do
  let numbers ← bidNumbers order.price order.maxVolume order.minVolume
  pure (order.rpcEntryV2 (confSettings.map .reversed) isMine order.base address numbers)

end OrderbookP2PItem

namespace OrderbookItem

variable {E : Type} (order : OrderbookItem) (isMine : Bool)

def asRpcEntryAsk (nowMs : ℕ) (address : String) : RpcOrderbookEntry :=
  order.toP2PItem.rpcEntry order.confSettings isMine nowMs order.base address
    (askNumbers order.price order.maxVolume order.minVolume)

def asRpcEntryBid (nowMs : ℕ) (address : String) : Fallible E RpcOrderbookEntry := do
  let numbers ← bidNumbers order.price order.maxVolume order.minVolume
  pure (order.toP2PItem.rpcEntry (order.confSettings.map .reversed) isMine
    nowMs order.base address numbers)

def asRpcV2EntryAsk (address : OrderbookAddress) : RpcOrderbookEntryV2 :=
  order.toP2PItem.rpcEntryV2 order.confSettings isMine order.base address
    (askNumbers order.price order.maxVolume order.minVolume)

def asRpcV2EntryBid (address : OrderbookAddress) : Fallible E RpcOrderbookEntryV2 := do
  let numbers ← bidNumbers order.price order.maxVolume order.minVolume
  pure (order.toP2PItem.rpcEntryV2 (order.confSettings.map .reversed) isMine
    order.base address numbers)

end OrderbookItem

/-! ## The node that answers -/

structure CoinConf where
  walletOnly : Bool
  protocol : String
  deriving DecidableEq

structure RpcNode where
  coinConf : String → Option CoinConf
  /-- The address of a pubkey, in the format of the protocol information. -/
  orderbookAddress : String → CoinConf → String → Bytes → Option OrderbookAddress
  orderbookTickers : HashMap String String
  originalTickers : HashMap String (HashSet String)
  mm2InternalPubkeyHex : Except String (Option String)
  netid : ℕ

namespace RpcNode

def orderbookTickerBypass (node : RpcNode) (ticker : String) : String :=
  (node.orderbookTickers.lookup ticker).getD ticker

def isWalletOnlyTicker (node : RpcNode) (ticker : String) : Bool :=
  (node.coinConf ticker).any CoinConf.walletOnly

end RpcNode

def isMyOrder (orderPubkey : String) (myPub : Option String)
    (myP2pPubkeys : HashSet String) : Bool :=
  decide (myPub = some orderPubkey) || decide (orderPubkey ∈ myP2pPubkeys)

def liftError {E α : Type} (wrap : String → E) : Except String α → Fallible E α
  | .error message => refuse (wrap message)
  | .ok a => .ok a

/-- Code that refuses nothing inside code that may. -/
def liftPanic {E α : Type} : Fallible Empty α → Fallible E α
  | .error _ => .error .panic
  | .ok a => .ok a

def showAll {E Item Entry : Type} (shown : Item → Fallible E (Option Entry)) :
    List Item → Fallible E (List Entry)
  | [] => .ok []
  | item :: rest => do
      let entry ← shown item
      let entries ← showAll shown rest
      pure (entry.toList ++ entries)

theorem showAll_isOk {E Item Entry : Type}
    (shown : Item → Fallible E (Option Entry)) (items : List Item) :
    (∃ entries, showAll shown items = .ok entries) ↔
      ∀ item ∈ items, ∃ entry, shown item = .ok entry := by
  induction items with
  | nil => simp [showAll]
  | cons item rest ih =>
    rw [List.forall_mem_cons, ← ih]
    simp only [showAll, Fallible.bind_eq_ok]
    constructor
    · rintro ⟨_, entry, hentry, entries, hentries, -⟩
      exact ⟨⟨entry, hentry⟩, entries, hentries⟩
    · rintro ⟨⟨entry, hentry⟩, entries, hentries⟩
      exact ⟨_, entry, hentry, entries, hentries, rfl⟩

/-! ## Best orders -/

inductive BestOrdersAction where
  | buy
  | sell
  deriving DecidableEq

structure BestOrdersRequest where
  coin : String
  action : BestOrdersAction
  volume : ℚ

inductive RequestBestOrdersBy where
  | volume (volume : ℚ)
  | number (number : ℕ)

structure BestOrdersRequestV2 where
  coin : String
  action : BestOrdersAction
  requestBy : RequestBestOrdersBy
  excludeMine : Bool

inductive OrdermatchRequest where
  | bestOrders (coin : String) (action : BestOrdersAction) (volume : ℚ)
  | bestOrdersByNumber (coin : String) (action : BestOrdersAction) (number : ℕ)

structure BestOrdersP2PRes where
  orders : HashMap String (List OrderbookP2PItem)
  protocolInfos : HashMap Uuid BaseRelProtocolInfo
  confInfos : HashMap Uuid OrderConfirmationsSettings

def BestOrdersP2PRes.protocolInfo (res : BestOrdersP2PRes)
    (action : BestOrdersAction) (uuid : Uuid) : Bytes :=
  let infos := (res.protocolInfos.lookup uuid).getD {}
  match action with
  | .buy => infos.rel
  | .sell => infos.base

abbrev Relay := OrdermatchRequest → Except String (Option BestOrdersP2PRes)

section BestOrders

variable {Entry : Type} (node : RpcNode) (mine : String → Bool)
  (excludeMine : Bool) (action : BestOrdersAction)
  (entry : OrderbookP2PItem → Option OrderConfirmationsSettings → Bool →
    OrderbookAddress → Fallible Empty Entry)
  (res : BestOrdersP2PRes)

def bestOrderOf (coin : String) (conf : CoinConf)
    (order : OrderbookP2PItem) : Fallible Empty (Option Entry) :=
  if excludeMine && mine order.pubkey then .ok none
  else
    match node.orderbookAddress coin conf order.pubkey (res.protocolInfo action order.uuid) with
    | none => .ok none
    | some address => do
        let entry ← entry order (res.confInfos.lookup order.uuid) (mine order.pubkey) address
        pure (some entry)

/-- The orders of one coin; a coin without an entry is not in the answer. -/
def bestOrdersOf (answer : String × List OrderbookP2PItem) :
    Fallible Empty (Option (String × List Entry)) :=
  match node.coinConf answer.1 with
  | none => .ok none
  | some conf =>
    if conf.walletOnly then .ok none
    else do
      let entries ← showAll (bestOrderOf node mine excludeMine action entry res answer.1 conf)
        answer.2
      pure (if entries.isEmpty then none else some (answer.1, entries))

def bestOrders (answer : Option BestOrdersP2PRes) : Fallible Empty (HashMap String (List Entry)) :=
  match answer with
  | none => .ok ∅
  | some res => do
      let coins ← showAll (bestOrdersOf node mine excludeMine action entry res)
        (HashMap.toList res.orders)
      pure (HashMap.extend ∅ coins)

end BestOrders

def bestOrderEntry (action : BestOrdersAction) (nowMs : ℕ) (order : OrderbookP2PItem)
    (confSettings : Option OrderConfirmationsSettings) (isMine : Bool)
    (address : OrderbookAddress) : Fallible Empty RpcOrderbookEntry :=
  match action with
  | .buy => .ok (order.asRpcBestOrdersBuy confSettings isMine nowMs address.intoLegacyString)
  | .sell => order.asRpcBestOrdersSell confSettings isMine nowMs address.intoLegacyString

def bestOrderEntryV2 (action : BestOrdersAction) (order : OrderbookP2PItem)
    (confSettings : Option OrderConfirmationsSettings) (isMine : Bool)
    (address : OrderbookAddress) : Fallible Empty RpcOrderbookEntryV2 :=
  match action with
  | .buy => .ok (order.asRpcBestOrdersBuyV2 confSettings isMine address)
  | .sell => order.asRpcBestOrdersSellV2 confSettings isMine address

structure BestOrdersResponse (Entry : Type) where
  orders : HashMap String (List Entry)
  originalTickers : HashMap String (HashSet String)

variable (node : RpcNode)

def bestOrdersRpc (ob : Orderbook) (relay : Relay) (nowMs : ℕ) (req : BestOrdersRequest) :
    Fallible String (BestOrdersResponse RpcOrderbookEntry) := do
  refuseIf (node.isWalletOnlyTicker req.coin) ("Coin " ++ req.coin ++ " is wallet only")
  let myPubsecp ← liftError id node.mm2InternalPubkeyHex
  let answer ← liftError id
    (relay (.bestOrders (node.orderbookTickerBypass req.coin) req.action req.volume))
  let orders ← liftPanic (bestOrders node
    (fun pubkey => isMyOrder pubkey myPubsecp ob.myP2pPubkeys) false
    req.action (bestOrderEntry req.action nowMs) answer)
  pure { orders, originalTickers := node.originalTickers }

inductive BestOrdersRpcError where
  | coinIsWalletOnly (coin : String)
  | p2pError (message : String)
  deriving DecidableEq

def BestOrdersRequestV2.p2pRequest (req : BestOrdersRequestV2) : OrdermatchRequest :=
  match req.requestBy with
  | .volume volume => .bestOrders (node.orderbookTickerBypass req.coin) req.action volume
  | .number number => .bestOrdersByNumber (node.orderbookTickerBypass req.coin) req.action number

def bestOrdersRpcV2 (ob : Orderbook) (relay : Relay) (req : BestOrdersRequestV2) :
    Fallible BestOrdersRpcError (BestOrdersResponse RpcOrderbookEntryV2) := do
  refuseIf (node.isWalletOnlyTicker req.coin) (.coinIsWalletOnly req.coin)
  let myPubsecp ← liftError .p2pError node.mm2InternalPubkeyHex
  let answer ← liftError .p2pError (relay (req.p2pRequest node))
  let orders ← liftPanic (bestOrders node (fun pubkey => isMyOrder pubkey myPubsecp ob.myP2pPubkeys)
    req.excludeMine req.action (bestOrderEntryV2 req.action) answer)
  pure { orders, originalTickers := node.originalTickers }

/-! ## The order book -/

structure OrderbookReq where
  base : String
  rel : String

structure AggregatedOrderbookEntry (Entry : Type) where
  entry : Entry
  baseMaxVolumeAggr : ℚ
  relMaxVolumeAggr : ℚ

def buildAggregatedEntries {Entry : Type} (numbers : Entry → EntryNumbers)
    (totalBase totalRel : ℚ) :
    List Entry → List (AggregatedOrderbookEntry Entry) × ℚ × ℚ
  | [] => ([], totalBase, totalRel)
  | entry :: rest =>
    let totalBase := totalBase + (numbers entry).baseMaxVolume
    let totalRel := totalRel + (numbers entry).relMaxVolume
    let (aggregated, totals) :=
      buildAggregatedEntries numbers totalBase totalRel rest
    ({ entry
       baseMaxVolumeAggr := totalBase
       relMaxVolumeAggr := totalRel } :: aggregated, totals)

structure OrderbookResponse (Entry : Type) where
  asks : List (AggregatedOrderbookEntry Entry)
  base : String
  bids : List (AggregatedOrderbookEntry Entry)
  netid : ℕ
  numAsks : ℕ
  numBids : ℕ
  rel : String
  timestamp : ℕ
  totalAsksBaseVol : ℚ
  totalAsksRelVol : ℚ
  totalBidsBaseVol : ℚ
  totalBidsRelVol : ℚ

section OrderbookAnswer

variable {E Entry : Type} (node : RpcNode) (ob : Orderbook)
  (missing : Uuid → Fallible E (Option Entry))

/-- One side of the book: the entries of the orders of a pair.  A uuid that is
not in `orderSet` is `missing`. -/
def sideEntries (coin : String) (conf : CoinConf)
    (entry : OrderbookItem → OrderbookAddress → Fallible E Entry)
    (pair : Pair) : Fallible E (List Entry) :=
  match ob.unordered.lookup pair with
  | none => .ok []
  | some uuids =>
    showAll
      (fun uuid =>
        match ob.orderSet.lookup uuid with
        | none => missing uuid
        | some order =>
          match node.orderbookAddress coin conf order.pubkey order.baseProtocolInfo with
          | none => .ok none
          | some address => do
              let entry ← entry order address
              pure (some entry))
      uuids.keys

def orderbookAnswer (numbers : Entry → EntryNumbers)
    (ask bid : OrderbookItem → OrderbookAddress → Fallible E Entry)
    (nowMs : ℕ) (req : OrderbookReq) (baseConf relConf : CoinConf) :
    Fallible E (OrderbookResponse Entry) := do
  let baseTicker := node.orderbookTickerBypass req.base
  let relTicker := node.orderbookTickerBypass req.rel
  let asks ← sideEntries node ob missing req.base baseConf ask (baseTicker, relTicker)
  let asks := asks.mergeSort fun ask₁ ask₂ =>
    decide ((numbers ask₁).price ≤ (numbers ask₂).price)
  let (asks, totalAsksBaseVol, totalAsksRelVol) :=
    buildAggregatedEntries numbers 0 0 asks
  let bids ← sideEntries node ob missing req.rel relConf bid (relTicker, baseTicker)
  let bids := bids.mergeSort fun bid₁ bid₂ =>
    decide ((numbers bid₂).price ≤ (numbers bid₁).price)
  let (bids, totalBidsBaseVol, totalBidsRelVol) :=
    buildAggregatedEntries numbers 0 0 bids
  pure
    { asks := asks.reverse
      base := req.base
      bids
      netid := node.netid
      numAsks := asks.length
      numBids := bids.length
      rel := req.rel
      timestamp := nowMs / 1000
      totalAsksBaseVol
      totalAsksRelVol
      totalBidsBaseVol
      totalBidsRelVol }

end OrderbookAnswer

/-- The configuration of a coin that may trade; the legacy method calls each
coin the base coin when it is wallet only. -/
def tradeableConf (ticker : String) : Fallible String CoinConf :=
  match node.coinConf ticker with
  | none => refuse ("Coin " ++ ticker ++ " is not found in config")
  | some conf =>
    if conf.walletOnly then
      refuse ("Base Coin " ++ ticker ++ " is wallet only")
    else .ok conf

/-- `subscribed` is the outcome of the subscription to the pair, `ob` the order
book after it. -/
def orderbookRpc (subscribed : Except String Unit) (ob : Orderbook) (nowMs : ℕ)
    (req : OrderbookReq) : Fallible String (OrderbookResponse RpcOrderbookEntry) := do
  refuseIf (req.base = req.rel) "Base and rel must be different coins"
  let baseConf ← tradeableConf node req.base
  let relConf ← tradeableConf node req.rel
  refuseIf
    (node.orderbookTickerBypass req.base = node.orderbookTickerBypass req.rel ∧
      baseConf.protocol = relConf.protocol)
    "Base and rel coins have the same orderbook tickers and protocols."
  liftError id subscribed
  let myPubsecp ← liftError id node.mm2InternalPubkeyHex
  let mine := fun pubkey => isMyOrder pubkey myPubsecp ob.myP2pPubkeys
  orderbookAnswer node ob
    (fun uuid => refuse ("Orderbook::unordered contains " ++
      toString uuid.val ++ " uuid that is not in Orderbook::order_set"))
    RpcOrderbookEntry.numbers
    (fun order address => .ok (order.asRpcEntryAsk (mine order.pubkey) nowMs
      address.intoLegacyString))
    (fun order address => order.asRpcEntryBid (mine order.pubkey) nowMs address.intoLegacyString)
    nowMs req baseConf relConf

inductive OrderbookRpcError where
  | baseRelSame
  | baseRelSameOrderbookTickersAndProtocols
  | coinConfigNotFound (ticker : String)
  | coinIsWalletOnly (ticker : String)
  | internalError (message : String)
  | p2pSubscribeError (message : String)
  deriving DecidableEq

def getTradeableCoinConf (ticker : String) : Fallible OrderbookRpcError CoinConf :=
  match node.coinConf ticker with
  | none => refuse (.coinConfigNotFound ticker)
  | some conf =>
    if conf.walletOnly then refuse (.coinIsWalletOnly ticker) else .ok conf

def orderbookRpcV2 (subscribed : Except String Unit) (ob : Orderbook) (nowMs : ℕ)
    (req : OrderbookReq) : Fallible OrderbookRpcError (OrderbookResponse RpcOrderbookEntryV2) := do
  refuseIf (req.base = req.rel) .baseRelSame
  let baseConf ← getTradeableCoinConf node req.base
  let relConf ← getTradeableCoinConf node req.rel
  refuseIf
    (node.orderbookTickerBypass req.base = node.orderbookTickerBypass req.rel ∧
      baseConf.protocol = relConf.protocol)
    .baseRelSameOrderbookTickersAndProtocols
  liftError .p2pSubscribeError subscribed
  let myPubsecp ← liftError .internalError node.mm2InternalPubkeyHex
  let mine := fun pubkey => isMyOrder pubkey myPubsecp ob.myP2pPubkeys
  orderbookAnswer node ob (fun _ => .ok none) RpcOrderbookEntryV2.numbers
    (fun order address => .ok (order.asRpcV2EntryAsk (mine order.pubkey) address))
    (fun order address => order.asRpcV2EntryBid (mine order.pubkey) address)
    nowMs req baseConf relConf

end KdfProtocol
