import KdfProtocol.OrderRendering

/-!
# Divisions by the numbers of a peer

Reservations are sorted by a price that divides by the maker's base amount,
and `best_orders` inverts the prices of a relay's answer.  Nothing on the way
checks these numbers.  The order book inverts only prices that the index has
let in.
-/

namespace KdfProtocol

/-! ## Code that does not panic -/

namespace Fallible

variable {E α β : Type}

def NoPanic (x : Fallible E α) : Prop := x ≠ .error .panic

theorem noPanic_ok (a : α) : NoPanic (.ok a : Fallible E α) := by
  simp [NoPanic]

theorem noPanic_bind {x : Fallible E α} {f : α → Fallible E β} :
    NoPanic (x >>= f) ↔ NoPanic x ∧ ∀ a, x = .ok a → NoPanic (f a) := by
  cases x with
  | error failure | ok a => simp [NoPanic, bind, Except.bind]

theorem noPanic_refuse (e : E) : NoPanic (refuse e : Fallible E α) := by
  simp [NoPanic, refuse]

theorem noPanic_refuseIf (condition : Prop) [Decidable condition] (e : E) :
    NoPanic (refuseIf condition e) := by
  unfold refuseIf
  split
  · exact noPanic_refuse e
  · exact noPanic_ok ()

theorem noPanic_liftError (wrap : String → E) (x : Except String α) :
    NoPanic (liftError wrap x) := by
  cases x with
  | error message => exact noPanic_refuse (wrap message)
  | ok a => exact noPanic_ok a

theorem liftError_eq_ok {wrap : String → E} {x : Except String α} {a : α} :
    liftError wrap x = .ok a ↔ x = .ok a := by
  cases x with
  | error message => simp [liftError, refuse]
  | ok value => simp [liftError]

theorem noPanic_liftPanic {x : Fallible Empty α} :
    NoPanic (liftPanic x : Fallible E α) ↔ ∃ a, x = .ok a := by
  cases x with
  | error failure | ok a => simp [NoPanic, liftPanic]

theorem noPanic_showAll {Item Entry : Type}
    {shown : Item → Fallible E (Option Entry)} {items : List Item}
    (hitems : ∀ item, item ∈ items → NoPanic (shown item)) : NoPanic (showAll shown items) := by
  induction items with
  | nil => exact noPanic_ok []
  | cons item rest ih =>
    rw [List.forall_mem_cons] at hitems
    apply noPanic_bind.mpr
    refine ⟨hitems.1, fun entry _ => noPanic_bind.mpr ⟨ih hitems.2, ?_⟩⟩
    intro entries _
    exact noPanic_ok _

end Fallible

open Fallible

/-! ## Reservations -/

namespace TakerNode

/-- A list that is to be sorted has no reservation of nothing. -/
def SortsCleanly (s : TakerNode) : TakerNodeEvent → Prop
  | .select id _ arranged =>
    ∀ uuid node reservations, s.handlers.lookup id = some (.selecting uuid node) →
      s.pendingMakerReserved.lookup uuid = some reservations →
      arranged.Perm reservations →
      reservations.length < 2 ∨ ∀ reserved ∈ reservations, reserved.baseAmount ≠ 0
  | _ => True

variable (s : TakerNode)

theorem panics_connectBest (uuid : Uuid) (node : TradingNode) (nowMs : ℕ)
    (sorted : List MakerReserved) : (s.connectBest uuid node nowMs sorted).panics = s.panics := by
  unfold connectBest
  split
  · rfl
  · split
    · rfl
    · rfl

variable {arranged reservations : List MakerReserved}

theorem sortsCleanly_select {s : TakerNode} {id nowMs : ℕ} {uuid : Uuid} {node : TradingNode}
    (hhand : s.handlers.lookup id = some (.selecting uuid node)) :
    s.SortsCleanly (.select id nowMs arranged) ↔
      ∀ reservations, s.pendingMakerReserved.lookup uuid = some reservations →
        arranged.Perm reservations → ∃ sorted, MakerReserved.sortByPrice arranged = .ok sorted := by
  simp only [MakerReserved.sortByPrice_isOk]
  constructor
  · intro hclean reservations hlist hperm
    simpa only [hperm.length_eq, hperm.mem_iff] using
      hclean uuid node reservations hhand hlist hperm
  · intro hsorts other otherNode reservations hother hlist hperm
    rw [hhand] at hother
    cases hother
    simpa only [hperm.length_eq, hperm.mem_iff] using hsorts reservations hlist hperm

theorem panics_select_iff (hnone : s.panics = 0) (id nowMs : ℕ) (arranged : List MakerReserved) :
    (s.select id nowMs arranged).panics = 0 ↔ s.SortsCleanly (.select id nowMs arranged) := by
  unfold select
  split
  next uuid node hhand =>
    rw [sortsCleanly_select hhand]
    split
    next hlist => simp [endHandler, hnone, hlist]
    next reservations hlist =>
      split
      next hperm =>
        simp only [hlist, Option.some.injEq, forall_eq', hperm, true_imp_iff]
        split
        next failure hsort => simp [panicked, hsort]
        next sorted hsort =>
          simp [panics_connectBest, takeList, hnone, hsort]
      next hperm => simp [hnone, hlist, hperm]
  next hhand =>
    simp only [hnone, true_iff]
    intro uuid node reservations hother
    exact absurd hother (hhand uuid node)

theorem panics_file (id : ℕ) : (s.file id).panics = s.panics := by
  unfold file
  split
  · split
    · rfl
    · rfl
  · rfl

theorem panics_wake (id : ℕ) (node : TradingNode) : (s.wake id node).panics = s.panics := by
  unfold wake
  split
  · split
    · rfl
    · split
      · rfl
      · split
        · rfl
        · rfl
  · rfl

theorem panics_makerReserved (id : ℕ) (publicId fromPubkey : H256) (reserved : MakerReserved) :
    (s.makerReserved id publicId fromPubkey reserved).panics = s.panics := by
  unfold makerReserved
  split
  · rfl
  · split
    · rfl
    · split
      · rfl
      · rfl

theorem panics_step_iff (event : TakerNodeEvent) (hnone : s.panics = 0) :
    (s.step event).panics = 0 ↔ s.SortsCleanly event := by
  cases event with
  | createOrder order =>
    simp only [SortsCleanly, iff_true, step, createOrder]
    split
    · exact hnone
    · exact hnone
  | removeOrder uuid =>
    simp only [SortsCleanly, iff_true, step, removeOrder]
    split
    · exact hnone
    · exact hnone
  | makerReserved id publicId fromPubkey reserved =>
    simp [SortsCleanly, step, panics_makerReserved, hnone]
  | file id => simp [SortsCleanly, step, panics_file, hnone]
  | wake id node => simp [SortsCleanly, step, panics_wake, hnone]
  | select id nowMs arranged => exact panics_select_iff s hnone id nowMs arranged

end TakerNode

/-! ## Best orders -/

section BestOrders

variable {Entry : Type} {node : RpcNode} {mine : String → Bool}
  {excludeMine : Bool} {action : BestOrdersAction}
  {entry : OrderbookP2PItem → Option OrderConfirmationsSettings → Bool →
    OrderbookAddress → Fallible Empty Entry}
  {res : BestOrdersP2PRes}

/-- The answer has the order under a coin that may trade, an address can be
shown for it, and the request does not leave it out. -/
def ShowsOrder (node : RpcNode) (mine : String → Bool) (excludeMine : Bool)
    (action : BestOrdersAction) (res : BestOrdersP2PRes) (coin : String)
    (order : OrderbookP2PItem) : Prop :=
  ∃ orders conf, res.orders.lookup coin = some orders ∧ order ∈ orders ∧
    node.coinConf coin = some conf ∧ conf.walletOnly = false ∧
    (node.orderbookAddress coin conf order.pubkey (res.protocolInfo action order.uuid)).isSome ∧
    ¬(excludeMine = true ∧ mine order.pubkey = true)

variable {invertible : OrderbookP2PItem → Prop}
  (hentry : ∀ order confSettings isMine address,
    (∃ shown, entry order confSettings isMine address = .ok shown) ↔ invertible order)

include hentry in
theorem bestOrderOf_isOk (coin : String) (conf : CoinConf) (order : OrderbookP2PItem) :
    (∃ shown, bestOrderOf node mine excludeMine action entry res coin conf order = .ok shown) ↔
      ((node.orderbookAddress coin conf order.pubkey (res.protocolInfo action order.uuid)).isSome →
        ¬(excludeMine = true ∧ mine order.pubkey = true) →
        invertible order) := by
  unfold bestOrderOf
  split
  next hmine =>
    rw [Bool.and_eq_true] at hmine
    simp [hmine]
  next hshown =>
    rw [Bool.and_eq_true] at hshown
    split
    next hnone => simp [hnone]
    next address haddress =>
      simp only [haddress, Option.isSome_some, hshown, not_false_eq_true, true_imp_iff]
      rw [Fallible.bind_pure_isOk]
      exact hentry order (res.confInfos.lookup order.uuid) (mine order.pubkey) address

include hentry in
theorem bestOrdersOf_isOk (answer : String × List OrderbookP2PItem) :
    (∃ shown, bestOrdersOf node mine excludeMine action entry res answer = .ok shown) ↔
      ∀ conf, node.coinConf answer.1 = some conf → conf.walletOnly = false → ∀ order ∈ answer.2,
        (node.orderbookAddress answer.1 conf order.pubkey
          (res.protocolInfo action order.uuid)).isSome →
        ¬(excludeMine = true ∧ mine order.pubkey = true) →
        invertible order := by
  unfold bestOrdersOf
  split
  next hnone => simp [hnone]
  next conf hconf =>
    split
    next hwallet => simp [hconf, hwallet]
    next htrade =>
      rw [Bool.not_eq_true] at htrade
      have hloop := showAll_isOk (bestOrderOf node mine excludeMine action entry res answer.1 conf)
        answer.2
      simp only [bestOrderOf_isOk hentry] at hloop
      simp only [hconf, Option.some.injEq, forall_eq', htrade, true_imp_iff]
      rw [← hloop]
      exact Fallible.bind_pure_isOk

include hentry in
theorem bestOrders_isOk (res : BestOrdersP2PRes) :
    (∃ shown, bestOrders node mine excludeMine action entry (some res) = .ok shown) ↔
      ∀ coin order, ShowsOrder node mine excludeMine action res coin order → invertible order := by
  have hloop := showAll_isOk (bestOrdersOf node mine excludeMine action entry res)
    (HashMap.toList res.orders)
  simp only [bestOrdersOf_isOk hentry] at hloop
  have hok : (∃ shown, bestOrders node mine excludeMine action entry (some res) = .ok shown) ↔
      ∃ coins, showAll (bestOrdersOf node mine excludeMine action entry res)
        (HashMap.toList res.orders) = .ok coins :=
    Fallible.bind_pure_isOk
  rw [hok, hloop]
  constructor
  · rintro hall coin order ⟨orders, conf, horders, hmem, hconf, htrade, hshown⟩
    have hlist : (coin, orders) ∈ HashMap.toList res.orders := HashMap.mem_toList.mpr horders
    exact hall (coin, orders) hlist conf hconf htrade order hmem hshown.1 hshown.2
  · rintro hall ⟨coin, orders⟩ hlist conf hconf htrade order hmem haddress hother
    have horders : res.orders.lookup coin = some orders := HashMap.mem_toList.mp hlist
    exact hall coin order ⟨orders, conf, horders, hmem, hconf, htrade, haddress, hother⟩

end BestOrders

theorem entry_isOk {Entry : Type} {buy : Entry} {numbers : EntryNumbers → Entry}
    (action : BestOrdersAction) (order : OrderbookP2PItem) :
    (∃ shown, (match action with
        | .buy => .ok buy
        | .sell => do
          let bid ← bidNumbers order.price order.maxVolume order.minVolume
          return numbers bid : Fallible Empty Entry) = .ok shown) ↔
      (action = .sell → order.price ≠ 0) := by
  cases action with
  | buy => simp
  | sell =>
    simp only [true_imp_iff]
    rw [← @bidNumbers_isOk Empty order.price order.maxVolume order.minVolume]
    exact Fallible.bind_pure_isOk

def AnswerInvertible (node : RpcNode) (ob : Orderbook) (coin : String) (action : BestOrdersAction)
    (excludeMine : Bool) (answer : Except String (Option BestOrdersP2PRes)) : Prop :=
  node.isWalletOnlyTicker coin = false →
    ∀ myPubsecp res, node.mm2InternalPubkeyHex = .ok myPubsecp →
      answer = .ok (some res) → ∀ shownCoin order,
      ShowsOrder node (fun pubkey => isMyOrder pubkey myPubsecp ob.myP2pPubkeys)
        excludeMine action res shownCoin order →
      action = .sell → order.price ≠ 0

variable (node : RpcNode)

theorem noPanic_bestOrdersCourse {E Entry : Type}
    (ob : Orderbook) (coin : String) (action : BestOrdersAction)
    (excludeMine : Bool) (answer : Except String (Option BestOrdersP2PRes))
    (walletOnly : E) (wrap : String → E)
    {entry : OrderbookP2PItem → Option OrderConfirmationsSettings → Bool →
      OrderbookAddress → Fallible Empty Entry}
    (hentry : ∀ order confSettings isMine address,
      (∃ shown, entry order confSettings isMine address = .ok shown) ↔
        (action = .sell → order.price ≠ 0)) :
    NoPanic (do
      refuseIf (node.isWalletOnlyTicker coin) walletOnly
      let myPubsecp ← liftError wrap node.mm2InternalPubkeyHex
      let answer ← liftError wrap answer
      let orders ← liftPanic (bestOrders node
        (fun pubkey => isMyOrder pubkey myPubsecp ob.myP2pPubkeys) excludeMine action entry answer)
      pure (BestOrdersResponse.mk orders node.originalTickers)) ↔
      AnswerInvertible node ob coin action excludeMine answer := by
  simp only [noPanic_bind, noPanic_refuseIf, noPanic_liftError,
    noPanic_liftPanic, refuseIf_eq_ok, liftError_eq_ok, true_and, Bool.not_eq_true]
  constructor
  · intro hall htrade myPubsecp res hpubkey hans
    exact (bestOrders_isOk hentry res).mp (hall () htrade myPubsecp hpubkey (some res) hans).1
  · intro hinvertible _ htrade myPubsecp hpubkey answer hans
    refine ⟨?_, fun _ _ => noPanic_ok _⟩
    cases answer with
    | none => exact ⟨∅, rfl⟩
    | some res =>
      exact (bestOrders_isOk hentry res).mpr (hinvertible htrade myPubsecp res hpubkey hans)

theorem noPanic_bestOrdersRpc_iff (ob : Orderbook)
    (relay : Relay) (nowMs : ℕ) (req : BestOrdersRequest) :
    NoPanic (bestOrdersRpc node ob relay nowMs req) ↔
      AnswerInvertible node ob req.coin req.action false
        (relay (.bestOrders (node.orderbookTickerBypass req.coin) req.action req.volume)) :=
  noPanic_bestOrdersCourse node ob req.coin req.action false _ _ id
    fun order _ _ _ => entry_isOk req.action order

theorem noPanic_bestOrdersRpcV2_iff (ob : Orderbook) (relay : Relay) (req : BestOrdersRequestV2) :
    NoPanic (bestOrdersRpcV2 node ob relay req) ↔
      AnswerInvertible node ob req.coin req.action req.excludeMine (relay (req.p2pRequest node)) :=
  noPanic_bestOrdersCourse node ob req.coin req.action req.excludeMine _ _
    BestOrdersRpcError.p2pError fun order _ _ _ => entry_isOk req.action order

/-! ## The order book -/

section OrderbookAnswer

variable {E Entry : Type} {node : RpcNode} {ob : Orderbook}
  {missing : Uuid → Fallible E (Option Entry)}

theorem noPanic_bidNumbers {price : ℚ} (hprice : price ≠ 0) (maxVolume minVolume : ℚ) :
    NoPanic (bidNumbers price maxVolume minVolume : Fallible E EntryNumbers) := by
  obtain ⟨numbers, hok⟩ := (bidNumbers_isOk price maxVolume minVolume).mpr hprice
  rw [hok]
  exact noPanic_ok numbers

theorem noPanic_sideEntries (hmissing : ∀ uuid, NoPanic (missing uuid))
    {entry : OrderbookItem → OrderbookAddress → Fallible E Entry}
    (hentry : ∀ uuid order address, ob.orderSet.lookup uuid = some order →
      NoPanic (entry order address)) (coin : String) (conf : CoinConf) (pair : Pair) :
    NoPanic (sideEntries node ob missing coin conf entry pair) := by
  unfold sideEntries
  split
  · exact noPanic_ok []
  next uuids _ =>
    apply noPanic_showAll
    intro uuid _
    split
    · exact hmissing uuid
    next order horder =>
      split
      · exact noPanic_ok none
      next address _ =>
        apply noPanic_bind.mpr
        exact ⟨hentry uuid order address horder, fun _ _ => noPanic_ok _⟩

theorem noPanic_orderbookAnswer (hmissing : ∀ uuid, NoPanic (missing uuid))
    {numbers : Entry → EntryNumbers} {ask bid : OrderbookItem → OrderbookAddress → Fallible E Entry}
    (hask : ∀ order address, NoPanic (ask order address))
    (hbid : ∀ uuid order address, ob.orderSet.lookup uuid = some order →
      NoPanic (bid order address)) (nowMs : ℕ) (req : OrderbookReq) (baseConf relConf : CoinConf) :
    NoPanic (orderbookAnswer node ob missing numbers ask bid nowMs req baseConf relConf) := by
  unfold orderbookAnswer
  apply noPanic_bind.mpr
  refine ⟨noPanic_sideEntries hmissing (fun _ order address _ =>
    hask order address) _ _ _, fun asks _ => ?_⟩
  apply noPanic_bind.mpr
  exact ⟨noPanic_sideEntries hmissing hbid _ _ _, fun bids _ => noPanic_ok _⟩

end OrderbookAnswer

variable {ob : Orderbook}

theorem Orderbook.Reachable.price_ne_zero (hreach : ob.Reachable) {uuid : Uuid}
    {order : OrderbookItem} (horder : ob.orderSet.lookup uuid = some order) : order.price ≠ 0 := by
  obtain ⟨-, htrade⟩ := hreach.wellKept uuid order horder
  intro hzero
  apply htrade
  unfold OrderbookItem.Untradable
  right
  left
  rw [hzero]

theorem noPanic_tradeableConf (ticker : String) : NoPanic (tradeableConf node ticker) := by
  unfold tradeableConf
  split
  · exact noPanic_refuse _
  next conf _ =>
    split
    · exact noPanic_refuse _
    · exact noPanic_ok conf

theorem noPanic_getTradeableCoinConf (ticker : String) :
    NoPanic (getTradeableCoinConf node ticker) := by
  unfold getTradeableCoinConf
  split
  · exact noPanic_refuse _
  next conf _ =>
    split
    · exact noPanic_refuse _
    · exact noPanic_ok conf

theorem noPanic_orderbookRpc (subscribed : Except String Unit) (hreach : ob.Reachable) (nowMs : ℕ)
    (req : OrderbookReq) : NoPanic (orderbookRpc node subscribed ob nowMs req) := by
  simp only [orderbookRpc, noPanic_bind, noPanic_refuseIf, noPanic_liftError,
    noPanic_tradeableConf, true_and]
  intro _ _ baseConf _ relConf _ _ _ _ _ myPubsecp _
  apply noPanic_orderbookAnswer
  · exact fun uuid => noPanic_refuse _
  · exact fun order address => noPanic_ok _
  · intro uuid order address horder
    apply noPanic_bind.mpr
    exact ⟨noPanic_bidNumbers (hreach.price_ne_zero horder) _ _, fun _ _ => noPanic_ok _⟩

theorem noPanic_orderbookRpcV2 (subscribed : Except String Unit) (hreach : ob.Reachable) (nowMs : ℕ)
    (req : OrderbookReq) : NoPanic (orderbookRpcV2 node subscribed ob nowMs req) := by
  simp only [orderbookRpcV2, noPanic_bind, noPanic_refuseIf,
    noPanic_liftError, noPanic_getTradeableCoinConf, true_and]
  intro _ _ baseConf _ relConf _ _ _ _ _ myPubsecp _
  apply noPanic_orderbookAnswer
  · exact fun uuid => noPanic_ok none
  · exact fun order address => noPanic_ok _
  · intro uuid order address horder
    apply noPanic_bind.mpr
    exact ⟨noPanic_bidNumbers (hreach.price_ne_zero horder) _ _, fun _ _ => noPanic_ok _⟩

/-! ## Messages and answers -/

/-- A taker node never panics exactly if no list of two or more reservations
that is sorted has one with a base amount of zero.  `best_orders` panics
exactly on an order of price zero that a seller is shown.  `orderbook` never
panics. -/
theorem peer_numbers_noPanic_iff (events : List TakerNodeEvent)
    (node : RpcNode) (ob : Orderbook) (relay : Relay) (nowMs : ℕ) :
    (EveryState TakerNode.step (fun s => s.panics = 0) TakerNode.initial
        events ↔
      EveryStep TakerNode.step TakerNode.SortsCleanly TakerNode.initial
        events) ∧
    (∀ req, NoPanic (bestOrdersRpc node ob relay nowMs req) ↔
      AnswerInvertible node ob req.coin req.action false
        (relay (.bestOrders (node.orderbookTickerBypass req.coin) req.action
          req.volume))) ∧
    (∀ req, NoPanic (bestOrdersRpcV2 node ob relay req) ↔
      AnswerInvertible node ob req.coin req.action req.excludeMine
        (relay (req.p2pRequest node))) ∧
    (∀ subscribed req, Orderbook.Reachable ob →
      NoPanic (orderbookRpc node subscribed ob nowMs req) ∧
        NoPanic (orderbookRpcV2 node subscribed ob nowMs req)) := by
  refine ⟨?_, ?_, ?_, ?_⟩
  · exact everyState_iff_everyStep TakerNode.step TakerNode.panics_step_iff events rfl
  · intro req
    exact noPanic_bestOrdersRpc_iff node ob relay nowMs req
  · intro req
    exact noPanic_bestOrdersRpcV2_iff node ob relay req
  · intro subscribed req hreachable
    exact ⟨noPanic_orderbookRpc node subscribed hreachable nowMs req,
      noPanic_orderbookRpcV2 node subscribed hreachable nowMs req⟩

/-! ## Zero amounts from a peer -/

def emptyReserved : MakerReserved :=
  { segwitReceived "BTC" with baseAmount := 0 }

def emptyReservationEvents : List TakerNodeEvent :=
  [ .createOrder (plainTaker "BTC"),
    .makerReserved 0 (.repeat 2) (.repeat 1) (segwitReceived "BTC"),
    .file 0,
    .makerReserved 1 (.repeat 2) (.repeat 1) emptyReserved,
    .file 1,
    .wake 0 (listedNode (.repeat 2) ["BTC", "KMD"]),
    .select 0 0 [segwitReceived "BTC", emptyReserved] ]

def freeOrder : OrderbookP2PItem where
  pubkey := "maker"
  base := "BTC"
  rel := "KMD"
  price := 0
  maxVolume := 1
  minVolume := 0
  uuid := 1
  createdAt := 0

def freeOrderAnswer : BestOrdersP2PRes where
  orders := HashMap.extend ∅ [("BTC", [freeOrder])]
  protocolInfos := ∅
  confInfos := ∅

def openRpcNode : RpcNode where
  coinConf := fun _ => some { walletOnly := false, protocol := "UTXO" }
  orderbookAddress := fun _ _ pubkey _ => some (.transparent pubkey)
  orderbookTickers := ∅
  originalTickers := ∅
  mm2InternalPubkeyHex := .ok none
  netid := 0

theorem freeOrder_shown (mine : String → Bool) :
    ShowsOrder openRpcNode mine false .sell freeOrderAnswer "BTC" freeOrder :=
  ⟨[freeOrder], { walletOnly := false, protocol := "UTXO" },
    by decide +kernel, List.mem_singleton_self _, rfl, rfl, rfl, by simp⟩

/-- A reservation of nothing ends the handler that sorts it with another one;
the taker connects to nobody.  An order of price zero ends both generations of
`best_orders`. -/
theorem zero_amounts_panic :
    (run TakerNode.step TakerNode.initial emptyReservationEvents).panics = 1 ∧
      (run TakerNode.step TakerNode.initial
        emptyReservationEvents).connects = [] ∧
      ¬NoPanic (bestOrdersRpc openRpcNode (Orderbook.new 0 0)
        (fun _ => .ok (some freeOrderAnswer)) 0
        { coin := "KMD", action := .sell, volume := 1 }) ∧
      ¬NoPanic (bestOrdersRpcV2 openRpcNode (Orderbook.new 0 0)
        (fun _ => .ok (some freeOrderAnswer))
        { coin := "KMD", action := .sell, requestBy := .number 1,
          excludeMine := false }) := by
  refine ⟨by decide +kernel, by decide +kernel, ?_, ?_⟩
  · intro hnone
    have hinvertible := (noPanic_bestOrdersRpc_iff _ _ _ _ _).mp hnone
    exact hinvertible rfl none freeOrderAnswer rfl rfl "BTC" freeOrder (freeOrder_shown _) rfl rfl
  · intro hnone
    have hinvertible := (noPanic_bestOrdersRpcV2_iff _ _ _ _).mp hnone
    exact hinvertible rfl none freeOrderAnswer rfl rfl "BTC" freeOrder (freeOrder_shown _) rfl rfl

end KdfProtocol
