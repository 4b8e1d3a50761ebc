import KdfProtocol.OrderTypes

/-!
# Matching of maker orders and taker requests

What a maker node does with a request and with the connection that follows,
and what the two sides agree on.
-/

namespace KdfProtocol

structure TradingNode where
  publicId : H256
  coins : String → Option Coin
  ticker_eq : ∀ ticker coin, coins ticker = some coin → coin.ticker = ticker
  swapKeyMismatch : Coin → Coin → Bool

variable (ticker : String) (node : TradingNode)

def TradingNode.findPair (base rel : String) : Option (Coin × Coin) :=
  (node.coins base).bind fun baseCoin => (node.coins rel).map fun relCoin => (baseCoin, relCoin)

def decliningCoinTicker (baseCoin relCoin : Coin)
    (baseProtocolInfo relProtocolInfo : Option Bytes) : Option String :=
  if ¬baseCoin.isCoinProtocolSupported baseProtocolInfo then
    some baseCoin.ticker
  else if ¬relCoin.isCoinProtocolSupported relProtocolInfo then
    some relCoin.ticker
  else none

/-! ## Requests -/

inductive RequestAnswer where
  | notMatched
  /-- A coin is not activated, the request is known, or a coin declines. -/
  | ignored
  /-- The swap key of a coin is not the key it pays from. -/
  | cancelled
  | reserved (reserved : MakerReserved) (order : MakerOrder)
  deriving DecidableEq

namespace MakerOrder

def reserve (node : TradingNode) (uuid : Uuid) (request : TakerRequest) (order : MakerOrder)
    (baseCoin relCoin : Coin) (baseAmount relAmount : ℚ) : MakerReserved where
  destPubKey := request.senderPubkey
  senderPubkey := node.publicId
  base := order.getBaseOrderbookTicker
  baseAmount
  relAmount
  rel := order.getRelOrderbookTicker
  takerOrderUuid := request.uuid
  makerOrderUuid := uuid
  confSettings := order.confSettings.or
    (some
      { baseConfs := baseCoin.requiredConfirmations
        baseNota := baseCoin.requiresNotarization
        relConfs := relCoin.requiredConfirmations
        relNota := relCoin.requiresNotarization })
  baseProtocolInfo := some baseCoin.coinProtocolInfo
  relProtocolInfo := some relCoin.coinProtocolInfo

def withReserved (nowMs : ℕ) (request : TakerRequest)
    (reserved : MakerReserved) (order : MakerOrder) : MakerOrder :=
  { order with
    orderMatches := order.orderMatches.insert request.uuid
      { request
        reserved
        connect := none
        connected := none
        lastUpdated := nowMs } }

def answerRequest (node : TradingNode) (nowMs : ℕ) (uuid : Uuid)
    (request : TakerRequest) (order : MakerOrder) : Fallible Empty RequestAnswer := do
  match ← order.matchWithRequest request with
  | .notMatched => pure .notMatched
  | .matched baseAmount relAmount =>
    match node.findPair order.base order.rel with
    | none => pure .ignored
    | some (baseCoin, relCoin) =>
      if node.swapKeyMismatch baseCoin relCoin then pure .cancelled
      else if request.uuid ∈ order.orderMatches ∨
          (decliningCoinTicker baseCoin relCoin request.baseProtocolInfoForMaker
            request.relProtocolInfoForMaker).isSome then
        pure .ignored
      else
        let reserved := order.reserve node uuid request baseCoin relCoin baseAmount relAmount
        pure (.reserved reserved (order.withReserved nowMs request reserved))

end MakerOrder

/-! ## Connections -/

inductive ConnectAnswer where
  | ignored
  /-- The swap starts; the available amount is announced if the order can
  still be matched. -/
  | connected (orderMatch : MakerMatch) (order : MakerOrder) (announced : Option ℚ)
  deriving DecidableEq

def MakerMatch.connectedBy (connect : TakerConnect) (orderMatch : MakerMatch) : MakerMatch :=
  { orderMatch with
    connect := some connect
    connected := some
      { senderPubkey := node.publicId
        destPubKey := connect.senderPubkey
        takerOrderUuid := connect.takerOrderUuid
        makerOrderUuid := connect.makerOrderUuid
        method := "connected" } }

def MakerOrder.withConnected (connect : TakerConnect)
    (orderMatch : MakerMatch) (order : MakerOrder) : MakerOrder :=
  { order with
    orderMatches := order.orderMatches.insert connect.takerOrderUuid orderMatch
    startedSwaps := order.startedSwaps ++ [orderMatch.request.uuid] }

def MakerOrder.processTakerConnect (senderPubkey : H256) (connect : TakerConnect)
    (order : MakerOrder) : ConnectAnswer :=
  if node.publicId = senderPubkey then .ignored
  else
    match order.orderMatches.lookup connect.takerOrderUuid with
    | none => .ignored
    | some orderMatch =>
      if orderMatch.request.senderPubkey ≠ senderPubkey then .ignored
      else if orderMatch.connected.isNone ∧ orderMatch.connect.isNone then
        let orderMatch := orderMatch.connectedBy node connect
        let order := order.withConnected connect orderMatch
        .connected orderMatch order
          (if order.minBaseVol ≤ order.availableAmount then
            some order.availableAmount
          else none)
      else .ignored

/-! ## Reservations -/

/-- One turn of the loop over the reservations that arrived for an order:
the match and the order after it, if the taker connects. -/
def TakerOrder.answerReserved (nowMs : ℕ) (reserved : MakerReserved) (order : TakerOrder) :
    Option (TakerMatch × TakerOrder) :=
  match node.findPair order.makerCoinTicker order.takerCoinTicker with
  | none => none
  | some (baseCoin, relCoin) =>
    if order.matchReserved reserved = .matched ∧ order.orderMatches = ∅ ∧
        (decliningCoinTicker baseCoin relCoin reserved.baseProtocolInfo
          reserved.relProtocolInfo).isNone ∧
        ¬node.swapKeyMismatch baseCoin relCoin then
      let takerMatch : TakerMatch :=
        { reserved
          connect :=
            { senderPubkey := node.publicId
              destPubKey := reserved.senderPubkey
              takerOrderUuid := reserved.takerOrderUuid
              makerOrderUuid := reserved.makerOrderUuid }
          connected := none
          lastUpdated := nowMs }
      some (takerMatch,
        { order with
          orderMatches := order.orderMatches.insert reserved.makerOrderUuid takerMatch })
    else none

/-! ## What a match means -/

def legMatches (own : String) (orderbookTicker : Option String) (other : String) : Prop :=
  own = other ∨ orderbookTicker = some other

namespace MakerOrder

variable {order : MakerOrder} {request : TakerRequest}

variable {node : TradingNode} {next : MakerOrder} {b r : ℚ}

theorem matchWithRequest_buy (hact : request.action = .buy)
    (hmatch : order.matchWithRequest request = .ok (.matched b r)) :
    (0 < request.baseAmount ∧ 0 < request.relAmount) ∧
      (legMatches order.base order.baseOrderbookTicker request.base ∧
        legMatches order.rel order.relOrderbookTicker request.rel) ∧
      (request.baseAmount ≤ order.availableAmount ∧ order.minBaseVol ≤ request.baseAmount ∧
        order.price ≤ request.relAmount / request.baseAmount) ∧
      b = request.baseAmount ∧ r = request.baseAmount * order.price := by
  unfold matchWithRequest at hmatch
  split at hmatch
  · cases hmatch
  next hpos =>
    push Not at hpos
    rw [hact] at hmatch
    obtain ⟨takerPrice, hprice, hmatch⟩ := Fallible.bind_eq_ok.mp hmatch
    obtain ⟨-, rfl⟩ := divide_eq_ok.mp hprice
    split at hmatch
    next hall =>
      cases hmatch
      obtain ⟨htickers, havail, hmin, hlow⟩ := hall
      exact ⟨hpos, htickers, ⟨havail, hmin, hlow⟩, rfl, rfl⟩
    · cases hmatch

theorem matchWithRequest_sell (hact : request.action = .sell)
    (hmatch : order.matchWithRequest request = .ok (.matched b r)) :
    (0 < request.baseAmount ∧ 0 < request.relAmount) ∧
      (legMatches order.base order.baseOrderbookTicker request.rel ∧
        legMatches order.rel order.relOrderbookTicker request.base) ∧
      (b ≤ order.availableAmount ∧ order.minBaseVol ≤ b ∧
        order.price ≤ request.baseAmount / request.relAmount) ∧
      order.price ≠ 0 ∧ b = request.baseAmount / order.price ∧
      r = request.baseAmount := by
  unfold matchWithRequest at hmatch
  split at hmatch
  · cases hmatch
  next hpos =>
    push Not at hpos
    rw [hact] at hmatch
    obtain ⟨takerPrice, hprice, hmatch⟩ := Fallible.bind_eq_ok.mp hmatch
    obtain ⟨-, rfl⟩ := divide_eq_ok.mp hprice
    obtain ⟨matchedBase, hbase, hmatch⟩ := Fallible.bind_eq_ok.mp hmatch
    obtain ⟨hzero, rfl⟩ := divide_eq_ok.mp hbase
    split at hmatch
    next hall =>
      cases hmatch
      obtain ⟨htickers, havail, hmin, hlow⟩ := hall
      exact ⟨hpos, htickers, ⟨havail, hmin, hlow⟩, hzero, rfl, rfl⟩
    · cases hmatch

theorem answerRequest_eq_reserved {nowMs : ℕ} {uuid : Uuid} {reserved : MakerReserved}
    (hans : order.answerRequest node nowMs uuid request = .ok (.reserved reserved next)) :
    ∃ b r baseCoin relCoin, order.matchWithRequest request = .ok (.matched b r) ∧
        node.findPair order.base order.rel = some (baseCoin, relCoin) ∧
        request.uuid ∉ order.orderMatches ∧
        reserved = order.reserve node uuid request baseCoin relCoin b r ∧
        next = order.withReserved nowMs request reserved := by
  unfold answerRequest at hans
  obtain ⟨result, hmatch, hans⟩ := Fallible.bind_eq_ok.mp hans
  cases result with
  | notMatched => cases hans
  | matched b r =>
    dsimp only at hans
    split at hans
    · cases hans
    next baseCoin relCoin hpair =>
      split at hans
      · cases hans
      · split at hans
        · cases hans
        next hacc =>
          cases hans
          push Not at hacc
          exact ⟨b, r, baseCoin, relCoin, hmatch, hpair, hacc.1, rfl, rfl⟩

theorem processTakerConnect_eq_connected {senderPubkey : H256}
    {connect : TakerConnect} {orderMatch : MakerMatch} {announced : Option ℚ}
    (hans : order.processTakerConnect node senderPubkey connect =
      .connected orderMatch next announced) :
    ∃ before, order.orderMatches.lookup connect.takerOrderUuid = some before ∧
      orderMatch = before.connectedBy node connect ∧
      next = order.withConnected connect orderMatch := by
  unfold processTakerConnect at hans
  split at hans
  · cases hans
  · split at hans
    · cases hans
    next before hpre =>
      split at hans
      · cases hans
      · split at hans
        · cases hans
          exact ⟨before, hpre, rfl, rfl⟩
        · cases hans

end MakerOrder

/-! ## Agreement of the two sides -/

/-- The reservation names a coin by the order book ticker of the maker, which
has to be a ticker of the taker. -/
def LegsAgree (order : MakerOrder) (taker : TakerOrder) : Prop :=
  match taker.request.action with
  | .buy =>
    legMatches taker.request.base taker.baseOrderbookTicker order.getBaseOrderbookTicker ∧
      legMatches taker.request.rel taker.relOrderbookTicker order.getRelOrderbookTicker
  | .sell =>
    legMatches taker.request.base taker.baseOrderbookTicker order.getRelOrderbookTicker ∧
      legMatches taker.request.rel taker.relOrderbookTicker order.getBaseOrderbookTicker

/-- The taker gets what it asked for, at the price of the order and within
its volumes. -/
structure FairMatch (order : MakerOrder) (request : TakerRequest) (b r : ℚ) : Prop where
  price : r = b * order.price
  minBaseVol : order.minBaseVol ≤ b
  available : b ≤ order.availableAmount
  buy : request.action = .buy → b = request.baseAmount ∧ r ≤ request.relAmount
  sell : request.action = .sell → r = request.baseAmount ∧ request.relAmount ≤ b

theorem le_div_iff_of_low {price base rel : ℚ} (hbase : 0 < base)
    (hrel : 0 < rel) (hlow : price ≤ base / rel) : rel ≤ base / price ↔ 0 < price := by
  constructor
  · intro hle
    by_contra hneg
    have hdiv : base / price ≤ 0 := div_nonpos_of_nonneg_of_nonpos hbase.le (not_lt.mp hneg)
    linarith
  · intro hpos
    rw [le_div_iff₀ hrel] at hlow
    rw [le_div_iff₀ hpos]
    linarith

variable {request : TakerRequest} {taker : TakerOrder} {reserved : MakerReserved}

variable {order : MakerOrder} {takerKey : H256} {b r : ℚ}

theorem fairMatch_iff (hmatch : order.matchWithRequest request = .ok (.matched b r)) :
    FairMatch order request b r ↔ (request.action = .sell → 0 < order.price) := by
  cases hact : request.action with
  | buy =>
    obtain ⟨⟨hbase, -⟩, -, ⟨havail, hmin, hlow⟩, rfl, rfl⟩ :=
      MakerOrder.matchWithRequest_buy hact hmatch
    have hpays : request.baseAmount * order.price ≤ request.relAmount := by
      rw [le_div_iff₀ hbase] at hlow
      linarith
    have hfair : FairMatch order request request.baseAmount (request.baseAmount * order.price) :=
      { price := rfl
        minBaseVol := hmin
        available := havail
        buy := fun _ => ⟨rfl, hpays⟩
        sell := by simp [hact] }
    simp [hfair]
  | sell =>
    obtain ⟨⟨hbase, hrel⟩, -, ⟨havail, hmin, hlow⟩, hprice, rfl, rfl⟩ :=
      MakerOrder.matchWithRequest_sell hact hmatch
    have hreceives := le_div_iff_of_low hbase hrel hlow
    constructor
    · intro hfair _
      exact hreceives.mp (hfair.sell hact).2
    · intro hpos
      exact
        { price := (div_mul_cancel₀ _ hprice).symm
          minBaseVol := hmin
          available := havail
          buy := by simp [hact]
          sell := fun _ => ⟨rfl, hreceives.mpr (hpos rfl)⟩ }

theorem TakerOrder.received_keeps (hreq : taker.received takerKey = some request) :
    request.action = taker.request.action ∧ request.baseAmount = taker.request.baseAmount ∧
      request.relAmount = taker.request.relAmount := by
  obtain ⟨settings, -, rfl⟩ := Option.map_eq_some_iff.mp hreq
  exact ⟨rfl, rfl, rfl⟩

theorem matchReserved_iff (hmatch : order.matchWithRequest request = .ok (.matched b r))
    (hreq : taker.received takerKey = some request)
    (hbase : reserved.base = order.getBaseOrderbookTicker)
    (hrel : reserved.rel = order.getRelOrderbookTicker) (hbaseAmount : reserved.baseAmount = b)
    (hrelAmount : reserved.relAmount = r) (hadmits : taker.admits reserved = true) :
    taker.matchReserved reserved = .matched ↔
      FairMatch order request b r ∧ LegsAgree order taker := by
  obtain ⟨hsameAction, hsameBase, hsameRel⟩ := TakerOrder.received_keeps hreq
  have hfair := fairMatch_iff hmatch
  cases hact : taker.request.action with
  | buy =>
    rw [hact] at hsameAction
    have hterms : FairMatch order request b r :=
      hfair.mpr (by simp [hsameAction])
    obtain ⟨hsame, hpays⟩ := hterms.buy hsameAction
    rw [and_iff_right hterms]
    simp [TakerOrder.matchReserved, LegsAgree, legMatches, hadmits, hact, hbase, hrel, hbaseAmount,
      hrelAmount, ← hsameBase, ← hsameRel, hsame, hpays, or_iff_not_imp_left]
  | sell =>
    rw [hact] at hsameAction
    obtain ⟨⟨hbasePos, hrelPos⟩, -, ⟨-, -, hlow⟩, -, hb, hr⟩ :=
      MakerOrder.matchWithRequest_sell hsameAction hmatch
    have hgets : request.relAmount ≤ b ↔ FairMatch order request b r := by
      rw [hfair, hb, le_div_iff_of_low hbasePos hrelPos hlow]
      simp [hsameAction]
    rw [← hgets]
    simp [TakerOrder.matchReserved, LegsAgree, legMatches, hadmits, hact, hbase, hrel, hbaseAmount,
      hrelAmount, ← hsameBase, ← hsameRel, hr, or_iff_not_imp_left, and_comm]

/-- The terms of a match are fair, and the reservation for it is accepted,
under exactly these conditions. -/
theorem matched_request_agreement {order : MakerOrder} {request : TakerRequest} {b r : ℚ}
    (hmatch : order.matchWithRequest request = .ok (.matched b r)) :
    (FairMatch order request b r ↔
        (request.action = .sell → 0 < order.price)) ∧
      ∀ (node : TradingNode) (nowMs : ℕ) (uuid : Uuid)
        (reserved : MakerReserved) (next : MakerOrder) (taker : TakerOrder)
        (takerKey makerKey : H256) (received : MakerReserved),
        taker.received takerKey = some request →
        order.answerRequest node nowMs uuid request =
          .ok (.reserved reserved next) →
        reserved.received makerKey = some received →
        taker.admits received = true →
          (taker.matchReserved received = .matched ↔
            (request.action = .sell → 0 < order.price) ∧
              LegsAgree order taker) := by
  refine ⟨fairMatch_iff hmatch, ?_⟩
  intro node nowMs uuid reserved next taker takerKey makerKey received
    hrequest hanswer hreceived hadmits
  obtain ⟨b', r', baseCoin, relCoin, hmatch', -, -, hreserved, -⟩ :=
    MakerOrder.answerRequest_eq_reserved hanswer
  rw [hmatch] at hmatch'
  cases hmatch'
  obtain ⟨settings, -, rfl⟩ := Option.map_eq_some_iff.mp hreceived
  rw [← fairMatch_iff hmatch]
  subst hreserved
  exact matchReserved_iff hmatch hrequest rfl rfl rfl rfl hadmits

/-! ## A coin under two tickers -/

def listedCoin : Coin where
  ticker
  isUntradable := false
  minTradingVol := 1 / 10000
  minTradingVol_nonneg := by norm_num
  requiredConfirmations := 1
  requiresNotarization := false
  coinProtocolInfo := []
  isCoinProtocolSupported := fun _ => true

def listedNode (publicId : H256) (tickers : List String) : TradingNode where
  publicId
  coins := fun ticker =>
    if ticker ∈ tickers then some (listedCoin ticker) else none
  ticker_eq := by
    intro ticker coin hcoin
    split at hcoin
    · cases hcoin
      rfl
    · cases hcoin
  swapKeyMismatch := fun _ _ => false

def oneConfirmation : OrderConfirmationsSettings :=
  { baseConfs := 1, baseNota := false, relConfs := 1, relNota := false }

def segwitMaker : MakerOrderBuilder :=
  { baseCoin := listedCoin "BTC-segwit"
    relCoin := listedCoin "KMD"
    baseOrderbookTicker := some "BTC"
    maxBaseVol := 10
    price := 2
    confSettings := some oneConfirmation }

def plainBuyer : TakerOrderBuilder :=
  { baseCoin := listedCoin ticker
    relCoin := listedCoin "KMD"
    baseAmount := 1
    relAmount := 3
    senderPubkey := .repeat 2
    confSettings := some oneConfirmation }

def segwitMakerNode : TradingNode :=
  listedNode (.repeat 1) ["BTC-segwit", "KMD"]

def segwitMakerOrder : MakerOrder := segwitMaker.order 0 1 (1 / 10000)

def plainTaker : TakerOrder :=
  (plainBuyer ticker).order 0 2 (1 / 10000)

def segwitReserved : MakerReserved :=
  segwitMakerOrder.reserve segwitMakerNode 1 (plainTaker ticker).request
    (listedCoin "BTC-segwit") (listedCoin "KMD") 1 2

def segwitReceived : MakerReserved :=
  { segwitReserved ticker with destPubKey := .repeat 0 }

/-- The request matches the order by its own ticker; the reservation names
the order book ticker, and the taker refuses it. -/
theorem matched_reservation_is_refused :
    segwitMaker.build 0 1 = .ok segwitMakerOrder ∧
      (plainBuyer "BTC-segwit").build 0 2 = .ok (plainTaker "BTC-segwit") ∧
      (plainTaker "BTC-segwit").received (.repeat 2) =
        some (plainTaker "BTC-segwit").request ∧
      segwitMakerOrder.matchWithRequest (plainTaker "BTC-segwit").request =
        .ok (.matched 1 2) ∧
      segwitMakerOrder.answerRequest segwitMakerNode 0 1
          (plainTaker "BTC-segwit").request =
        .ok (.reserved (segwitReserved "BTC-segwit")
          (segwitMakerOrder.withReserved 0 (plainTaker "BTC-segwit").request
            (segwitReserved "BTC-segwit"))) ∧
      (segwitReserved "BTC-segwit").received (.repeat 1) =
        some (segwitReceived "BTC-segwit") ∧
      (plainTaker "BTC-segwit").admits (segwitReceived "BTC-segwit") = true ∧
      (plainTaker "BTC-segwit").matchReserved (segwitReceived "BTC-segwit") =
        .notMatched := by
  decide +kernel

/-- A taker that knows the coin by its order book ticker accepts. -/
theorem matched_reservation_is_accepted :
    (plainTaker "BTC").matchReserved (segwitReceived "BTC") = .matched := by
  have hmatch : segwitMakerOrder.matchWithRequest (plainTaker "BTC").request =
      .ok (.matched 1 2) := by decide +kernel
  have hanswer :
      segwitMakerOrder.answerRequest segwitMakerNode 0 1 (plainTaker "BTC").request =
        .ok (.reserved (segwitReserved "BTC")
          (segwitMakerOrder.withReserved 0 (plainTaker "BTC").request
            (segwitReserved "BTC"))) := by decide +kernel
  have hiff := (matched_request_agreement hmatch).2 segwitMakerNode 0 1 _ _
    (plainTaker "BTC") (.repeat 2) (.repeat 1) (segwitReceived "BTC")
    (by decide +kernel) hanswer (by decide +kernel) (by decide +kernel)
  exact hiff.mpr ⟨fun _ => by decide +kernel, .inl rfl, .inl rfl⟩

end KdfProtocol
