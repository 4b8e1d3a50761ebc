import KdfProtocol.OrderMatching

/-!
# Lock times of the two sides of a swap

The maker computes the lock time from its order and the request, the taker
from its request and the reservation.  Each side names the coins by the
tickers under which it has activated them.
-/

namespace KdfProtocol

structure SwapConfirmationsSettings where
  makerCoinConfs : ℕ
  makerCoinNota : Bool
  takerCoinConfs : ℕ
  takerCoinNota : Bool
  deriving DecidableEq

def SwapConfirmationsSettings.requiresNotarization (settings : SwapConfirmationsSettings) : Bool :=
  settings.makerCoinNota || settings.takerCoinNota

def chooseMakerConfsAndNotas (makerConfs : Option OrderConfirmationsSettings)
    (takerReq : TakerRequest) (makerCoin takerCoin : Coin) : SwapConfirmationsSettings :=
  let makerSettings : OrderConfirmationsSettings := makerConfs.getD
    { baseConfs := makerCoin.requiredConfirmations
      baseNota := makerCoin.requiresNotarization
      relConfs := takerCoin.requiredConfirmations
      relNota := takerCoin.requiresNotarization }
  match takerReq.confSettings with
  | some takerSettings =>
    match takerReq.action with
    | .sell =>
      { makerCoinConfs :=
          if takerSettings.relConfs < makerSettings.baseConfs then
            takerSettings.relConfs
          else makerSettings.baseConfs
        makerCoinNota :=
          if !takerSettings.relNota then takerSettings.relNota
          else makerSettings.baseNota
        takerCoinConfs := makerSettings.relConfs
        takerCoinNota := makerSettings.relNota }
    | .buy =>
      { makerCoinConfs :=
          if takerSettings.baseConfs < makerSettings.baseConfs then
            takerSettings.baseConfs
          else makerSettings.baseConfs
        makerCoinNota :=
          if !takerSettings.baseNota then takerSettings.baseNota
          else makerSettings.baseNota
        takerCoinConfs := makerSettings.relConfs
        takerCoinNota := makerSettings.relNota }
  | none =>
    { makerCoinConfs := makerSettings.baseConfs
      makerCoinNota := makerSettings.baseNota
      takerCoinConfs := makerSettings.relConfs
      takerCoinNota := makerSettings.relNota }

/-- The settings of the taker before those of the maker are taken into
account. -/
def ownTakerConfsAndNotas (takerReq : TakerRequest)
    (makerCoin takerCoin : Coin) : SwapConfirmationsSettings :=
  match takerReq.confSettings with
  | some s =>
    match takerReq.action with
    | .buy =>
      { takerCoinConfs := s.relConfs
        takerCoinNota := s.relNota
        makerCoinConfs := s.baseConfs
        makerCoinNota := s.baseNota }
    | .sell =>
      { takerCoinConfs := s.baseConfs
        takerCoinNota := s.baseNota
        makerCoinConfs := s.relConfs
        makerCoinNota := s.relNota }
  | none =>
    { takerCoinConfs := takerCoin.requiredConfirmations
      takerCoinNota := takerCoin.requiresNotarization
      makerCoinConfs := makerCoin.requiredConfirmations
      makerCoinNota := makerCoin.requiresNotarization }

def chooseTakerConfsAndNotas (takerReq : TakerRequest)
    (makerReserved : MakerReserved) (makerCoin takerCoin : Coin) : SwapConfirmationsSettings :=
  let own := ownTakerConfsAndNotas takerReq makerCoin takerCoin
  match makerReserved.confSettings with
  | some settingsFromMaker =>
    { own with
      takerCoinConfs :=
        if settingsFromMaker.relConfs < own.takerCoinConfs then
          settingsFromMaker.relConfs
        else own.takerCoinConfs
      takerCoinNota :=
        if !settingsFromMaker.relNota then settingsFromMaker.relNota
        else own.takerCoinNota }
  | none => own

/-! ## Lock times -/

def paymentLocktime : ℕ := 3600 * 2 + 300 * 2

def coinWith4xLocktime (ticker : String) : Bool :=
  ticker = "BCH" || ticker = "BTG" || ticker = "SBTC"

inductive AtomicLocktimeVersion where
  | v1
  | v2 (myConfSettings otherConfSettings : SwapConfirmationsSettings)
  deriving DecidableEq

variable (makerCoin takerCoin : String)

def lpAtomicLocktimeV1 : ℕ :=
  if makerCoin = "BTC" ∨ takerCoin = "BTC" then paymentLocktime * 10
  else if coinWith4xLocktime makerCoin ∨ coinWith4xLocktime takerCoin then
    paymentLocktime * 4
  else paymentLocktime

def lpAtomicLocktimeV2 (myConfSettings otherConfSettings : SwapConfirmationsSettings) : ℕ :=
  if makerCoin = "BTC" ∨ takerCoin = "BTC" ∨ coinWith4xLocktime makerCoin ∨
      coinWith4xLocktime takerCoin ∨ myConfSettings.requiresNotarization ∨
      otherConfSettings.requiresNotarization then
    paymentLocktime * 4
  else paymentLocktime

def lpAtomicLocktime : AtomicLocktimeVersion → ℕ
  | .v1 => lpAtomicLocktimeV1 makerCoin takerCoin
  | .v2 myConfSettings otherConfSettings =>
    lpAtomicLocktimeV2 makerCoin takerCoin myConfSettings otherConfSettings

/-! ## The start of a swap -/

structure SwapTerms where
  otherPubkey : H256
  uuid : Uuid
  confSettings : SwapConfirmationsSettings
  makerCoin : String
  takerCoin : String
  lockTime : ℕ
  deriving DecidableEq

/-- The terms on the maker node, unless a coin is not activated or the pair
fails the check of its swap key. -/
def lpConnectStartBob (node : TradingNode) (makerMatch : MakerMatch)
    (makerOrder : MakerOrder) : Option SwapTerms := do
  let takerCoin ← node.coins makerOrder.rel
  let makerCoin ← node.coins makerOrder.base
  if node.swapKeyMismatch makerCoin takerCoin then none
  else
    let myConfSettings := chooseMakerConfsAndNotas makerOrder.confSettings
      makerMatch.request makerCoin takerCoin
    let atomicLocktimeV :=
      match makerMatch.request.confSettings with
      | some _ =>
        .v2 myConfSettings
          (chooseTakerConfsAndNotas makerMatch.request makerMatch.reserved makerCoin takerCoin)
      | none => .v1
    some
      { otherPubkey := makerMatch.request.senderPubkey
        uuid := makerMatch.request.uuid
        confSettings := myConfSettings
        makerCoin := makerCoin.ticker
        takerCoin := takerCoin.ticker
        lockTime := lpAtomicLocktime makerCoin.ticker takerCoin.ticker atomicLocktimeV }

def lpConnectedAlice (node : TradingNode) (takerOrder : TakerOrder)
    (takerMatch : TakerMatch) : Option SwapTerms := do
  let takerCoin ← node.coins takerOrder.takerCoinTicker
  let makerCoin ← node.coins takerOrder.makerCoinTicker
  if node.swapKeyMismatch makerCoin takerCoin then none
  else
    let myConfSettings := chooseTakerConfsAndNotas takerOrder.request
      takerMatch.reserved makerCoin takerCoin
    let atomicLocktimeV :=
      match takerMatch.reserved.confSettings with
      | some _ =>
        .v2 myConfSettings
          (chooseMakerConfsAndNotas takerMatch.reserved.confSettings
            takerOrder.request makerCoin takerCoin)
      | none => .v1
    some
      { otherPubkey := takerMatch.reserved.senderPubkey
        uuid := takerMatch.reserved.takerOrderUuid
        confSettings := myConfSettings
        makerCoin := makerCoin.ticker
        takerCoin := takerCoin.ticker
        lockTime := lpAtomicLocktime makerCoin.ticker takerCoin.ticker atomicLocktimeV }

/-! ## Agreement -/

def slowPair : Bool :=
  makerCoin = "BTC" || takerCoin = "BTC" || coinWith4xLocktime makerCoin ||
    coinWith4xLocktime takerCoin

def TakerRequest.makerCoinNota (request : TakerRequest) : Bool :=
  request.confSettings.any fun settings =>
    match request.action with
    | .buy => settings.baseNota
    | .sell => settings.relNota

def MakerOrder.takerCoinNota (order : MakerOrder) : Bool :=
  order.confSettings.any fun settings => settings.relNota

/-- The two sides have one lock time: it is the long one for its
notarizations, or the tickers have the same effect on both nodes. -/
def LockTimesMeet (order : MakerOrder) (taker : TakerOrder) : Prop :=
  order.takerCoinNota ∨ taker.request.makerCoinNota ∨
    slowPair order.base order.rel = slowPair taker.makerCoinTicker taker.takerCoinTicker

instance decidableLockTimesMeet (order : MakerOrder) (taker : TakerOrder) :
    Decidable (LockTimesMeet order taker) :=
  inferInstanceAs (Decidable (_ ∨ _ ∨ _))

theorem requiresNotarization_or {request : TakerRequest} {reserved : MakerReserved}
    {settings own : OrderConfirmationsSettings} (hreq : request.confSettings = some own)
    (hresv : reserved.confSettings = some settings) (makerCoin takerCoin : Coin) :
    ((chooseMakerConfsAndNotas (some settings) request makerCoin takerCoin).requiresNotarization ∨
        (chooseTakerConfsAndNotas request reserved makerCoin takerCoin).requiresNotarization) ↔
      settings.relNota || request.makerCoinNota := by
  simp only [chooseMakerConfsAndNotas, chooseTakerConfsAndNotas,
    ownTakerConfsAndNotas, SwapConfirmationsSettings.requiresNotarization,
    TakerRequest.makerCoinNota, hreq, hresv, Option.any_some, Option.getD_some]
  cases request.action with
  | buy =>
    cases settings.relNota <;> cases own.baseNota <;> simp
  | sell =>
    cases settings.relNota <;> cases own.relNota <;> simp

def agreedLockTime (slow nota : Bool) : ℕ :=
  if slow ∨ nota then paymentLocktime * 4 else paymentLocktime

theorem agreedLockTime_eq_iff (slow slow' nota : Bool) :
    agreedLockTime slow nota = agreedLockTime slow' nota ↔ nota ∨ slow = slow' := by
  revert slow slow' nota
  decide

theorem lpAtomicLocktimeV2_eq {makerCoin takerCoin : String}
    {mine other : SwapConfirmationsSettings} {nota : Bool}
    (hnota : mine.requiresNotarization ∨ other.requiresNotarization ↔ nota) :
    lpAtomicLocktimeV2 makerCoin takerCoin mine other =
      agreedLockTime (slowPair makerCoin takerCoin) nota := by
  simp [lpAtomicLocktimeV2, agreedLockTime, slowPair, or_assoc, ← hnota]

variable {own settings : OrderConfirmationsSettings} {node : TradingNode} {terms : SwapTerms}

theorem lpConnectStartBob_lockTime {makerMatch : MakerMatch} {order : MakerOrder}
    (hreq : makerMatch.request.confSettings = some own)
    (horder : order.confSettings = some settings)
    (hresv : makerMatch.reserved.confSettings = some settings)
    (hbob : lpConnectStartBob node makerMatch order = some terms) :
    terms.lockTime = agreedLockTime (slowPair order.base order.rel)
      (settings.relNota || makerMatch.request.makerCoinNota) := by
  simp only [lpConnectStartBob, hreq, horder, Option.bind_eq_bind,
    Option.bind_eq_some_iff, Option.ite_none_left_eq_some, Option.some.injEq] at hbob
  obtain ⟨takerCoin, htakerCoin, makerCoin, hmakerCoin, -, rfl⟩ := hbob
  have hnota := requiresNotarization_or hreq hresv makerCoin takerCoin
  dsimp only [lpAtomicLocktime]
  rw [lpAtomicLocktimeV2_eq hnota, node.ticker_eq _ _ htakerCoin, node.ticker_eq _ _ hmakerCoin]

theorem lpConnectedAlice_lockTime {taker : TakerOrder} {takerMatch : TakerMatch}
    (hreq : taker.request.confSettings = some own)
    (hresv : takerMatch.reserved.confSettings = some settings)
    (halice : lpConnectedAlice node taker takerMatch = some terms) :
    terms.lockTime =
      agreedLockTime (slowPair taker.makerCoinTicker taker.takerCoinTicker)
        (settings.relNota || taker.request.makerCoinNota) := by
  simp only [lpConnectedAlice, hresv, Option.bind_eq_bind,
    Option.bind_eq_some_iff, Option.ite_none_left_eq_some, Option.some.injEq] at halice
  obtain ⟨takerCoin, htakerCoin, makerCoin, hmakerCoin, -, rfl⟩ := halice
  have hnota := requiresNotarization_or hreq hresv makerCoin takerCoin
  rw [or_comm] at hnota
  dsimp only [lpAtomicLocktime]
  rw [lpAtomicLocktimeV2_eq hnota, node.ticker_eq _ _ htakerCoin, node.ticker_eq _ _ hmakerCoin]

/-! ## From the request to the swap -/

/-- The order may gain and lose other matches and volume; its pair and its
settings stay. -/
structure MakerOrder.SameTerms (order created : MakerOrder) : Prop where
  base : order.base = created.base
  rel : order.rel = created.rel
  confSettings : order.confSettings = created.confSettings

/-- The exchange of messages after which both nodes start a swap.  The maker
node is taken twice, at the reservation and at the connection, since the
defaults of its coins may change between them. -/
structure Exchange where
  created : MakerOrder
  isCreated : created.Created
  builder : TakerOrderBuilder
  builtMs : ℕ
  takerUuid : Uuid
  taker : TakerOrder
  isBuilt : builder.build builtMs takerUuid = .ok taker
  takerKey : H256
  request : TakerRequest
  isRequest : taker.received takerKey = some request
  -- The maker reserves.
  order : MakerOrder
  sameTerms : order.SameTerms created
  makerNode : TradingNode
  nowMs : ℕ
  makerUuid : Uuid
  reserved : MakerReserved
  afterReserved : MakerOrder
  isReserved : order.answerRequest makerNode nowMs makerUuid request =
    .ok (.reserved reserved afterReserved)
  makerKey : H256
  received : MakerReserved
  isReceived : reserved.received makerKey = some received
  -- The taker connects, and the maker finds the match it has reserved.
  takerMatch : TakerMatch
  isTakerMatch : takerMatch.reserved = received
  connecting : MakerOrder
  sameTermsStill : connecting.SameTerms created
  keepsMatch : connecting.orderMatches.lookup request.uuid =
    afterReserved.orderMatches.lookup request.uuid
  connectingNode : TradingNode
  connect : TakerConnect
  isConnect : connect.takerOrderUuid = request.uuid
  makerMatch : MakerMatch
  connected : MakerOrder
  announced : Option ℚ
  isConnected :
    connecting.processTakerConnect connectingNode request.senderPubkey
      connect = .connected makerMatch connected announced
  -- Both start the swap.
  makerTerms : SwapTerms
  makerStarts : lpConnectStartBob connectingNode makerMatch connected = some makerTerms
  takerNode : TradingNode
  takerNow : TakerOrder
  sameRequest : takerNow.request = taker.request
  takerTerms : SwapTerms
  takerStarts : lpConnectedAlice takerNode takerNow takerMatch = some takerTerms

namespace Exchange

theorem makerMatch_eq (e : Exchange) :
    e.makerMatch.request = e.request ∧ e.makerMatch.reserved = e.reserved ∧
      e.connected.SameTerms e.created := by
  obtain ⟨b, r, baseCoin, relCoin, -, -, -, -, hafter⟩ :=
    MakerOrder.answerRequest_eq_reserved e.isReserved
  obtain ⟨before, hpre, hmatch, hconnected⟩ :=
    MakerOrder.processTakerConnect_eq_connected e.isConnected
  rw [e.isConnect, e.keepsMatch, hafter] at hpre
  simp only [MakerOrder.withReserved, AList.lookup_insert, Option.some.injEq] at hpre
  subst hpre
  rw [hmatch, hconnected]
  exact ⟨rfl, rfl, e.sameTermsStill.base, e.sameTermsStill.rel, e.sameTermsStill.confSettings⟩

theorem reserved_confSettings (e : Exchange) {settings : OrderConfirmationsSettings}
    (hset : e.created.confSettings = some settings) : e.reserved.confSettings = some settings := by
  obtain ⟨b, r, baseCoin, relCoin, -, -, -, hresv, -⟩ :=
    MakerOrder.answerRequest_eq_reserved e.isReserved
  rw [hresv]
  simp [MakerOrder.reserve, e.sameTerms.confSettings, hset]

theorem lockTime_eq_iff (e : Exchange) :
    e.makerTerms.lockTime = e.takerTerms.lockTime ↔ LockTimesMeet e.created e.taker := by
  obtain ⟨settings, hsettings⟩ := Option.ne_none_iff_exists'.mp e.isCreated.fresh.confSettings
  have hreserved := e.reserved_confSettings hsettings
  obtain ⟨own, hown, hrequest⟩ := Option.map_eq_some_iff.mp e.isRequest
  obtain ⟨carried, hcarried, hreceived⟩ := Option.map_eq_some_iff.mp e.isReceived
  obtain ⟨hmatchRequest, hmatchReserved, hterms⟩ := e.makerMatch_eq
  have hcarriedEq : carried = settings := by
    rw [hreserved] at hcarried
    exact (Option.some.inj hcarried).symm
  -- The request that travels has the settings and the action of the order.
  have hnota : e.request.makerCoinNota = e.taker.request.makerCoinNota := by
    rw [← hrequest]
    simp [TakerRequest.makerCoinNota, hown]
  have hmakerOwn : e.makerMatch.request.confSettings = some own := by
    rw [hmatchRequest, ← hrequest]
  have htakerOwn : e.takerNow.request.confSettings = some own := by
    rw [e.sameRequest, hown]
  have hmaker := lpConnectStartBob_lockTime hmakerOwn (hterms.confSettings.trans hsettings)
    (by rw [hmatchReserved, hreserved]) e.makerStarts
  have htaker := lpConnectedAlice_lockTime htakerOwn
    (by rw [e.isTakerMatch, ← hreceived, hcarriedEq]) e.takerStarts
  have hmakerTicker : e.takerNow.makerCoinTicker = e.taker.makerCoinTicker := by
    simp only [TakerOrder.makerCoinTicker, e.sameRequest]
  have htakerTicker : e.takerNow.takerCoinTicker = e.taker.takerCoinTicker := by
    simp only [TakerOrder.takerCoinTicker, e.sameRequest]
  rw [hmaker, htaker, hmatchRequest, hnota, hterms.base, hterms.rel,
    e.sameRequest, hmakerTicker, htakerTicker, agreedLockTime_eq_iff]
  simp [LockTimesMeet, MakerOrder.takerCoinNota, hsettings, or_assoc]

end Exchange

/-! ## A coin under two tickers -/

def btcMaker : MakerOrderBuilder :=
  { baseCoin := listedCoin "BTC"
    relCoin := listedCoin "KMD"
    maxBaseVol := 10
    price := 2
    confSettings := some oneConfirmation }

def btcNode : TradingNode := listedNode (.repeat 1) ["BTC", "KMD"]

def btcOrder : MakerOrder := btcMaker.order 0 1 (1 / 10000)

def segwitBuyer : TakerOrderBuilder :=
  { baseCoin := listedCoin "BTC-segwit"
    relCoin := listedCoin "KMD"
    baseOrderbookTicker := some "BTC"
    baseAmount := 1
    relAmount := 3
    senderPubkey := .repeat 2
    confSettings := some oneConfirmation }

def segwitNode : TradingNode := listedNode (.repeat 2) ["BTC-segwit", "KMD"]

def segwitTaker : TakerOrder := segwitBuyer.order 0 2 (1 / 10000)

def segwitRequest : TakerRequest := { segwitTaker.request with base := "BTC" }

def btcReserved : MakerReserved :=
  btcOrder.reserve btcNode 1 segwitRequest (listedCoin "BTC") (listedCoin "KMD") 1 2

def btcReceived : MakerReserved := { btcReserved with destPubKey := .repeat 0 }

def segwitConnect : TakerConnect :=
  { takerOrderUuid := 2
    makerOrderUuid := 1
    senderPubkey := .repeat 2
    destPubKey := .repeat 1 }

def btcMatch : MakerMatch :=
  { request := segwitRequest
    reserved := btcReserved
    connect := none
    connected := none
    lastUpdated := 0 }

def swapTerms (otherPubkey : H256) (makerCoin : String) (lockTime : ℕ) : SwapTerms :=
  { otherPubkey
    uuid := 2
    confSettings :=
      { makerCoinConfs := 1
        makerCoinNota := false
        takerCoinConfs := 1
        takerCoinNota := false }
    makerCoin
    takerCoin := "KMD"
    lockTime }

def segwitExchange : Exchange where
  created := btcOrder
  isCreated := .built 0 1 btcMaker (by decide +kernel)
  builder := segwitBuyer
  builtMs := 0
  takerUuid := 2
  taker := segwitTaker
  isBuilt := by decide +kernel
  takerKey := .repeat 2
  request := segwitRequest
  isRequest := by decide +kernel
  order := btcOrder
  sameTerms := ⟨rfl, rfl, rfl⟩
  makerNode := btcNode
  nowMs := 0
  makerUuid := 1
  reserved := btcReserved
  afterReserved := btcOrder.withReserved 0 segwitRequest btcReserved
  isReserved := by decide +kernel
  makerKey := .repeat 1
  received := btcReceived
  isReceived := by decide +kernel
  takerMatch :=
    { reserved := btcReceived
      connect := segwitConnect
      connected := none
      lastUpdated := 0 }
  isTakerMatch := rfl
  connecting := btcOrder.withReserved 0 segwitRequest btcReserved
  sameTermsStill := ⟨rfl, rfl, rfl⟩
  keepsMatch := rfl
  connectingNode := btcNode
  connect := segwitConnect
  isConnect := rfl
  makerMatch := btcMatch.connectedBy btcNode segwitConnect
  connected :=
    (btcOrder.withReserved 0 segwitRequest btcReserved).withConnected
      segwitConnect (btcMatch.connectedBy btcNode segwitConnect)
  announced := some 9
  isConnected := by decide +kernel
  makerTerms := swapTerms (.repeat 2) "BTC" 31200
  makerStarts := by decide +kernel
  takerNode := segwitNode
  takerNow := segwitTaker
  sameRequest := rfl
  takerTerms := swapTerms (.repeat 1) "BTC-segwit" 7800
  takerStarts := by decide +kernel

/-- The taker accepts the reservation and connects, and the two sides start
the swap with different lock times. -/
theorem segwit_ticker_shortens_lockTime :
    (segwitTaker.answerReserved segwitNode 0 btcReceived).isSome ∧
      segwitExchange.makerTerms.lockTime = 31200 ∧
      segwitExchange.takerTerms.lockTime = 7800 :=
  ⟨by decide +kernel, rfl, rfl⟩

end KdfProtocol
