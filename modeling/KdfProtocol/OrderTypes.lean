import KdfProtocol.OrderbookItem
import Mathlib.Algebra.Order.Field.Basic

/-!
# Maker and taker orders

The orders of a node, their builders, the conversion of a taker order into a
maker order, and the messages of a match.  A division by zero panics in the
source; here it is an outcome of its own.
-/

namespace KdfProtocol

/-! ## Failures -/

inductive Failure (E : Type) where
  | panic
  | error (e : E)
  deriving DecidableEq

abbrev Fallible (E α : Type) := Except (Failure E) α

def divide {E : Type} (a b : ℚ) : Fallible E ℚ :=
  if b = 0 then .error .panic else .ok (a / b)

def refuse {E α : Type} (e : E) : Fallible E α := .error (.error e)

def refuseIf {E : Type} (condition : Prop) [Decidable condition] (e : E) : Fallible E Unit :=
  if condition then refuse e else .ok ()

def refuseSome {E α : Type} (found : Option α) (e : α → E) : Fallible E Unit :=
  match found with
  | some a => refuse (e a)
  | none => .ok ()

theorem except_bind_eq_ok {ε α β : Type} {x : Except ε α} {f : α → Except ε β} {b : β} :
    x >>= f = .ok b ↔ ∃ a, x = .ok a ∧ f a = .ok b := by
  cases x with
  | error e | ok a => simp [bind, Except.bind]

theorem Fallible.bind_eq_ok {E α β : Type} {x : Fallible E α} {f : α → Fallible E β} {b : β} :
    x >>= f = .ok b ↔ ∃ a, x = .ok a ∧ f a = .ok b :=
  except_bind_eq_ok

theorem Fallible.bind_pure_isOk {E α β : Type} {x : Fallible E α} {f : α → β} :
    (∃ b, (do let a ← x; pure (f a)) = .ok b) ↔ ∃ a, x = .ok a := by
  cases x with
  | error e => simp [bind, Except.bind]
  | ok a => simp [bind, Except.bind, pure, Except.pure]

variable {minBaseVol : Option ℚ} {u : Unit}

theorem refuseIf_eq_ok {E : Type} {condition : Prop} [Decidable condition]
    {e : E} : refuseIf condition e = .ok u ↔ ¬condition := by
  unfold refuseIf refuse
  by_cases h : condition
  · simp [h]
  · simp [h]

theorem refuseSome_eq_ok {E α : Type} {found : Option α} {e : α → E} :
    refuseSome found e = .ok u ↔ found = none := by
  cases found with
  | none => simp [refuseSome]
  | some a => simp [refuseSome, refuse]

theorem divide_eq_ok {E : Type} {a b q : ℚ} :
    (divide a b : Fallible E ℚ) = .ok q ↔ b ≠ 0 ∧ a / b = q := by
  unfold divide
  by_cases hb : b = 0
  · simp [hb]
  · simp [hb]

/-! ## Coins -/

structure Coin where
  ticker : String
  isUntradable : Bool
  minTradingVol : ℚ
  minTradingVol_nonneg : 0 ≤ minTradingVol
  requiredConfirmations : ℕ
  requiresNotarization : Bool
  coinProtocolInfo : Bytes
  isCoinProtocolSupported : Option Bytes → Bool

def untradableCoinTicker (base rel : Coin) : Option String :=
  ([base, rel].find? fun coin => coin.isUntradable).map Coin.ticker

/-! ## Messages of a match -/

inductive TakerAction where
  | buy
  | sell
  deriving DecidableEq

inductive MatchBy where
  | any
  | orders (uuids : HashSet Uuid)
  | pubkeys (pubkeys : HashSet H256)
  deriving DecidableEq

structure TakerRequest where
  base : String
  rel : String
  baseAmount : ℚ
  relAmount : ℚ
  action : TakerAction
  uuid : Uuid
  senderPubkey : H256
  destPubKey : H256
  matchBy : MatchBy
  confSettings : Option OrderConfirmationsSettings
  baseProtocolInfo : Option Bytes
  relProtocolInfo : Option Bytes
  deriving DecidableEq

namespace TakerRequest

variable (request : TakerRequest)

def canMatchWithMakerPubkey (makerPubkey : H256) : Bool :=
  match request.matchBy with
  | .pubkeys pubkeys => makerPubkey ∈ pubkeys
  | _ => true

def canMatchWithUuid (uuid : Uuid) : Bool :=
  match request.matchBy with
  | .orders uuids => uuid ∈ uuids
  | _ => true

def baseProtocolInfoForMaker : Option Bytes :=
  match request.action with
  | .buy => request.baseProtocolInfo
  | .sell => request.relProtocolInfo

def relProtocolInfoForMaker : Option Bytes :=
  match request.action with
  | .buy => request.relProtocolInfo
  | .sell => request.baseProtocolInfo

end TakerRequest

structure MakerReserved where
  base : String
  rel : String
  baseAmount : ℚ
  relAmount : ℚ
  takerOrderUuid : Uuid
  makerOrderUuid : Uuid
  senderPubkey : H256
  destPubKey : H256
  confSettings : Option OrderConfirmationsSettings
  baseProtocolInfo : Option Bytes
  relProtocolInfo : Option Bytes
  deriving DecidableEq

/-- The reservation as the taker receives it.  The message cannot be built
without confirmation settings. -/
def MakerReserved.received (senderPubkey : H256) (reserved : MakerReserved) :
    Option MakerReserved :=
  reserved.confSettings.map fun settings =>
    { reserved with
      senderPubkey
      destPubKey := .repeat 0
      confSettings := some settings }

structure TakerConnect where
  takerOrderUuid : Uuid
  makerOrderUuid : Uuid
  senderPubkey : H256
  destPubKey : H256
  deriving DecidableEq

structure MakerConnected where
  takerOrderUuid : Uuid
  makerOrderUuid : Uuid
  method : String
  senderPubkey : H256
  destPubKey : H256
  deriving DecidableEq

structure MakerMatch where
  request : TakerRequest
  reserved : MakerReserved
  connect : Option TakerConnect
  connected : Option MakerConnected
  lastUpdated : ℕ
  deriving DecidableEq

structure TakerMatch where
  reserved : MakerReserved
  connect : TakerConnect
  connected : Option MakerConnected
  lastUpdated : ℕ
  deriving DecidableEq

/-! ## Taker orders -/

inductive OrderType where
  | fillOrKill
  | goodTillCancelled
  deriving DecidableEq

structure TakerOrder where
  createdAt : ℕ
  request : TakerRequest
  orderMatches : HashMap Uuid TakerMatch
  minVolume : ℚ
  orderType : OrderType
  timeout : ℕ
  saveInHistory : Bool
  baseOrderbookTicker : Option String
  relOrderbookTicker : Option String
  deriving DecidableEq

namespace TakerOrder

def takerCoinTicker (order : TakerOrder) : String :=
  match order.request.action with
  | .buy => order.request.rel
  | .sell => order.request.base

def makerCoinTicker (order : TakerOrder) : String :=
  match order.request.action with
  | .buy => order.request.base
  | .sell => order.request.rel

def getBaseOrderbookTicker (order : TakerOrder) : String :=
  order.baseOrderbookTicker.getD order.request.base

def getRelOrderbookTicker (order : TakerOrder) : String :=
  order.relOrderbookTicker.getD order.request.rel

/-- The request as a maker receives it: it names the order book tickers, and
cannot be built without confirmation settings. -/
def received (senderPubkey : H256) (order : TakerOrder) : Option TakerRequest :=
  order.request.confSettings.map fun settings =>
    { order.request with
      base := order.getBaseOrderbookTicker
      rel := order.getRelOrderbookTicker
      senderPubkey
      destPubKey := .repeat 0
      confSettings := some settings }

end TakerOrder

inductive TakerOrderBuildError where
  | baseEqualRel
  | baseAmountTooLow (actual threshold : ℚ)
  | relAmountTooLow (actual threshold : ℚ)
  | minVolumeTooLow (actual threshold : ℚ)
  | maxBaseVolBelowMinBaseVol (max min : ℚ)
  | senderPubkeyIsZero
  | confsSettingsNotSet
  | tradingNotSupported (coin : String)
  deriving DecidableEq

structure TakerOrderBuilder where
  baseCoin : Coin
  relCoin : Coin
  baseOrderbookTicker : Option String := none
  relOrderbookTicker : Option String := none
  baseAmount : ℚ := 0
  relAmount : ℚ := 0
  senderPubkey : H256 := .repeat 0
  action : TakerAction := .buy
  matchBy : MatchBy := .any
  orderType : OrderType := .goodTillCancelled
  confSettings : Option OrderConfirmationsSettings := none
  minVolume : Option ℚ := none
  timeout : ℕ := 30
  saveInHistory : Bool := true

namespace TakerOrderBuilder

/-- The order that is returned when every check passes; `nowMs` and `uuid`
are the clock reading and the fresh uuid. -/
def order (nowMs : ℕ) (uuid : Uuid) (minVolume : ℚ) (builder : TakerOrderBuilder) : TakerOrder where
  createdAt := nowMs
  request :=
    { base := builder.baseCoin.ticker
      rel := builder.relCoin.ticker
      baseAmount := builder.baseAmount
      relAmount := builder.relAmount
      action := builder.action
      uuid
      senderPubkey := builder.senderPubkey
      destPubKey := .repeat 0
      matchBy := builder.matchBy
      confSettings := builder.confSettings
      baseProtocolInfo := some builder.baseCoin.coinProtocolInfo
      relProtocolInfo := some builder.relCoin.coinProtocolInfo }
  orderMatches := ∅
  minVolume
  orderType := builder.orderType
  timeout := builder.timeout
  saveInHistory := builder.saveInHistory
  baseOrderbookTicker := builder.baseOrderbookTicker
  relOrderbookTicker := builder.relOrderbookTicker

def build (nowMs : ℕ) (uuid : Uuid) (builder : TakerOrderBuilder) :
    Fallible TakerOrderBuildError TakerOrder := do
  refuseSome (untradableCoinTicker builder.baseCoin builder.relCoin) .tradingNotSupported
  let minBaseAmount := builder.baseCoin.minTradingVol
  let minRelAmount := builder.relCoin.minTradingVol
  refuseIf (builder.baseCoin.ticker = builder.relCoin.ticker) .baseEqualRel
  refuseIf (builder.baseAmount < minBaseAmount) (.baseAmountTooLow builder.baseAmount minBaseAmount)
  refuseIf (builder.relAmount < minRelAmount) (.relAmountTooLow builder.relAmount minRelAmount)
  refuseIf (builder.senderPubkey = .repeat 0) .senderPubkeyIsZero
  refuseIf (builder.confSettings = none) .confsSettingsNotSet
  let price ← divide builder.relAmount builder.baseAmount
  let baseMinByRel ← divide minRelAmount price
  let baseMinVolThreshold := max minBaseAmount baseMinByRel
  let minVolume := builder.minVolume.getD baseMinVolThreshold
  refuseIf (minVolume < baseMinVolThreshold) (.minVolumeTooLow minVolume baseMinVolThreshold)
  refuseIf (builder.baseAmount < minVolume)
    (.maxBaseVolBelowMinBaseVol builder.baseAmount minVolume)
  pure (builder.order nowMs uuid minVolume)

theorem build_eq_ok {nowMs : ℕ} {uuid : Uuid} {builder : TakerOrderBuilder}
    {order : TakerOrder} (hbuild : builder.build nowMs uuid = .ok order) :
    builder.confSettings ≠ none ∧ 0 < builder.baseAmount ∧ 0 < builder.relAmount ∧
      ∃ minVolume, minVolume ≤ builder.baseAmount ∧ order = builder.order nowMs uuid minVolume := by
  simp only [build, Fallible.bind_eq_ok, refuseSome_eq_ok, refuseIf_eq_ok,
    divide_eq_ok, not_lt] at hbuild
  obtain ⟨-, -, -, -, -, hbase, -, hrel, -, -, -, hconf, price,
    ⟨hbaseNe, hquotient⟩, -, ⟨hpriceNe, rfl⟩, -, -, -, hmax, horder⟩ := hbuild
  cases horder
  -- The amounts are at least the coins' minimums, and the two divisions
  -- exclude zero.
  have hrelNe : builder.relAmount ≠ 0 := by
    intro hzero
    rw [hzero, zero_div] at hquotient
    exact hpriceNe hquotient.symm
  have hbaseNonneg := builder.baseCoin.minTradingVol_nonneg.trans hbase
  have hrelNonneg := builder.relCoin.minTradingVol_nonneg.trans hrel
  exact ⟨hconf, hbaseNonneg.lt_of_ne' hbaseNe, hrelNonneg.lt_of_ne' hrelNe, _, hmax, rfl⟩

end TakerOrderBuilder

/-! ## Maker orders -/

structure MakerOrder where
  maxBaseVol : ℚ
  minBaseVol : ℚ
  price : ℚ
  createdAt : ℕ
  updatedAt : Option ℕ
  base : String
  rel : String
  orderMatches : HashMap Uuid MakerMatch
  startedSwaps : List Uuid
  uuid : Uuid
  confSettings : Option OrderConfirmationsSettings
  saveInHistory : Bool
  baseOrderbookTicker : Option String
  relOrderbookTicker : Option String
  timeoutInMinutes : Option ℕ
  deriving DecidableEq

inductive MakerOrderBuildError where
  | baseEqualRel
  | maxBaseVolTooLow (actual threshold : ℚ)
  | minBaseVolTooLow (actual threshold : ℚ)
  | priceTooLow (actual threshold : ℚ)
  | relVolTooLow (actual threshold : ℚ)
  | confSettingsNotSet
  | maxBaseVolBelowMinBaseVol (min max : ℚ)
  | tradingNotSupported (coin : String)
  deriving DecidableEq

def minPrice : ℚ := 1 / 100000000

theorem minPrice_pos : 0 < minPrice := by norm_num [minPrice]

def validatePrice (price : ℚ) : Fallible MakerOrderBuildError Unit :=
  refuseIf (price < minPrice) (.priceTooLow price minPrice)

def validateAndGetMinVol (minBaseAmount minRelAmount : ℚ) (minBaseVol : Option ℚ) (price : ℚ) :
    Fallible MakerOrderBuildError ℚ := do
  let baseMinByRel ← divide minRelAmount price
  let baseMinVolThreshold := max minBaseAmount baseMinByRel
  let actualMinBaseVol := minBaseVol.getD baseMinVolThreshold
  refuseIf (actualMinBaseVol < baseMinVolThreshold)
    (.minBaseVolTooLow actualMinBaseVol baseMinVolThreshold)
  pure actualMinBaseVol

def validateMaxVol (minBaseAmount minRelAmount maxBaseVol : ℚ) (minBaseVol : Option ℚ) (price : ℚ) :
    Fallible MakerOrderBuildError Unit := do
  refuseSome (minBaseVol.filter fun min => maxBaseVol < min)
    fun min => .maxBaseVolBelowMinBaseVol min maxBaseVol
  refuseIf (maxBaseVol < minBaseAmount) (.maxBaseVolTooLow maxBaseVol minBaseAmount)
  let relVol := maxBaseVol * price
  refuseIf (relVol < minRelAmount) (.relVolTooLow relVol minRelAmount)

theorem validateAndGetMinVol_eq_ok {minBaseAmount minRelAmount price : ℚ} {vol : ℚ} :
    validateAndGetMinVol minBaseAmount minRelAmount minBaseVol price = .ok vol ↔
      price ≠ 0 ∧ max minBaseAmount (minRelAmount / price) ≤ vol ∧
        minBaseVol.getD (max minBaseAmount (minRelAmount / price)) = vol := by
  unfold validateAndGetMinVol
  simp only [Fallible.bind_eq_ok, divide_eq_ok, refuseIf_eq_ok, not_lt]
  constructor
  · rintro ⟨-, ⟨hprice, rfl⟩, -, hthr, hvol⟩
    cases hvol
    exact ⟨hprice, hthr, rfl⟩
  · rintro ⟨hprice, hthr, rfl⟩
    exact ⟨_, ⟨hprice, rfl⟩, (), hthr, rfl⟩

theorem validateMaxVol_eq_ok {minBaseAmount minRelAmount maxBaseVol price : ℚ} :
    validateMaxVol minBaseAmount minRelAmount maxBaseVol minBaseVol price = .ok u ↔
      (∀ min, minBaseVol = some min → min ≤ maxBaseVol) ∧
        minBaseAmount ≤ maxBaseVol ∧ minRelAmount ≤ maxBaseVol * price := by
  unfold validateMaxVol
  simp [Fallible.bind_eq_ok, refuseSome_eq_ok, refuseIf_eq_ok, Option.filter_eq_none_iff]

structure MakerOrderBuilder where
  baseCoin : Coin
  relCoin : Coin
  maxBaseVol : ℚ := 0
  minBaseVol : Option ℚ := none
  price : ℚ := 0
  baseOrderbookTicker : Option String := none
  relOrderbookTicker : Option String := none
  confSettings : Option OrderConfirmationsSettings := none
  saveInHistory : Bool := true
  timeoutInMinutes : Option ℕ := none

namespace MakerOrderBuilder

def order (nowMs : ℕ) (uuid : Uuid) (minBaseVol : ℚ)
    (builder : MakerOrderBuilder) : MakerOrder where
  base := builder.baseCoin.ticker
  rel := builder.relCoin.ticker
  createdAt := nowMs
  updatedAt := some nowMs
  maxBaseVol := builder.maxBaseVol
  minBaseVol
  price := builder.price
  orderMatches := ∅
  startedSwaps := []
  uuid
  confSettings := builder.confSettings
  saveInHistory := builder.saveInHistory
  baseOrderbookTicker := builder.baseOrderbookTicker
  relOrderbookTicker := builder.relOrderbookTicker
  timeoutInMinutes := builder.timeoutInMinutes

def build (nowMs : ℕ) (uuid : Uuid) (builder : MakerOrderBuilder) :
    Fallible MakerOrderBuildError MakerOrder := do
  refuseSome (untradableCoinTicker builder.baseCoin builder.relCoin) .tradingNotSupported
  refuseIf (builder.baseCoin.ticker = builder.relCoin.ticker) .baseEqualRel
  refuseIf (builder.confSettings = none) .confSettingsNotSet
  let minBaseAmount := builder.baseCoin.minTradingVol
  let minRelAmount := builder.relCoin.minTradingVol
  validatePrice builder.price
  let actualMinBaseVol ← validateAndGetMinVol minBaseAmount minRelAmount
    builder.minBaseVol builder.price
  validateMaxVol minBaseAmount minRelAmount builder.maxBaseVol builder.minBaseVol builder.price
  pure (builder.order nowMs uuid actualMinBaseVol)

theorem build_eq_ok {nowMs : ℕ} {uuid : Uuid} {builder : MakerOrderBuilder}
    {order : MakerOrder} (hbuild : builder.build nowMs uuid = .ok order) :
    builder.confSettings ≠ none ∧ minPrice ≤ builder.price ∧ ∃ minBaseVol,
        validateAndGetMinVol builder.baseCoin.minTradingVol
            builder.relCoin.minTradingVol builder.minBaseVol builder.price =
          .ok minBaseVol ∧
        validateMaxVol builder.baseCoin.minTradingVol
            builder.relCoin.minTradingVol builder.maxBaseVol
            builder.minBaseVol builder.price = .ok () ∧
        order = builder.order nowMs uuid minBaseVol := by
  simp only [build, validatePrice, Fallible.bind_eq_ok, refuseSome_eq_ok,
    refuseIf_eq_ok, not_lt] at hbuild
  obtain ⟨-, -, -, -, -, hconf, -, hprice, minBaseVol, hmin, ⟨⟩, hmax, horder⟩ := hbuild
  cases horder
  exact ⟨hconf, hprice, minBaseVol, hmin, hmax, rfl⟩

end MakerOrderBuilder

/-- A taker order that found no match goes on as a maker order, with its pair
reversed if it was a purchase. -/
def MakerOrder.fromTakerOrder (nowMs : ℕ) (order : TakerOrder) : Fallible Empty MakerOrder :=
  match order.request.action with
  | .sell => do
      let price ← divide order.request.relAmount order.request.baseAmount
      pure
        { price
          maxBaseVol := order.request.baseAmount
          minBaseVol := order.minVolume
          createdAt := nowMs
          updatedAt := some nowMs
          base := order.request.base
          rel := order.request.rel
          orderMatches := ∅
          startedSwaps := []
          uuid := order.request.uuid
          confSettings := order.request.confSettings
          saveInHistory := order.saveInHistory
          baseOrderbookTicker := order.baseOrderbookTicker
          relOrderbookTicker := order.relOrderbookTicker
          timeoutInMinutes := none }
  | .buy => do
      let price ← divide order.request.baseAmount order.request.relAmount
      let minBaseVol ← divide order.minVolume price
      pure
        { price
          maxBaseVol := order.request.relAmount
          minBaseVol
          createdAt := nowMs
          updatedAt := some nowMs
          base := order.request.rel
          rel := order.request.base
          orderMatches := ∅
          startedSwaps := []
          uuid := order.request.uuid
          confSettings := order.request.confSettings.map OrderConfirmationsSettings.reversed
          saveInHistory := order.saveInHistory
          baseOrderbookTicker := order.relOrderbookTicker
          relOrderbookTicker := order.baseOrderbookTicker
          timeoutInMinutes := none }

namespace MakerOrder

/-- A maker order is built from a request of the user or goes on from a taker
order. -/
inductive Created (order : MakerOrder) : Prop
  | built (nowMs : ℕ) (uuid : Uuid) (builder : MakerOrderBuilder)
      (hbuild : builder.build nowMs uuid = .ok order)
  | converted (builtMs nowMs : ℕ) (uuid : Uuid) (builder : TakerOrderBuilder)
      (taker : TakerOrder) (hbuild : builder.build builtMs uuid = .ok taker)
      (hconvert : fromTakerOrder nowMs taker = .ok order)

structure Fresh (order : MakerOrder) : Prop where
  confSettings : order.confSettings ≠ none
  price : 0 < order.price
  maxBaseVol : 0 ≤ order.maxBaseVol
  orderMatches : order.orderMatches = ∅

variable {order : MakerOrder} {nowMs : ℕ}

theorem fresh_of_build {uuid : Uuid} {builder : MakerOrderBuilder}
    (hbuild : builder.build nowMs uuid = .ok order) : order.Fresh := by
  obtain ⟨hconf, hprice, minBaseVol, -, hmax, rfl⟩ := MakerOrderBuilder.build_eq_ok hbuild
  have hvol := (validateMaxVol_eq_ok.mp hmax).2.1
  exact
    { confSettings := hconf
      price := minPrice_pos.trans_le hprice
      maxBaseVol := builder.baseCoin.minTradingVol_nonneg.trans hvol
      orderMatches := rfl }

theorem fresh_of_convert {taker : TakerOrder} (hconf : taker.request.confSettings ≠ none)
    (hbase : 0 < taker.request.baseAmount) (hrel : 0 < taker.request.relAmount)
    (hconv : fromTakerOrder nowMs taker = .ok order) : order.Fresh := by
  unfold fromTakerOrder at hconv
  split at hconv
  · obtain ⟨price, hprice, horder⟩ := Fallible.bind_eq_ok.mp hconv
    obtain ⟨-, rfl⟩ := divide_eq_ok.mp hprice
    cases horder
    exact
      { confSettings := hconf
        price := div_pos hrel hbase
        maxBaseVol := hbase.le
        orderMatches := rfl }
  · obtain ⟨price, hprice, hconv⟩ := Fallible.bind_eq_ok.mp hconv
    obtain ⟨-, rfl⟩ := divide_eq_ok.mp hprice
    obtain ⟨minBaseVol, -, horder⟩ := Fallible.bind_eq_ok.mp hconv
    cases horder
    exact
      { confSettings := by simpa using hconf
        price := div_pos hbase hrel
        maxBaseVol := hrel.le
        orderMatches := rfl }

theorem Created.fresh (hcreate : order.Created) : order.Fresh := by
  cases hcreate with
  | built nowMs uuid builder hbuild => exact fresh_of_build hbuild
  | converted builtMs nowMs uuid builder taker hbuild hconv =>
    obtain ⟨hconf, hbase, hrel, minVolume, -, rfl⟩ := TakerOrderBuilder.build_eq_ok hbuild
    exact fresh_of_convert hconf hbase hrel hconv

end MakerOrder

inductive OrderMatchResult where
  | matched (baseAmount relAmount : ℚ)
  | notMatched
  deriving DecidableEq

namespace MakerOrder

variable (order : MakerOrder)

def reservedAmount : ℚ :=
  (HashMap.values order.orderMatches).foldl
    (fun reserved orderMatch => reserved + orderMatch.reserved.baseAmount) 0

def availableAmount : ℚ :=
  order.maxBaseVol - order.reservedAmount

def hasOngoingMatches : Bool :=
  (HashMap.values order.orderMatches).any fun orderMatch =>
    orderMatch.connected.isNone && orderMatch.connect.isNone

def getBaseOrderbookTicker : String :=
  order.baseOrderbookTicker.getD order.base

def getRelOrderbookTicker : String :=
  order.relOrderbookTicker.getD order.rel

def matchWithRequest (taker : TakerRequest) : Fallible Empty OrderMatchResult :=
  if taker.baseAmount ≤ 0 ∨ taker.relAmount ≤ 0 then .ok .notMatched
  else
    match taker.action with
    | .buy => do
        let tickerMatch :=
          (order.base = taker.base ∨ order.baseOrderbookTicker = some taker.base) ∧
            (order.rel = taker.rel ∨ order.relOrderbookTicker = some taker.rel)
        let takerPrice ← divide taker.relAmount taker.baseAmount
        if tickerMatch ∧ taker.baseAmount ≤ order.availableAmount ∧
            order.minBaseVol ≤ taker.baseAmount ∧ order.price ≤ takerPrice then
          pure (.matched taker.baseAmount (taker.baseAmount * order.price))
        else pure .notMatched
    | .sell => do
        let tickerMatch :=
          (order.base = taker.rel ∨ order.baseOrderbookTicker = some taker.rel) ∧
            (order.rel = taker.base ∨ order.relOrderbookTicker = some taker.base)
        let takerPrice ← divide taker.baseAmount taker.relAmount
        let matchedBaseAmount ← divide taker.baseAmount order.price
        let matchedRelAmount := taker.baseAmount
        if tickerMatch ∧ matchedBaseAmount ≤ order.availableAmount ∧
            order.minBaseVol ≤ matchedBaseAmount ∧
            order.price ≤ takerPrice then
          pure (.matched matchedBaseAmount matchedRelAmount)
        else pure .notMatched

/-- `nowMs` is the clock reading for the time of the update. -/
def applyUpdated (nowMs : ℕ) (msg : MakerOrderUpdated) (order : MakerOrder) : MakerOrder :=
  { order with
    price := msg.newPrice.getD order.price
    maxBaseVol := msg.newMaxVolume.getD order.maxBaseVol
    minBaseVol := msg.newMinVolume.getD order.minBaseVol
    confSettings := msg.newConfSettings.or order.confSettings
    updatedAt := some nowMs }

end MakerOrder

/-! ## Acceptance of a reservation -/

inductive MatchReservedResult where
  | matched
  | notMatched
  deriving DecidableEq

namespace TakerOrder

def admits (order : TakerOrder) (reserved : MakerReserved) : Bool :=
  match order.request.matchBy with
  | .any => true
  | .orders uuids => reserved.makerOrderUuid ∈ uuids
  | .pubkeys pubkeys => reserved.senderPubkey ∈ pubkeys

def matchReserved (order : TakerOrder) (reserved : MakerReserved) : MatchReservedResult :=
  if order.admits reserved then
    match order.request.action with
    | .buy =>
      let matchTicker :=
        (order.request.base = reserved.base ∨ order.baseOrderbookTicker = some reserved.base) ∧
          (order.request.rel = reserved.rel ∨ order.relOrderbookTicker = some reserved.rel)
      if matchTicker ∧ order.request.baseAmount = reserved.baseAmount ∧
          reserved.relAmount ≤ order.request.relAmount then .matched
      else .notMatched
    | .sell =>
      let matchTicker :=
        (order.request.base = reserved.rel ∨ order.baseOrderbookTicker = some reserved.rel) ∧
          (order.request.rel = reserved.base ∨ order.relOrderbookTicker = some reserved.base)
      if matchTicker ∧ order.request.baseAmount = reserved.relAmount ∧
          order.request.relAmount ≤ reserved.baseAmount then .matched
      else .notMatched
  else .notMatched

end TakerOrder

end KdfProtocol
