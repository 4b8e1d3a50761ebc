import KdfProtocol.GuardedRun
import KdfProtocol.MakerOrderUpdate

/-!
# The tradable minimum of a maker order

The builder checks price, minimum volume and volume together.  An update
checks the fields it changes, so it keeps what the builder has established
only under a condition on the request and the order before it.
-/

namespace KdfProtocol

/-- An update with the readings it makes.  The minimums of the pair do not
change while the order lives. -/
structure UpdateCall (baseCoin relCoin : Coin) where
  node : TradingNode
  reads : UpdateReads
  timestamp : ℕ
  nowMs : ℕ
  req : MakerOrderUpdateReq
  base_minTradingVol : ∀ coin, node.coins baseCoin.ticker = some coin →
    coin.minTradingVol = baseCoin.minTradingVol
  rel_minTradingVol : ∀ coin, node.coins relCoin.ticker = some coin →
    coin.minTradingVol = relCoin.minTradingVol

section Updates

variable {baseCoin relCoin : Coin}

/-- The update when no other task touches the order and it is saved. -/
def updateMakerOrder (call : UpdateCall baseCoin relCoin)
    (order : MakerOrder) : Fallible MakerOrderUpdateError MakerOrder := do
  let msg ← prepareUpdate call.node call.reads call.timestamp call.req order
  pure (order.applyUpdated call.nowMs msg)

def AcceptsUpdate (order : MakerOrder) (call : UpdateCall baseCoin relCoin) : Prop :=
  ∃ updated, updateMakerOrder call order = .ok updated

def updateStep (order : MakerOrder) (call : UpdateCall baseCoin relCoin) : MakerOrder :=
  match updateMakerOrder call order with
  | .ok updated => updated
  | .error _ => order

variable (baseCoin relCoin) in
structure Tradable (order : MakerOrder) : Prop where
  base : order.base = baseCoin.ticker
  rel : order.rel = relCoin.ticker
  price : minPrice ≤ order.price
  minBaseVol : max baseCoin.minTradingVol (relCoin.minTradingVol / order.price) ≤ order.minBaseVol
  available : order.minBaseVol ≤ order.availableAmount

/-- The minimum volume is part of the request, or that of the order suits the
price and the volume that the request leads to. -/
def KeepsMinimum (order : MakerOrder) (call : UpdateCall baseCoin relCoin) : Prop :=
  call.req.minVolume ≠ none ∨
    (max baseCoin.minTradingVol (relCoin.minTradingVol / call.req.newPrice.getD order.price) ≤
        order.minBaseVol ∧
      order.minBaseVol ≤
        (call.req.requestedVolume call.reads order).getD order.maxBaseVol - order.reservedAmount)

variable {call : UpdateCall baseCoin relCoin} {order : MakerOrder}

theorem tradable_of_build {builder : MakerOrderBuilder} {nowMs : ℕ}
    {uuid : Uuid} (hbuild : builder.build nowMs uuid = .ok order) :
    Tradable builder.baseCoin builder.relCoin order := by
  obtain ⟨-, hprice, minBaseVol, hmin, hmax, rfl⟩ := MakerOrderBuilder.build_eq_ok hbuild
  obtain ⟨-, hthr, hactual⟩ := validateAndGetMinVol_eq_ok.mp hmin
  obtain ⟨hgiven, hbase, hrel⟩ := validateMaxVol_eq_ok.mp hmax
  have hpos : 0 < builder.price := minPrice_pos.trans_le hprice
  have hvolume : minBaseVol ≤ builder.maxBaseVol := by
    cases hvol : builder.minBaseVol with
    | some min =>
      rw [hvol, Option.getD_some] at hactual
      rw [← hactual]
      exact hgiven min hvol
    | none =>
      -- The default is the larger of the two thresholds.
      rw [hvol, Option.getD_none] at hactual
      rw [← hactual]
      exact max_le hbase ((div_le_iff₀ hpos).mpr hrel)
  have havail : (builder.order nowMs uuid minBaseVol).availableAmount = builder.maxBaseVol := by
    simp [MakerOrder.availableAmount, MakerOrder.reservedAmount,
      MakerOrderBuilder.order, HashMap.values]
  exact
    { base := rfl
      rel := rfl
      price := hprice
      minBaseVol := hthr
      available := havail ▸ hvolume }

theorem updateMakerOrder_eq_ok {order updated : MakerOrder} (hbase : order.base = baseCoin.ticker)
    (hrel : order.rel = relCoin.ticker) (hupdate : updateMakerOrder call order = .ok updated) :
    ∃ msg, UpdateChecked call.reads call.req order baseCoin relCoin msg ∧
      updated = order.applyUpdated call.nowMs msg := by
  obtain ⟨msg, hprepare, hupd⟩ := Fallible.bind_eq_ok.mp hupdate
  cases hupd
  obtain ⟨base, rel, hpair, hcheck⟩ := prepareUpdate_eq_ok hprepare
  simp only [TradingNode.findPair, Option.bind_eq_some_iff,
    Option.map_eq_some_iff, Prod.mk.injEq] at hpair
  obtain ⟨base, hbaseCoin, rel, hrelCoin, rfl, rfl⟩ := hpair
  have hbaseMin := call.base_minTradingVol base (hbase ▸ hbaseCoin)
  have hrelMin := call.rel_minTradingVol rel (hrel ▸ hrelCoin)
  have hminVolume := hcheck.minVolume
  rw [hbaseMin, hrelMin] at hminVolume
  exact ⟨msg, { hcheck with minVolume := hminVolume }, rfl⟩

theorem tradable_updateStep_iff
    (htrade : Tradable baseCoin relCoin order) (haccepts : AcceptsUpdate order call) :
    Tradable baseCoin relCoin (updateStep order call) ↔ KeepsMinimum order call := by
  obtain ⟨updated, hupdate⟩ := haccepts
  obtain ⟨msg, hcheck, hupd⟩ := updateMakerOrder_eq_ok htrade.base htrade.rel hupdate
  have hstep : updateStep order call = order.applyUpdated call.nowMs msg := by
    simp only [updateStep, hupdate, hupd]
  rw [hstep]
  have hprice : minPrice ≤ call.req.newPrice.getD order.price := by
    cases hnew : call.req.newPrice with
    | none => exact htrade.price
    | some price => exact hcheck.price price hnew
  -- The minimum and the volume of the updated order are those the update has
  -- computed; only a given minimum has been compared with the others.
  have hiff : Tradable baseCoin relCoin
      (order.applyUpdated call.nowMs msg) ↔
        max baseCoin.minTradingVol (relCoin.minTradingVol / call.req.newPrice.getD order.price) ≤
          call.req.minVolume.getD order.minBaseVol ∧
        call.req.minVolume.getD order.minBaseVol ≤
          (call.req.requestedVolume call.reads order).getD order.maxBaseVol -
            order.reservedAmount := by
    rw [← hcheck.newMinVolume, ← hcheck.newMaxVolume, ← hcheck.newPrice]
    rw [← hcheck.newPrice] at hprice
    constructor
    · intro hafter
      exact ⟨hafter.minBaseVol, hafter.available⟩
    · intro hafter
      exact
        { base := htrade.base
          rel := htrade.rel
          price := hprice
          minBaseVol := hafter.1
          available := hafter.2 }
  rw [hiff]
  unfold KeepsMinimum
  cases hmin : call.req.minVolume with
  | none => simp
  | some volume =>
    have hthr := hcheck.minVolume volume hmin
    have hvol := hcheck.minBelowMax volume hmin
    exact ⟨fun _ => .inl (by simp), fun _ => ⟨hthr, hvol⟩⟩

theorem Tradable.legs (htrade : Tradable baseCoin relCoin order) {request : TakerRequest} {b r : ℚ}
    (hmatch : order.matchWithRequest request = .ok (.matched b r)) :
    baseCoin.minTradingVol ≤ b ∧ relCoin.minTradingVol ≤ r := by
  have hpos : 0 < order.price := minPrice_pos.trans_le htrade.price
  have hfair : FairMatch order request b r := (fairMatch_iff hmatch).mpr fun _ => hpos
  have hmin := htrade.minBaseVol.trans hfair.minBaseVol
  obtain ⟨hbase, hrel⟩ := max_le_iff.mp hmin
  rw [div_le_iff₀ hpos] at hrel
  exact ⟨hbase, hfair.price ▸ hrel⟩

end Updates

/-- Over every sequence of accepted updates of a built order. -/
theorem run_tradable_iff {builder : MakerOrderBuilder} {nowMs : ℕ}
    {uuid : Uuid} {order : MakerOrder} (hbuild : builder.build nowMs uuid = .ok order)
    (calls : List (UpdateCall builder.baseCoin builder.relCoin))
    (haccepted : EveryStep updateStep AcceptsUpdate order calls) :
    (EveryState updateStep (Tradable builder.baseCoin builder.relCoin) order
          calls ↔
        EveryStep updateStep KeepsMinimum order calls) ∧
      (EveryStep updateStep KeepsMinimum order calls →
        EveryState updateStep
          (fun order => ∀ request b r,
            order.matchWithRequest request = .ok (.matched b r) →
              builder.baseCoin.minTradingVol ≤ b ∧
                builder.relCoin.minTradingVol ≤ r)
          order calls) := by
  have hiff : EveryState updateStep
      (Tradable builder.baseCoin builder.relCoin) order calls ↔
        EveryStep updateStep KeepsMinimum order calls :=
    everyState_iff_everyStep_of_guard updateStep
      (fun _ _ hs haccepts => tradable_updateStep_iff hs haccepts)
      (tradable_of_build hbuild) haccepted
  refine ⟨hiff, ?_⟩
  intro hkeeps
  exact (hiff.mpr hkeeps).imp fun _ hs _ _ _ hmatch => hs.legs hmatch

/-! ## A price that outruns the minimum -/

def pairBuilder : MakerOrderBuilder :=
  { baseCoin := listedCoin "KMD"
    relCoin := listedCoin "DGB"
    maxBaseVol := 10
    price := 1
    confSettings := some oneConfirmation }

def pairOrder : MakerOrder := pairBuilder.order 0 1 (1 / 10000)

def pairReads : UpdateReads where
  preTradeSpendCheckEnabled := true
  spendSafeAmount := fun _ => some none
  getMaxVolume := none
  checkBalanceForMakerSwap := fun _ => true

def pairCall (req : MakerOrderUpdateReq) : UpdateCall pairBuilder.baseCoin pairBuilder.relCoin where
  node := listedNode (.repeat 1) ["KMD", "DGB"]
  reads := pairReads
  timestamp := 0
  nowMs := 1
  req
  base_minTradingVol := by
    intro coin hcoin
    cases hcoin
    rfl
  rel_minTradingVol := by
    intro coin hcoin
    cases hcoin
    rfl

def halvePrice : MakerOrderUpdateReq := { uuid := 1, newPrice := some (1 / 2) }

def halvedOrder : MakerOrder :=
  { pairOrder with
    price := 1 / 2
    updatedAt := some 1 }

def smallRequest : TakerRequest :=
  { base := "KMD"
    rel := "DGB"
    baseAmount := 1 / 10000
    relAmount := 1 / 10000
    action := .buy
    uuid := 2
    senderPubkey := .repeat 2
    destPubKey := .repeat 0
    matchBy := .any
    confSettings := some oneConfirmation
    baseProtocolInfo := none
    relProtocolInfo := none }

/-- The lower price raises the threshold above the minimum volume of the
order, and a match pays less than the minimum of the second coin. -/
theorem price_update_breaks_minimum :
    pairBuilder.build 0 1 = .ok pairOrder ∧
      updateMakerOrder (pairCall halvePrice) pairOrder = .ok halvedOrder ∧
      halvedOrder.minBaseVol <
        pairBuilder.relCoin.minTradingVol / halvedOrder.price ∧
      halvedOrder.matchWithRequest smallRequest =
        .ok (.matched (1 / 10000) (1 / 20000)) ∧
      1 / 20000 < pairBuilder.relCoin.minTradingVol := by
  decide +kernel

def halvePriceWithMinimum : MakerOrderUpdateReq :=
  { uuid := 1
    newPrice := some (1 / 2)
    minVolume := some (1 / 1000) }

def halvedOrderWithMinimum : MakerOrder :=
  { halvedOrder with minBaseVol := 1 / 1000 }

/-- With a minimum of its own the same change of the price does no harm. -/
theorem price_update_with_minimum_keeps_tradable :
    EveryState updateStep
      (Tradable pairBuilder.baseCoin pairBuilder.relCoin) pairOrder
      [pairCall halvePriceWithMinimum] := by
  have hbuild : pairBuilder.build 0 1 = .ok pairOrder := by decide +kernel
  have hupdate : updateMakerOrder (pairCall halvePriceWithMinimum) pairOrder =
      .ok halvedOrderWithMinimum := by decide +kernel
  have hkeeps : KeepsMinimum pairOrder (pairCall halvePriceWithMinimum) :=
    .inl (by decide +kernel)
  exact (run_tradable_iff hbuild [pairCall halvePriceWithMinimum]
    ⟨⟨_, hupdate⟩, trivial⟩).1.mpr ⟨hkeeps, trivial⟩

end KdfProtocol
