import KdfProtocol.GuardedRun
import KdfProtocol.MakerOrderUpdate

/-!
# Reserved amounts of a maker order

One maker order with everything that changes it: requests and connections of
takers, timeouts of matches, readings of the balance, and updates of the user.
Each event is what one task does under the lock of the order; an update takes
the lock three times and keeps its snapshot in between.
-/

namespace KdfProtocol

open HashMap

/-! ## The maximum volume of the wallet -/

inductive CheckBalanceError where
  | notSufficientBalance (coin : String) (available required : ℚ) (lockedBySwaps : Option ℚ)
  | notSufficientBaseCoinBalance (coin : String) (available required : ℚ) (lockedBySwaps : Option ℚ)
  | volumeTooLow (coin : String) (volume threshold : ℚ)
  | transport (message : String)
  | feeCapBelowBaseFee
  | internalError (message : String)
  deriving DecidableEq

def CheckBalanceError.isNotSufficientBalance : CheckBalanceError → Bool
  | .notSufficientBalance .. | .notSufficientBaseCoinBalance .. => true
  | _ => false

structure MakerVolumeReads where
  ticker : String
  balance : ℚ
  lockedAmount : ℚ
  /-- The coin in which the fee is paid, and its amount. -/
  senderTradeFee : Except CheckBalanceError (String × ℚ)
  baseCoinCheck : Except CheckBalanceError Unit
  minTxAmount : ℚ
  minTxAmount_nonneg : 0 ≤ minTxAmount

def calcMaxMakerVol (reads : MakerVolumeReads) : Except CheckBalanceError ℚ := do
  let available := reads.balance - reads.lockedAmount
  let (feeCoin, feeAmount) ← reads.senderTradeFee
  if feeCoin = reads.ticker then
    let vol := available - feeAmount
    if vol < reads.minTxAmount then
      throw (.notSufficientBalance reads.ticker available
        (reads.minTxAmount + feeAmount) (some reads.lockedAmount))
    pure vol
  else
    reads.baseCoinCheck
    if available < reads.minTxAmount then
      throw (.notSufficientBalance reads.ticker available reads.minTxAmount
        (some reads.lockedAmount))
    pure available

/-! ## The order and the tasks that work on it -/

/-- Equality of orders does not see the iteration order of the matches. -/
def MakerOrder.sameAs (order other : MakerOrder) : Prop :=
  order.orderMatches.entries.Perm other.orderMatches.entries ∧
    { order with orderMatches := ∅ } = { other with orderMatches := ∅ }

open MakerOrder

instance decidableSameAs (order other : MakerOrder) : Decidable (order.sameAs other) :=
  inferInstanceAs (Decidable (_ ∧ _))

structure PreparedUpdate where
  before : MakerOrder
  msg : MakerOrderUpdated
  node : TradingNode
  reads : UpdateReads
  timestamp : ℕ
  req : MakerOrderUpdateReq
  isPrepared : prepareUpdate node reads timestamp req before = .ok msg

structure SavingUpdate where
  before : MakerOrder
  applied : MakerOrder

structure OrderState where
  order : MakerOrder
  /-- The order is in the table of the node's orders. -/
  listed : Bool
  prepared : List PreparedUpdate
  saving : List SavingUpdate

open OrderState

inductive OrderEvent where
  | takerRequest (node : TradingNode) (nowMs : ℕ) (request : TakerRequest)
  | takerConnect (node : TradingNode) (senderPubkey : H256) (connect : TakerConnect)
  | matchTimeout (nowMs : ℕ)
  | balanceUpdate (reads : MakerVolumeReads)
  | reconcile (reads : MakerVolumeReads)
  /-- The order is cancelled, filled or expired. -/
  | takeOut
  | startUpdate (node : TradingNode) (reads : UpdateReads) (timestamp : ℕ)
      (req : MakerOrderUpdateReq)
  | applyUpdate (index : ℕ) (nowMs : ℕ)
  | finishSave (index : ℕ) (saved : Bool)

def orderMatchTimeout : ℕ := 30

namespace MakerOrder

def dropTimedOutMatches (now : ℕ) (order : MakerOrder) : MakerOrder :=
  { order with
    orderMatches := order.orderMatches.retain fun _ orderMatch =>
      now < orderMatch.lastUpdated + orderMatchTimeout * 1000 || orderMatch.connected.isSome }

def limitAvailable (volume : ℚ) (order : MakerOrder) : MakerOrder :=
  if volume < order.availableAmount then
    { order with maxBaseVol := order.reservedAmount + volume }
  else order

end MakerOrder

namespace OrderState

def initial (order : MakerOrder) : OrderState where
  order
  listed := true
  prepared := []
  saving := []

variable (node : TradingNode) (reads : MakerVolumeReads) (s : OrderState)

def takerRequest (nowMs : ℕ) (request : TakerRequest) (s : OrderState) : OrderState :=
  match s.order.answerRequest node nowMs s.order.uuid request with
  | .ok (.reserved _ order) => { s with order }
  | .ok .cancelled => { s with listed := false }
  | _ => s

def takerConnect (senderPubkey : H256) (connect : TakerConnect) (s : OrderState) : OrderState :=
  match s.order.processTakerConnect node senderPubkey connect with
  | .connected _ order _ => { s with order }
  | .ignored => s

/-- `none` if the volume could not be computed. -/
def balanceVolume : Option ℚ :=
  match calcMaxMakerVol reads with
  | .ok volume => some volume
  | .error e => if e.isNotSufficientBalance then some 0 else none

def balanceUpdated : OrderState :=
  match balanceVolume reads with
  | none => s
  | some newVolume =>
    if s.order.base ≠ reads.ticker then s
    else if newVolume < s.order.minBaseVol ∧ s.listed then
      { s with listed := false }
    else { s with order := s.order.limitAvailable newVolume }

/-- An order that gets no volume, or too little, is taken out later. -/
def reconcile : OrderState :=
  match calcMaxMakerVol reads with
  | .ok maxVol =>
    if s.listed then { s with order := s.order.limitAvailable maxVol }
    else s
  | .error _ => s

def startUpdate (reads : UpdateReads) (timestamp : ℕ) (req : MakerOrderUpdateReq) (s : OrderState) :
    OrderState :=
  match h : prepareUpdate node reads timestamp req s.order with
  | .ok msg =>
    { s with
      prepared :=
        { before := s.order, msg, node, reads, timestamp, req
          isPrepared := h } :: s.prepared }
  | .error _ => s

def applyUpdate (index nowMs : ℕ) (s : OrderState) : OrderState :=
  match s.prepared[index]? with
  | none => s
  | some update =>
    let s := { s with prepared := s.prepared.eraseIdx index }
    if s.order.sameAs update.before ∧ s.listed then
      let applied := s.order.applyUpdated nowMs update.msg
      { s with
        order := applied
        saving := { before := update.before, applied } :: s.saving }
    else s

/-- A failed save brings back the order as it was before, unless it has
changed again or is gone. -/
def finishSave (index : ℕ) (saved : Bool) (s : OrderState) : OrderState :=
  match s.saving[index]? with
  | none => s
  | some update =>
    let s := { s with saving := s.saving.eraseIdx index }
    if !saved ∧ s.order.sameAs update.applied ∧ s.listed then
      { s with order := update.before }
    else s

def step : OrderEvent → OrderState
  | .takerRequest node nowMs request => s.takerRequest node nowMs request
  | .takerConnect node senderPubkey connect => s.takerConnect node senderPubkey connect
  | .matchTimeout nowMs => { s with order := s.order.dropTimedOutMatches nowMs }
  | .balanceUpdate reads => s.balanceUpdated reads
  | .reconcile reads => s.reconcile reads
  | .takeOut => { s with listed := false }
  | .startUpdate node reads timestamp req => s.startUpdate node reads timestamp req
  | .applyUpdate index nowMs => s.applyUpdate index nowMs
  | .finishSave index saved => s.finishSave index saved

end OrderState

/-! ## No over-reservation -/

variable {reads : MakerVolumeReads} {volume : ℚ}

theorem calcMaxMakerVol_nonneg (hvol : calcMaxMakerVol reads = .ok volume) : 0 ≤ volume := by
  suffices hmin : reads.minTxAmount ≤ volume from reads.minTxAmount_nonneg.trans hmin
  unfold calcMaxMakerVol at hvol
  cases hfee : reads.senderTradeFee with
  | error e =>
    rw [hfee] at hvol
    cases hvol
  | ok fee =>
    simp only [hfee, bind, Except.bind] at hvol
    split at hvol
    · split at hvol
      · cases hvol
      next hlow =>
        cases hvol
        exact not_lt.mp hlow
    · cases hcheck : reads.baseCoinCheck with
      | error e =>
        simp [hcheck] at hvol
      | ok u =>
        simp only [hcheck] at hvol
        split at hvol
        · cases hvol
        next hlow =>
          cases hvol
          exact not_lt.mp hlow

theorem balanceVolume_nonneg (hvol : balanceVolume reads = some volume) : 0 ≤ volume := by
  unfold balanceVolume at hvol
  split at hvol
  next computed hcomputed =>
    cases hvol
    exact calcMaxMakerVol_nonneg hcomputed
  · split at hvol
    · cases hvol
      exact le_rfl
    · cases hvol

namespace MakerOrder

theorem reservedAmount_eq_total (order : MakerOrder) :
    order.reservedAmount = total (fun orderMatch : MakerMatch =>
        orderMatch.reserved.baseAmount) order.orderMatches := by
  simp [reservedAmount, total, List.sum_eq_foldl, List.foldl_map]

/-- The matches fit into the volume.  Amounts and price are not negative, so
that dropping a match frees volume and a new match takes some. -/
structure Sound (order : MakerOrder) : Prop where
  price : 0 < order.price
  amounts : ∀ orderMatch ∈ HashMap.values order.orderMatches, 0 ≤ orderMatch.reserved.baseAmount
  reserved : order.reservedAmount ≤ order.maxBaseVol

variable {order : MakerOrder}

theorem Fresh.sound (hfresh : order.Fresh) : order.Sound where
  price := hfresh.price
  amounts := by simp [hfresh.orderMatches, values]
  reserved := by
    have hzero : order.reservedAmount = 0 := by
      simp [reservedAmount, hfresh.orderMatches, values]
    rw [hzero]
    exact hfresh.maxBaseVol

variable {request : TakerRequest} {other : MakerOrder}

theorem reservedAmount_of_sameAs (hsame : order.sameAs other) :
    order.reservedAmount = other.reservedAmount := by
  rw [reservedAmount_eq_total, reservedAmount_eq_total, total_of_perm _ hsame.1]

theorem Sound.of_sameAs (hsound : order.Sound) (hsame : order.sameAs other) : other.Sound := by
  have hresv := reservedAmount_of_sameAs hsame
  obtain ⟨hperm, hrest⟩ := hsame
  rw [mk.injEq] at hrest
  obtain ⟨hmax, -, hprice, -⟩ := hrest
  exact
    { price := hprice ▸ hsound.price
      amounts := fun orderMatch hmem =>
        hsound.amounts orderMatch ((hperm.map _).mem_iff.mpr hmem)
      reserved := by
        rw [← hresv, ← hmax]
        exact hsound.reserved }

theorem matched_amount {b r : ℚ} (hprice : 0 < order.price)
    (hmatch : order.matchWithRequest request = .ok (.matched b r)) :
    0 ≤ b ∧ b ≤ order.availableAmount := by
  cases hact : request.action with
  | buy =>
    obtain ⟨⟨hbase, -⟩, -, ⟨havail, -, -⟩, rfl, -⟩ := matchWithRequest_buy hact hmatch
    exact ⟨hbase.le, havail⟩
  | sell =>
    obtain ⟨⟨hbase, -⟩, -, ⟨havail, -, -⟩, -, rfl, -⟩ := matchWithRequest_sell hact hmatch
    exact ⟨(div_pos hbase hprice).le, havail⟩

theorem Sound.withReserved (hsound : order.Sound)
    {reserved : MakerReserved} {r : ℚ} (hmatch : order.matchWithRequest request =
      .ok (.matched reserved.baseAmount r)) (hnew : request.uuid ∉ order.orderMatches) (nowMs : ℕ) :
    (order.withReserved nowMs request reserved).Sound := by
  obtain ⟨hnonneg, havail⟩ := matched_amount hsound.price hmatch
  constructor
  case price => exact hsound.price
  case amounts =>
    intro orderMatch hmem
    obtain rfl | hold := mem_values_insert hmem
    · exact hnonneg
    · exact hsound.amounts orderMatch hold
  case reserved =>
    rw [reservedAmount_eq_total]
    unfold MakerOrder.withReserved
    rw [total_insert_of_notMem _ hnew, ← reservedAmount_eq_total]
    unfold availableAmount at havail
    linarith

theorem Sound.withConnected (hsound : order.Sound) {connect : TakerConnect}
    {before after : MakerMatch}
    (hpre : order.orderMatches.lookup connect.takerOrderUuid = some before)
    (hafter : after.reserved = before.reserved) : (order.withConnected connect after).Sound := by
  constructor
  case price => exact hsound.price
  case amounts =>
    intro orderMatch hmem
    obtain rfl | hold := mem_values_insert hmem
    · rw [hafter]
      exact hsound.amounts before (mem_values_of_lookup hpre)
    · exact hsound.amounts orderMatch hold
  case reserved =>
    rw [reservedAmount_eq_total]
    unfold MakerOrder.withConnected
    rw [total_insert_of_lookup _ hpre (by rw [hafter]), ← reservedAmount_eq_total]
    exact hsound.reserved

theorem Sound.dropTimedOutMatches (hsound : order.Sound) (now : ℕ) :
    (order.dropTimedOutMatches now).Sound := by
  constructor
  case price => exact hsound.price
  case amounts =>
    intro orderMatch hmem
    have hsublist : (values
        (order.dropTimedOutMatches now).orderMatches).Sublist
          (values order.orderMatches) := List.filter_sublist.map _
    exact hsound.amounts orderMatch (hsublist.mem hmem)
  case reserved =>
    rw [reservedAmount_eq_total]
    have hle := total_retain_le
      (fun orderMatch : MakerMatch => orderMatch.reserved.baseAmount) (fun _ orderMatch =>
        now < orderMatch.lastUpdated + orderMatchTimeout * 1000 ||
          orderMatch.connected.isSome) hsound.amounts
    rw [← reservedAmount_eq_total] at hle
    exact hle.trans hsound.reserved

theorem Sound.limitAvailable (hsound : order.Sound) {volume : ℚ} (hvol : 0 ≤ volume) :
    (order.limitAvailable volume).Sound := by
  unfold MakerOrder.limitAvailable
  split
  · exact
      { price := hsound.price
        amounts := hsound.amounts
        reserved := le_add_of_nonneg_right hvol }
  · exact hsound

/-- The update was checked against a snapshot, but the order is still the
same, so its reserved amount is the one the new volume was compared with. -/
theorem Sound.applyUpdated (hsound : order.Sound) {update : PreparedUpdate}
    (hsame : order.sameAs update.before) (nowMs : ℕ) :
    (order.applyUpdated nowMs update.msg).Sound := by
  obtain ⟨baseCoin, relCoin, -, hcheck⟩ := prepareUpdate_eq_ok update.isPrepared
  constructor
  case price =>
    unfold MakerOrder.applyUpdated
    rw [hcheck.newPrice]
    cases hprice : update.req.newPrice with
    | none => exact hsound.price
    | some price =>
      exact minPrice_pos.trans_le (hcheck.price price hprice)
  case amounts => exact hsound.amounts
  case reserved =>
    change order.reservedAmount ≤ update.msg.newMaxVolume.getD order.maxBaseVol
    rw [hcheck.newMaxVolume]
    cases hvol : update.req.requestedVolume update.reads update.before with
    | none => exact hsound.reserved
    | some volume =>
      have hresv := hcheck.reserved
      rw [hvol] at hresv
      rw [reservedAmount_of_sameAs hsame]
      exact hresv.le

end MakerOrder

namespace OrderState

/-- Besides the order, the snapshots that a failed save may bring back are
sound. -/
structure Inv (s : OrderState) : Prop where
  order : s.order.Sound
  saving : ∀ update ∈ s.saving, update.before.Sound

variable {s : OrderState}

section

variable (hinv : s.Inv)

include hinv

theorem Inv.withOrder {order : MakerOrder} (hsound : order.Sound) : Inv { s with order } where
  order := hsound
  saving := hinv.saving

theorem Inv.unlisted : Inv { s with listed := false } where
  order := hinv.order
  saving := hinv.saving

theorem Inv.takerRequest (node : TradingNode) (nowMs : ℕ) (request : TakerRequest) :
    (s.takerRequest node nowMs request).Inv := by
  unfold OrderState.takerRequest
  split
  next reserved order hans =>
    obtain ⟨b, r, baseCoin, relCoin, hmatch, -, hnew, rfl, rfl⟩ :=
      answerRequest_eq_reserved hans
    exact hinv.withOrder (hinv.order.withReserved hmatch hnew nowMs)
  · exact hinv.unlisted
  · exact hinv

theorem Inv.takerConnect (node : TradingNode) (senderPubkey : H256)
    (connect : TakerConnect) : (s.takerConnect node senderPubkey connect).Inv := by
  unfold OrderState.takerConnect
  split
  next orderMatch order announced hans =>
    obtain ⟨before, hpre, hmatch, rfl⟩ := processTakerConnect_eq_connected hans
    have hresv : orderMatch.reserved = before.reserved := by
      rw [hmatch]
      rfl
    exact hinv.withOrder (hinv.order.withConnected hpre hresv)
  · exact hinv

theorem Inv.balanceUpdated (reads : MakerVolumeReads) : (s.balanceUpdated reads).Inv := by
  unfold OrderState.balanceUpdated
  split
  · exact hinv
  next newVolume hvol =>
    have hlimited := hinv.order.limitAvailable (balanceVolume_nonneg hvol)
    split
    · exact hinv
    · split
      · exact hinv.unlisted
      · exact hinv.withOrder hlimited

theorem Inv.reconcile (reads : MakerVolumeReads) : (s.reconcile reads).Inv := by
  unfold OrderState.reconcile
  split
  next maxVol hvol =>
    have hlimited := hinv.order.limitAvailable (calcMaxMakerVol_nonneg hvol)
    split
    · exact hinv.withOrder hlimited
    · exact hinv
  · exact hinv

theorem Inv.startUpdate (node : TradingNode) (reads : UpdateReads)
    (timestamp : ℕ) (req : MakerOrderUpdateReq) : (s.startUpdate node reads timestamp req).Inv := by
  unfold OrderState.startUpdate
  split
  · exact ⟨hinv.order, hinv.saving⟩
  · exact hinv

theorem Inv.applyUpdate (index nowMs : ℕ) : (s.applyUpdate index nowMs).Inv := by
  unfold OrderState.applyUpdate
  split
  · exact hinv
  next update hupd =>
    dsimp only
    split
    next hsame =>
      constructor
      case order => exact hinv.order.applyUpdated hsame.1 nowMs
      case saving =>
        intro saved hsaved
        cases List.mem_cons.mp hsaved with
        | inl hnew =>
          rw [hnew]
          exact hinv.order.of_sameAs hsame.1
        | inr hold => exact hinv.saving saved hold
    · exact ⟨hinv.order, hinv.saving⟩

theorem Inv.finishSave (index : ℕ) (saved : Bool) : (s.finishSave index saved).Inv := by
  unfold OrderState.finishSave
  split
  · exact hinv
  next update hupd =>
    have hpre := hinv.saving update (List.mem_of_getElem? hupd)
    have hrest : ∀ other ∈ s.saving.eraseIdx index, other.before.Sound :=
      fun other hother => hinv.saving other (List.mem_of_mem_eraseIdx hother)
    dsimp only
    split
    · exact ⟨hpre, hrest⟩
    · exact ⟨hinv.order, hrest⟩

theorem Inv.step (event : OrderEvent) : (s.step event).Inv := by
  cases event with
  | takerRequest node nowMs request =>
    exact hinv.takerRequest node nowMs request
  | takerConnect node senderPubkey connect =>
    exact hinv.takerConnect node senderPubkey connect
  | matchTimeout nowMs =>
    exact hinv.withOrder (hinv.order.dropTimedOutMatches nowMs)
  | balanceUpdate reads => exact hinv.balanceUpdated reads
  | reconcile reads => exact hinv.reconcile reads
  | takeOut => exact hinv.unlisted
  | startUpdate node reads timestamp req =>
    exact hinv.startUpdate node reads timestamp req
  | applyUpdate index nowMs => exact hinv.applyUpdate index nowMs
  | finishSave index saved => exact hinv.finishSave index saved

end

theorem inv_initial {order : MakerOrder} (hcreate : order.Created) : (initial order).Inv where
  order := hcreate.fresh.sound
  saving := by simp [initial]

/-- Whatever happens to an order, its matches fit into its volume. -/
theorem run_reservedAmount_le {order : MakerOrder} (hcreated : order.Created)
    (events : List OrderEvent) :
    (run step (initial order) events).order.reservedAmount ≤
        (run step (initial order) events).order.maxBaseVol ∧
      0 ≤ (run step (initial order) events).order.availableAmount := by
  have hinv : (run step (initial order) events).Inv :=
    run_induction step Inv (fun s event hs => hs.step event) events (inv_initial hcreated)
  have hreserved := hinv.order.reserved
  exact ⟨hreserved, sub_nonneg.mpr hreserved⟩

def lowBalance : MakerVolumeReads where
  ticker := "BTC-segwit"
  balance := 5
  lockedAmount := 0
  senderTradeFee := .ok ("BTC-segwit", 1 / 1000)
  baseCoinCheck := .ok ()
  minTxAmount := 1 / 100000
  minTxAmount_nonneg := by norm_num

def matchThenLowBalance : List OrderEvent :=
  [.takerRequest segwitMakerNode 0 (plainTaker "BTC").request, .balanceUpdate lowBalance]

theorem reservedAmount_after_lowBalance :
    (run step (initial segwitMakerOrder)
        matchThenLowBalance).order.reservedAmount = 1 ∧
      (run step (initial segwitMakerOrder)
        matchThenLowBalance).order.maxBaseVol = 1 + 4999 / 1000 ∧
      0 ≤ (run step (initial segwitMakerOrder)
        matchThenLowBalance).order.availableAmount :=
  ⟨by decide +kernel, by decide +kernel,
    (run_reservedAmount_le (.built 0 1 segwitMaker (by decide +kernel)) matchThenLowBalance).2⟩

end OrderState

end KdfProtocol
