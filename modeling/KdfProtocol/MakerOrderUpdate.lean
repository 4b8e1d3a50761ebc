import KdfProtocol.OrderMatching

/-!
# Updates of a maker order

An update reads the order, checks the request against it without holding the
lock of the order, and applies the message it has built if the order is still
the one it has read.
-/

namespace KdfProtocol

/-! ## Options and errors of the checks -/

def requireSome {E α : Type} (found : Option α) (e : E) : Fallible E α :=
  match found with
  | some a => .ok a
  | none => refuse e

def unwrap {E α : Type} (found : Option α) : Fallible E α :=
  match found with
  | some a => .ok a
  | none => .error .panic

def Fallible.mapError {E E' α : Type} (f : E → E') : Fallible E α → Fallible E' α
  | .ok a => .ok a
  | .error .panic => .error .panic
  | .error (.error e) => refuse (f e)

/-- A check that is made only for a value that is there. -/
def checkSome {E α β : Type} (found : Option α) (check : α → Fallible E β) :
    Fallible E (Option β) :=
  match found with
  | some a => do
      let b ← check a
      pure (some b)
  | none => pure none

theorem requireSome_eq_ok {E α : Type} {found : Option α} {e : E} {a : α} :
    requireSome found e = .ok a ↔ found = some a := by
  cases found with
  | none => simp [requireSome, refuse]
  | some b => simp [requireSome]

theorem unwrap_eq_ok {E α : Type} {found : Option α} {a : α} :
    (unwrap found : Fallible E α) = .ok a ↔ found = some a := by
  cases found with
  | none | some b => simp [unwrap]

theorem Fallible.mapError_eq_ok {E E' α : Type} {f : E → E'}
    {x : Fallible E α} {a : α} : x.mapError f = .ok a ↔ x = .ok a := by
  cases x with
  | ok b => simp [mapError]
  | error failure =>
    cases failure with
    | panic => simp [mapError]
    | error e => simp [mapError, refuse]

theorem checkSome_eq_ok {E α β : Type} {found : Option α}
    {check : α → Fallible E β} {result : Option β} :
    checkSome found check = .ok result ↔ (found = none ∧ result = none) ∨
        ∃ a b, found = some a ∧ check a = .ok b ∧ result = some b := by
  cases found with
  | none =>
    simp only [checkSome, reduceCtorEq, false_and, exists_false, or_false, true_and]
    constructor
    · intro h
      cases h
      rfl
    · rintro rfl
      rfl
  | some a =>
    simp only [checkSome, Fallible.bind_eq_ok, reduceCtorEq, false_and, false_or, Option.some.injEq]
    constructor
    · rintro ⟨b, hcheck, h⟩
      cases h
      exact ⟨a, b, rfl, hcheck, rfl⟩
    · rintro ⟨a', b, rfl, hcheck, rfl⟩
      exact ⟨b, hcheck, rfl⟩

/-! ## The request -/

structure MakerOrderUpdateReq where
  uuid : Uuid
  newPrice : Option ℚ := none
  max : Option Bool := none
  volumeDelta : Option ℚ := none
  minVolume : Option ℚ := none
  baseConfs : Option ℕ := none
  baseNota : Option Bool := none
  relConfs : Option ℕ := none
  relNota : Option Bool := none

inductive SpendSafetyError where
  | estimateUnavailable (coin : String)
  | volumeTooLow (coin : String) (volume threshold : ℚ)
  deriving DecidableEq

inductive MakerOrderUpdateError where
  | ongoingMatches
  | notActivated (base rel : String)
  | swapKeyMismatch
  | build (e : MakerOrderBuildError)
  | spendSafety (e : SpendSafetyError)
  | maxVolumeUnavailable
  | volumeNotPositive (volume : ℚ)
  | balanceTooLow (volume : ℚ)
  | volumeNotAboveReserved (newVolume reservedAmount : ℚ)
  | stateChanged
  | deleted (uuid : Uuid)
  deriving DecidableEq

structure UpdateReads where
  preTradeSpendCheckEnabled : Bool
  /-- By ticker: no answer, no threshold, or a threshold. -/
  spendSafeAmount : String → Option (Option ℚ)
  getMaxVolume : Option ℚ
  checkBalanceForMakerSwap : ℚ → Bool

namespace UpdateReads

def checkSpendSafe (reads : UpdateReads) (coin : Coin) (volume : ℚ) :
    Fallible SpendSafetyError Unit :=
  match reads.spendSafeAmount coin.ticker with
  | none => refuse (.estimateUnavailable coin.ticker)
  | some none => .ok ()
  | some (some safeAmount) =>
    refuseIf (volume < safeAmount) (.volumeTooLow coin.ticker volume safeAmount)

/-- An order that the builder would refuse is left to the builder. -/
def checkPreTradeSpendSafety (reads : UpdateReads) (baseCoin relCoin : Coin)
    (minBaseVol : Option ℚ) (price : ℚ) : Fallible SpendSafetyError Unit :=
  if ¬reads.preTradeSpendCheckEnabled ∨ price < minPrice then .ok ()
  else
    match validateAndGetMinVol baseCoin.minTradingVol relCoin.minTradingVol minBaseVol price with
    | .error .panic => .error .panic
    | .error (.error _) => .ok ()
    | .ok minBaseVol => do
        reads.checkSpendSafe baseCoin minBaseVol
        reads.checkSpendSafe relCoin (minBaseVol * price)

end UpdateReads

namespace MakerOrderUpdateReq

variable (req : MakerOrderUpdateReq)

def updatedConfSettings (original : OrderConfirmationsSettings) : OrderConfirmationsSettings where
  baseConfs := req.baseConfs.getD original.baseConfs
  baseNota := req.baseNota.getD original.baseNota
  relConfs := req.relConfs.getD original.relConfs
  relNota := req.relNota.getD original.relNota

def requestedVolume (reads : UpdateReads) (order : MakerOrder) : Option ℚ :=
  if req.max.getD false then
    reads.getMaxVolume.map fun volume => volume + order.reservedAmount
  else req.volumeDelta.map fun delta => order.maxBaseVol + delta

def checkVolume (reads : UpdateReads) (order : MakerOrder) : Fallible MakerOrderUpdateError Unit :=
  if req.max.getD false then
    refuseIf (reads.getMaxVolume = none) .maxVolumeUnavailable
  else
    match req.volumeDelta with
    | none => .ok ()
    | some delta => do
        let volume := order.maxBaseVol + delta
        refuseIf (volume ≤ 0) (.volumeNotPositive volume)
        refuseIf (¬reads.checkBalanceForMakerSwap volume) (.balanceTooLow volume)

def updateMsg (timestamp : ℕ) (settings : OrderConfirmationsSettings)
    (newMinVolume newMaxVolume : Option ℚ) : MakerOrderUpdated :=
  let msg := (MakerOrderUpdated.new req.uuid timestamp).withNewConfSettings settings
  let msg := req.newPrice.elim msg fun price => msg.withNewPrice price
  let msg := newMinVolume.elim msg fun volume => msg.withNewMinVolume volume
  newMaxVolume.elim msg fun volume => msg.withNewMaxVolume volume

end MakerOrderUpdateReq

def prepareUpdate (node : TradingNode) (reads : UpdateReads) (timestamp : ℕ)
    (req : MakerOrderUpdateReq) (order : MakerOrder) :
    Fallible MakerOrderUpdateError MakerOrderUpdated := do
  refuseIf order.hasOngoingMatches .ongoingMatches
  let (baseCoin, relCoin) ← requireSome (node.findPair order.base order.rel)
    (.notActivated order.base order.rel)
  refuseIf (node.swapKeyMismatch baseCoin relCoin) .swapKeyMismatch
  let original ← unwrap order.confSettings
  let _ ← (checkSome req.newPrice validatePrice).mapError .build
  let newPrice := req.newPrice.getD order.price
  let minBaseAmount := baseCoin.minTradingVol
  let minRelAmount := relCoin.minTradingVol
  let newMinVolume ←
    (checkSome req.minVolume fun minVolume =>
      validateAndGetMinVol minBaseAmount minRelAmount (some minVolume) newPrice).mapError .build
  (reads.checkPreTradeSpendSafety baseCoin relCoin
    (req.minVolume.or (some order.minBaseVol)) newPrice).mapError .spendSafety
  req.checkVolume reads order
  let newVolume := (req.requestedVolume reads order).getD order.maxBaseVol
  refuseIf (newVolume ≤ order.reservedAmount)
    (.volumeNotAboveReserved newVolume order.reservedAmount)
  (validateMaxVol minBaseAmount minRelAmount
    (newVolume - order.reservedAmount) req.minVolume newPrice).mapError .build
  pure (req.updateMsg timestamp (req.updatedConfSettings original)
    newMinVolume (req.requestedVolume reads order))

namespace MakerOrderUpdateReq

variable (req : MakerOrderUpdateReq) (timestamp : ℕ) (settings : OrderConfirmationsSettings)
  (newMinVolume newMaxVolume : Option ℚ)

theorem updateMsg_fields :
    (req.updateMsg timestamp settings newMinVolume newMaxVolume).newPrice = req.newPrice ∧
      (req.updateMsg timestamp settings newMinVolume newMaxVolume).newMinVolume = newMinVolume ∧
      (req.updateMsg timestamp settings newMinVolume newMaxVolume).newMaxVolume =
        newMaxVolume := by
  unfold updateMsg
  cases req.newPrice <;> cases newMinVolume <;> cases newMaxVolume <;> exact ⟨rfl, rfl, rfl⟩

end MakerOrderUpdateReq

structure UpdateChecked (reads : UpdateReads) (req : MakerOrderUpdateReq)
    (order : MakerOrder) (baseCoin relCoin : Coin) (msg : MakerOrderUpdated) : Prop where
  newPrice : msg.newPrice = req.newPrice
  newMinVolume : msg.newMinVolume = req.minVolume
  newMaxVolume : msg.newMaxVolume = req.requestedVolume reads order
  price : ∀ price, req.newPrice = some price → minPrice ≤ price
  minVolume : ∀ volume, req.minVolume = some volume →
    max baseCoin.minTradingVol (relCoin.minTradingVol / req.newPrice.getD order.price) ≤ volume
  reserved : order.reservedAmount < (req.requestedVolume reads order).getD order.maxBaseVol
  minBelowMax : ∀ volume, req.minVolume = some volume →
    volume ≤ (req.requestedVolume reads order).getD order.maxBaseVol - order.reservedAmount

theorem prepareUpdate_eq_ok {node : TradingNode} {reads : UpdateReads}
    {timestamp : ℕ} {req : MakerOrderUpdateReq} {order : MakerOrder} {msg : MakerOrderUpdated}
    (hprepare : prepareUpdate node reads timestamp req order = .ok msg) :
    ∃ baseCoin relCoin, node.findPair order.base order.rel = some (baseCoin, relCoin) ∧
        UpdateChecked reads req order baseCoin relCoin msg := by
  simp only [prepareUpdate, Fallible.bind_eq_ok, refuseIf_eq_ok,
    requireSome_eq_ok, unwrap_eq_ok, Fallible.mapError_eq_ok, not_le] at hprepare
  obtain ⟨-, -, ⟨baseCoin, relCoin⟩, hpair, -, -, original, -, checked,
    hprice, newMinVolume, hmin, -, -, -, -, -, hresv, ⟨⟩, hmax, hmsg⟩ :=
    hprepare
  cases hmsg
  have hprices : ∀ price, req.newPrice = some price → minPrice ≤ price := by
    intro price hsome
    obtain ⟨hnone, -⟩ | ⟨checkedPrice, u, hcheck, hvalid, -⟩ := checkSome_eq_ok.mp hprice
    · rw [hsome] at hnone
      cases hnone
    · rw [hsome] at hcheck
      cases hcheck
      exact not_lt.mp (refuseIf_eq_ok.mp hvalid)
  have hmins : newMinVolume = req.minVolume ∧ ∀ volume, req.minVolume = some volume →
        max baseCoin.minTradingVol
          (relCoin.minTradingVol / req.newPrice.getD order.price) ≤
            volume := by
    obtain ⟨hnone, rfl⟩ | ⟨volume, b, hsome, hvalid, rfl⟩ := checkSome_eq_ok.mp hmin
    · simp [hnone]
    · obtain ⟨-, hle, rfl⟩ := validateAndGetMinVol_eq_ok.mp hvalid
      simpa [hsome] using hle
  obtain ⟨hnewPrice, hnewMin, hnewMax⟩ := req.updateMsg_fields ..
  exact ⟨baseCoin, relCoin, hpair,
    { newPrice := hnewPrice
      newMinVolume := hnewMin.trans hmins.1
      newMaxVolume := hnewMax
      price := hprices
      minVolume := hmins.2
      reserved := hresv
      minBelowMax := (validateMaxVol_eq_ok.mp hmax).1 }⟩

end KdfProtocol
