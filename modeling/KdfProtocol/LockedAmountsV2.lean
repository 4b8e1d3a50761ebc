import KdfProtocol.BucketLedger
import KdfProtocol.MakerSwapV2
import KdfProtocol.TakerSwapV2

/-!
# The amounts that V2 swaps lock

Every running V2 swap files what it must keep free in the buckets of the coins
that pay for it: the volume it sends and the fee of sending it until its payment
is on the chain, and the fee of spending the other payment until that is spent.
The events of a swap change its entries, and a resumed swap files them again
from its last event.
-/

namespace KdfProtocol

namespace V2

/-! ## The ledger -/

inductive LockedAmountV2Kind where
  /-- The outgoing volume and the fee to send it. -/
  | volume
  /-- What pays for spending the incoming payment. -/
  | spendHeadroom
  deriving DecidableEq

instance : Fintype LockedAmountV2Kind where
  elems := {.volume, .spendHeadroom}
  complete := by
    intro kind
    cases kind <;> simp

structure LockedAmount where
  coin : String
  amount : ℚ
  tradeFee : Option TradeFee
  deriving DecidableEq

/-- The fee of an entry, if the coin pays it and not the trading volume. -/
def LockedAmount.feeIn (locked : LockedAmount) (coin : String) : ℚ :=
  match locked.tradeFee with
  | none => 0
  | some fee =>
    if fee.coin = coin ∧ fee.paidFromTradingVol = false then fee.amount else 0

abbrev LockedAmountsV2 :=
  BucketLedger String Uuid LockedAmountV2Kind LockedAmount

def reserveV2Amount (uuid : Uuid) (kind : LockedAmountV2Kind) (coin : String)
    (amount : ℚ) (ledger : LockedAmountsV2) : LockedAmountsV2 :=
  ledger.reserve uuid kind coin ⟨coin, amount, none⟩

def releaseV2Amount (uuid : Uuid) (kind : LockedAmountV2Kind) (coin : String)
    (ledger : LockedAmountsV2) : LockedAmountsV2 :=
  ledger.release uuid kind coin

def reserveV2SpendHeadroom (uuid : Uuid) (feeCoin : String) (headroom : ℚ)
    (ledger : LockedAmountsV2) : LockedAmountsV2 :=
  reserveV2Amount uuid .spendHeadroom feeCoin headroom ledger

def releaseV2SpendHeadroom (uuid : Uuid) (feeCoin : String)
    (ledger : LockedAmountsV2) : LockedAmountsV2 :=
  releaseV2Amount uuid .spendHeadroom feeCoin ledger

def releaseAllV2LockedAmounts (uuid : Uuid) (ledger : LockedAmountsV2) : LockedAmountsV2 :=
  ledger.releaseAll uuid

/-- The total of a coin: the entries of the running V1 swaps, and the bucket of
the coin. -/
def getLockedAmount (runningSwaps : List LockedAmount)
    (ledger : LockedAmountsV2) (coin : String) : ℚ :=
  (runningSwaps.map fun locked =>
    (if locked.coin = coin then locked.amount else 0) + locked.feeIn coin).sum +
  ((ledger.bucket coin).map fun info => info.payload.amount + info.payload.feeIn coin).sum

/-! ## What one swap files -/

structure SwapReservation where
  uuid : Uuid
  volumeCoin : String
  volume : ℚ
  sendFeeCoin : String
  sendFee : ℚ
  spendFeeCoin : String
  headroom : ℚ
  deriving DecidableEq

namespace SwapReservation

variable (swap : SwapReservation) (ledger : LockedAmountsV2)

def reserveVolume : LockedAmountsV2 :=
  reserveV2Amount swap.uuid .volume swap.sendFeeCoin swap.sendFee
    (reserveV2Amount swap.uuid .volume swap.volumeCoin swap.volume ledger)

def releaseVolume : LockedAmountsV2 :=
  releaseV2Amount swap.uuid .volume swap.sendFeeCoin
    (releaseV2Amount swap.uuid .volume swap.volumeCoin ledger)

def reserveHeadroom : LockedAmountsV2 :=
  reserveV2SpendHeadroom swap.uuid swap.spendFeeCoin swap.headroom ledger

def releaseHeadroom : LockedAmountsV2 :=
  releaseV2SpendHeadroom swap.uuid swap.spendFeeCoin ledger

/-- What the swap must keep free of a coin before its payment is sent. -/
def owed (coin : String) : ℚ :=
  (if coin = swap.volumeCoin then swap.volume else 0) +
    (if coin = swap.sendFeeCoin then swap.sendFee else 0) +
    (if coin = swap.spendFeeCoin then swap.headroom else 0)

/-- What the swap must keep free of a coin after that. -/
def owedAfterPayment (coin : String) : ℚ :=
  if coin = swap.spendFeeCoin then swap.headroom else 0

end SwapReservation

/-! ## The maker -/

namespace MakerSwapStateMachine

variable (coins : SwapCoins) (machine : MakerSwapStateMachine) (ledger : LockedAmountsV2)

/-- The fee of the payment and the fee of the spend are paid in the platform
coins. -/
def reservation : SwapReservation where
  uuid := machine.uuid
  volumeCoin := coins.makerTicker
  volume := machine.makerVolume
  sendFeeCoin := coins.makerPlatformTicker
  sendFee := machine.makerPaymentTradeFeeReservable
  spendFeeCoin := coins.takerPlatformTicker
  headroom := machine.takerPaymentSpendHeadroom

def reserveMakerPaymentVolume : LockedAmountsV2 :=
  (machine.reservation coins).reserveVolume ledger

def releaseMakerPaymentVolume : LockedAmountsV2 :=
  (machine.reservation coins).releaseVolume ledger

def reserveTakerPaymentSpendHeadroom : LockedAmountsV2 :=
  (machine.reservation coins).reserveHeadroom ledger

def releaseTakerPaymentSpendHeadroom : LockedAmountsV2 :=
  (machine.reservation coins).releaseHeadroom ledger

def onEventLedger (event : MakerSwapEvent) (ledger : LockedAmountsV2) : LockedAmountsV2 :=
  match event with
  | .initialized _ _ =>
    let started := machine.onEvent event
    started.reserveTakerPaymentSpendHeadroom coins (started.reserveMakerPaymentVolume coins ledger)
  | .makerPaymentSentFundingSpendGenerated _ _ _ _ _ =>
    machine.releaseMakerPaymentVolume coins ledger
  | .takerPaymentSpent _ _ _ _ _ => machine.releaseTakerPaymentSpendHeadroom coins ledger
  | _ => ledger

def onKickstartEvent (event : MakerSwapEvent) (ledger : LockedAmountsV2) : LockedAmountsV2 :=
  let withHeadroom := match event with
    | .takerPaymentSpent _ _ _ _ _ => ledger
    | _ => machine.reserveTakerPaymentSpendHeadroom coins ledger
  match event with
  | .initialized .. | .waitingForTakerFunding .. | .takerFundingReceived .. =>
    machine.reserveMakerPaymentVolume coins withHeadroom
  | _ => withHeadroom

def cleanUpContext : LockedAmountsV2 :=
  releaseAllV2LockedAmounts machine.uuid ledger

end MakerSwapStateMachine

/-! ## The taker -/

namespace TakerSwapStateMachine

variable (coins : SwapCoins) (machine : TakerSwapStateMachine) (ledger : LockedAmountsV2)

def reservation : SwapReservation where
  uuid := machine.uuid
  volumeCoin := coins.takerTicker
  volume := machine.takerVolume + machine.takerPremium
  sendFeeCoin := coins.takerPlatformTicker
  sendFee := machine.takerPaymentFeeReservable
  spendFeeCoin := coins.makerPlatformTicker
  headroom := machine.makerPaymentSpendHeadroom

def reserveTakerPaymentVolume : LockedAmountsV2 :=
  (machine.reservation coins).reserveVolume ledger

def releaseTakerPaymentVolume : LockedAmountsV2 :=
  (machine.reservation coins).releaseVolume ledger

def reserveMakerPaymentSpendHeadroom : LockedAmountsV2 :=
  (machine.reservation coins).reserveHeadroom ledger

def releaseMakerPaymentSpendHeadroom : LockedAmountsV2 :=
  (machine.reservation coins).releaseHeadroom ledger

def onEventLedger (event : TakerSwapEvent) (ledger : LockedAmountsV2) : LockedAmountsV2 :=
  match event with
  | .initialized _ _ =>
    let started := machine.onEvent event
    started.reserveMakerPaymentSpendHeadroom coins (started.reserveTakerPaymentVolume coins ledger)
  | .takerFundingSent _ _ _ => machine.releaseTakerPaymentVolume coins ledger
  | .makerPaymentSpent _ _ _ _ => machine.releaseMakerPaymentSpendHeadroom coins ledger
  | _ => ledger

def onKickstartEvent (event : TakerSwapEvent) (ledger : LockedAmountsV2) : LockedAmountsV2 :=
  let withHeadroom := match event with
    | .makerPaymentSpent _ _ _ _ => ledger
    | _ => machine.reserveMakerPaymentSpendHeadroom coins ledger
  match event with
  | .initialized .. | .negotiated .. => machine.reserveTakerPaymentVolume coins withHeadroom
  | _ => withHeadroom

def cleanUpContext : LockedAmountsV2 :=
  releaseAllV2LockedAmounts machine.uuid ledger

end TakerSwapStateMachine

end V2

end KdfProtocol
