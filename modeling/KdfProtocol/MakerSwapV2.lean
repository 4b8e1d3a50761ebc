import KdfProtocol.SwapMessagesV2

/-!
# The maker of a V2 swap

The states of the maker's machine, what each state does with the answers of the
coins, the peer and the clock, the events that are stored, and how the machine
is recreated from them.
-/

namespace KdfProtocol

namespace V2

/-! ## States and events -/

/-- The fees of a started swap: what the maker pays for its own payment and for
the spend of the taker payment, and the parts of them that its balance must
hold. -/
structure MakerFees where
  makerPaymentTradeFee : ℚ
  takerPaymentSpendTradeFee : ℚ
  takerPaymentSpendHeadroom : ℚ
  makerPaymentTradeFeeReservable : Option ℚ
  deriving DecidableEq

inductive MakerSwapEvent where
  | initialized (blocks : StartBlocks) (fees : MakerFees)
  | waitingForTakerFunding (blocks : StartBlocks)
      (negotiation : StoredMakerNegotiationData) (makerPaymentTradeFee : ℚ)
  | takerFundingReceived (blocks : StartBlocks)
      (negotiation : StoredMakerNegotiationData) (takerFunding : Bytes)
      (makerPaymentTradeFee : ℚ)
  | makerPaymentSentFundingSpendGenerated (blocks : StartBlocks)
      (negotiation : StoredMakerNegotiationData)
      (makerPayment takerFunding : Bytes)
      (fundingSpendPreimage : StoredTxPreimage)
  | makerPaymentRefundRequired (blocks : StartBlocks)
      (negotiation : StoredMakerNegotiationData) (makerPayment : Bytes)
      (reason : AbortReason)
  | makerPaymentRefunded (makerPayment makerPaymentRefund : Bytes) (reason : AbortReason)
  | takerPaymentReceived (blocks : StartBlocks) (negotiation : StoredMakerNegotiationData)
      (makerPayment takerPayment : Bytes)
  | takerPaymentReceivedPreimageSkipped (blocks : StartBlocks)
      (negotiation : StoredMakerNegotiationData)
      (makerPayment takerPayment : Bytes)
  | takerPaymentSpent (blocks : StartBlocks) (makerPayment takerPayment takerPaymentSpend : Bytes)
      (negotiation : StoredMakerNegotiationData)
  | aborted (reason : AbortReason)
  | completed
  deriving DecidableEq

/-- The states that have an event. -/
inductive MakerSwapState where
  | initialized (blocks : StartBlocks) (fees : MakerFees)
  | waitingForTakerFunding (blocks : StartBlocks)
      (negotiation : StoredMakerNegotiationData) (makerPaymentTradeFee : ℚ)
  | takerFundingReceived (blocks : StartBlocks)
      (negotiation : StoredMakerNegotiationData) (takerFunding : Bytes)
      (makerPaymentTradeFee : ℚ)
  | makerPaymentSentFundingSpendGenerated (blocks : StartBlocks)
      (negotiation : StoredMakerNegotiationData)
      (makerPayment takerFunding : Bytes)
      (fundingSpendPreimage : StoredTxPreimage)
  | makerPaymentRefundRequired (blocks : StartBlocks)
      (negotiation : StoredMakerNegotiationData) (makerPayment : Bytes)
      (reason : AbortReason)
  | makerPaymentRefunded (makerPayment makerPaymentRefund : Bytes) (reason : AbortReason)
  | takerPaymentReceived (blocks : StartBlocks) (negotiation : StoredMakerNegotiationData)
      (makerPayment takerPayment : Bytes)
  | takerPaymentReceivedPreimageSkipped (blocks : StartBlocks)
      (negotiation : StoredMakerNegotiationData)
      (makerPayment takerPayment : Bytes)
  | takerPaymentSpent (blocks : StartBlocks) (makerPayment takerPayment takerPaymentSpend : Bytes)
      (negotiation : StoredMakerNegotiationData)
  | aborted (reason : AbortReason)
  | completed
  deriving DecidableEq

def MakerSwapState.getEvent : MakerSwapState → MakerSwapEvent
  | .initialized blocks fees => .initialized blocks fees
  | .waitingForTakerFunding blocks negotiation fee => .waitingForTakerFunding blocks negotiation fee
  | .takerFundingReceived blocks negotiation takerFunding fee =>
    .takerFundingReceived blocks negotiation takerFunding fee
  | .makerPaymentSentFundingSpendGenerated blocks negotiation makerPayment
        takerFunding preimage =>
      .makerPaymentSentFundingSpendGenerated blocks negotiation makerPayment takerFunding preimage
  | .makerPaymentRefundRequired blocks negotiation makerPayment reason =>
    .makerPaymentRefundRequired blocks negotiation makerPayment reason
  | .makerPaymentRefunded makerPayment refund reason =>
    .makerPaymentRefunded makerPayment refund reason
  | .takerPaymentReceived blocks negotiation makerPayment takerPayment =>
    .takerPaymentReceived blocks negotiation makerPayment takerPayment
  | .takerPaymentReceivedPreimageSkipped blocks negotiation makerPayment
        takerPayment =>
      .takerPaymentReceivedPreimageSkipped blocks negotiation makerPayment takerPayment
  | .takerPaymentSpent blocks makerPayment takerPayment spend negotiation =>
    .takerPaymentSpent blocks makerPayment takerPayment spend negotiation
  | .aborted reason => .aborted reason
  | .completed => .completed

def MakerSwapState.isLast : MakerSwapState → Bool
  | .makerPaymentRefunded .. | .completed | .aborted _ => true
  | _ => false

/-! ## The machine and its record -/

structure MakerSwapStateMachine where
  makerVolume : ℚ
  secret : Bytes
  secretHashAlgo : SecretHashAlgo
  startedAt : UInt64
  lockDuration : UInt64
  takerVolume : ℚ
  takerPremium : ℚ
  confSettings : SwapConfirmationsSettings
  uuid : Uuid
  p2pKeypair : Option Bytes
  takerP2pPubkey : Bytes
  requireTakerFundingConfirm : Bool
  requireTakerPaymentSpendConfirm : Bool
  swapVersion : UInt8
  takerPaymentSpendHeadroom : ℚ
  makerPaymentTradeFeeReservable : ℚ
  deriving DecidableEq

structure MakerSwapDbRepr where
  makerCoin : String
  makerVolume : ℚ
  makerSecret : Bytes
  makerSecretHash : Bytes
  secretHashAlgo : SecretHashAlgo
  startedAt : UInt64
  lockDuration : UInt64
  takerCoin : String
  takerVolume : ℚ
  takerPremium : ℚ
  dexFeeAmount : ℚ
  dexFeeBurn : ℚ
  confSettings : SwapConfirmationsSettings
  uuid : Uuid
  p2pKeypair : Option Bytes
  events : List MakerSwapEvent
  takerP2pPub : Bytes
  swapVersion : UInt8
  deriving DecidableEq

/-! ## Answers -/

inductive FundingTxSpend where
  | transferredToTakerPayment (tx : Bytes)
  | refundedTimelock
  | refundedSecret (secret : Bytes)
  deriving DecidableEq

structure MakerAnswers where
  makerCurrentBlock : Except String UInt64
  takerCurrentBlock : Except String UInt64
  senderTradeFee : Except String TradeFee
  receiverTradeFee : Except String TradeFee
  spendableBalance : Except String ℚ
  takerCoinAddress : Except String String
  recvStarted : UInt64
  takerNegotiation : Rounds UInt64 TakerNegotiation
  takerFundingInfo : Rounds UInt64 Bytes
  takerFundingValid : Except String Unit
  takerFundingConfirmed : Rounds UInt64 (Except String Unit)
  fundingSpendPreimage : Except String StoredTxPreimage
  makerPayment : SendAnswer Bytes
  /-- A round has no answer if the funding is unspent or the call failed; an
  error ends the rounds. -/
  takerFundingSpend : Rounds UInt64 (Except String FundingTxSpend)
  takerPaymentConfirmed : Rounds UInt64 (Except String Unit)
  takerPaymentSpendPreimage : Rounds UInt64 TakerPaymentSpendPreimage
  spendPreimageValid : Except String Unit
  spendAt : UInt64
  takerPaymentSpend : SendAnswer Bytes
  takerPaymentSpendConfirmed : Rounds UInt64 (Except String Unit)
  refundAllowed : Rounds UInt64 Unit
  makerPaymentRefund : SendAnswer Bytes

inductive MakerSent where
  | makerPayment (tx : Bytes)
  /-- The spend of the taker payment carries the secret; the taker can take the
  payment back from `timeLock` on. -/
  | takerPaymentSpend (tx : Bytes) (timeLock spendAt : UInt64)
  | makerPaymentRefund (tx : Bytes)
  deriving DecidableEq

abbrev MakerActivation := Activation MakerSwapState MakerSent

namespace MakerSwapStateMachine

variable (coins : SwapCoins) (machine : MakerSwapStateMachine)
  (negotiation : StoredMakerNegotiationData) (answers : MakerAnswers)

def takerPaymentConfTimeout : UInt64 :=
  machine.startedAt + machine.lockDuration * 2 / 3

def makerPaymentLocktime : UInt64 :=
  machine.startedAt + 2 * machine.lockDuration

def secretHash : Bytes :=
  machine.secretHashAlgo.hashSecret coins.ripemd160 machine.secret

def uniqueData : Bytes :=
  machine.secretHash coins

/-! ## Initialize -/

def initializeSwap : Except Halt MakerSwapState := do
  let makerCoinStartBlock ← abortOn .internalError
    "Failed to get maker coin block: " answers.makerCurrentBlock
  let takerCoinStartBlock ← abortOn .internalError
    "Failed to get taker coin block: " answers.takerCurrentBlock
  let makerPaymentTradeFee ← abortOn .internalError
    "Failed to get maker payment fee: " answers.senderTradeFee
  let takerPaymentSpendTradeFee ← abortOn .internalError
    "Failed to get taker payment spend fee: " answers.receiverTradeFee
  let spendable ← abortOn .internalError
    "Failed to get spendable balance: " answers.spendableBalance
  let required := toDecimal machine.makerVolume + toDecimal makerPaymentTradeFee.amount
  abortIf (spendable < required)
    (.internalError ("Insufficient balance: need " ++
      coins.showAmount required ++ " but have " ++ coins.showAmount spendable))
  pure (.initialized ⟨makerCoinStartBlock, takerCoinStartBlock⟩
    { makerPaymentTradeFee := makerPaymentTradeFee.amount
      takerPaymentSpendTradeFee := takerPaymentSpendTradeFee.amount
      takerPaymentSpendHeadroom := feeReservableAmount takerPaymentSpendTradeFee
      makerPaymentTradeFeeReservable := some (feeReservableAmount makerPaymentTradeFee) })

/-! ## Initialized -/

def negotiationMsg : Except Halt MakerNegotiation := do
  let makerCoinHtlcPub ← abortOn .internalError "Failed to derive maker-coin V2 HTLC pubkey: "
    (coins.deriveMakerHtlcPubkey (machine.uniqueData coins))
  let takerCoinHtlcPub ← abortOn .internalError "Failed to derive taker-coin V2 HTLC pubkey: "
    (coins.deriveTakerHtlcPubkey (machine.uniqueData coins))
  let takerCoinAddress ← abortOn .internalError
    "Failed to select taker-coin V2 address: " answers.takerCoinAddress
  pure
    { startedAt := machine.startedAt
      paymentLocktime := machine.makerPaymentLocktime
      secretHash := machine.secretHash coins
      makerCoinHtlcPub := makerCoinHtlcPub
      takerCoinHtlcPub := takerCoinHtlcPub
      makerCoinSwapContract := coins.makerSwapContractAddress
      takerCoinSwapContract := coins.takerSwapContractAddress
      takerCoinAddress := takerCoinAddress }

def continueData : TakerNegotiation → Except Halt TakerNegotiationData
  | ⟨some (.continue data)⟩ => .ok data
  | ⟨some (.abort reason)⟩ => .error (.abort (.takerAborted reason))
  | ⟨none⟩ => .error (.abort (.negotiationFailed "Empty taker negotiation action"))

def storedNegotiation (takerData : TakerNegotiationData) : StoredMakerNegotiationData where
  takerSecretHash := takerData.takerSecretHash
  takerCoinHtlcPub := takerData.takerCoinHtlcPub
  makerCoinHtlcPub := takerData.makerCoinHtlcPub
  takerCoinSwapContract := takerData.takerCoinSwapContract
  makerCoinSwapContract := takerData.makerCoinSwapContract
  takerPaymentLocktime := takerData.paymentLocktime
  takerFundingLocktime := takerData.fundingLocktime

def checkTakerNegotiation (takerNegotiation : TakerNegotiation) :
    Except Halt StoredMakerNegotiationData := do
  let takerData ← continueData takerNegotiation
  let startedAtDiff := absDiff machine.startedAt takerData.startedAt
  abortIf (maxStartedAtDiff < startedAtDiff) (.negotiationFailed
    s!"started_at difference too large: {startedAtDiff} > {maxStartedAtDiff}")
  let payment := takerData.paymentLocktime
  let expectedPayment := takerData.startedAt + machine.lockDuration
  abortIf (payment ≠ expectedPayment) (.negotiationFailed
    s!"Unexpected taker payment locktime: got {payment}, expected {expectedPayment}")
  let funding := takerData.fundingLocktime
  let expectedFunding := takerData.startedAt + 3 * machine.lockDuration
  abortIf (funding ≠ expectedFunding) (.negotiationFailed
    s!"Unexpected taker funding locktime: got {funding}, expected {expectedFunding}")
  abortOn (fun _ => .negotiationFailed "Invalid taker coin HTLC pubkey") ""
    (coins.parseTakerPubkey takerData.takerCoinHtlcPub)
  abortOn (fun _ => .negotiationFailed "Invalid taker's maker-coin HTLC pubkey") ""
    (coins.parseMakerPubkey takerData.makerCoinHtlcPub)
  pure (storedNegotiation takerData)

def negotiate : Except Halt StoredMakerNegotiationData := do
  let _ ← machine.negotiationMsg coins answers
  let takerNegotiation ← recvSwapV2Msg answers.recvStarted
    negotiationTimeoutSec answers.takerNegotiation
    fun _ => .negotiationTimeout
  machine.checkTakerNegotiation coins takerNegotiation

/-! ## WaitingForTakerFunding -/

def negotiatedMsg : MakerNegotiated where
  negotiated := true
  reason := none

def receiveTakerFunding : Except Halt Bytes := do
  let txBytes ← recvSwapV2Msg answers.recvStarted negotiationTimeoutSec answers.takerFundingInfo
    fun err => .negotiationFailed ("Did not receive taker funding info: " ++ err)
  abortOn (fun _ =>
      .failedToValidateTx "Failed to parse taker funding transaction") ""
    (coins.parseTakerTx txBytes)
  pure txBytes

/-! ## TakerFundingReceived -/

def generateFundingSpend (takerFunding : Bytes) (answers : MakerAnswers) :
    Except Halt StoredTxPreimage := do
  abortOn .failedToValidateTx "Failed to parse taker funding: " (coins.parseTakerTx takerFunding)
  abortOn .internalError "Failed to parse taker HTLC pub: "
    (coins.parseTakerPubkey negotiation.takerCoinHtlcPub)
  abortOn .internalError "" coins.netConfig
  abortOn .failedToValidateTx "Taker funding validation failed: " answers.takerFundingValid
  if machine.requireTakerFundingConfirm then
    waitForConfirmations coins machine.makerPaymentLocktime
      answers.takerFundingConfirmed "Taker funding not confirmed in time: "
  let _ ← abortOn .internalError "Failed to derive maker taker-coin V2 HTLC pubkey: "
    (coins.deriveTakerHtlcPubkey (machine.uniqueData coins))
  let preimage ← abortOn .internalError
    "Failed to generate funding spend preimage: " answers.fundingSpendPreimage
  abortOn .internalError "Failed to parse taker's maker-coin pub: "
    (coins.parseMakerPubkey negotiation.makerCoinHtlcPub)
  pure preimage

def sendMakerPayment (blocks : StartBlocks) (negotiation : StoredMakerNegotiationData)
    (takerFunding : Bytes) (preimage : StoredTxPreimage) (answers : MakerAnswers) :
    MakerActivation where
  sent := answers.makerPayment.broadcast.toList.map .makerPayment
  next := some <| match answers.makerPayment.result with
    | .ok makerPayment => .makerPaymentSentFundingSpendGenerated blocks
        negotiation makerPayment takerFunding preimage
    | .error err => .aborted (.failedToSendTx ("Maker payment send failed: " ++ err))

/-! ## MakerPaymentSentFundingSpendGenerated -/

def hexDigit (n : ℕ) : Char :=
  if n < 10 then Char.ofNat (48 + n) else Char.ofNat (87 + n)

def hexEncode (bytes : Bytes) : String :=
  String.ofList (bytes.flatMap fun byte => [hexDigit (byte.toNat / 16), hexDigit (byte.toNat % 16)])

/-- The rounds in which the chain is searched for the spend of the taker
funding; the clock is read before each search. -/
def searchFundingSpend : Except Halt Bytes :=
  let waitUntil := machine.startedAt + machine.lockDuration * 2 / 3
  match answers.takerFundingSpend.checkThenAsk (waitUntil < ·) with
  | .waiting => .error .waiting
  | .timedOut _ => .error (.abort (.fundingSpendError "Taker funding not spent in time"))
  | .answered (.error err) =>
    .error (.abort (.fundingSpendError ("Irrecoverable search error: " ++ err)))
  | .answered (.ok (.transferredToTakerPayment tx)) => .ok tx
  | .answered (.ok .refundedTimelock) =>
    .error (.abort (.fundingSpendError "Taker funding reclaimed via timelock"))
  | .answered (.ok (.refundedSecret secret)) =>
    .error (.abort (.fundingSpendError
      ("Taker funding reclaimed via secret: " ++ hexEncode secret)))

def findTakerPayment (takerFunding : Bytes) (answers : MakerAnswers) : Except Halt Bytes := do
  abortOn .internalError "Failed to re-parse taker funding: " (coins.parseTakerTx takerFunding)
  machine.searchFundingSpend answers

/-! ## TakerPaymentReceived and TakerPaymentReceivedPreimageSkipped -/

def confirmTakerPayment : Except Halt Unit :=
  waitForConfirmations coins machine.takerPaymentConfTimeout
    answers.takerPaymentConfirmed "Taker payment not confirmed in time: "

def receiveSpendPreimage : Except Halt Unit := do
  let preimage ← recvSwapV2Msg answers.recvStarted negotiationTimeoutSec
    answers.takerPaymentSpendPreimage fun err => .negotiationFailed
      ("Did not receive taker payment spend preimage: " ++ err)
  abortOn .internalError "Failed to parse taker preimage: "
    (coins.parseTakerPreimage preimage.txPreimage)
  abortOn .internalError "Failed to parse taker signature: "
    (coins.parseTakerSignature preimage.signature)

def buildSpendArgs (takerPayment : Bytes) (pubLabel : String) (answers : MakerAnswers) :
    Except Halt Unit := do
  abortOn .internalError "Failed to re-parse taker payment: " (coins.parseTakerTx takerPayment)
  let _ ← abortOn .internalError "Failed to derive taker-coin V2 HTLC pubkey: "
    (coins.deriveTakerHtlcPubkey (machine.uniqueData coins))
  let _ ← abortOn .internalError "Failed to select taker-coin V2 address: " answers.takerCoinAddress
  abortOn .internalError pubLabel (coins.parseTakerPubkey negotiation.takerCoinHtlcPub)
  abortOn .internalError "" coins.netConfig

def prepareSpend (takerPayment : Bytes) (answers : MakerAnswers) : Except Halt Unit := do
  machine.confirmTakerPayment coins answers
  receiveSpendPreimage coins answers
  machine.buildSpendArgs coins negotiation takerPayment "Failed to parse taker HTLC pub: " answers
  abortOn .failedToValidateTx "Taker payment spend preimage invalid: " answers.spendPreimageValid

def prepareSpendPreimageSkipped (takerPayment : Bytes) (answers : MakerAnswers) :
    Except Halt Unit := do
  machine.confirmTakerPayment coins answers
  machine.buildSpendArgs coins negotiation takerPayment "Failed to parse taker pub: " answers

/-- The broadcast that reveals the secret.  The clock is not read. -/
def spendTakerPayment (blocks : StartBlocks) (negotiation : StoredMakerNegotiationData)
    (makerPayment takerPayment : Bytes) (answers : MakerAnswers) : MakerActivation where
  sent := answers.takerPaymentSpend.broadcast.toList.map fun tx =>
    .takerPaymentSpend tx negotiation.takerPaymentLocktime answers.spendAt
  next := some <| match answers.takerPaymentSpend.result with
    | .ok spend => .takerPaymentSpent blocks makerPayment takerPayment spend negotiation
    | .error err => .makerPaymentRefundRequired blocks negotiation makerPayment
        (.failedToSendTx ("Failed to spend taker payment: " ++ err))

/-! ## TakerPaymentSpent -/

def confirmTakerPaymentSpend : Except Halt Unit :=
  if machine.requireTakerPaymentSpendConfirm then
    waitForConfirmations coins machine.makerPaymentLocktime answers.takerPaymentSpendConfirmed
      "Taker payment spend not confirmed in time: "
  else .ok ()

/-! ## MakerPaymentRefundRequired -/

def waitForRefund : Except Halt Unit :=
  awaitRefund answers.refundAllowed

def refundMakerPayment (makerPayment : Bytes) (reason : AbortReason)
    (answers : MakerAnswers) : MakerActivation where
  sent := answers.makerPaymentRefund.broadcast.toList.map .makerPaymentRefund
  next := some <| match answers.makerPaymentRefund.result with
    | .ok refund => .makerPaymentRefunded makerPayment refund reason
    | .error err => .aborted (.internalError ("Maker payment refund failed: " ++ err))

/-! ## All states -/

def onInitial : MakerActivation :=
  settle .aborted ((machine.initializeSwap coins answers).map changeTo)

def onChanged (state : MakerSwapState) (answers : MakerAnswers) : MakerActivation :=
  match state with
  | .initialized blocks fees =>
    settle .aborted <| (machine.negotiate coins answers).map fun negotiation =>
      changeTo (.waitingForTakerFunding blocks negotiation fees.makerPaymentTradeFee)
  | .waitingForTakerFunding blocks negotiation fee =>
    settle .aborted <| (receiveTakerFunding coins answers).map fun funding =>
      changeTo (.takerFundingReceived blocks negotiation funding fee)
  | .takerFundingReceived blocks negotiation takerFunding _ =>
    settle .aborted <|
      (machine.generateFundingSpend coins negotiation takerFunding answers).map fun preimage =>
      sendMakerPayment blocks negotiation takerFunding preimage answers
  | .makerPaymentSentFundingSpendGenerated blocks negotiation makerPayment
        takerFunding _ =>
      settle (.makerPaymentRefundRequired blocks negotiation makerPayment) <|
        (machine.findTakerPayment coins takerFunding answers).map
          fun takerPayment =>
            changeTo <| if coins.skipTakerPaymentSpendPreimage then
              .takerPaymentReceivedPreimageSkipped blocks negotiation makerPayment takerPayment
            else
              .takerPaymentReceived blocks negotiation makerPayment takerPayment
  | .takerPaymentReceived blocks negotiation makerPayment takerPayment =>
    settle (.makerPaymentRefundRequired blocks negotiation makerPayment) <|
      (machine.prepareSpend coins negotiation takerPayment answers).map
        fun _ => spendTakerPayment blocks negotiation makerPayment takerPayment answers
  | .takerPaymentReceivedPreimageSkipped blocks negotiation makerPayment
        takerPayment =>
      settle (.makerPaymentRefundRequired blocks negotiation makerPayment) <|
        (machine.prepareSpendPreimageSkipped coins negotiation takerPayment
          answers).map fun _ => spendTakerPayment blocks negotiation
            makerPayment takerPayment answers
  | .takerPaymentSpent blocks makerPayment _ _ negotiation =>
    settle (.makerPaymentRefundRequired blocks negotiation makerPayment) <|
      (machine.confirmTakerPaymentSpend coins answers).map fun _ => changeTo .completed
  | .makerPaymentRefundRequired _ _ makerPayment reason =>
    settle .aborted <| (waitForRefund answers).map fun _ =>
      refundMakerPayment makerPayment reason answers
  | .makerPaymentRefunded .. | .aborted _ | .completed => { sent := [], next := none }

/-! ## The record -/

def onEvent : MakerSwapEvent → MakerSwapStateMachine
  | .initialized _ fees =>
    { machine with
      makerPaymentTradeFeeReservable :=
        fees.makerPaymentTradeFeeReservable.getD fees.makerPaymentTradeFee
      takerPaymentSpendHeadroom := fees.takerPaymentSpendHeadroom }
  | _ => machine

def toDbRepr : MakerSwapDbRepr where
  makerCoin := coins.makerTicker
  makerVolume := machine.makerVolume
  makerSecret := machine.secret
  makerSecretHash := machine.secretHash coins
  secretHashAlgo := machine.secretHashAlgo
  startedAt := machine.startedAt
  lockDuration := machine.lockDuration
  takerCoin := coins.takerTicker
  takerVolume := machine.takerVolume
  takerPremium := machine.takerPremium
  dexFeeAmount := 0
  dexFeeBurn := 0
  confSettings := machine.confSettings
  uuid := machine.uuid
  p2pKeypair := machine.p2pKeypair
  events := []
  takerP2pPub := machine.takerP2pPubkey
  swapVersion := machine.swapVersion

/-- The store of messages takes messages from the peer's key only, and a key that
does not parse ends the process. -/
def initAdditionalContext : Bool :=
  coins.p2pPubkeyValid machine.takerP2pPubkey

end MakerSwapStateMachine

variable (coins : SwapCoins) (repr : MakerSwapDbRepr)

def MakerSwapDbRepr.addEvent (event : MakerSwapEvent) : MakerSwapDbRepr :=
  { repr with events := repr.events ++ [event] }

/-- The state that the last event of a record stands for. -/
def MakerSwapEvent.restore : MakerSwapEvent → Except SwapRecreateError MakerSwapState
  | .initialized blocks fees => .ok (.initialized blocks fees)
  | .waitingForTakerFunding blocks negotiation fee =>
    .ok (.waitingForTakerFunding blocks negotiation fee)
  | .takerFundingReceived blocks negotiation takerFunding fee =>
    .ok (.takerFundingReceived blocks negotiation takerFunding fee)
  | .makerPaymentSentFundingSpendGenerated blocks negotiation makerPayment
        takerFunding preimage =>
      .ok (.makerPaymentSentFundingSpendGenerated blocks negotiation
        makerPayment takerFunding preimage)
  | .makerPaymentRefundRequired blocks negotiation makerPayment reason =>
    .ok (.makerPaymentRefundRequired blocks negotiation makerPayment reason)
  | .makerPaymentRefunded makerPayment refund reason =>
    .ok (.makerPaymentRefunded makerPayment refund reason)
  | .takerPaymentReceived blocks negotiation makerPayment takerPayment =>
    .ok (.takerPaymentReceived blocks negotiation makerPayment takerPayment)
  | .takerPaymentReceivedPreimageSkipped blocks negotiation makerPayment
        takerPayment =>
      .ok (.takerPaymentReceivedPreimageSkipped blocks negotiation makerPayment takerPayment)
  | .takerPaymentSpent blocks makerPayment takerPayment spend negotiation =>
    .ok (.takerPaymentSpent blocks makerPayment takerPayment spend negotiation)
  | .aborted _ => .error (.internal "Cannot recreate from Aborted")
  | .completed => .error (.internal "Cannot recreate from Completed")

def MakerSwapEvent.fees? : MakerSwapEvent → Option MakerFees
  | .initialized _ fees => some fees
  | _ => none

def MakerSwapDbRepr.reservedFees : ℚ × ℚ :=
  match repr.events.findSome? MakerSwapEvent.fees? with
  | some fees =>
    (fees.takerPaymentSpendHeadroom,
      fees.makerPaymentTradeFeeReservable.getD fees.makerPaymentTradeFee)
  | none => (0, 0)

/-- The machine of a record; the two confirmations are what the recreation
sets. -/
def MakerSwapDbRepr.toMachine (uuid : Uuid) (repr : MakerSwapDbRepr) : MakerSwapStateMachine where
  makerVolume := repr.makerVolume
  secret := repr.makerSecret
  secretHashAlgo := repr.secretHashAlgo
  startedAt := repr.startedAt
  lockDuration := repr.lockDuration
  takerVolume := repr.takerVolume
  takerPremium := repr.takerPremium
  confSettings := repr.confSettings
  uuid := uuid
  p2pKeypair := restoreKeypair coins repr.p2pKeypair
  takerP2pPubkey := repr.takerP2pPub
  requireTakerFundingConfirm := false
  requireTakerPaymentSpendConfirm := true
  swapVersion := repr.swapVersion
  takerPaymentSpendHeadroom := repr.reservedFees.1
  makerPaymentTradeFeeReservable := repr.reservedFees.2

def recreateMachine (uuid : Uuid) (repr : MakerSwapDbRepr) :
    Except SwapRecreateError (MakerSwapStateMachine × MakerSwapState) :=
  match repr.events.getLast? with
  | none => .error .noEvents
  | some lastEvent => do
      let state ← lastEvent.restore
      pure (repr.toMachine coins uuid, state)

/-- None stands for a swap that is parked or cannot be recreated. -/
def swapKickstartHandlerForMaker : Option (MakerSwapStateMachine × MakerSwapState) :=
  if interceptNftV2MakerRestart repr.swapVersion then none
  else (recreateMachine coins repr.uuid repr).toOption

def makerProgram :
    StorableMachine MakerSwapStateMachine MakerSwapState MakerSwapDbRepr
      MakerSwapEvent MakerAnswers MakerSent where
  onInitial := MakerSwapStateMachine.onInitial coins
  onChanged := MakerSwapStateMachine.onChanged coins
  isLast := MakerSwapState.isLast
  getEvent := MakerSwapState.getEvent
  onEvent := MakerSwapStateMachine.onEvent
  toDbRepr := MakerSwapStateMachine.toDbRepr coins
  initAdditionalContext := MakerSwapStateMachine.initAdditionalContext coins
  addEvent := MakerSwapDbRepr.addEvent
  recreate := swapKickstartHandlerForMaker coins

theorem MakerSwapState.restore_getEvent {state restored : MakerSwapState}
    (hrestore : state.getEvent.restore = .ok restored) : restored = state := by
  cases state <;> cases hrestore <;> rfl

variable {state : MakerSwapState} {position : Option MakerSwapState} {repr : MakerSwapDbRepr}
  {coins : SwapCoins}

theorem recreateMachine_eq_ok {uuid : Uuid} {machine : MakerSwapStateMachine}
    (hrec : recreateMachine coins uuid repr = .ok (machine, state)) :
    machine = repr.toMachine coins uuid ∧
      ∃ event, repr.events.getLast? = some event ∧ event.restore = .ok state := by
  unfold recreateMachine at hrec
  split at hrec
  · cases hrec
  next event hlast =>
    obtain ⟨restored, hrestore, hmach⟩ := except_bind_eq_ok.mp hrec
    cases hmach
    exact ⟨rfl, event, hlast, hrestore⟩

theorem swapKickstartHandlerForMaker_eq_some {restored : MakerSwapStateMachine × MakerSwapState}
    (hkickstart : swapKickstartHandlerForMaker coins repr = some restored) :
    recreateMachine coins repr.uuid repr = .ok restored := by
  unfold swapKickstartHandlerForMaker at hkickstart
  split at hkickstart
  · cases hkickstart
  · exact eq_ok_of_toOption hkickstart

theorem makerProgram_keepsEvents (coins : SwapCoins) :
    (makerProgram coins).KeepsEvents MakerSwapDbRepr.events where
  toDbRepr := fun _ => rfl
  addEvent := fun _ _ => rfl
  recreate := by
    intro repr machine state hrec
    obtain ⟨-, event, hlast, hrestore⟩ :=
      recreateMachine_eq_ok (swapKickstartHandlerForMaker_eq_some hrec)
    refine ⟨event, hlast, ?_⟩
    rintro other rfl
    exact (MakerSwapState.restore_getEvent hrestore).symm

/-! ## What one state can lead to -/

def MakerSwapState.negotiation? : MakerSwapState → Option StoredMakerNegotiationData
  | .waitingForTakerFunding _ negotiation _ | .takerFundingReceived _ negotiation _ _
  | .makerPaymentSentFundingSpendGenerated _ negotiation _ _ _
  | .makerPaymentRefundRequired _ negotiation _ _ | .takerPaymentReceived _ negotiation _ _
  | .takerPaymentReceivedPreimageSkipped _ negotiation _ _
  | .takerPaymentSpent _ _ _ _ negotiation => some negotiation
  | _ => none

def MakerSwapState.unpaid : MakerSwapState → Bool
  | .initialized .. | .waitingForTakerFunding .. | .takerFundingReceived .. => true
  | _ => false

/-- The maker payment has been sent and its refund is not required yet. -/
def MakerSwapState.paid : MakerSwapState → Bool
  | .makerPaymentSentFundingSpendGenerated .. | .takerPaymentReceived ..
  | .takerPaymentReceivedPreimageSkipped .. | .takerPaymentSpent .. => true
  | _ => false

def MakerSwapState.spending : MakerSwapState → Bool
  | .takerPaymentReceived .. | .takerPaymentReceivedPreimageSkipped .. => true
  | _ => false

inductive MakerMove (answers : MakerAnswers) : Option MakerSwapState → MakerActivation → Prop where
  | waits (position : Option MakerSwapState) :
      MakerMove answers position { sent := [], next := none }
  | starts (blocks : StartBlocks) (fees : MakerFees) :
      MakerMove answers none (changeTo (.initialized blocks fees))
  | aborts (position : Option MakerSwapState) (reason : AbortReason)
      (hunpaid : ∀ state, position = some state → state.unpaid = true) :
      MakerMove answers position (changeTo (.aborted reason))
  | negotiates (blocks : StartBlocks) (fees : MakerFees)
      (negotiation : StoredMakerNegotiationData) (fee : ℚ) :
      MakerMove answers (some (.initialized blocks fees))
        (changeTo (.waitingForTakerFunding blocks negotiation fee))
  | receivesFunding (blocks : StartBlocks) (negotiation : StoredMakerNegotiationData) (fee : ℚ)
      (takerFunding : Bytes) :
      MakerMove answers (some (.waitingForTakerFunding blocks negotiation fee))
        (changeTo (.takerFundingReceived blocks negotiation takerFunding fee))
  | sendsPayment (blocks : StartBlocks) (negotiation : StoredMakerNegotiationData)
      (takerFunding : Bytes) (fee : ℚ) (preimage : StoredTxPreimage) :
      MakerMove answers
        (some (.takerFundingReceived blocks negotiation takerFunding fee))
        (MakerSwapStateMachine.sendMakerPayment blocks negotiation takerFunding preimage answers)
  | findsTakerPayment (blocks : StartBlocks) (negotiation : StoredMakerNegotiationData)
      (makerPayment takerFunding : Bytes) (preimage : StoredTxPreimage) (next : MakerSwapState)
      (hnext : next.spending = true) :
      MakerMove answers
        (some (.makerPaymentSentFundingSpendGenerated blocks negotiation
          makerPayment takerFunding preimage)) (changeTo next)
  | spendsTakerPayment (state : MakerSwapState) (hstate : state.spending = true)
      (blocks : StartBlocks) (negotiation : StoredMakerNegotiationData)
      (makerPayment takerPayment : Bytes) :
      MakerMove answers (some state)
        (MakerSwapStateMachine.spendTakerPayment blocks negotiation makerPayment
          takerPayment answers)
  | completes (blocks : StartBlocks) (makerPayment takerPayment spend : Bytes)
      (negotiation : StoredMakerNegotiationData) :
      MakerMove answers
        (some (.takerPaymentSpent blocks makerPayment takerPayment spend
          negotiation)) (changeTo .completed)
  | requiresRefund (state : MakerSwapState) (hpaid : state.paid = true) (blocks : StartBlocks)
      (negotiation : StoredMakerNegotiationData) (makerPayment : Bytes) (reason : AbortReason) :
      MakerMove answers (some state)
        (changeTo (.makerPaymentRefundRequired blocks negotiation makerPayment reason))
  | refunds (blocks : StartBlocks) (negotiation : StoredMakerNegotiationData)
      (makerPayment : Bytes) (reason : AbortReason) :
      MakerMove answers
        (some (.makerPaymentRefundRequired blocks negotiation makerPayment reason))
        (MakerSwapStateMachine.refundMakerPayment makerPayment reason answers)

theorem MakerSwapStateMachine.onInitial_move (coins : SwapCoins) (machine : MakerSwapStateMachine)
    (answers : MakerAnswers) : MakerMove answers none (machine.onInitial coins answers) := by
  refine settle_induction (.waits none) ?_ ?_
  · intro reason _
    refine .aborts none reason ?_
    intro state hstate
    cases hstate
  · intro started hstart
    simp only [initializeSwap, except_bind_eq_ok] at hstart
    obtain ⟨_, -, _, -, _, -, _, -, _, -, _, -, hstate⟩ := hstart
    cases hstate
    exact .starts _ _

theorem MakerSwapStateMachine.onChanged_move (coins : SwapCoins)
    (machine : MakerSwapStateMachine) (state : MakerSwapState) (answers : MakerAnswers) :
    MakerMove answers (some state) (machine.onChanged coins state answers) := by
  have haborts : ∀ reason, state.unpaid = true →
      MakerMove answers (some state) (changeTo (.aborted reason)) := by
    intro reason hunpaid
    refine .aborts (some state) reason ?_
    intro other hother
    cases hother
    exact hunpaid
  cases state with
  | initialized blocks fees =>
    refine settle_induction (.waits _) (fun reason _ => haborts reason rfl) ?_
    intro negotiation _
    exact .negotiates blocks fees negotiation fees.makerPaymentTradeFee
  | waitingForTakerFunding blocks negotiation fee =>
    refine settle_induction (.waits _) (fun reason _ => haborts reason rfl) ?_
    intro funding _
    exact .receivesFunding blocks negotiation fee funding
  | takerFundingReceived blocks negotiation takerFunding fee =>
    refine settle_induction (.waits _) (fun reason _ => haborts reason rfl) ?_
    intro preimage _
    exact .sendsPayment blocks negotiation takerFunding fee preimage
  | makerPaymentSentFundingSpendGenerated blocks negotiation makerPayment takerFunding preimage =>
      refine settle_induction (.waits _) (fun reason _ => .requiresRefund _ rfl _ _ _ reason) ?_
      intro takerPayment _
      refine .findsTakerPayment blocks negotiation makerPayment takerFunding preimage _ ?_
      split
      · rfl
      · rfl
  | makerPaymentRefundRequired blocks negotiation makerPayment reason =>
    refine settle_induction (.waits _) ?_ ?_
    · intro aborted habort
      exact absurd habort (awaitRefund_ne_abort _ aborted)
    · intro _ _
      exact .refunds blocks negotiation makerPayment reason
  | takerPaymentReceived blocks negotiation makerPayment takerPayment
  | takerPaymentReceivedPreimageSkipped blocks negotiation makerPayment takerPayment =>
    refine settle_induction (.waits _) (fun reason _ => .requiresRefund _ rfl _ _ _ reason) ?_
    intro _ _
    exact .spendsTakerPayment _ rfl blocks negotiation makerPayment takerPayment
  | takerPaymentSpent blocks makerPayment takerPayment spend negotiation =>
    refine settle_induction (.waits _) (fun reason _ => .requiresRefund _ rfl _ _ _ reason) ?_
    intro _ _
    exact .completes blocks makerPayment takerPayment spend negotiation
  | makerPaymentRefunded | aborted | completed => exact .waits _

theorem makerProgram_move (coins : SwapCoins) (machine : MakerSwapStateMachine)
    (position : Option MakerSwapState) (answers : MakerAnswers) :
    MakerMove answers position ((makerProgram coins).activate machine position answers) := by
  cases position with
  | none => exact machine.onInitial_move coins answers
  | some state => exact machine.onChanged_move coins state answers

def makerRank : Option MakerSwapState → ℕ
  | none => 8
  | some (.initialized _ _) => 7
  | some (.waitingForTakerFunding _ _ _) => 6
  | some (.takerFundingReceived _ _ _ _) => 5
  | some (.makerPaymentSentFundingSpendGenerated _ _ _ _ _) => 4
  | some (.takerPaymentReceived ..) | some (.takerPaymentReceivedPreimageSkipped ..) => 3
  | some (.takerPaymentSpent _ _ _ _ _) => 2
  | some (.makerPaymentRefundRequired _ _ _ _) => 1
  | some (.makerPaymentRefunded ..) | some (.aborted _) | some .completed => 0

theorem makerRank_le (position : Option MakerSwapState) : makerRank position ≤ 8 := by
  cases position with
  | none => exact le_rfl
  | some state => cases state <;> simp [makerRank]

theorem makerRank_pos_of_unpaid
    (hunpaid : ∀ state, position = some state → state.unpaid = true) : 0 < makerRank position := by
  cases position with
  | none => decide
  | some state =>
    have hstate := hunpaid state rfl
    cases state with
    | initialized | waitingForTakerFunding | takerFundingReceived => simp [makerRank]
    | _ => cases hstate

theorem makerRank_of_spending (hspend : state.spending = true) : makerRank (some state) = 3 := by
  cases state with
  | takerPaymentReceived | takerPaymentReceivedPreimageSkipped => rfl
  | _ => cases hspend

theorem one_lt_makerRank_of_paid (hpaid : state.paid = true) : 1 < makerRank (some state) := by
  cases state with
  | makerPaymentSentFundingSpendGenerated | takerPaymentReceived
  | takerPaymentReceivedPreimageSkipped | takerPaymentSpent => simp [makerRank]
  | _ => cases hpaid

theorem MakerMove.lowers {answers : MakerAnswers} {activation : MakerActivation}
    (hmove : MakerMove answers position activation) {next : MakerSwapState}
    (hnext : activation.next = some next) : makerRank (some next) < makerRank position := by
  cases hmove with
  | waits => cases hnext
  | starts | negotiates | receivesFunding | completes =>
    cases hnext
    simp [makerRank]
  | aborts _ _ hunpaid =>
    cases hnext
    exact makerRank_pos_of_unpaid hunpaid
  | sendsPayment | refunds =>
    cases hnext
    split
    · simp [makerRank]
    · simp [makerRank]
  | findsTakerPayment _ _ _ _ _ later hlater =>
    cases hnext
    rw [makerRank_of_spending hlater]
    simp [makerRank]
  | spendsTakerPayment state hspend =>
    rw [makerRank_of_spending hspend]
    cases hnext
    split
    · simp [makerRank]
    · simp [makerRank]
  | requiresRefund state hpaid =>
    cases hnext
    exact one_lt_makerRank_of_paid hpaid

theorem makerProgram_ranked (coins : SwapCoins) :
    MachineRun.Ranked (makerProgram coins) makerRank where
  initial := by decide
  last := by
    intro state
    cases state <;> simp [makerProgram, MakerSwapState.isLast, makerRank]
  lowers := by
    intro machine position answers next hnext
    exact (makerProgram_move coins machine position answers).lowers hnext

/-! ## A sample swap -/

def sampleMaker (startedAt : UInt64) : MakerSwapStateMachine where
  makerVolume := 1
  secret := List.replicate 32 7
  secretHashAlgo := .dhash160
  startedAt := startedAt
  lockDuration := 7800
  takerVolume := 1
  takerPremium := 0
  confSettings := sampleConfs
  uuid := 0
  p2pKeypair := none
  takerP2pPubkey := List.replicate 33 2
  requireTakerFundingConfirm := false
  requireTakerPaymentSpendConfirm := true
  swapVersion := 2
  takerPaymentSpendHeadroom := 0
  makerPaymentTradeFeeReservable := 0

def sampleTakerData (startedAt : UInt64) : TakerNegotiationData where
  startedAt := startedAt
  fundingLocktime := startedAt + 23400
  paymentLocktime := startedAt + 7800
  takerSecretHash := List.replicate 20 1
  makerCoinHtlcPub := List.replicate 33 2
  takerCoinHtlcPub := List.replicate 33 2
  makerCoinSwapContract := none
  takerCoinSwapContract := none

/-- Everything succeeds; the taker payment is confirmed and spent at the given
times. -/
def sampleMakerAnswers (takerStart confirmedAt recvStarted receivedAt spendAt : UInt64) :
    MakerAnswers where
  makerCurrentBlock := .ok 100
  takerCurrentBlock := .ok 200
  senderTradeFee := .ok ⟨"RICK", 0, false⟩
  receiverTradeFee := .ok ⟨"MORTY", 0, false⟩
  spendableBalance := .ok 2
  takerCoinAddress := .ok "address"
  recvStarted := recvStarted
  takerNegotiation := atOnce receivedAt ⟨some (.continue (sampleTakerData takerStart))⟩
  takerFundingInfo := atOnce receivedAt [1]
  takerFundingValid := .ok ()
  takerFundingConfirmed := atOnce confirmedAt (.ok ())
  fundingSpendPreimage := .ok ⟨[2], [2]⟩
  makerPayment := .sent [3]
  takerFundingSpend := atOnce confirmedAt (.ok (.transferredToTakerPayment [4]))
  takerPaymentConfirmed := atOnce confirmedAt (.ok ())
  takerPaymentSpendPreimage := atOnce receivedAt ⟨[5], [5]⟩
  spendPreimageValid := .ok ()
  spendAt := spendAt
  takerPaymentSpend := .sent [6]
  takerPaymentSpendConfirmed := atOnce spendAt (.ok ())
  refundAllowed := atOnce spendAt ()
  makerPaymentRefund := .sent [7]

end V2

end KdfProtocol
